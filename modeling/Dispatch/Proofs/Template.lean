import Dispatch.Proofs.Result
import Dispatch.Template

/-! Why filling in stops. A text stops it at its first placeholder whose variable is not set or
whose name cannot be looked up, a list or map at its first part that stops, and a value of too many
levels where they run out.
-/

namespace Dispatch.Template

open Dispatch.Result

variable {env : Environment}

/-- Why a placeholder stays empty: the variable is not set, or its name has no bytes. -/
inductive Unfilled (env : Environment) (name : Text) : Failure → Prop
  | unset (absent : env.get? name = .ok none) : Unfilled env name (.ofProblem (.unsetVariable name))
  | unreadable {e : Charset.Error} (noBytes : Environment.nameBytes name = .error e)
    : Unfilled env name (.fault (.charset e))

/-- Why a value is not filled in, where it may have so many levels of lists and maps. All that comes
before is filled in. -/
inductive Stops (env : Environment) : Nat → Value → Failure → Prop
  | name {depth : Nat} {t name : Text} {before after : List Piece} {e : Failure}
    (split : pieces t = before ++ .variable name :: after)
    (filled : ∀ p ∈ before, ∃ s, fillPiece env p = .ok s) (unfilled : Unfilled env name e)
    : Stops env depth (.text t) e
  /-- The value holds itself. -/
  | cycle {depth : Nat} : Stops env depth (.handle .cycle) (.fault .depth)
  | deepList {items : List Value} : Stops env 0 (.list items) (.fault .depth)
  | deepMap {kind : MapKind} {entries : List (Value × Value)} (writable : kind.isWritable)
    : Stops env 0 (.map kind entries) (.fault .depth)
  | item {depth : Nat} {before after : List Value} {v : Value} {e : Failure}
    (filled : ∀ w ∈ before, ∃ x, fillWithin env depth w = .ok x) (stops : Stops env depth v e)
    : Stops env (depth + 1) (.list (before ++ v :: after)) e
  | entry {depth : Nat} {kind : MapKind} {before after : List (Value × Value)} {key v : Value}
    {e : Failure} (writable : kind.isWritable)
    (filled : ∀ f ∈ before, ∃ x, fillWithin env depth f.2 = .ok x) (stops : Stops env depth v e)
    : Stops env (depth + 1) (.map kind (before ++ (key, v) :: after)) e

/-- A value that is kept as it is. -/
def isKept : Value → Bool
  | .text _ => false
  | .list _ => false
  | .map kind _ => !kind.isWritable
  | .handle .cycle => false
  | _ => true

/-- What filling in does with a value is known by its kind: a text, a list, a map that can be
written, a value that holds itself, or a value that is kept. -/
@[elab_as_elim]
theorem value_cases {motive : Value → Prop} (text : ∀ t, motive (.text t))
    (list : ∀ items, motive (.list items))
    (map : ∀ kind entries, kind.isWritable → motive (.map kind entries))
    (cycle : motive (.handle .cycle)) (kept : ∀ v, isKept v → motive v) (v : Value)
    : motive v := by
  cases v with
  | text t => exact text t
  | list items => exact list items
  | map kind entries =>
      cases writable : kind.isWritable with
      | false => exact kept _ (by simp [isKept, writable])
      | true => exact map kind entries writable
  | handle h =>
      cases h with
      | cycle => exact cycle
      | _ => exact kept _ rfl
  | _ => exact kept _ rfl

theorem get?_eq_error {name : Text} {f : Fault}
    : env.get? name = .error f ↔ ∃ e, Environment.nameBytes name = .error e ∧ f = .charset e := by
  rw [Environment.get?]
  cases Environment.nameBytes name with
  | ok bytes => simp
  | error e => simp [eq_comm]

theorem fillPiece_eq_error {p : Piece} {e : Failure}
    : fillPiece env p = .error e ↔ ∃ name, p = .variable name ∧ Unfilled env name e := by
  cases p with
  | literal c =>
      constructor
      · nofun
      · rintro ⟨name, same, _⟩
        contradiction
  | «variable» name =>
      rw [fillPiece]
      constructor
      · intro failed
        refine ⟨name, rfl, ?_⟩
        split at failed
        · contradiction
        · rename_i absent
          cases failed
          exact .unset absent
        · rename_i f unread
          cases failed
          obtain ⟨e, noBytes, rfl⟩ := get?_eq_error.mp unread
          exact .unreadable noBytes
      · rintro ⟨_, ⟨_⟩, unfilled⟩
        cases unfilled with
        | unset absent => rw [absent]
        | unreadable noBytes => rw [get?_eq_error.mpr ⟨_, noBytes, rfl⟩]

theorem fill_eq_error {t : Text} {e : Failure}
    : fill env t = .error e
      ↔ ∃ before name after, pieces t = before ++ .variable name :: after
          ∧ (∀ p ∈ before, ∃ s, fillPiece env p = .ok s) ∧ Unfilled env name e := by
  rw [fill, map_eq_error, mapM_eq_error]
  constructor
  · rintro ⟨before, p, after, split, filled, failed⟩
    obtain ⟨name, rfl, unfilled⟩ := fillPiece_eq_error.mp failed
    exact ⟨before, name, after, split, filled, unfilled⟩
  · rintro ⟨before, name, after, split, filled, unfilled⟩
    exact ⟨before, _, after, split, filled, fillPiece_eq_error.mpr ⟨name, rfl, unfilled⟩⟩

theorem fillWithin_text (depth : Nat) (t : Text)
    : fillWithin env depth (.text t) = (fill env t).map Value.text := by
  cases depth <;> rfl

theorem fillWithin_cycle (depth : Nat)
    : fillWithin env depth (.handle .cycle) = .error (.fault .depth) := by
  cases depth <;> rfl

theorem fillWithin_map_zero {kind : MapKind} (writable : kind.isWritable)
    (entries : List (Value × Value))
    : fillWithin env 0 (.map kind entries) = .error (.fault .depth) := by
  cases kind with
  | readOnly => contradiction
  | own o => contradiction
  | _ => rfl

theorem fillWithin_map {kind : MapKind} (writable : kind.isWritable) (depth : Nat)
    (entries : List (Value × Value))
    : fillWithin env (depth + 1) (.map kind entries)
      = (entries.mapM fun e => (fillWithin env depth e.2).map fun v => (e.1, v)).map
          (Value.map .plain) := by
  cases kind with
  | readOnly => contradiction
  | own o => contradiction
  | _ => rfl

/-- A map is filled in entry by entry. There is always a level for its entries. -/
theorem fillValue_map [Platform] (env : Environment) (kind : MapKind)
    (entries : List (Value × Value)) (writable : kind.isWritable)
    : fillValue env (.map kind entries)
      = (entries.mapM fun e =>
          (fillWithin env (Platform.filledDepth - 1) e.2).map fun v => (e.1, v)).map
          (Value.map .plain) := by
  have level : Platform.filledDepth = Platform.filledDepth - 1 + 1 :=
    (Nat.sub_add_cancel Platform.filled_pos).symm
  rw [fillValue]
  exact level ▸ fillWithin_map writable (Platform.filledDepth - 1) entries

theorem fillWithin_list (depth : Nat) (items : List Value)
    : fillWithin env (depth + 1) (.list items)
      = (items.mapM (fillWithin env depth)).map Value.list :=
  rfl

theorem fillWithin_of_isKept (depth : Nat) {v : Value} (kept : isKept v)
    : fillWithin env depth v = .ok v := by
  cases v with
  | text t => contradiction
  | list items => contradiction
  | map kind entries =>
      cases kind with
      | readOnly => cases depth <;> rfl
      | own o => cases depth <;> rfl
      | _ => contradiction
  | handle h =>
      cases h with
      | cycle => contradiction
      | _ => cases depth <;> rfl
  | _ => cases depth <;> rfl

theorem fillWithin_text_eq_error {depth : Nat} {t : Text} {e : Failure}
    : fillWithin env depth (.text t) = .error e ↔ Stops env depth (.text t) e := by
  rw [fillWithin_text, map_eq_error, fill_eq_error]
  constructor
  · rintro ⟨before, name, after, split, filled, unfilled⟩
    exact .name split filled unfilled
  · rintro ⟨split, filled, unfilled⟩
    exact ⟨_, _, _, split, filled, unfilled⟩

/-- A value stops being filled in only for a reason, by induction on the levels it may have. -/
theorem stops_of_fillWithin {depth : Nat} {v : Value} {e : Failure}
    (failed : fillWithin env depth v = .error e)
    : Stops env depth v e := by
  induction depth using Nat.strongRecOn generalizing v e with
  | ind depth ih =>
      cases v using value_cases with
      | text t => exact fillWithin_text_eq_error.mp failed
      | cycle =>
          rw [fillWithin_cycle] at failed
          cases failed
          exact .cycle
      | kept v kept =>
          rw [fillWithin_of_isKept depth kept] at failed
          contradiction
      | list items =>
          cases depth with
          | zero =>
              cases failed
              exact .deepList
          | succ depth =>
              rw [fillWithin_list, map_eq_error] at failed
              obtain ⟨before, w, after, rfl, filled, failed⟩ := mapM_eq_error.mp failed
              exact .item filled (ih depth depth.lt_succ_self failed)
      | map kind entries writable =>
          cases depth with
          | zero =>
              rw [fillWithin_map_zero writable] at failed
              cases failed
              exact .deepMap writable
          | succ depth =>
              rw [fillWithin_map writable, map_eq_error] at failed
              obtain ⟨before, ⟨key, w⟩, after, rfl, filled, failed⟩ := mapM_eq_error.mp failed
              refine .entry writable (fun f member => ?_)
                (ih depth depth.lt_succ_self (map_eq_error.mp failed))
              obtain ⟨_, done⟩ := filled f member
              obtain ⟨x, done, _⟩ := map_eq_ok.mp done
              exact ⟨x, done⟩

/-- A value is not filled in exactly if it stops, and for the reason why it does. -/
theorem fillWithin_eq_error {depth : Nat} {v : Value} {e : Failure}
    : fillWithin env depth v = .error e ↔ Stops env depth v e := by
  refine ⟨stops_of_fillWithin, fun stops => ?_⟩
  induction stops with
  | name split filled unfilled => exact fillWithin_text_eq_error.mpr (.name split filled unfilled)
  | cycle => exact fillWithin_cycle _
  | deepList => rfl
  | deepMap writable => exact fillWithin_map_zero writable _
  | item filled _ ih =>
      rw [fillWithin_list, map_eq_error]
      exact mapM_eq_error.mpr ⟨_, _, _, rfl, filled, ih⟩
  | entry writable filled _ ih =>
      rw [fillWithin_map writable, map_eq_error]
      refine mapM_eq_error.mpr ⟨_, _, _, rfl, fun f member => ?_, map_eq_error.mpr ih⟩
      obtain ⟨x, done⟩ := filled f member
      exact ⟨_, map_eq_ok.mpr ⟨x, done, rfl⟩⟩

/-- What stops is a variable that is not set, or a fault. -/
theorem Stops.cases {depth : Nat} {v : Value} {e : Failure} (stops : Stops env depth v e)
    : (∃ name, e = .ofProblem (.unsetVariable name)) ∨ ∃ f, e = .fault f := by
  induction stops with
  | name _ _ unfilled =>
      cases unfilled with
      | unset _ => exact Or.inl ⟨_, rfl⟩
      | unreadable _ => exact Or.inr ⟨_, rfl⟩
  | cycle => exact Or.inr ⟨_, rfl⟩
  | deepList => exact Or.inr ⟨_, rfl⟩
  | deepMap _ => exact Or.inr ⟨_, rfl⟩
  | item _ _ ih => exact ih
  | entry _ _ _ ih => exact ih

end Dispatch.Template
