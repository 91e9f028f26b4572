import Dispatch.Proofs.Pickle.Message

/-! Room for nesting. What is written with little room is written the same with more, since a writer
only asks for room where it stops for the lack of it.
-/

namespace Dispatch.Pickle

open Dispatch.Result

/-- Whether one writing does what another does wherever that goes well. -/
def Covers (x y : Except Error Draft) : Prop :=
  ∀ d, x = .ok d → y = .ok d

variable {α : Type} {x y : Except Error Draft} {d : Draft} {xs : List α}
  {f g : Draft → α → Except Error Draft} {ending : Opcode}

theorem Covers.refl (x : Except Error Draft) : Covers x x :=
  fun _ same => same

theorem Covers.bind {h k : Draft → Except Error Draft} (first : Covers x y)
    (rest : ∀ d, Covers (h d) (k d))
    : Covers (x >>= h) (y >>= k) := by
  intro d bound
  obtain ⟨next, wrote, ended⟩ := bind_eq_ok.mp bound
  rw [first next wrote, ok_bind, rest next d ended]

theorem Covers.map (covers : Covers x y) (after : Draft → Draft)
    : Covers (x.map after) (y.map after) := by
  intro d mapped
  obtain ⟨next, wrote, rfl⟩ := map_eq_ok.mp mapped
  rw [covers next wrote, map_ok]

theorem covers_complete {fill more : Draft → Except Error Draft} (object : Option Nat)
    (covers : ∀ d, Covers (fill d) (more d)) (d : Draft)
    : Covers (d.complete object fill) (d.complete object more) :=
  (covers d).map _

section

variable (each : ∀ x d, Covers (f d x) (g d x))

include each

/-- Items in turn, by induction on the items. -/
theorem covers_foldlM (d : Draft) (xs : List α) : Covers (xs.foldlM f d) (xs.foldlM g d) := by
  induction xs generalizing d with
  | nil => exact .refl _
  | cons x xs ih =>
      rw [List.foldlM_cons, List.foldlM_cons]
      exact (each x d).bind ih

theorem covers_oneByOne (d : Draft) (xs : List α)
    : Covers (oneByOne f ending d xs) (oneByOne g ending d xs) :=
  covers_foldlM (fun x d => (each x d).map _) d xs

theorem covers_batch (d : Draft) (xs : List α)
    : Covers (batch f ending d xs) (batch g ending d xs) :=
  (covers_foldlM each _ xs).map _

theorem covers_batches (d : Draft) (groups : List (List α))
    : Covers (groups.foldlM (batch f ending) d) (groups.foldlM (batch g ending) d) :=
  covers_foldlM (fun xs d => covers_batch each d xs) d groups

theorem covers_fillList (d : Draft) (xs : List α) : Covers (fillList f d xs) (fillList g d xs) := by
  rw [fillList, fillList]
  split
  · exact covers_oneByOne each d xs
  · exact covers_batches each d _

theorem covers_fillMap (d : Draft) (xs : List α) : Covers (fillMap f d xs) (fillMap g d xs) := by
  rw [fillMap, fillMap]
  split
  · exact covers_oneByOne each d xs
  · exact covers_batches each d _

theorem covers_fillOrdered (d : Draft) (xs : List α)
    : Covers (fillOrdered f d xs) (fillOrdered g d xs) := by
  refine covers_foldlM ?_ d _
  intro group d
  split
  · exact covers_oneByOne each d group
  · exact covers_batch each d group

end

/-- Two ways to write a field, of which the second covers the first. -/
structure FieldPair where
  name : String
  first : Draft → Except Error Draft
  second : Draft → Except Error Draft
  covers : ∀ d, Covers (first d) (second d)

theorem covers_record (d : Draft) (fields : List FieldPair)
    : Covers (record d (fields.map fun f => (f.name, f.first)))
        (record d (fields.map fun f => (f.name, f.second))) := by
  refine covers_complete none (fun d => ?_) _
  rw [fillMap_map, fillMap_map]
  exact covers_fillMap (fun f d => f.covers _) d fields

-----------------------------------------------------------------------------------------
-- Values
-----------------------------------------------------------------------------------------

section

variable {save more : Draft → Part → Except Error Draft}
  (each : ∀ p d, Covers (save d p) (more d p))

include each

theorem covers_saveEntry (e : Part × Part) (d : Draft)
    : Covers (saveEntry save d e) (saveEntry more d e) :=
  (each e.1 d).bind (each e.2)

theorem covers_saveHeader (byteNames : List Text) (h : Text × Option Nat × Part) (d : Draft)
    : Covers (saveHeader save byteNames d h) (saveHeader more byteNames d h) :=
  each h.2.2 _

theorem covers_setObject (d : Draft) (object : Option Nat) (items : List Part)
    : Covers (setObject save d object items) (setObject more d object items) := by
  rw [setObject, setObject]
  split
  · exact covers_complete object (fun d => covers_batches each d _) _
  · exact (covers_fillList each _ _).bind fun d => .refl _

theorem covers_messageObject (d : Draft) (sharing : Sharing) (payload : Value)
    (headers : List (Text × Value)) (given : Given)
    : Covers (messageObject save d sharing payload headers given)
        (messageObject more d sharing payload headers given) := by
  let headersOf (save : Draft → Part → Except Error Draft) (d : Draft) :=
    (d.object.code .emptyDict).store.complete none fun d =>
      fillMap (saveHeader save given.byteNames) d ((sharing.part 1).headers headers)
  let fields : List FieldPair := [
    ⟨"payload", fun d => save d ⟨payload, sharing.part 0⟩,
      fun d => more d ⟨payload, sharing.part 0⟩, each _⟩,
    ⟨"headers", headersOf save, headersOf more, fun d =>
      covers_complete none (covers_fillMap (covers_saveHeader each given.byteNames) · _) _⟩]
  let nothing : FieldPair :=
    ⟨"__pydantic_extra__", fun d => .ok (d.object.code .null), fun d => .ok (d.object.code .null),
      fun _ => .refl _⟩
  let names := (givenNames given).map Part.byContent
  let state : List FieldPair := [
    ⟨"__dict__", fun d => record d (fields.map fun f => (f.name, f.first)),
      fun d => record d (fields.map fun f => (f.name, f.second)), fun d => covers_record d fields⟩,
    nothing,
    ⟨"__pydantic_fields_set__", fun d => setObject save d none names,
      fun d => setObject more d none names, fun d => covers_setObject each d none names⟩,
    { nothing with name := "__pydantic_private__" }]
  exact covers_complete _ (fun d => (covers_record d state).map (·.code .build)) _

theorem covers_write (d : Draft) (s : Sharing) (v : Value)
    : Covers (write save d s v) (write more d s v) := by
  cases v with
  | list items => exact covers_complete _ (fun d => covers_fillList each d _) _
  | tuple items =>
      cases items with
      | nil => exact .refl _
      | cons v items => exact (covers_foldlM each _ _).map _
  | set items => exact covers_setObject each d _ _
  | map kind entries =>
      cases kind with
      | plain => exact covers_complete _ (fun d => covers_fillMap (covers_saveEntry each) d _) _
      | ordered =>
          exact covers_complete _ (fun d => covers_fillOrdered (covers_saveEntry each) d _) _
      | readOnly => exact .refl _
      | own o => exact .refl _
  | message payload headers given => exact covers_messageObject each d s payload headers given
  | blob kind bytes => cases kind <;> exact .refl _
  | handle h => cases h <;> exact .refl _
  | _ => exact .refl _

end

/-- What is written with room for some depth is written the same with room for more, by induction on
the room. -/
theorem covers_save {n m : Nat} (le : n ≤ m) (p : Part) (d : Draft)
    : Covers (save n d p) (save m d p) := by
  induction n generalizing m p d with
  | zero =>
      intro d' wrote
      cases wrote
  | succ n ih =>
      obtain ⟨m, rfl⟩ := Nat.exists_eq_add_of_le' le
      rw [save, ← Nat.add_assoc, save]
      split
      · exact .refl _
      · exact covers_write (fun p d => ih (Nat.le_add_left ..) p d) d p.sharing p.value

end Dispatch.Pickle
