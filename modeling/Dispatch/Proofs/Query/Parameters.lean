import Dispatch.Proofs.Result
import Dispatch.Query.Parameters

/-! Which payloads give parameters. They are maps of any kind from texts to texts or sequences of
texts. The first entry of another shape decides how a payload is refused, its key before its value.
-/

namespace Dispatch

open Dispatch.Result

namespace Value

/-- The parameter that an entry of a map is, if it is one. -/
def parameter? (entry : Value × Value) : Option (Text × List Text) := do
  return (← entry.1.asText?, ← entry.2.parameterValues?)

/-- The parameters that a payload gives, if it is a map of such. -/
def parameters? (payload : Value) : Option Parameters := do
  (← payload.entries?).mapM parameter?

-----------------------------------------------------------------------------------------
-- The shape of an entry that is a parameter
-----------------------------------------------------------------------------------------

/-- The texts that a value gives as a parameter: a text gives itself, and a list or a tuple of texts
gives its items. The parts of a URI are a tuple of texts. -/
inductive Gives : Value → List Text → Prop
  | text (t : Text) : Gives (.text t) [t]
  | list (ts : List Text) : Gives (.list (ts.map .text)) ts
  | tuple (ts : List Text) : Gives (.tuple (ts.map .text)) ts
  | parts (p : UriParts) : Gives (.parts p) p.toList

theorem asText?_eq_some {v : Value} {t : Text} : v.asText? = some t ↔ v = .text t := by
  cases v <;> simp [asText?]

theorem asText?_eq_none {v : Value} : v.asText? = none ↔ ∀ t, v ≠ .text t := by
  cases v <;> simp [asText?]

/-- Items are texts exactly if the texts make up the items, by induction on the items. -/
theorem mapM_asText?_eq_some {items : List Value} {ts : List Text}
    : items.mapM asText? = some ts ↔ items = ts.map .text := by
  induction items generalizing ts with
  | nil => cases ts <;> simp
  | cons v items ih =>
      cases ts with
      | nil => simp [List.mapM_cons, Option.bind_eq_some_iff]
      | cons t ts => simp [List.mapM_cons, Option.bind_eq_some_iff, asText?_eq_some, ih]

theorem parameterValues?_eq_some {v : Value} {ts : List Text}
    : v.parameterValues? = some ts ↔ v.Gives ts := by
  constructor
  · intro read
    cases v with
    | text t =>
        rw [← Option.some.inj read]
        exact .text t
    | list items =>
        obtain rfl := mapM_asText?_eq_some.mp read
        exact .list ts
    | tuple items =>
        obtain rfl := mapM_asText?_eq_some.mp read
        exact .tuple ts
    | parts p =>
        have same :=
          (List.map_inj_right fun _ _ => Value.text.inj).mp (mapM_asText?_eq_some.mp read)
        exact same ▸ .parts p
    | _ => contradiction
  · intro gives
    cases gives with
    | text t => rfl
    | list | tuple | parts => exact mapM_asText?_eq_some.mpr rfl

theorem parameterValues?_eq_none {v : Value} : v.parameterValues? = none ↔ ∀ ts, ¬v.Gives ts := by
  simp only [← parameterValues?_eq_some]
  exact Option.eq_none_iff_forall_ne_some

/-- An entry of a map that is a parameter: a text with a value that gives texts. -/
inductive IsParameter : Value × Value → Text × List Text → Prop
  | mk (name : Text) {v : Value} {ts : List Text} (gives : v.Gives ts)
    : IsParameter (.text name, v) (name, ts)

theorem parameter?_eq_some {entry : Value × Value} {p : Text × List Text}
    : parameter? entry = some p ↔ IsParameter entry p := by
  obtain ⟨key, v⟩ := entry
  simp only [parameter?, Option.bind_eq_bind, Option.bind_eq_some_iff, asText?_eq_some,
    parameterValues?_eq_some, Option.pure_def, Option.some.injEq]
  constructor
  · rintro ⟨name, rfl, ts, gives, rfl⟩
    exact .mk name gives
  · rintro ⟨name, gives⟩
    exact ⟨name, rfl, _, gives, rfl⟩

end Value

namespace Parameters

variable {payload : Value} {method : Text} {parameters : Parameters} {f : Failure}

-----------------------------------------------------------------------------------------
-- One entry
-----------------------------------------------------------------------------------------

variable [Platform]

/-- How an entry that is no parameter is refused: for a key that is no text, which the refusal shows
as far as it can be shown, or for the value of a text. -/
inductive EntryRefused (method : Text) : Value × Value → Failure → Prop
  | key {key v : Value} {written : Text} (noText : ∀ t, key ≠ .text t)
    (shown : key.shown = .ok written)
    : EntryRefused method (key, v) (.ofProblem (.keyNotText method written))
  | unshown {key v : Value} {e : Value.ShowError} (noText : ∀ t, key ≠ .text t)
    (unshown : key.shown = .error e)
    : EntryRefused method (key, v) (.fault (.shown e))
  | value {name : Text} {v : Value} (noTexts : ∀ ts, ¬v.Gives ts)
    : EntryRefused method (.text name, v)
        (.ofProblem (.valueNotTexts method name.quoted v.typeName))

theorem ofEntry_eq_ok {entry : Value × Value} {p : Text × List Text}
    : ofEntry method entry = .ok p ↔ Value.parameter? entry = some p := by
  rw [ofEntry, Value.parameter?]
  cases entry.1.asText? with
  | none => cases showKey entry.1 <;> simp
  | some name => cases entry.2.parameterValues? <;> simp

theorem ofEntry_eq_ok_iff {entry : Value × Value} {p : Text × List Text}
    : ofEntry method entry = .ok p ↔ Value.IsParameter entry p :=
  ofEntry_eq_ok.trans Value.parameter?_eq_some

theorem ofEntry_of_shown {entry : Value × Value} {written : Text}
    (noText : entry.1.asText? = none) (shown : entry.1.shown = .ok written)
    : ofEntry method entry = .error (.ofProblem (.keyNotText method written)) := by
  simp only [ofEntry, noText, showKey, shown, mapError_ok, ok_bind, throw_eq]

theorem ofEntry_of_unshown {entry : Value × Value} {e : Value.ShowError}
    (noText : entry.1.asText? = none) (unshown : entry.1.shown = .error e)
    : ofEntry method entry = .error (.fault (.shown e)) := by
  simp only [ofEntry, noText, showKey, unshown, mapError_error, error_bind]

theorem ofEntry_of_noTexts {name : Text} {v : Value} (noTexts : ∀ ts, ¬v.Gives ts)
    : ofEntry method (.text name, v)
      = .error (.ofProblem (.valueNotTexts method name.quoted v.typeName)) := by
  simp only [ofEntry, Value.asText?, Value.parameterValues?_eq_none.mpr noTexts, throw_eq]

theorem ofEntry_eq_error_iff {entry : Value × Value}
    : ofEntry method entry = .error f ↔ EntryRefused method entry f := by
  obtain ⟨key, v⟩ := entry
  constructor
  · intro failed
    cases text : key.asText? with
    | none =>
        have noText := Value.asText?_eq_none.mp text
        cases shown : key.shown with
        | error e =>
            rw [ofEntry_of_unshown text shown] at failed
            exact Except.error.inj failed ▸ .unshown noText shown
        | ok written =>
            rw [ofEntry_of_shown text shown] at failed
            exact Except.error.inj failed ▸ .key noText shown
    | some name =>
        obtain rfl := Value.asText?_eq_some.mp text
        cases values : v.parameterValues? with
        | some ts => simp [ofEntry, Value.asText?, values] at failed
        | none =>
            have noTexts := Value.parameterValues?_eq_none.mp values
            rw [ofEntry_of_noTexts noTexts] at failed
            exact Except.error.inj failed ▸ .value noTexts
  · intro refused
    cases refused with
    | key noText shown => exact ofEntry_of_shown (Value.asText?_eq_none.mpr noText) shown
    | unshown noText unshown => exact ofEntry_of_unshown (Value.asText?_eq_none.mpr noText) unshown
    | value noTexts => exact ofEntry_of_noTexts noTexts

-----------------------------------------------------------------------------------------
-- All entries of a payload
-----------------------------------------------------------------------------------------

/-- How a payload is refused: for not being a map, or as the first of its entries that is no
parameter. -/
inductive Refused (method : Text) : Value → Failure → Prop
  | noMap {payload : Value} (noMap : ∀ kind entries, payload ≠ .map kind entries)
    : Refused method payload (.ofProblem (.notMap method payload.typeName))
  | entry {kind : MapKind} {before after : List (Value × Value)} {entry : Value × Value}
    {f : Failure} (taken : ∀ other ∈ before, ∃ p, Value.IsParameter other p)
    (refused : EntryRefused method entry f)
    : Refused method (.map kind (before ++ entry :: after)) f

theorem ofPayload_map (kind : MapKind) (entries : List (Value × Value)) (method : Text)
    : ofPayload (.map kind entries) method = entries.mapM (ofEntry method) :=
  rfl

/-- A payload is taken exactly when it gives parameters, by induction on its entries. -/
theorem ofPayload_eq_ok
    : ofPayload payload method = .ok parameters ↔ payload.parameters? = some parameters := by
  rw [ofPayload, Value.parameters?]
  cases payload.entries? with
  | none => simp
  | some entries =>
      simp only [Option.bind_eq_bind, Option.bind_some]
      induction entries generalizing parameters with
      | nil => simp
      | cons entry entries ih =>
          simp [List.mapM_cons, bind_eq_ok, ofEntry_eq_ok, ih, Option.bind_eq_some_iff]

/-- A payload that is refused is refused for its kind or as its first entry that is no parameter. -/
theorem ofPayload_eq_error_iff
    : ofPayload payload method = .error f ↔ Refused method payload f := by
  constructor
  · intro failed
    cases payload with
    | map kind entries =>
        rw [ofPayload_map, mapM_eq_error] at failed
        obtain ⟨before, entry, after, rfl, taken, refused⟩ := failed
        refine .entry (fun other member => ?_) (ofEntry_eq_error_iff.mp refused)
        exact (taken other member).imp fun _ => ofEntry_eq_ok_iff.mp
    | _ =>
        rw [← Except.error.inj failed]
        exact .noMap nofun
  · intro refused
    cases refused with
    | noMap noMap =>
        cases payload with
        | map kind entries => exact absurd rfl (noMap kind entries)
        | _ => rfl
    | @entry kind before after entry _ taken refused =>
        rw [ofPayload_map, mapM_eq_error]
        refine ⟨before, entry, after, rfl, fun other member => ?_, ofEntry_eq_error_iff.mpr refused⟩
        exact (taken other member).imp fun _ => ofEntry_eq_ok_iff.mpr

/-- A payload that gives no parameters is a problem of its shape, unless a key that is no text has
no written form and nothing before it is refused. -/
theorem ofPayload_eq_error (failed : ofPayload payload method = .error f)
    : (∃ p, f = .ofProblem p ∧ p.kind = .payloadShape ∧ p.cause? = none)
      ∨ ∃ before entry after e, payload.entries? = some (before ++ entry :: after)
          ∧ (∀ other ∈ before, (Value.parameter? other).isSome)
          ∧ entry.1.asText? = none ∧ entry.1.shown = .error e := by
  cases ofPayload_eq_error_iff.mp failed with
  | noMap => exact Or.inl ⟨_, rfl, rfl, rfl⟩
  | entry taken refused =>
      cases refused with
      | key | value => exact Or.inl ⟨_, rfl, rfl, rfl⟩
      | unshown noText unshown =>
          refine Or.inr ⟨_, _, _, _, rfl, ?_, Value.asText?_eq_none.mpr noText, unshown⟩
          intro other member
          obtain ⟨p, isParameter⟩ := taken other member
          exact Option.isSome_iff_exists.mpr ⟨p, Value.parameter?_eq_some.mpr isParameter⟩

theorem ofPayload_of_unshown {before after : List (Value × Value)} {entry : Value × Value}
    {e : Value.ShowError} (given : payload.entries? = some (before ++ entry :: after))
    (taken : ∀ other ∈ before, (Value.parameter? other).isSome) (noText : entry.1.asText? = none)
    (unshown : entry.1.shown = .error e)
    : ofPayload payload method = .error (.fault (.shown e)) := by
  rw [ofPayload, given]
  refine mapM_eq_error.mpr ⟨before, entry, after, rfl, ?_, ofEntry_of_unshown noText unshown⟩
  intro other member
  obtain ⟨p, parameter⟩ := Option.isSome_iff_exists.mp (taken other member)
  exact ⟨p, ofEntry_eq_ok.mpr parameter⟩

end Parameters

end Dispatch
