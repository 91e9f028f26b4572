import Dispatch.Proofs.Query.Pairs

/-! Which refusal shows when parameters cannot be written. Their texts are written in order, each
name again with each of its values, so it is that of the first text which the charset refuses. A
name without values is not written at all.
-/

namespace Dispatch

open Dispatch.Result

namespace Query

variable [Platform]

/-- Why a charset cannot write a text. -/
def refusal? (charset t : Text) : Option Charset.Error :=
  errorOf? (formText charset t)

theorem refusal?_eq_none {charset t : Text}
    : refusal? charset t = none ↔ isEncodable charset t := by
  rw [refusal?, isEncodable, errorOf?_eq_none, isOk_eq_true]

theorem refusal?_eq_some {charset t : Text} {e : Charset.Error}
    : refusal? charset t = some e ↔ formText charset t = .error e :=
  errorOf?_eq_some

/-- A pair fails with the refusal of its name, and else with that of its value. -/
theorem pair_eq (charset name value : Text)
    : pair (.text charset) (.text name) (.text value)
      = match (refusal? charset name).or (refusal? charset value) with
        | some e => .error (parameterFailure (.text name) (.text charset) (.charset e))
        | none => .ok (pairText charset name value) := by
  rw [pair, component_text, component_text]
  cases first : refusal? charset name with
  | some e =>
      rw [refusal?_eq_some.mp first]
      rfl
  | none =>
      rw [formText_of_isEncodable (refusal?_eq_none.mp first)]
      cases second : refusal? charset value with
      | some e =>
          rw [refusal?_eq_some.mp second]
          rfl
      | none =>
          rw [formText_of_isEncodable (refusal?_eq_none.mp second)]
          rfl

end Query

namespace Parameters

open Query

variable [Platform]

/-- The texts that are written, in order: the values of each name, the name before each of them. -/
def texts (parameters : Parameters) : List Text :=
  parameters.flatMap fun entry => entry.2.flatMap fun value => [entry.1, value]

/-- The refusal of the first text that a charset cannot write. -/
def refusal? (charset : Text) (parameters : Parameters) : Option Charset.Error :=
  parameters.texts.findSome? (Query.refusal? charset)

/-- The values of one name fail with the first refusal, by induction on the values. -/
theorem mapM_pair_eq (charset name : Text) (values : List Text)
    : values.mapM (fun value => pair (.text charset) (.text name) (.text value))
      = match (values.flatMap fun value => [name, value]).findSome? (Query.refusal? charset) with
        | some e => .error (parameterFailure (.text name) (.text charset) (.charset e))
        | none => .ok (values.map (pairText charset name)) := by
  induction values with
  | nil => rfl
  | cons value values ih =>
      rw [List.mapM_cons, pair_eq, ih, List.flatMap_cons, List.findSome?_append]
      have both : [name, value].findSome? (Query.refusal? charset)
          = (Query.refusal? charset name).or (Query.refusal? charset value) := by
        cases first : Query.refusal? charset name <;>
          cases second : Query.refusal? charset value <;> simp [first, second]
      rw [both]
      cases (Query.refusal? charset name).or (Query.refusal? charset value) with
      | some e => rfl
      | none =>
          simp only [ok_bind, Option.none_or]
          cases (values.flatMap fun value => [name, value]).findSome? (Query.refusal? charset) <;>
            rfl

/-- Parameters fail with the first refusal, under the name that is then written, by induction on the
names. -/
theorem pairs_of_refusal? {charset : Text} {parameters : Parameters} {e : Charset.Error}
    (refused : parameters.refusal? charset = some e)
    : ∃ name, Query.pairs (.text charset) parameters.toEntries
        = .error (parameterFailure (.text name) (.text charset) (.charset e)) := by
  simp only [Query.pairs, map_eq_error]
  rw [refusal?, texts] at refused
  induction parameters with
  | nil => contradiction
  | cons entry parameters ih =>
      rw [List.flatMap_cons, List.findSome?_append] at refused
      simp only [toEntries, List.map_cons, List.mapM_cons, entryPairs_list, mapM_pair_eq]
      cases first : (entry.2.flatMap fun value => [entry.1, value]).findSome?
          (Query.refusal? charset) with
      | some d =>
          rw [first] at refused
          obtain rfl : d = e := Option.some.inj refused
          exact ⟨entry.1, rfl⟩
      | none =>
          rw [first, Option.none_or] at refused
          obtain ⟨name, failed⟩ := ih refused
          rw [toEntries] at failed
          exact ⟨name, by simp only [ok_bind, failed, error_bind]⟩

theorem refusal?_eq_none {charset : Text} {parameters : Parameters}
    : parameters.refusal? charset = none ↔ parameters.isEncodable charset := by
  simp only [refusal?, texts, List.findSome?_eq_none_iff, List.mem_flatMap, isEncodable_iff]
  constructor
  · intro written entry listed value member
    have each (t : Text) (among : t ∈ [entry.1, value]) : Query.isEncodable charset t :=
      Query.refusal?_eq_none.mp (written t ⟨entry, listed, value, member, among⟩)
    exact ⟨each entry.1 (by simp), each value (by simp)⟩
  · rintro fits t ⟨entry, listed, value, member, among⟩
    obtain ⟨name, content⟩ := fits entry listed value member
    simp only [List.mem_cons, List.not_mem_nil, or_false] at among
    rcases among with rfl | rfl
    · exact Query.refusal?_eq_none.mpr name
    · exact Query.refusal?_eq_none.mpr content

end Parameters

end Dispatch
