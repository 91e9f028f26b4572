import Dispatch.Proofs.Query.Form
import Dispatch.Query.Assembly

/-! The pairs of parameters. They are the form encodings of each name with each of its values, in
order, written exactly when the charset can write all of them.
-/

namespace Dispatch

open Dispatch.Result

namespace Query

variable [Platform]

/-- The form encoding of a text, empty where the charset has none. -/
def encoded (charset t : Text) : Text :=
  (formText charset t).toOption.getD []

/-- A name and a value in form encoding, with the sign between them. -/
def pairText (charset name value : Text) : Text :=
  encoded charset name ++ text "=" ++ encoded charset value

/-- Whether a charset has a form encoding for a text. -/
def isEncodable (charset t : Text) : Bool :=
  (formText charset t).isOk

theorem formText_of_isEncodable {charset t : Text} (encodable : isEncodable charset t)
    : formText charset t = .ok (encoded charset t) := by
  rw [isEncodable] at encodable
  rw [encoded]
  cases written : formText charset t with
  | ok form => rfl
  | error e => simp [written, Except.isOk, Except.toBool] at encodable

theorem isEncodable_of_formText {charset t form : Text} (written : formText charset t = .ok form)
    : isEncodable charset t ∧ form = encoded charset t := by
  simp [isEncodable, encoded, written, Except.isOk, Except.toBool, Except.toOption]

theorem component_text (charset t : Text)
    : component (.text t) (.text charset) = (formText charset t).mapError .charset := by
  cases t <;> rfl

/-- A pair is written exactly when both of its parts are. -/
theorem pair_eq_ok {charset name value p : Text}
    : pair (.text charset) (.text name) (.text value) = .ok p
      ↔ isEncodable charset name ∧ isEncodable charset value ∧ p = pairText charset name value := by
  rw [pair, mapError_eq_ok, bind_eq_ok]
  simp only [bind_eq_ok, component_text, mapError_eq_ok, pure_eq, Except.ok.injEq]
  constructor
  · rintro ⟨first, writtenName, second, writtenValue, rfl⟩
    obtain ⟨nameFits, rfl⟩ := isEncodable_of_formText writtenName
    obtain ⟨valueFits, rfl⟩ := isEncodable_of_formText writtenValue
    exact ⟨nameFits, valueFits, rfl⟩
  · rintro ⟨nameFits, valueFits, rfl⟩
    exact ⟨_, formText_of_isEncodable nameFits, _, formText_of_isEncodable valueFits, rfl⟩

theorem entryPairs_list (charset name : Text) (values : List Text)
    : entryPairs (.text charset) (.text name, .list (values.map .text))
      = values.mapM fun value => pair (.text charset) (.text name) (.text value) := by
  simp only [entryPairs, Value.each?, Value.sequence?, List.mapM_map]
  rfl

end Query

namespace Parameters

open Query

variable [Platform]

/-- The pairs of parameters in form encoding, names in order and values in order under each. -/
def pairTexts (charset : Text) (parameters : Parameters) : List Text :=
  parameters.flatMap fun entry => entry.2.map (pairText charset entry.1)

/-- Whether the charset can write every value and every name that has one. -/
def isEncodable (charset : Text) (parameters : Parameters) : Bool :=
  parameters.all fun entry => entry.2.all fun value =>
    Query.isEncodable charset entry.1 && Query.isEncodable charset value

theorem isEncodable_iff {charset : Text} {parameters : Parameters}
    : parameters.isEncodable charset
      ↔ ∀ entry ∈ parameters, ∀ value ∈ entry.2,
          Query.isEncodable charset entry.1 ∧ Query.isEncodable charset value := by
  simp only [isEncodable, List.all_eq_true, Bool.and_eq_true]

/-- The values of one entry are written exactly when the charset can write them with the name, by
induction on the values. -/
theorem mapM_pair_eq_ok {charset name : Text} {values ps : List Text}
    : values.mapM (fun value => pair (.text charset) (.text name) (.text value)) = .ok ps
      ↔ (∀ value ∈ values, Query.isEncodable charset name ∧ Query.isEncodable charset value)
        ∧ ps = values.map (pairText charset name) := by
  induction values generalizing ps with
  | nil => simp
  | cons value values ih =>
      simp only [List.mapM_cons, bind_eq_ok, pure_eq, pair_eq_ok, ih, List.forall_mem_cons,
        List.map_cons, Except.ok.injEq]
      constructor
      · rintro ⟨_, ⟨nameFits, valueFits, rfl⟩, _, ⟨others, rfl⟩, rfl⟩
        exact ⟨⟨⟨nameFits, valueFits⟩, others⟩, rfl⟩
      · rintro ⟨⟨⟨nameFits, valueFits⟩, others⟩, rfl⟩
        exact ⟨_, ⟨nameFits, valueFits, rfl⟩, _, ⟨others, rfl⟩, rfl⟩

/-- Parameters are written exactly when the charset can write them, as their pairs in order. -/
theorem pairs_eq_ok {charset : Text} {parameters : Parameters} {ps : List Text}
    : Query.pairs (.text charset) parameters.toEntries = .ok ps
      ↔ parameters.isEncodable charset ∧ ps = parameters.pairTexts charset := by
  rw [Query.pairs, map_eq_ok, isEncodable_iff]
  induction parameters generalizing ps with
  | nil => simp [toEntries, pairTexts]
  | cons entry parameters ih =>
      simp only [toEntries, List.map_cons, List.mapM_cons, bind_eq_ok, pure_eq, entryPairs_list,
        mapM_pair_eq_ok, Except.ok.injEq, List.forall_mem_cons, pairTexts,
        List.flatMap_cons] at ih ⊢
      constructor
      · rintro ⟨_, ⟨_, ⟨first, rfl⟩, rest, read, rfl⟩, rfl⟩
        obtain ⟨others, same⟩ := ih.mp ⟨rest, read, rfl⟩
        exact ⟨⟨first, others⟩, by rw [List.flatten_cons, same]⟩
      · rintro ⟨⟨first, others⟩, rfl⟩
        obtain ⟨rest, read, same⟩ := ih.mpr ⟨others, rfl⟩
        exact ⟨_, ⟨_, ⟨first, rfl⟩, rest, read, rfl⟩, by rw [List.flatten_cons, same]⟩

end Parameters

end Dispatch
