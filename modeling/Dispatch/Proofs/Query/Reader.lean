import Dispatch.Proofs.Query.Form
import Dispatch.Proofs.Query.Merging

/-! Reading a query back. Its segments are cut at the first sign between name and value, and both
are read as form encodings of UTF-8. Parameters that were written so come back as they were.
-/

namespace Dispatch

/-- The names with each of their values, in order. -/
def Parameters.toPairs (parameters : Parameters) : List (Text × Text) :=
  parameters.flatMap fun entry => entry.2.map fun value => (entry.1, value)

namespace Query

/-- Reads a name or a value in form encoding. -/
def readComponent? (form : Text) : Option Text :=
  Utf8.decode? (readForm form)

/-- Reads a segment; without a sign it is a name with an empty value. -/
def readPair? (segment : Text) : Option (Text × Text) := do
  let (name, value) := segment.cut '='
  return (← readComponent? name, ← readComponent? (value.getD []))

/-- Reads the parameters of a query. -/
def readQuery? (query : Text) : Option (List (Text × Text)) :=
  (segments query).mapM readPair?

variable [Platform]

theorem readComponent?_encoded {charset t : Text}
    (utf8 : Charset.find? charset = some (.utf8 false)) (encodable : isEncodable charset t)
    : readComponent? (encoded charset t) = some t :=
  decode?_readForm utf8 (formText_of_isEncodable encodable)

/-- The first sign of a pair is the one between name and value. -/
theorem cut_pairText (charset name value : Text)
    : (pairText charset name value).cut '='
      = (encoded charset name, some (encoded charset value)) := by
  have absent : CodePoint.ofChar '=' ∉ encoded charset name := by
    intro member
    exact ne_of_isFormCharacter (isFormCharacter_of_mem_encoded member) (by decide) rfl
  rw [pairText, List.append_assoc]
  exact Text.cut_append_marked absent (some (encoded charset value))

theorem readPair?_pairText {charset name value : Text}
    (utf8 : Charset.find? charset = some (.utf8 false)) (nameFits : isEncodable charset name)
    (valueFits : isEncodable charset value)
    : readPair? (pairText charset name value) = some (name, value) := by
  rw [readPair?, cut_pairText]
  simp only [Option.getD_some, readComponent?_encoded utf8 nameFits,
    readComponent?_encoded utf8 valueFits]
  rfl

theorem pairTexts_eq_map (charset : Text) (parameters : Parameters)
    : parameters.pairTexts charset
      = parameters.toPairs.map fun pair => pairText charset pair.1 pair.2 := by
  simp [Parameters.pairTexts, Parameters.toPairs, List.map_flatMap, Function.comp_def]

omit [Platform] in
/-- What is written item by item is read item by item, by induction on the items. -/
theorem mapM_map_eq_some {α β : Type} {write : α → β} {read : β → Option α} {items : List α}
    (back : ∀ item ∈ items, read (write item) = some item)
    : (items.map write).mapM read = some items := by
  induction items with
  | nil => rfl
  | cons item items ih =>
      have rest := ih (fun other member => back other (List.mem_cons_of_mem item member))
      rw [List.map_cons, List.mapM_cons, back item List.mem_cons_self, rest]
      rfl

theorem isEncodable_iff_toPairs {charset : Text} {parameters : Parameters}
    : parameters.isEncodable charset
      ↔ ∀ pair ∈ parameters.toPairs, isEncodable charset pair.1 ∧ isEncodable charset pair.2 := by
  rw [Parameters.isEncodable_iff]
  constructor
  · intro fits pair member
    obtain ⟨entry, listed, given⟩ := List.mem_flatMap.mp member
    obtain ⟨value, inside, rfl⟩ := List.mem_map.mp given
    exact fits entry listed value inside
  · intro fits entry listed value inside
    exact fits (entry.1, value)
      (List.mem_flatMap.mpr ⟨entry, listed, List.mem_map.mpr ⟨value, inside, rfl⟩⟩)

/-- The query that parameters are joined to reads as their names and values. -/
theorem readQuery?_joinWith {charset : Text} {parameters : Parameters}
    (utf8 : Charset.find? charset = some (.utf8 false))
    (encodable : parameters.isEncodable charset)
    : readQuery? (Text.joinWith (text "&") (parameters.pairTexts charset))
      = some parameters.toPairs := by
  have fits := isEncodable_iff_toPairs.mp encodable
  rw [readQuery?, segments_joinWith fun p => isPairText_of_mem_pairTexts, pairTexts_eq_map]
  exact mapM_map_eq_some fun pair member =>
    readPair?_pairText utf8 (fits pair member).1 (fits pair member).2

-----------------------------------------------------------------------------------------
-- UTF-8 can write all parameters without surrogates
-----------------------------------------------------------------------------------------

/-- Names and values without surrogates. -/
def Plain (parameters : Parameters) : Prop :=
  ∀ pair ∈ parameters.toPairs,
    (∀ c ∈ pair.1, c.isSurrogate = false) ∧ ∀ c ∈ pair.2, c.isSurrogate = false

section

variable {charset : Text} {parameters : Parameters} (supported : Charset.isSupported charset)
  (utf8 : Charset.find? charset = some (.utf8 false)) (plain : Plain parameters)

include supported utf8 plain

theorem isEncodable_utf8 : parameters.isEncodable charset := by
  refine isEncodable_iff_toPairs.mpr fun pair member => ?_
  obtain ⟨namePlain, valuePlain⟩ := plain pair member
  exact ⟨(isEncodable_of_formText (formText_utf8 supported utf8 namePlain)).1,
    (isEncodable_of_formText (formText_utf8 supported utf8 valuePlain)).1⟩

theorem pairTexts_utf8
    : parameters.pairTexts charset
      = parameters.toPairs.map fun pair =>
          formBytes (pair.1.contains (CodePoint.ofChar ' ')) (Utf8.encode pair.1) ++ text "="
            ++ formBytes (pair.2.contains (CodePoint.ofChar ' ')) (Utf8.encode pair.2) := by
  rw [pairTexts_eq_map]
  refine List.map_congr_left fun pair member => ?_
  obtain ⟨namePlain, valuePlain⟩ := plain pair member
  rw [pairText, encoded, encoded, formText_utf8 supported utf8 namePlain,
    formText_utf8 supported utf8 valuePlain]
  rfl

end

end Query

end Dispatch
