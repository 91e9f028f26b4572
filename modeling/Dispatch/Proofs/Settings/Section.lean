import Dispatch.Proofs.Settings.Document

/-! The section of a document. A section that is null or a map is filled in and read, and what is
read of it are the settings. Any other section is refused, unless it stands under its key and
counts as false: then the document is read as if the section were empty.
-/

namespace Dispatch.Settings

open Dispatch.Result

section

variable {env : Environment} {path content : Text} {document : Value} {entries : Entries}

/-- What stands under the key of the section, if the document is a map that has the key. -/
def underKey? (document : Value) : Option Value :=
  document.entries?.bind fun entries => Value.lookup? entries sectionKey

/-- The section of a document: what stands under its key, or else the whole document. -/
def sectionOf (document : Value) : Value :=
  (underKey? document).getD document

/-- The entries of a section: none of null, and those of a map. -/
inductive IsSection : Value → Entries → Prop
  | null : IsSection .null []
  | map {kind : MapKind} {entries : Entries} : IsSection (.map kind entries) entries

/-- Whether what stands under the key counts as false, although it is neither null nor a map. -/
def isBlankSection (document : Value) : Bool :=
  (underKey? document).any fun v => !v.truthy && !v.isNull && v.entries?.isNone

/-- The problem of a section that is neither null nor a map. -/
def sectionProblem (document : Value) : Problem :=
  if (underKey? document).isSome then .sectionNotMap else .documentNotMap

-----------------------------------------------------------------------------------------
-- What is selected
-----------------------------------------------------------------------------------------

theorem isSection_of_isNull {v : Value} (isNull : v.isNull) : IsSection v [] := by
  cases v with
  | null => exact .null
  | _ => contradiction

theorem isSection_of_entries? {v : Value} (found : v.entries? = some entries)
    : IsSection v entries := by
  cases v with
  | map kind held =>
      cases found
      exact .map
  | _ => contradiction

/-- Without a section of its own a document is selected as a whole. -/
theorem selected_of_underKey?_none (none : underKey? document = none)
    : selected document = entriesOf document Value.isNull .documentNotMap := by
  cases document with
  | null => rfl
  | map kind held =>
      have absent : Value.lookup? held sectionKey = Option.none := none
      simp only [selected, entriesOf, Value.isNull, Bool.false_eq_true, if_false, ok_bind, absent,
        pure_eq]
  | _ => rfl

/-- What stands under the key is taken for nothing if it counts as false. -/
theorem selected_of_underKey?_some {v : Value} (held : underKey? document = some v)
    : selected document = entriesOf v (!·.truthy) .sectionNotMap := by
  cases document with
  | map kind entries =>
      have present : Value.lookup? entries sectionKey = some v := held
      simp only [selected, entriesOf, Value.isNull, Bool.false_eq_true, if_false, ok_bind, present]
  | _ => contradiction

/-- Null and maps give their entries, as long as no map that has some is taken for nothing. -/
theorem entriesOf_of_isSection {v : Value} {isNothing : Value → Bool} {otherwise : Problem}
    (holds : IsSection v entries) (null : isNothing .null)
    (empty : ∀ kind held, isNothing (.map kind held) → held = [])
    : entriesOf v isNothing otherwise = .ok entries := by
  unfold entriesOf
  cases holds with
  | null => rw [if_pos null]
  | @map kind entries =>
      split
      · rename_i nothing
        rw [empty kind entries nothing]
      · rfl

theorem entriesOf_of_not_isSection {v : Value} {isNothing : Value → Bool} {otherwise : Problem}
    (other : ∀ entries, ¬IsSection v entries) (something : isNothing v = false)
    : entriesOf v isNothing otherwise = .error (.ofProblem otherwise) := by
  unfold entriesOf
  rw [something, if_neg Bool.false_ne_true]
  cases v with
  | map kind entries => exact absurd .map (other entries)
  | _ => rfl

theorem selected_of_isSection (holds : IsSection (sectionOf document) entries)
    : selected document = .ok entries := by
  rw [sectionOf] at holds
  cases held : underKey? document with
  | none =>
      rw [held] at holds
      rw [selected_of_underKey?_none held]
      exact entriesOf_of_isSection holds rfl nofun
  | some v =>
      rw [held] at holds
      rw [selected_of_underKey?_some held]
      refine entriesOf_of_isSection holds rfl fun kind entries nothing => ?_
      simpa [Value.truthy] using nothing

/-- A blank section is selected as one without entries. -/
theorem selected_of_isBlankSection (blank : isBlankSection document)
    : selected document = .ok [] := by
  obtain ⟨v, held, nothing⟩ := (Option.any_eq_true _ _).mp blank
  simp only [Bool.and_eq_true] at nothing
  rw [selected_of_underKey?_some held]
  unfold entriesOf
  rw [if_pos nothing.1.1]

/-- Any other section is refused. -/
theorem selected_of_not_isSection (other : ∀ entries, ¬IsSection (sectionOf document) entries)
    (noBlank : isBlankSection document = false)
    : selected document = .error (.ofProblem (sectionProblem document)) := by
  rw [sectionOf] at other
  rw [isBlankSection] at noBlank
  rw [sectionProblem]
  cases held : underKey? document with
  | none =>
      rw [held] at other
      rw [selected_of_underKey?_none held]
      refine entriesOf_of_not_isSection other (Bool.eq_false_iff.mpr fun null => ?_)
      exact other [] (isSection_of_isNull null)
  | some v =>
      rw [held] at other noBlank
      rw [selected_of_underKey?_some held]
      refine entriesOf_of_not_isSection other ?_
      have notNull : v.isNull = false :=
        Bool.eq_false_iff.mpr fun null => other [] (isSection_of_isNull null)
      have noEntries : v.entries? = none :=
        Option.eq_none_iff_forall_not_mem.mpr fun entries found =>
          other entries (isSection_of_entries? found)
      simpa [notNull, noEntries] using noBlank

-----------------------------------------------------------------------------------------
-- What is read
-----------------------------------------------------------------------------------------

variable [Platform]

/-- Selected entries are filled in and read, and nothing else makes settings of them. -/
theorem ofDocumentValue_eq_ok_iff (part : selected document = .ok entries) {s : Settings}
    : ofDocumentValue env document = .ok s
      ↔ ∃ filled, Template.fillValue env (.map .plain entries) = .ok (.map .plain filled)
          ∧ ofEntries filled = .ok s := by
  constructor
  · intro read
    rcases fillValue_map_cases env entries with ⟨filled, done⟩ | ⟨e, failed, _⟩
    · rw [ofDocumentValue_of_filled part done] at read
      refine ⟨filled, done, ?_⟩
      split at read
      · rename_i settled
        rw [settled, read]
      · contradiction
      · contradiction
    · rw [ofDocumentValue, part, ok_bind, failed, error_bind] at read
      contradiction
  · rintro ⟨filled, done, settled⟩
    rw [ofDocumentValue_of_filled part done, settled]

/-- Nothing is to be filled in where there are no entries, and the standard settings are read. -/
theorem ofDocumentValue_of_nothing (part : selected document = .ok [])
    : ofDocumentValue env document = .ok standard :=
  (ofDocumentValue_eq_ok_iff part).mpr ⟨[], Template.fillValue_map env .plain [] rfl, rfl⟩

/-- A section that is null or a map gives the settings that are read of it once it is filled in,
and no others. Any other section is refused as a problem of the configuration, unless it is blank
and stands under its key: then the standard settings are read in its place.
-/
theorem ofDocument_section (env : Environment) (path : Text)
    (read : Yaml.read content = .ok document)
    : (∀ entries, IsSection (sectionOf document) entries →
        ∀ s, ofDocument env path (some content) = .ok s
          ↔ ∃ filled, Template.fillValue env (.map .plain entries) = .ok (.map .plain filled)
              ∧ ofEntries filled = .ok s)
      ∧ ((∀ entries, ¬IsSection (sectionOf document) entries) →
        (ofDocument env path (some content) = .error (.ofProblem (sectionProblem document))
            ↔ isBlankSection document = false)
          ∧ (isBlankSection document → ofDocument env path (some content) = .ok standard))
      ∧ (sectionProblem document).kind = .configuration := by
  rw [ofDocument_of_value read]
  refine ⟨fun entries holds s => ?_, fun other => ?_, ?_⟩
  · exact ofDocumentValue_eq_ok_iff (selected_of_isSection holds)
  · have standardOf (blank : isBlankSection document)
        : ofDocumentValue env document = .ok standard :=
      ofDocumentValue_of_nothing (selected_of_isBlankSection blank)
    refine ⟨⟨fun refused => ?_, fun noBlank => ?_⟩, standardOf⟩
    · refine Bool.eq_false_iff.mpr fun blank => ?_
      rw [standardOf blank] at refused
      contradiction
    · rw [ofDocumentValue, selected_of_not_isSection other noBlank, error_bind]
  · rw [sectionProblem]
    split <;> rfl

end

/-- A document with a truth value in the place of its section. -/
def falseSection : Text :=
  text "mapper: false\n"

theorem ofDocument_of_falseSection
    : Yaml.read falseSection = .ok (.map .plain [(sectionKey, .bool false)])
      ∧ (∀ entries, ¬IsSection (.bool false) entries)
      ∧ ofDocument [] (text "mapper.yaml") (some falseSection) = .ok standard := by
  have tokens : Yaml.Token.ofText (Yaml.normalBreaks falseSection [])
      = Yaml.entryTokens (text "mapper") (text "false") := by
    decide
  have read : Yaml.read falseSection = .ok (.map .plain [(sectionKey, .bool false)]) :=
    Yaml.read_entry (by decide) tokens (by decide) rfl
  obtain ⟨_, other, _⟩ := ofDocument_section [] (text "mapper.yaml") read
  exact ⟨read, nofun, (other nofun).2 (by decide)⟩

end Dispatch.Settings
