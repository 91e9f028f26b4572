import Dispatch.Proofs.Fields
import Dispatch.Proofs.Mapper.Configuring

/-! Switching extraction on and off. A mapper is made, and changed as a whole, with the truth value
that a value stands for, and switched to the one that the value counts as by itself. The two are the
same for all values but the words for false, which switch extraction on.
-/

namespace Dispatch

open Dispatch.Result

namespace Settings

variable [Platform] {v : Value} {before after : Settings}

theorem changedBy_extractPayload {b : Bool} (stands : IsTruth v b)
    : before.ChangedBy [(.text (text "extract_payload"), v)]
        { before with extractPayload := b } := by
  have named : Entries.Named [(.text (text "extract_payload"), v)] :=
    Entries.named_ofNamed [(text "extract_payload", v)]
  exact ⟨(Mapper.extraErrors_eq_nil_iff named).mp rfl, .kept, .changed stands, .kept⟩

/-- A change of extraction alone leaves the other fields as they are. -/
theorem changedBy_extractPayload_iff
    : before.ChangedBy [(.text (text "extract_payload"), v)] after
      ↔ ∃ b, IsTruth v b ∧ after = { before with extractPayload := b } := by
  constructor
  · intro changed
    rcases changed.extractPayload with _ | stands
    exact ⟨after.extractPayload, stands, changed.unique (changedBy_extractPayload stands)⟩
  · rintro ⟨b, stands, rfl⟩
    exact changedBy_extractPayload stands

end Settings

namespace Mapper

open Dispatch.Settings

section

variable [Platform] {mapper next : Mapper} {v : Value}

-----------------------------------------------------------------------------------------
-- The ways to change extraction
-----------------------------------------------------------------------------------------

/-- The mapper after a change of extraction alone. -/
def withExtraction (mapper : Mapper) (extractPayload : Bool) : Mapper :=
  { mapper with
    settings := { mapper.settings with extractPayload }, revision := mapper.revision + 1 }

omit [Platform] in
theorem withExtraction_inj {b c : Bool}
    : mapper.withExtraction b = mapper.withExtraction c ↔ b = c := by
  simp [withExtraction]

theorem update_extractPayload_eq_ok_iff (sound : mapper.settings.Sound)
    : mapper.update [(.text (text "extract_payload"), v)] = .ok next
      ↔ ∃ b, IsTruth v b ∧ next = mapper.withExtraction b := by
  have named : Entries.Named [(.text (text "extract_payload"), v)] :=
    Entries.named_ofNamed [(text "extract_payload", v)]
  simp only [update_eq_ok_iff sound named, changedBy_extractPayload_iff]
  constructor
  · rintro ⟨_, ⟨b, stands, rfl⟩, rfl⟩
    exact ⟨b, stands, rfl⟩
  · rintro ⟨b, stands, rfl⟩
    exact ⟨_, ⟨b, stands, rfl⟩, rfl⟩

/-- Extraction can be switched by any value that counts by itself. -/
theorem setExtractPayload_eq_ok (sound : mapper.settings.Sound) {b : Bool}
    (counts : v.truth = .ok b)
    : mapper.setExtractPayload v = .ok (mapper.withExtraction b) := by
  rw [setExtractPayload, counts]
  exact (update_extractPayload_eq_ok_iff sound).mpr ⟨b, isTruth_bool_iff.mpr rfl, rfl⟩

-----------------------------------------------------------------------------------------
-- Where the ways agree
-----------------------------------------------------------------------------------------

/-- Let a mapper be changed by any value that stands for a truth value. A mapper that is made with
this value has extraction as it is after the change. To switch extraction by the value leads to the
same mapper exactly if the value is no word for false; with a word for false, the change turns
extraction off and the switch turns it on.
-/
theorem extraction_agrees_iff (format : ObjectFormat) (reached : mapper.Reachable)
    (accepted : mapper.update (.ofNamed [(text "extract_payload", v)]) = .ok next)
    : (∀ {defaultUrl charset url name}, IsDefaultUrl defaultUrl url → IsCharset charset name →
        create defaultUrl v charset format
          = .ok ⟨⟨url, next.settings.extractPayload, name⟩, format, 0⟩)
      ∧ (mapper.setExtractPayload v = .ok next ↔ ¬Field.IsFalseWord v)
      ∧ (Field.IsFalseWord v →
        next = mapper.withExtraction false
        ∧ mapper.setExtractPayload v = .ok (mapper.withExtraction true)) := by
  obtain ⟨b, stands, rfl⟩ := (update_extractPayload_eq_ok_iff reached.sound).mp accepted
  refine ⟨fun url charset => ?_, ?_, fun isFalse => ?_⟩
  · exact create_eq_ok_iff.mpr ⟨_, ⟨url, stands, charset⟩, rfl⟩
  · rw [setExtractPayload_eq_ok reached.sound (Field.truth_of_toTruth stands), Except.ok.injEq,
      withExtraction_inj]
    exact Field.truthy_eq_iff stands
  · rw [setExtractPayload_eq_ok reached.sound (Field.truth_of_toTruth stands), isFalse.truthy,
      isFalse.eq_false stands]
    exact ⟨rfl, rfl⟩

end

/-- The word `false` makes a mapper without extraction, turns extraction off by a change and turns
it on by the switch. -/
theorem extraction_of_falseWord
    : create .null (.text (text "false")) (.text (text "us-ascii")) .json
          = .ok ⟨⟨none, false, text "us-ascii"⟩, .json, 0⟩
      ∧ asciiMapper.update (.ofNamed [(text "extract_payload", .text (text "false"))])
          = .ok (asciiMapper.withExtraction false)
      ∧ asciiMapper.setExtractPayload (.text (text "false"))
          = .ok (asciiMapper.withExtraction true) := by
  have isFalse : Field.IsFalseWord (.text (text "false")) :=
    ⟨text "false", rfl, by decide⟩
  have accepted : asciiMapper.update (.ofNamed [(text "extract_payload", .text (text "false"))])
      = .ok (asciiMapper.withExtraction false) :=
    (update_extractPayload_eq_ok_iff reachable_asciiMapper.sound).mpr ⟨false, rfl, rfl⟩
  have agrees := extraction_agrees_iff .json reachable_asciiMapper accepted
  have made := agrees.1 .absent (.given reachable_asciiMapper.sound.charset)
  exact ⟨made, accepted, (agrees.2.2 isFalse).2⟩

end Mapper

end Dispatch
