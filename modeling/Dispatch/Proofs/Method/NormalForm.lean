import Dispatch.Proofs.Descriptor
import Dispatch.Proofs.Text.Trimmed

/-! The normal form of methods. A header asks for the text between the blanks around it, in upper
case, and for the standard method if there is no such text. Blanks and the case of letters do not
matter in a header, and what a header asks for is asked for by itself as well.
-/

namespace Dispatch.Method

open Dispatch.Result

/-- A method that a descriptor takes, without blanks around it. -/
structure Normal (method : Text) : Prop extends Valid method where
  trimmed : method.Trimmed

section

variable [Platform]

/-- What a message asks for: the standard method without a header, with one that is null and with
one that is blank, and else the upper case of what stands between the blanks. -/
inductive Asks (m : Message) : Text → Prop
  | absent (missing : m.header? header = none) : Asks m standard
  | null (found : m.header? header = some .null) : Asks m standard
  | blank {v : Value} {t : Text} (found : m.header? header = some v) (given : v ≠ .null)
    (plain : v.plain = .ok t) (blank : t.IsBlank)
    : Asks m standard
  | named {v : Value} {t name : Text} (found : m.header? header = some v) (given : v ≠ .null)
    (plain : v.plain = .ok t) (pads : t.Pads name) (trimmed : name.Trimmed) (nonempty : name ≠ [])
    : Asks m name.upper

/-- Texts that differ in the blanks around them and in letters of one upper case at most. -/
def Alike (s t : Text) : Prop :=
  ∃ first second, s.Pads first ∧ t.Pads second ∧ Text.upper first = Text.upper second

variable {m other : Message} {v : Value} {s t name method : Text}

-----------------------------------------------------------------------------------------
-- The method of a header text
-----------------------------------------------------------------------------------------

omit [Platform] in
theorem ofText_of_isBlank (blank : t.IsBlank) : ofText t = standard := by
  rw [ofText, Text.strip_eq_nil_iff.mpr blank]
  rfl

omit [Platform] in
theorem ofText_of_pads (pads : t.Pads name) (trimmed : name.Trimmed) (nonempty : name ≠ [])
    : ofText t = name.upper := by
  have left : name.upper.isEmpty = false := by
    obtain ⟨c, rest, rfl⟩ := List.exists_cons_of_ne_nil nonempty
    simp [Text.upper, c.upper_ne_nil]
  rw [ofText, Text.strip_of_pads pads trimmed, left, if_neg Bool.false_ne_true]

omit [Platform] in
theorem normal_ofText (t : Text) : Normal (ofText t) := by
  refine ⟨valid_ofText t, ?_⟩
  by_cases blank : t.IsBlank
  · rw [ofText_of_isBlank blank]
    exact Text.trimmed_of_no_blank (by decide)
  · have nonempty : t.strip ≠ [] := fun none => blank (Text.strip_eq_nil_iff.mp none)
    rw [ofText_of_pads t.pads_strip t.trimmed_strip nonempty]
    exact t.trimmed_strip.upper

omit [Platform] in
/-- A normal form is the method of itself. -/
theorem Normal.ofText_eq (normal : Normal method) : ofText method = method := by
  rw [ofText_of_pads (Text.Pads.refl method) normal.trimmed normal.nonempty, normal.upper]

omit [Platform] in
/-- Upper case is taken first, so that only the blanks around equal texts are left to drop. -/
theorem Alike.ofText_eq (alike : Alike s t) : ofText s = ofText t := by
  obtain ⟨first, second, padsFirst, padsSecond, same⟩ := alike
  have stripped : Text.upper s.strip = Text.upper t.strip := by
    rw [padsFirst.strip_eq, padsSecond.strip_eq, Text.upper_strip, Text.upper_strip, same]
  simp only [ofText, stripped]

-----------------------------------------------------------------------------------------
-- The method of a message
-----------------------------------------------------------------------------------------

theorem ofMessage_of_found (found : m.header? header = some v) (given : v ≠ .null)
    : ofMessage m = (v.plain.mapError Fault.shown).map ofText := by
  rw [ofMessage, found]
  cases v with
  | null => contradiction
  | _ => rfl

theorem ofMessage_of_plain (found : m.header? header = some v) (given : v ≠ .null)
    (plain : v.plain = .ok t)
    : ofMessage m = .ok (ofText t) := by
  rw [ofMessage_of_found found given, plain, mapError_ok, map_ok]

theorem ofMessage_of_text (found : m.header? header = some (.text t))
    : ofMessage m = .ok (ofText t) :=
  ofMessage_of_plain found nofun rfl

/-- The method of a message is the one that it asks for, by the cases of the header. -/
theorem ofMessage_eq_ok_iff : ofMessage m = .ok method ↔ Asks m method := by
  constructor
  · intro known
    cases found : m.header? header with
    | none =>
        rw [ofMessage, found] at known
        rw [← Except.ok.inj known]
        exact .absent found
    | some v =>
        by_cases null : v = .null
        · rw [null] at found
          rw [ofMessage, found] at known
          rw [← Except.ok.inj known]
          exact .null found
        · rw [ofMessage_of_found found null, map_eq_ok] at known
          obtain ⟨t, plain, rfl⟩ := known
          rw [mapError_eq_ok] at plain
          by_cases blank : t.IsBlank
          · rw [ofText_of_isBlank blank]
            exact .blank found null plain blank
          · have nonempty : t.strip ≠ [] := fun none => blank (Text.strip_eq_nil_iff.mp none)
            rw [ofText_of_pads t.pads_strip t.trimmed_strip nonempty]
            exact .named found null plain t.pads_strip t.trimmed_strip nonempty
  · intro asks
    cases asks with
    | absent missing => rw [ofMessage, missing]
    | null found => rw [ofMessage, found]
    | blank found given plain blank =>
        rw [ofMessage_of_plain found given plain, ofText_of_isBlank blank]
    | named found given plain pads trimmed nonempty =>
        rw [ofMessage_of_plain found given plain, ofText_of_pads pads trimmed nonempty]

theorem exists_ofMessage_eq_ok (shown : ∀ v, m.header? header = some v → ∃ t, v.plain = .ok t)
    : ∃ method, ofMessage m = .ok method := by
  cases result : ofMessage m with
  | ok method => exact ⟨method, rfl⟩
  | error f =>
      obtain ⟨v, e, found, _, unshown, _⟩ := ofMessage_eq_error.mp result
      obtain ⟨t, plain⟩ := shown v found
      rw [plain] at unshown
      contradiction

/-- A message whose header has a plain form has the method that it asks for. This is a normal form
that descriptors take and that a message with it as its header has again, and messages whose headers
are alike have the same method.
-/
theorem ofMessage_normal (shown : ∀ v, m.header? header = some v → ∃ t, v.plain = .ok t)
    : ∃ method, ofMessage m = .ok method
        ∧ (∀ asked, Asks m asked ↔ asked = method)
        ∧ Normal method
        ∧ Descriptor.readMethod (.text method) = .ok method
        ∧ (∀ other : Message, other.header? header = some (.text method)
            → ofMessage other = .ok method)
        ∧ ∀ (other : Message) (s t : Text),
            m.header? header = some (.text s) → other.header? header = some (.text t) → Alike s t
            → ofMessage other = .ok method := by
  obtain ⟨method, known⟩ := exists_ofMessage_eq_ok shown
  have normal : Normal method := by
    rw [eq_ofText_of_ofMessage known]
    exact normal_ofText (given m)
  refine ⟨method, known, ?_, normal, Mapper.readMethod_text normal.toValid, ?_, ?_⟩
  · intro asked
    rw [← ofMessage_eq_ok_iff, known, Except.ok.injEq, eq_comm]
  · intro other found
    rw [ofMessage_of_text found, normal.ofText_eq]
  · intro other s t found foundOther alike
    rw [ofMessage_of_text found] at known
    rw [ofMessage_of_text foundOther, ← alike.ofText_eq, known]

end

/-- A message with a text as the header for the method. -/
def headed (t : Text) : Message where
  payload := .null
  headers := [(header, .text t)]
  given := ⟨false, true, []⟩

/-- A wide blank, a letter whose upper case is two letters, and a tab. -/
def paddedWord : Text := text "\u2003straße\t"

theorem ofMessage_normal_of_paddedWord
    : (∀ v, (headed paddedWord).header? header = some v → ∃ t, v.plain = .ok t)
      ∧ Alike paddedWord (text "Strasse")
      ∧ ofMessage (headed paddedWord) = .ok (text "STRASSE")
      ∧ ofMessage (headed (text "STRASSE")) = .ok (text "STRASSE")
      ∧ ofMessage (headed (text "Strasse")) = .ok (text "STRASSE") := by
  have shown : ∀ v, (headed paddedWord).header? header = some v → ∃ t, v.plain = .ok t := by
    intro v found
    rw [← Option.some.inj (show some (.text paddedWord) = some v from found)]
    exact ⟨paddedWord, rfl⟩
  have alike : Alike paddedWord (text "Strasse") := by
    refine ⟨text "straße", text "Strasse", ⟨text "\u2003", text "\t", ?_, ?_, rfl⟩,
      Text.Pads.refl _, by decide⟩
    · exact Text.strip_eq_nil_iff.mp (by decide)
    · exact Text.strip_eq_nil_iff.mp (by decide)
  have known : ofMessage (headed paddedWord) = .ok (text "STRASSE") := eq_ok_of_toOption (by decide)
  obtain ⟨method, given, _, _, _, again, same⟩ := ofMessage_normal shown
  rw [known] at given
  rw [← Except.ok.inj given] at again same
  exact ⟨shown, alike, known, again _ rfl, same _ _ _ rfl rfl alike⟩

end Dispatch.Method
