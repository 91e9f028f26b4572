import Dispatch.Proofs.Fields
import Dispatch.Proofs.Mapper.Configuring
import Dispatch.Proofs.Settings.Section
import Dispatch.Proofs.Template.Scanning
import Dispatch.Proofs.Text.Ascii
import Dispatch.Proofs.Text.Trimmed
import Dispatch.Settings.Environment

/-! Settings from variables and settings from a document. A variable switches extraction on by a
list of words of its own, which two of the words for true are not on. With any other word for a
truth value, a variable is read as a document that takes the word from it.
-/

namespace Dispatch

open Dispatch.Result

-----------------------------------------------------------------------------------------
-- Blanks and other scripts under lower case
-----------------------------------------------------------------------------------------

/-- Blank code points have no lower case in ASCII. -/
theorem CodePoint.toLowerAscii_of_isBlank {c : CodePoint} (blank : c.isBlank)
    : c.toLowerAscii = c := by
  have letters : ∀ n < 0x5b, 0x41 ≤ n → blankRanges.holds n = false := by decide
  refine dif_neg fun upper => ?_
  rw [isUpperAscii, Bool.and_eq_true, decide_eq_true_eq, decide_eq_true_eq] at upper
  rw [isBlank, letters c.val (Nat.lt_succ_of_le upper.2) upper.1] at blank
  contradiction

/-- Only ASCII has a lower case in ASCII. -/
theorem CodePoint.isAscii_of_toLowerAscii {c : CodePoint} (ascii : c.toLowerAscii.isAscii)
    : c.isAscii := by
  simp only [isAscii, decide_eq_true_eq, val_toLowerAscii] at ascii ⊢
  split at ascii <;> omega

namespace Settings

variable {env : Environment} {path word : Text} {b : Bool} {given s : Settings}

-----------------------------------------------------------------------------------------
-- The words of a variable
-----------------------------------------------------------------------------------------

/-- The words for true that do not switch extraction on. -/
def missedWords : List Text := ["t", "y"].map text

/-- A word is searched for in lower case just as it is for a field, since no word on the lists has
blanks or letters beyond ASCII. -/
theorem flag_of_listed (listed : word.lowerAscii ∈ Field.trueWords ++ Field.falseWords)
    : flag word = onWords.contains word.lowerAscii := by
  have solid : (Field.trueWords ++ Field.falseWords).all
      (fun word => word.all fun c => c.isAscii && !c.isBlank) = true := by
    decide
  have plain := List.all_eq_true.mp (List.all_eq_true.mp solid _ listed)
  have each (c : CodePoint) (member : c ∈ word) : c.isAscii ∧ c.isBlank = false := by
    have lowered := plain c.toLowerAscii (List.mem_map_of_mem member)
    rw [Bool.and_eq_true, Bool.not_eq_true'] at lowered
    refine ⟨CodePoint.isAscii_of_toLowerAscii lowered.1, Bool.eq_false_iff.mpr fun blank => ?_⟩
    rw [CodePoint.toLowerAscii_of_isBlank blank, blank] at lowered
    exact Bool.noConfusion lowered.2
  have ascii : word.isAscii := List.all_eq_true.mpr fun c member => (each c member).1
  have trimmed := Text.trimmed_of_no_blank fun c member => (each c member).2
  rw [flag, trimmed.strip_eq, Text.lower, if_pos ascii]

/-- A word for a truth value switches extraction as it says, unless it is missed. -/
theorem flag_eq_iff (stands : Field.wordTruth word = .ok b)
    : flag word = b ↔ word.lowerAscii ∉ missedWords := by
  have onTrue : ∀ word ∈ Field.trueWords, onWords.contains word = !missedWords.contains word := by
    decide
  have onFalse : ∀ word ∈ Field.falseWords,
      onWords.contains word = false ∧ missedWords.contains word = false := by
    decide
  rw [← List.contains_iff_mem, Bool.not_eq_true]
  rcases Field.wordTruth_eq_ok_iff.mp stands with ⟨rfl, listed⟩ | ⟨rfl, listed⟩
  · rw [flag_of_listed (List.mem_append_left _ listed), onTrue _ listed, Bool.not_eq_true']
  · obtain ⟨off, kept⟩ := onFalse _ listed
    rw [flag_of_listed (List.mem_append_right _ listed), off, kept]

/-- The missed words stand for true and do not switch extraction on. -/
theorem flag_of_missed (stands : Field.wordTruth word = .ok b)
    (missed : word.lowerAscii ∈ missedWords)
    : flag word = false ∧ b = true := by
  have listed : ∀ word ∈ missedWords, word ∈ Field.trueWords := by decide
  have isTrue : b = true := by
    have noFalse := Field.not_mem_falseWords (listed _ missed)
    exact eq_true_of_ne_false fun isFalse =>
      noFalse ((Field.eq_false_iff_of_wordTruth stands).mp isFalse)
  refine ⟨Bool.eq_false_iff.mpr fun on => ?_, isTrue⟩
  exact (flag_eq_iff stands).mp (on.trans isTrue.symm) missed

-----------------------------------------------------------------------------------------
-- Settings from variables
-----------------------------------------------------------------------------------------

/-- The URL to fall back on that a variable gives. -/
def urlOfVariable : Option Text → Value
  | none => .null
  | some [] => .null
  | some url => .text url

section

variable [Platform]

/-- The settings of an environment are those that its three variables give. -/
theorem ofEnvironment_eq_ok_iff {url extract charset : Option Text}
    (urlHeld : env.get? urlVariable = .ok url)
    (extractHeld : env.get? extractVariable = .ok extract)
    (charsetHeld : env.get? charsetVariable = .ok charset)
    : ofEnvironment env = .ok s
      ↔ GivenBy (urlOfVariable url) (.bool ((extract.map flag).getD standard.extractPayload))
          (.text (charset.getD standardCharset)) s := by
  have read : ofEnvironment env
      = ofEntries (.ofNamed (fields (urlOfVariable url)
          (.bool ((extract.map flag).getD standard.extractPayload))
          (.text (charset.getD standardCharset)))) := by
    simp only [ofEnvironment, urlHeld, extractHeld, charsetHeld, mapError_ok, ok_bind]
    rcases url with _ | _ | _ <;> rfl
  rw [read, ofEntries_fields_eq_ok_iff]

/-- The variables besides that of extraction have valid values. -/
structure ValidBesides (env : Environment) (defaultUrl : Option Text) (charset : Text) : Prop where
  defaultUrl
    : ∃ held, env.get? urlVariable = .ok held ∧ IsDefaultUrl (urlOfVariable held) defaultUrl
  charset
    : ∃ held, env.get? charsetVariable = .ok held
      ∧ IsCharset (.text (held.getD standardCharset)) charset

-----------------------------------------------------------------------------------------
-- Settings from a document that takes the word from the variable
-----------------------------------------------------------------------------------------

/-- A document that leaves extraction to the variable. -/
def deferringDocument : Text :=
  text "extract_payload: $\x7bOUTBOUND_HTTP_EXTRACT_PAYLOAD\x7d\n"

/-- The variable as a placeholder. -/
def extractPlaceholder : Text :=
  CodePoint.ofChar '$' :: CodePoint.ofChar '\x7b' :: extractVariable ++ [CodePoint.ofChar '\x7d']

theorem read_deferringDocument
    : Yaml.read deferringDocument
      = .ok (.map .plain [(.text (text "extract_payload"), .text extractPlaceholder)]) := by
  have tokens : Yaml.Token.ofText (Yaml.normalBreaks deferringDocument [])
      = Yaml.entryTokens (text "extract_payload") extractPlaceholder := by
    decide +kernel
  exact Yaml.read_entry (by decide) tokens (by decide) rfl

omit [Platform] in
theorem leftmost_extractPlaceholder
    : Template.Leftmost extractPlaceholder [] extractVariable [] :=
  ⟨⟨rfl, by decide, by decide⟩, fun _ _ _ _ => Nat.zero_le _⟩

/-- The document is read as one with the word in it. -/
theorem ofDocument_deferring (set : env.get? extractVariable = .ok (some word))
    : ofDocument env path (some deferringDocument) = .ok s
      ↔ ofEntries (.ofNamed [(text "extract_payload", .text word)]) = .ok s := by
  have filledText : Template.fill env extractPlaceholder = .ok word := by
    have value := Template.lookUp_eq_ok.mpr set
    rw [leftmost_extractPlaceholder.fill_eq, value, ok_bind,
      Template.Plain.fill_eq Template.plain_nil]
    simp
  have filled : Template.fillValue env
      (.map .plain [(.text (text "extract_payload"), .text extractPlaceholder)])
        = .ok (.map .plain [(.text (text "extract_payload"), .text word)]) := by
    rw [Template.fillValue_map env .plain _ rfl]
    simp [Template.fillWithin_text, filledText]
  rw [ofDocument_of_value read_deferringDocument, ofDocumentValue_eq_ok_iff rfl]
  constructor
  · rintro ⟨_, same, settled⟩
    rw [filled] at same
    cases same
    exact settled
  · intro settled
    exact ⟨_, filled, settled⟩

-----------------------------------------------------------------------------------------
-- Where the two agree
-----------------------------------------------------------------------------------------

/-- Let a variable hold a word that is accepted for extraction, and the other variables be valid.
Then the document that takes the word from the variable gives the settings that the word is accepted
with, and the variables give settings too. They have the same extraction exactly if the word is not
one of those that are missed; with a missed word the variables turn extraction off where the
document has it on.
-/
theorem extraction_ofEnvironment_iff {defaultUrl : Option Text} {charset : Text} (path : Text)
    (valid : ValidBesides env defaultUrl charset)
    (set : env.get? extractVariable = .ok (some word))
    (accepted : ofEntries (.ofNamed [(text "extract_payload", .text word)]) = .ok given)
    : ofDocument env path (some deferringDocument) = .ok given
      ∧ ∃ s, ofEnvironment env = .ok s ∧ s.defaultUrl = defaultUrl ∧ s.charset = charset
        ∧ (s.extractPayload = given.extractPayload ↔ word.lowerAscii ∉ missedWords)
        ∧ (word.lowerAscii ∈ missedWords →
          s.extractPayload = false ∧ given.extractPayload = true) := by
  obtain ⟨⟨url, urlHeld, urlStands⟩, name, nameHeld, named⟩ := valid
  have stands := toTruth_of_ofEntries accepted (v := .text word) rfl
  have held := Field.wordTruth_of_toTruth stands rfl
  have read : ofEnvironment env = .ok ⟨defaultUrl, flag word, charset⟩ :=
    (ofEnvironment_eq_ok_iff urlHeld set nameHeld).mpr
      ⟨urlStands, isTruth_bool_iff.mpr rfl, named⟩
  exact ⟨(ofDocument_deferring set).mpr accepted, _, read, rfl, rfl, flag_eq_iff held,
    flag_of_missed held⟩

end

/-- The short word for true turns extraction off as a variable and leaves it on in a document. -/
theorem extraction_ofEnvironment_of_shortWord
    : ofDocument [(extractVariable, text "t")] (text "mapper.yaml") (some deferringDocument)
          = .ok standard
      ∧ ofEnvironment [(extractVariable, text "t")]
          = .ok { standard with extractPayload := false } := by
  have valid : ValidBesides [(extractVariable, text "t")] none standardCharset :=
    ⟨⟨none, by rfl, .absent⟩, none, by rfl, .given Charset.isSupported_standard⟩
  have set : Environment.get? [(extractVariable, text "t")] extractVariable
      = .ok (some (text "t")) := by
    rfl
  have accepted : ofEntries (.ofNamed [(text "extract_payload", .text (text "t"))])
      = .ok standard := by
    rfl
  obtain ⟨document, s, environment, url, charset, _, missed⟩ :=
    extraction_ofEnvironment_iff (text "mapper.yaml") valid set accepted
  have off := (missed (by decide)).1
  obtain ⟨defaultUrl, extractPayload, name⟩ := s
  obtain rfl : defaultUrl = none := url
  obtain rfl : name = standardCharset := charset
  obtain rfl : extractPayload = false := off
  exact ⟨document, environment⟩

end Settings

end Dispatch
