import Dispatch.Proofs.Charset.Repertoire
import Dispatch.Proofs.Charset.Standard
import Dispatch.Proofs.Text.UpperCase
import Dispatch.Proofs.Text.Utf8
import Dispatch.Query.Component

/-! Form encoding and its reader. What is written spells the bytes that it was written from: it
holds none of the signs that divide a query, and reading it byte by byte gives back the bytes. This
is so for the bytes of every charset, with plus signs and without.
-/

namespace Dispatch.Query

open Dispatch.Result

/-- The code points of form encoding: letters, digits, four signs that stand for themselves, the
plus sign of a blank and the percent sign of an escape. -/
def isFormCharacter (c : CodePoint) : Bool :=
  c.isAlnum || c.val = 0x5f || c.val = 0x2e || c.val = 0x2d || c.val = 0x7e || c.val = 0x2b
    || c.val = 0x25

theorem isFormCharacter_iff (c : CodePoint)
    : isFormCharacter c
      ↔ (0x61 ≤ c.val ∧ c.val ≤ 0x7a) ∨ (0x41 ≤ c.val ∧ c.val ≤ 0x5a)
        ∨ (0x30 ≤ c.val ∧ c.val ≤ 0x39) ∨ c.val = 0x5f ∨ c.val = 0x2e ∨ c.val = 0x2d
        ∨ c.val = 0x7e ∨ c.val = 0x2b ∨ c.val = 0x25 := by
  simp only [isFormCharacter, CodePoint.isAlnum, CodePoint.isLetter, CodePoint.isLowerAscii,
    CodePoint.isUpperAscii, CodePoint.isDigit, Bool.or_eq_true, Bool.and_eq_true,
    decide_eq_true_eq]
  omega

theorem ne_of_isFormCharacter {c d : CodePoint} (form : isFormCharacter c)
    (other : isFormCharacter d = false)
    : c ≠ d := by
  rintro rfl
  rw [form] at other
  contradiction

-----------------------------------------------------------------------------------------
-- Texts in form encoding and the bytes that they spell
-----------------------------------------------------------------------------------------

/-- The code points that stand for their own byte: letters, digits and four signs. -/
def isPlainSign (c : CodePoint) : Bool :=
  c.isAlnum || c.val = 0x5f || c.val = 0x2e || c.val = 0x2d || c.val = 0x7e

/-- The digits of an escape: the decimal ones and the capital letters up to `F`. -/
def isEscapeDigit (c : CodePoint) : Bool :=
  c.isDigit || (0x41 ≤ c.val && c.val ≤ 0x46)

/-- Texts in form encoding, each with the bytes that it spells. -/
inductive Spells : Text → Bytes → Prop
  | nil : Spells [] []
  | plain {c : CodePoint} {form : Text} {bytes : Bytes} (sign : isPlainSign c)
    (rest : Spells form bytes)
    : Spells (c :: form) (UInt8.ofNat c.val :: bytes)
  | blank {form : Text} {bytes : Bytes} (rest : Spells form bytes)
    : Spells (CodePoint.ofChar '+' :: form) (0x20 :: bytes)
  | escape {high low : CodePoint} {form : Text} {bytes : Bytes} (first : isEscapeDigit high)
    (second : isEscapeDigit low) (rest : Spells form bytes)
    : Spells (CodePoint.ofChar '%' :: high :: low :: form)
        (UInt8.ofNat (16 * high.hexValue + low.hexValue) :: bytes)

theorem isPlainSign_iff (c : CodePoint)
    : isPlainSign c
      ↔ (0x61 ≤ c.val ∧ c.val ≤ 0x7a) ∨ (0x41 ≤ c.val ∧ c.val ≤ 0x5a)
        ∨ (0x30 ≤ c.val ∧ c.val ≤ 0x39) ∨ c.val = 0x5f ∨ c.val = 0x2e ∨ c.val = 0x2d
        ∨ c.val = 0x7e := by
  simp only [isPlainSign, CodePoint.isAlnum, CodePoint.isLetter, CodePoint.isLowerAscii,
    CodePoint.isUpperAscii, CodePoint.isDigit, Bool.or_eq_true, Bool.and_eq_true,
    decide_eq_true_eq]
  omega

theorem isFormCharacter_of_isPlainSign {c : CodePoint} (sign : isPlainSign c)
    : isFormCharacter c := by
  rw [isPlainSign_iff] at sign
  rw [isFormCharacter_iff]
  omega

theorem isFormCharacter_of_isEscapeDigit {c : CodePoint} (digit : isEscapeDigit c)
    : isFormCharacter c := by
  simp only [isEscapeDigit, CodePoint.isDigit, Bool.or_eq_true, Bool.and_eq_true,
    decide_eq_true_eq] at digit
  rw [isFormCharacter_iff]
  omega

/-- A text in form encoding holds form characters only, by induction on the spelling. -/
theorem Spells.isFormCharacter_of_mem {form : Text} {bytes : Bytes} (spells : Spells form bytes)
    : ∀ c ∈ form, isFormCharacter c := by
  induction spells with
  | nil => simp
  | plain sign _ ih => exact List.forall_mem_cons.mpr ⟨isFormCharacter_of_isPlainSign sign, ih⟩
  | blank _ ih => exact List.forall_mem_cons.mpr ⟨by decide, ih⟩
  | escape first second _ ih =>
      simp only [List.forall_mem_cons]
      exact ⟨by decide, isFormCharacter_of_isEscapeDigit first,
        isFormCharacter_of_isEscapeDigit second, ih⟩

-----------------------------------------------------------------------------------------
-- What is written spells the bytes that it was written from
-----------------------------------------------------------------------------------------

/-- The hexadecimal digits of an escape are digits and capital letters. -/
theorem val_hexDigit {n : Nat} (small : n < 16)
    : (Escape.hexDigit n).val = if n < 10 then 0x30 + n else 0x37 + n :=
  CodePoint.val_ofNat (by split <;> omega)

theorem isEscapeDigit_hexDigit {n : Nat} (small : n < 16) : isEscapeDigit (Escape.hexDigit n) := by
  have value := val_hexDigit small
  simp only [isEscapeDigit, CodePoint.isDigit, Bool.or_eq_true, Bool.and_eq_true,
    decide_eq_true_eq, value]
  split <;> omega

theorem hexValue_hexDigit {n : Nat} (small : n < 16) : (Escape.hexDigit n).hexValue = n := by
  have value := val_hexDigit small
  simp only [CodePoint.hexValue, CodePoint.isDigit, CodePoint.isLowerAscii,
    CodePoint.isUpperAscii, Bool.and_eq_true, decide_eq_true_eq, value]
  split
  · rw [if_pos (by omega)]
    omega
  · rw [if_neg (by omega), if_neg (by omega), if_pos (by omega)]
    omega

/-- One byte is spelled by each of the three ways to write it. -/
theorem Spells.formByte {form : Text} {bytes : Bytes} (rest : Spells form bytes) (plus : Bool)
    (b : UInt8)
    : Spells (formByte plus b ++ form) (b :: bytes) := by
  have bound := b.toNat_lt
  rw [Query.formByte]
  split
  · rename_i sign
    have spelled := Spells.plain (c := CodePoint.ofNat b.toNat) sign rest
    rw [CodePoint.val_ofNat (Nat.lt_trans bound (by decide)), UInt8.ofNat_toNat] at spelled
    exact spelled
  · split
    · rename_i blank
      simp only [Bool.and_eq_true, decide_eq_true_eq] at blank
      rw [blank.2]
      exact .blank rest
    · have high : b.toNat / 16 < 16 := by omega
      have low : b.toNat % 16 < 16 := by omega
      have whole : 16 * (b.toNat / 16) + b.toNat % 16 = b.toNat := by omega
      have spelled := Spells.escape (isEscapeDigit_hexDigit high) (isEscapeDigit_hexDigit low) rest
      rw [hexValue_hexDigit high, hexValue_hexDigit low, whole, UInt8.ofNat_toNat] at spelled
      exact spelled

/-- All bytes are spelled by their form encoding, with plus signs and without, by induction on the
bytes. -/
theorem spells_formBytes (plus : Bool) (bytes : Bytes) : Spells (formBytes plus bytes) bytes := by
  induction bytes with
  | nil => exact .nil
  | cons b bytes ih => exact ih.formByte plus b

section

variable [Platform]

/-- Whatever the charset, form encoding writes form characters only. -/
theorem isFormCharacter_of_mem_formText {charset t form : Text} {c : CodePoint}
    (written : formText charset t = .ok form) (member : c ∈ form)
    : isFormCharacter c := by
  rw [formText] at written
  split at written
  · rw [← Except.ok.inj written] at member
    simp at member
  · obtain ⟨bytes, _, rfl⟩ := map_eq_ok.mp written
    exact (spells_formBytes _ bytes).isFormCharacter_of_mem c member

-----------------------------------------------------------------------------------------
-- Form encoding can be read back byte by byte
-----------------------------------------------------------------------------------------

/-- Reads form encoding: a plus sign is a blank, a percent sign with two hexadecimal digits the byte
of its escape, and anything else stands for itself. -/
def readForm : Text → Bytes
  | [] => []
  | c :: rest =>
      if c.val = 0x2b then 0x20 :: readForm rest
      else
        match rest with
        | high :: low :: after =>
            if c.val = 0x25 && high.isHexDigit && low.isHexDigit then
              UInt8.ofNat (16 * high.hexValue + low.hexValue) :: readForm after
            else Utf8.encodeChar c ++ readForm (high :: low :: after)
        | rest => Utf8.encodeChar c ++ readForm rest

omit [Platform] in
theorem readForm_plus (rest : Text)
    : readForm (CodePoint.ofChar '+' :: rest) = 0x20 :: readForm rest := by
  rw [readForm.eq_def]
  exact if_pos (by decide)

omit [Platform] in
theorem readForm_plain {c : CodePoint} (noPlus : c.val ≠ 0x2b) (noEscape : c.val ≠ 0x25)
    (rest : Text)
    : readForm (c :: rest) = Utf8.encodeChar c ++ readForm rest := by
  rw [readForm.eq_def]
  refine (if_neg noPlus).trans ?_
  match rest with
  | [] => rfl
  | [_] => rfl
  | high :: low :: after => simp [noEscape]

omit [Platform] in
theorem readForm_escape {high low : CodePoint} (first : high.isHexDigit) (second : low.isHexDigit)
    (rest : Text)
    : readForm (CodePoint.ofChar '%' :: high :: low :: rest)
      = UInt8.ofNat (16 * high.hexValue + low.hexValue) :: readForm rest := by
  rw [readForm, if_neg (by decide)]
  exact if_pos (by rw [first, second]; rfl)

omit [Platform] in
theorem isHexDigit_of_isEscapeDigit {c : CodePoint} (digit : isEscapeDigit c) : c.isHexDigit := by
  rw [isEscapeDigit, Bool.or_eq_true] at digit
  rw [CodePoint.isHexDigit, Bool.or_eq_true, Bool.or_eq_true]
  exact digit.imp_left Or.inl

omit [Platform] in
/-- The reader finds the bytes that a text spells, by induction on the spelling. -/
theorem Spells.readForm_eq {form : Text} {bytes : Bytes} (spells : Spells form bytes)
    : readForm form = bytes := by
  induction spells with
  | nil => rfl
  | @plain c form bytes sign _ ih =>
      have range := (isPlainSign_iff c).mp sign
      have ascii : c.val < 0x80 := by omega
      rw [readForm_plain (by omega) (by omega), Utf8.encodeChar, if_pos ascii, ih]
      rfl
  | blank _ ih => rw [readForm_plus, ih]
  | escape first second _ ih =>
      rw [readForm_escape (isHexDigit_of_isEscapeDigit first)
        (isHexDigit_of_isEscapeDigit second), ih]

omit [Platform] in
/-- A text spells one sequence of bytes at most. -/
theorem Spells.unique {form : Text} {bytes others : Bytes} (spells : Spells form bytes)
    (again : Spells form others)
    : others = bytes :=
  again.readForm_eq.symm.trans spells.readForm_eq

/-- Under a configured UTF-8 every text without surrogates has a form encoding. -/
theorem formText_utf8 {charset t : Text} (supported : Charset.isSupported charset)
    (utf8 : Charset.find? charset = some (.utf8 false)) (plain : ∀ c ∈ t, c.isSurrogate = false)
    : formText charset t
      = .ok (formBytes (t.contains (CodePoint.ofChar ' ')) (Utf8.encode t)) := by
  cases t with
  | nil => rfl
  | cons c t =>
      rw [formText, Charset.encode_utf8 supported utf8 plain]
      rfl

/-- A text in form encoding under UTF-8 reads as that text. -/
theorem decode?_readForm {charset t form : Text}
    (utf8 : Charset.find? charset = some (.utf8 false)) (written : formText charset t = .ok form)
    : Utf8.decode? (readForm form) = some t := by
  rw [formText] at written
  split at written
  · rename_i empty
    rw [← Except.ok.inj written, List.isEmpty_iff.mp empty]
    rfl
  · obtain ⟨bytes, encoded, rfl⟩ := map_eq_ok.mp written
    obtain ⟨codec, found, same⟩ := Charset.encode_eq encoded
    rw [utf8] at found
    rw [same, ← Option.some.inj found, Charset.Codec.encode] at encoded
    obtain ⟨_, given, rfl⟩ := map_eq_ok.mp encoded
    obtain ⟨plain, rfl⟩ := Charset.encodeUtf8_eq_ok given
    rw [if_neg (by simp), (spells_formBytes _ _).readForm_eq]
    exact Utf8.decode?_encode plain

-----------------------------------------------------------------------------------------
-- No charset loses anything in form encoding
-----------------------------------------------------------------------------------------

theorem component_of_encode {charset t : Text} {bytes : Bytes} (nonempty : t ≠ [])
    (encoded : Charset.encode charset t = .ok bytes)
    : component (.text t) (.text charset)
      = .ok (formBytes (t.contains (CodePoint.ofChar ' ')) bytes) := by
  cases t with
  | nil => contradiction
  | cons c t =>
      rw [component, formText, encoded]
      · rfl
      · nofun

/-- A name or value that a charset can write has a form encoding, and this spells the bytes of the
text in the charset and no others, so that texts with other bytes never have the same form encoding.
Nothing but the bytes counts for that, and all bytes are spelled with plus signs and without. The
empty text is written as the empty text under every charset.
-/
theorem spells_component (charset : Text)
    : component (.text []) (.text charset) = .ok []
      ∧ (∀ plus bytes, Spells (formBytes plus bytes) bytes)
      ∧ ∀ t bytes, t ≠ [] → Charset.encode charset t = .ok bytes
        → ∃ form, component (.text t) (.text charset) = .ok form
          ∧ form = formBytes (t.contains (CodePoint.ofChar ' ')) bytes
          ∧ Spells form bytes ∧ (∀ others, Spells form others → others = bytes)
          ∧ readForm form = bytes
          ∧ ∀ other u others, u ≠ [] → Charset.encode other u = .ok others
            → component (.text u) (.text other) = .ok form → others = bytes := by
  refine ⟨rfl, spells_formBytes, ?_⟩
  intro t bytes nonempty encoded
  have spells := spells_formBytes (t.contains (CodePoint.ofChar ' ')) bytes
  refine ⟨_, component_of_encode nonempty encoded, rfl, spells, fun others => spells.unique,
    spells.readForm_eq, ?_⟩
  intro other u others filled otherEncoded same
  rw [component_of_encode filled otherEncoded] at same
  have again := spells_formBytes (u.contains (CodePoint.ofChar ' ')) others
  rw [Except.ok.inj same] at again
  exact spells.unique again

end

/-- A letter, a sign of form encoding, a letter of two bytes and a blank. -/
theorem spells_component_of_signs
    : Charset.encode Settings.standardCharset (text "a+\u00e9 %")
          = .ok [0x61, 0x2b, 0xc3, 0xa9, 0x20, 0x25]
      ∧ component (.text (text "a+\u00e9 %")) (.text Settings.standardCharset)
          = .ok (text "a%2B%C3%A9+%25")
      ∧ readForm (text "a%2B%C3%A9+%25") = [0x61, 0x2b, 0xc3, 0xa9, 0x20, 0x25] := by
  have encoded : Charset.encode Settings.standardCharset (text "a+\u00e9 %")
      = .ok [0x61, 0x2b, 0xc3, 0xa9, 0x20, 0x25] :=
    (Charset.encode_standard (by decide)).trans (congrArg Except.ok (by decide +kernel))
  obtain ⟨form, written, same, _, _, read, _⟩ :=
    (spells_component Settings.standardCharset).2.2 _ _ (by decide) encoded
  have shown : form = text "a%2B%C3%A9+%25" := by
    rw [same]
    decide +kernel
  rw [shown] at written read
  exact ⟨encoded, written, read⟩

end Dispatch.Query
