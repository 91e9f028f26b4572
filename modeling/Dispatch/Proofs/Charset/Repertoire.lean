import Dispatch.Charset.Decode
import Dispatch.Fault
import Dispatch.Proofs.Result
import Mathlib.Data.List.TakeWhile

/-! What a charset can write. A charset that writes each code point on its own succeeds exactly on
the texts of its repertoire, and a charset that may be configured fails in no other way than by
refusing a text.
-/

namespace Dispatch.Charset

open Dispatch.Result

/-- The bytes of a text whose code points all have some, in order. -/
theorem encodeEach_of_isSome {code? : CodePoint → Option Bytes} {t : Text}
    (held : ∀ c ∈ t, (code? c).isSome) (report : Report)
    : encodeEach code? report t = .ok (t.flatMap fun c => (code? c).getD []) := by
  have whole : t.takeWhile (fun c => (code? c).isSome) = t := List.takeWhile_eq_self_iff.mpr held
  simp [encodeEach, whole]

/-- A code point outside the repertoire is reported as such. -/
theorem encodeEach_of_isNone {code? : CodePoint → Option Bytes} {t : Text} {c : CodePoint}
    (member : c ∈ t) (outside : code? c = none) (report : Report)
    : ∃ first last culprit,
        encodeEach code? report t
          = .error (.unencodable report.label first last culprit report.reason) := by
  rw [encodeEach]
  split
  · rename_i rest
    have short := List.drop_eq_nil_iff.mp rest
    have whole : t.takeWhile (fun c => (code? c).isSome) = t :=
      (List.takeWhile_prefix _).eq_of_length_le short
    have held := List.takeWhile_eq_self_iff.mp whole c member
    simp [outside] at held
  · exact ⟨_, _, _, rfl⟩

/-- Writing code points on their own either gives bytes or reports a code point. -/
theorem encodeEach_cases (code? : CodePoint → Option Bytes) (report : Report) (t : Text)
    : ((∀ c ∈ t, (code? c).isSome)
        ∧ encodeEach code? report t = .ok (t.flatMap fun c => (code? c).getD []))
      ∨ ∃ first last culprit,
          encodeEach code? report t
            = .error (.unencodable report.label first last culprit report.reason) := by
  by_cases held : ∀ c ∈ t, (code? c).isSome
  · exact Or.inl ⟨held, encodeEach_of_isSome held report⟩
  · simp only [not_forall] at held
    obtain ⟨c, member, outside⟩ := held
    exact Or.inr (encodeEach_of_isNone member (by simpa using outside) report)

/-- UTF-8 gives bytes to the texts without surrogates only, and they are those of its general
form. -/
theorem encodeUtf8_eq_ok {t : Text} {bytes : Bytes} (written : encodeUtf8 t = .ok bytes)
    : (∀ c ∈ t, c.isSurrogate = false) ∧ bytes = Utf8.encode t := by
  rcases encodeEach_cases utf8Code? utf8Report t with ⟨held, given⟩ | ⟨_, _, _, refused⟩
  · have plain : ∀ c ∈ t, c.isSurrogate = false := by
      intro c member
      have code := held c member
      simpa [utf8Code?, Option.isSome_ite] using code
    refine ⟨plain, ?_⟩
    rw [encodeUtf8, given] at written
    rw [← Except.ok.inj written, Utf8.encode, List.flatMap_def, List.flatMap_def]
    refine congrArg List.flatten (List.map_congr_left fun c member => ?_)
    simp [utf8Code?, plain c member]
  · rw [encodeUtf8, refused] at written
    simp at written

theorem encodeUtf8_of_plain {t : Text} (plain : ∀ c ∈ t, c.isSurrogate = false)
    : encodeUtf8 t = .ok (Utf8.encode t) := by
  have held : ∀ c ∈ t, (utf8Code? c).isSome := by
    intro c member
    simp [utf8Code?, plain c member]
  have given := encodeEach_of_isSome held utf8Report
  rw [← encodeUtf8] at given
  rw [given, (encodeUtf8_eq_ok given).2]

-----------------------------------------------------------------------------------------
-- A configured charset fails in one way only
-----------------------------------------------------------------------------------------

/-- The codings that read what they write: all but labels, escapes and byte transforms. -/
def Codec.isCharset : Codec → Bool
  | .hostName | .punycode | .escapes _ | .undefined | .transform => false
  | _ => true

variable [Platform]

theorem Codec.isCharset_of_decode? {codec : Codec} {bytes : Bytes} {t : Text}
    (read : codec.decode? bytes = some t)
    : codec.isCharset := by
  cases codec <;> simp [Codec.decode?, Codec.isCharset] at read ⊢

/-- A charset proper refuses a text only for a code point outside its repertoire. -/
theorem Codec.encode_error {codec : Codec} (proper : codec.isCharset) {name t : Text} {e : Error}
    (refused : codec.encode name t = .error e)
    : ∃ label first last culprit reason, e = .unencodable label first last culprit reason := by
  have each {code? : CodePoint → Option Bytes} {report : Report}
      (failed : encodeEach code? report t = .error e)
      : ∃ label first last culprit reason,
          e = .unencodable label first last culprit reason := by
    rcases encodeEach_cases code? report t with ⟨_, given⟩ | ⟨_, _, _, reported⟩
    · rw [given] at failed
      simp at failed
    · rw [reported] at failed
      exact ⟨_, _, _, _, _, (Except.error.inj failed).symm⟩
  cases codec with
  | utf8 marked => exact each (map_eq_error.mp refused)
  | wide unit order => exact each (map_eq_error.mp refused)
  | utf7 => simp [Codec.encode] at refused
  | ascii => exact each refused
  | latin1 => exact each refused
  | page p => exact each refused
  | multiByte label =>
      obtain ⟨misfit, _, rfl⟩ := mapError_eq_error.mp refused
      exact ⟨_, _, _, _, _, rfl⟩
  | hostName => simp [Codec.isCharset] at proper
  | punycode => simp [Codec.isCharset] at proper
  | escapes raw => simp [Codec.isCharset] at proper
  | undefined => simp [Codec.isCharset] at proper
  | transform => simp [Codec.isCharset] at proper

/-- Under a name that can be looked up, writing is left to the coding of the name. -/
theorem encode_eq {name sample : Text} {bytes : Bytes} (written : encode name sample = .ok bytes)
    : ∃ codec, find? name = some codec ∧ ∀ t, encode name t = codec.encode name t := by
  cases shown : encodeUtf8 name with
  | error e => simp [encode, shown] at written
  | ok _ =>
      cases nul : name.any (fun c => c.val = 0) with
      | true => simp [encode, shown, nul] at written
      | false =>
          cases found : find? name with
          | none => simp [encode, shown, nul, found] at written
          | some codec => exact ⟨codec, rfl, fun t => by simp [encode, shown, nul, found]⟩

theorem encode_of_find? {name : Text} {codec : Codec} (found : find? name = some codec)
    (plain : ∀ c ∈ name, c.isSurrogate = false) (noNul : (name.any fun c => c.val = 0) = false)
    (t : Text)
    : encode name t = codec.encode name t := by
  simp only [encode, encodeUtf8_of_plain plain, noNul, found, ok_bind, Bool.false_eq_true,
    if_false]

/-- A name that may be configured is that of a charset proper. -/
theorem exists_codec_of_isSupported {name : Text} (supported : isSupported name)
    : ∃ codec, find? name = some codec ∧ codec.isCharset
        ∧ ∀ t, encode name t = codec.encode name t := by
  rw [isSupported, Bool.and_eq_true] at supported
  cases written : encode name sample with
  | error e => simp [written] at supported
  | ok bytes =>
      obtain ⟨codec, found, encoded⟩ := encode_eq written
      simp only [written, decide_eq_true_eq] at supported
      have read := supported.2
      rw [decode?, found] at read
      exact ⟨codec, found, Codec.isCharset_of_decode? read, encoded⟩

/-- A configured UTF-8 writes every text without surrogates. -/
theorem encode_utf8 {name t : Text} (supported : isSupported name)
    (utf8 : find? name = some (.utf8 false)) (plain : ∀ c ∈ t, c.isSurrogate = false)
    : encode name t = .ok (Utf8.encode t) := by
  obtain ⟨codec, found, _, encoded⟩ := exists_codec_of_isSupported supported
  rw [utf8] at found
  rw [encoded, ← Option.some.inj found, Codec.encode, encodeUtf8_of_plain plain]
  rfl

/-- A configured charset fails only by refusing a text. -/
theorem refusesText_of_isSupported {name t : Text} {e : Error} (supported : isSupported name)
    (refused : encode name t = .error e)
    : (Fault.charset e).refusesText := by
  obtain ⟨codec, _, proper, encoded⟩ := exists_codec_of_isSupported supported
  rw [encoded] at refused
  obtain ⟨_, _, _, _, _, rfl⟩ := Codec.encode_error proper refused
  rfl

end Dispatch.Charset
