import Dispatch.Proofs.Charset.Repertoire
import Dispatch.Proofs.Text.Trimmed

/-! Spellings of charset names. What does not count in a name may stand behind it: a name that may
be configured stays one with a line break behind it.
-/

namespace Dispatch

open Dispatch.Result

namespace Charset

/-- A byte that does not count in a name. -/
def isPunctuation (b : UInt8) : Bool :=
  let c := CodePoint.ofNat b.toNat
  !(c.isAlnum || c.val = 0x2e)

/-- Punctuation is noted, and nothing is done about it before a byte that counts follows. -/
theorem foldl_normalStep_of_isPunctuation {bytes : Bytes}
    (ignored : ∀ b ∈ bytes, isPunctuation b) (state : Text × Bool)
    : (bytes.foldl normalStep state).1 = state.1 := by
  induction bytes generalizing state with
  | nil => rfl
  | cons b bytes ih =>
      have skipped : normalStep state b = (state.1, true) := by
        have first := ignored b (by simp)
        rw [isPunctuation, Bool.not_eq_true'] at first
        simp only [normalStep, first, Bool.false_eq_true, if_false]
      rw [List.foldl_cons, skipped, ih fun b member => ignored b (List.mem_cons_of_mem _ member)]

/-- Punctuation behind a name does not change its normal form. -/
theorem normalName_append {suffix : Text} (ignored : ∀ b ∈ Utf8.encode suffix, isPunctuation b)
    (name : Text)
    : normalName (name ++ suffix) = normalName name := by
  have apart : Utf8.encode (name ++ suffix) = Utf8.encode name ++ Utf8.encode suffix :=
    List.flatMap_append
  rw [normalName, apart, List.foldl_append, foldl_normalStep_of_isPunctuation ignored, ← normalName]

variable [Platform]

/-- A charset proper writes the same bytes whichever name it was asked for by. -/
theorem Codec.encode_eq_of_isCharset {codec : Codec} (proper : codec.isCharset)
    (name other t : Text)
    : codec.encode name t = codec.encode other t := by
  cases codec <;> first | rfl | contradiction

/-- A name that may be configured has no surrogate and no null character. -/
theorem plain_of_isSupported {name : Text} (supported : isSupported name)
    : (∀ c ∈ name, c.isSurrogate = false) ∧ (name.any fun c => c.val = 0) = false := by
  rw [isSupported, Bool.and_eq_true] at supported
  cases shown : encodeUtf8 name with
  | error e => simp [encode, shown] at supported
  | ok bytes =>
      refine ⟨(encodeUtf8_eq_ok shown).1, ?_⟩
      cases nul : name.any (fun c => c.val = 0) with
      | true => simp [encode, shown, nul] at supported
      | false => rfl

/-- A name that may be configured stays one with punctuation behind it. -/
theorem isSupported_append {name suffix : Text} (supported : isSupported name)
    (ignored : ∀ b ∈ Utf8.encode suffix, isPunctuation b)
    (plain : ∀ c ∈ suffix, c.isSurrogate = false)
    (noNul : (suffix.any fun c => c.val = 0) = false)
    : isSupported (name ++ suffix) := by
  obtain ⟨codec, found, proper, encoded⟩ := exists_codec_of_isSupported supported
  obtain ⟨namePlain, nameNoNul⟩ := plain_of_isSupported supported
  have foundAgain : find? (name ++ suffix) = some codec := by
    rw [find?, normalName_append ignored, ← find?, found]
  have encodedAgain : encode (name ++ suffix) sample = encode name sample := by
    rw [encoded, Codec.encode_eq_of_isCharset proper name (name ++ suffix)]
    refine encode_of_find? foundAgain ?_ ?_ sample
    · intro c member
      exact (List.mem_append.mp member).elim (namePlain c) (plain c)
    · rw [List.any_append, nameNoNul, noNul]
      rfl
  have sameDecoding : decode? (name ++ suffix) = decode? name := by
    funext bytes
    rw [decode?, decode?, foundAgain, found]
  rw [isSupported, Bool.and_eq_true, Bool.not_eq_true'] at supported ⊢
  refine ⟨?_, by rw [encodedAgain, sameDecoding]; exact supported.2⟩
  rw [List.isEmpty_eq_false_iff] at supported ⊢
  intro blank
  rw [Text.strip_eq_nil_iff] at blank
  exact supported.1 (Text.strip_eq_nil_iff.mpr fun c member =>
    blank c (List.mem_append_left _ member))

end Charset

end Dispatch
