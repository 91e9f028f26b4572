import Dispatch.Proofs.Charset.Repertoire
import Dispatch.Proofs.Text.Utf8
import Dispatch.Settings.Basic

/-! The charset of a mapper that names none. It is UTF-8 and may be configured, and under its name
every text without surrogates can be written.
-/

namespace Dispatch

theorem text_ofList (characters : List Char)
    : text (String.ofList characters) = characters.map CodePoint.ofChar := by
  rw [text, String.toList_ofList]

theorem text_append (s t : String) : text (s ++ t) = text s ++ text t := by
  simp [text]

namespace Charset

/-- Whether a coding is UTF-8 without a signature. -/
def Codec.isUtf8 : Codec → Bool
  | .utf8 false => true
  | _ => false

theorem Codec.isUtf8_iff {codec : Codec} : codec.isUtf8 ↔ codec = .utf8 false := by
  cases codec with
  | utf8 marked => cases marked <;> simp [Codec.isUtf8]
  | _ => simp [Codec.isUtf8]

theorem normalName_standard
    : normalName Settings.standardCharset = ['u', 't', 'f', '_', '8'].map CodePoint.ofChar := by
  decide

theorem append_spelled {first second u v : Text} (firstSpelled : first = u)
    (secondSpelled : second = v)
    : first ++ second = u ++ v := by
  rw [firstSpelled, secondSpelled]

theorem cons_spelled {codec : Codec} {name others n o : Text}
    {rest known : List (Text × Codec × List Text)} (nameSpelled : name = n)
    (othersSpelled : others = o) (restSpelled : rest = known)
    : (name, codec, others.splitOn ' ') :: rest = (n, codec, o.splitOn ' ') :: known := by
  rw [nameSpelled, othersSpelled, restSpelled]

-- The names are taken apart as literals before they are compared: evaluating the texts of the whole
-- registry instead would read each literal byte by byte. What is known of the registry grows entry
-- by entry, so that each literal is met once.
theorem byNormalName?_standard
    : (byNormalName? (['u', 't', 'f', '_', '8'].map CodePoint.ofChar)).any Codec.isUtf8 = true := by
  simp only [byNormalName?, byOtherName?]
  rw [show registry = _ from ?same]
  case same =>
    simp only [registry, entries, List.map_cons, List.map_nil, text_append]
    repeat' first
      | with_reducible apply cons_spelled
      | with_reducible apply append_spelled
      | with_reducible apply text_ofList
      | with_reducible rfl
  decide +kernel

theorem find?_standard : find? Settings.standardCharset = some (.utf8 false) := by
  have known := byNormalName?_standard
  rw [← normalName_standard, ← find?] at known
  cases found : find? Settings.standardCharset with
  | none => simp [found] at known
  | some codec =>
      rw [found, Option.any_some, Codec.isUtf8_iff] at known
      rw [known]

variable [Platform]

/-- Under the standard name a text without surrogates is written in UTF-8. -/
theorem encode_standard {t : Text} (plain : ∀ c ∈ t, c.isSurrogate = false)
    : encode Settings.standardCharset t = .ok (Utf8.encode t) := by
  rw [encode_of_find? find?_standard (by decide) (by decide), Codec.encode,
    encodeUtf8_of_plain plain]
  rfl

theorem isSupported_standard : isSupported Settings.standardCharset := by
  have plain : ∀ c ∈ sample, c.isSurrogate = false := by decide
  have back := Utf8.decode?_encode plain
  have named : (Text.strip Settings.standardCharset).isEmpty = false := by decide
  simp only [isSupported, named, encode_standard plain, decode?, find?_standard, Option.bind_some,
    Codec.decode?, Bool.false_and, Bool.false_eq_true, if_false, back, decide_true, Bool.not_false,
    Bool.and_self]

end Charset

end Dispatch
