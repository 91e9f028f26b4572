import Dispatch.Proofs.Charset.Page
import Dispatch.Proofs.Charset.Spelling
import Dispatch.Proofs.Charset.Standard
import Dispatch.Proofs.Charset.Utf7
import Dispatch.Proofs.Payload

/-! Text comes back from the bytes that a charset has written. A charset writes exactly the texts of
its repertoire, which are the code points that it reads some bytes as, and reads them from what it
has written. The text of a payload is content just then, under the name that the charset was given
by.
-/

namespace Dispatch

open Dispatch.Result

namespace Charset

variable {codec : Codec} {c : CodePoint} {t name : Text} {bytes : Bytes}

/-- Whether the tables of a charset are here, and not those of the machine. -/
def Codec.isWhole : Codec → Bool
  | .multiByte _ => false
  | codec => codec.isCharset

/-- Whether a charset can write a code point. -/
def Codec.writes : Codec → CodePoint → Bool
  | .utf8 _, c | .wide _ _, c => !c.isSurrogate
  | .utf7, _ => true
  | .ascii, c => (lowCode? 0x80 c).isSome
  | .latin1, c => (lowCode? 0x100 c).isSome
  | .page p, c => (p.byte? c).isSome
  | _, _ => false

-----------------------------------------------------------------------------------------
-- Charsets of one byte for each code point
-----------------------------------------------------------------------------------------

theorem lowCode?_eq_some_iff {limit : Nat} : lowCode? limit c = some bytes
    ↔ c.val < limit ∧ bytes = [UInt8.ofNat c.val] := by
  rw [lowCode?]
  split <;> rename_i low <;> simp [low, eq_comm]

/-- A text is read byte by byte if each byte is read as the code point that it was written for. -/
theorem decodeEach_flatMap {code? : CodePoint → Option Bytes}
    {codePoint? : UInt8 → Option CodePoint}
    (back : ∀ c ∈ t, ∃ b, code? c = some [b] ∧ codePoint? b = some c)
    : decodeEach codePoint? (t.flatMap fun c => (code? c).getD []) = some t := by
  rw [decodeEach]
  induction t with
  | nil => rfl
  | cons c t ih =>
      obtain ⟨b, written, read⟩ := back c List.mem_cons_self
      have rest := ih fun d member => back d (List.mem_cons_of_mem _ member)
      rw [List.flatMap_cons, written, Option.getD_some, List.singleton_append, List.mapM_cons, read,
        rest]
      rfl

theorem exists_of_decodeEach {codePoint? : UInt8 → Option CodePoint}
    (read : decodeEach codePoint? bytes = some [c])
    : ∃ b, codePoint? b = some c := by
  cases bytes with
  | nil => simp [decodeEach] at read
  | cons b bytes =>
      simp only [decodeEach, List.mapM_cons, Option.bind_eq_bind, Option.bind_eq_some_iff,
        Option.pure_def, Option.some.injEq, List.cons.injEq] at read
      obtain ⟨d, first, _, _, rfl, _⟩ := read
      exact ⟨b, first⟩

/-- The low code points are written as the bytes of their own numbers and read from them. -/
theorem low_back {limit : Nat} (small : limit ≤ 0x100) (written : (lowCode? limit c).isSome)
    : ∃ b : UInt8, lowCode? limit c = some [b] ∧ b.toNat < limit
        ∧ CodePoint.ofNat? b.toNat = some c := by
  obtain ⟨bytes, held⟩ := Option.isSome_iff_exists.mp written
  obtain ⟨low, rfl⟩ := lowCode?_eq_some_iff.mp held
  have value : (UInt8.ofNat c.val).toNat = c.val := Utf8.toNat_ofNat_of_lt (by omega)
  exact ⟨UInt8.ofNat c.val, held, by omega, by rw [value, CodePoint.ofNat?_val]⟩

theorem isSome_lowCode?_of_ofNat? {limit : Nat} {b : UInt8} (low : b.toNat < limit)
    (read : CodePoint.ofNat? b.toNat = some c)
    : (lowCode? limit c).isSome := by
  simp only [CodePoint.ofNat?] at read
  split at read
  · cases read
    rw [lowCode?, if_pos low]
    rfl
  · contradiction

variable [Platform]

/-- A code point is in the repertoire of a name if some bytes are read as it alone. -/
def Represents (name : Text) (c : CodePoint) : Prop :=
  ∃ bytes, decode? name bytes = some [c]

-----------------------------------------------------------------------------------------
-- What a charset can write comes back, and nothing else is read
-----------------------------------------------------------------------------------------

theorem Codec.encode_utf8_of_plain (marked : Bool) (plain : ∀ c ∈ t, c.isSurrogate = false)
    (name : Text)
    : (Codec.utf8 marked).encode name t
      = .ok (if marked then signature ++ Utf8.encode t else Utf8.encode t) := by
  rw [Codec.encode, encodeUtf8_of_plain plain, map_ok]

/-- A signature in front is dropped. -/
theorem Codec.decode?_utf8_signature (bytes : Bytes)
    : (Codec.utf8 true).decode? (signature ++ bytes) = Utf8.decode? bytes := by
  have start : signature.isPrefixOf (signature ++ bytes) = true :=
    List.isPrefixOf_iff_prefix.mpr (List.prefix_append _ _)
  rw [Codec.decode?, start]
  rfl

theorem Codec.encode_wide_of_plain (unit : UnitSize) (order : ByteOrder)
    (plain : ∀ c ∈ t, c.isSurrogate = false) (name : Text)
    : (Codec.wide unit order).encode name t
      = .ok (Wide.start unit order ++ t.flatMap (Wide.charBytes unit order)) := by
  have coded : ∀ c ∈ t, (if c.isSurrogate then none
      else some (Wide.charBytes unit order c)).isSome := by
    intro c member
    simp [plain c member]
  have joined : (t.flatMap fun c => (if c.isSurrogate then none
      else some (Wide.charBytes unit order c)).getD [])
        = t.flatMap (Wide.charBytes unit order) := by
    rw [List.flatMap_def, List.flatMap_def]
    refine congrArg List.flatten (List.map_congr_left fun c member => ?_)
    simp [plain c member]
  rw [Codec.encode, encodeEach_of_isSome coded, joined, map_ok]

/-- A text that a charset can write is read from its bytes. -/
theorem Codec.exists_encode_of_writes (whole : codec.isWhole)
    (plain : ∀ c ∈ t, c.isSurrogate = false) (held : ∀ c ∈ t, codec.writes c) (name : Text)
    : ∃ bytes, codec.encode name t = .ok bytes ∧ codec.decode? bytes = some t := by
  cases codec with
  | utf8 marked =>
      refine ⟨_, Codec.encode_utf8_of_plain marked plain name, ?_⟩
      have back := Utf8.decode?_encode plain
      cases marked with
      | true => exact (Codec.decode?_utf8_signature _).trans back
      | false => exact back
  | utf7 => exact ⟨Utf7.encode t, rfl, Utf7.decode?_encode plain⟩
  | wide unit order =>
      exact ⟨_, Codec.encode_wide_of_plain unit order plain name, Wide.decode?_charBytes plain⟩
  | ascii =>
      refine ⟨_, encodeEach_of_isSome held _, decodeEach_flatMap fun c member => ?_⟩
      obtain ⟨b, written, low, read⟩ := low_back (by decide) (held c member)
      exact ⟨b, written, by rw [if_pos low, read]⟩
  | latin1 =>
      refine ⟨_, encodeEach_of_isSome held _, decodeEach_flatMap fun c member => ?_⟩
      obtain ⟨b, written, _, read⟩ := low_back (by decide) (held c member)
      exact ⟨b, written, read⟩
  | page p =>
      have coded : ∀ c ∈ t, ((p.byte? c).map ([·])).isSome := by
        intro c member
        rw [Option.isSome_map]
        exact held c member
      refine ⟨_, encodeEach_of_isSome coded _, decodeEach_flatMap fun c member => ?_⟩
      obtain ⟨b, written⟩ := Option.isSome_iff_exists.mp (held c member)
      exact ⟨b, by rw [written]; rfl, CodePage.codePoint?_of_byte? written⟩
  | _ => contradiction

/-- A charset that writes a text can write each of its code points. -/
theorem Codec.writes_of_encode (whole : codec.isWhole) (written : codec.encode name t = .ok bytes)
    : ∀ c ∈ t, codec.writes c := by
  have each {code? : CodePoint → Option Bytes} {report : Report} {bytes : Bytes}
      (written : encodeEach code? report t = .ok bytes)
      : ∀ c ∈ t, (code? c).isSome := by
    rcases encodeEach_cases code? report t with ⟨held, _⟩ | ⟨_, _, _, refused⟩
    · exact held
    · rw [refused] at written
      contradiction
  intro c member
  cases codec with
  | utf8 marked =>
      obtain ⟨_, given, _⟩ := map_eq_ok.mp written
      have plain := (encodeUtf8_eq_ok given).1 c member
      simp [Codec.writes, plain]
  | utf7 => rfl
  | wide unit order =>
      obtain ⟨_, given, _⟩ := map_eq_ok.mp written
      have held := each given c member
      simpa [Codec.writes, Option.isSome_ite] using held
  | ascii => exact each written c member
  | latin1 => exact each written c member
  | page p => simpa [Codec.writes] using each written c member
  | _ => contradiction

/-- A charset can write what it reads some bytes as, surrogates aside. -/
theorem Codec.writes_of_decode? (whole : codec.isWhole) (plain : c.isSurrogate = false)
    (read : codec.decode? bytes = some [c])
    : codec.writes c := by
  cases codec with
  | utf8 marked => simp [Codec.writes, plain]
  | utf7 => rfl
  | wide unit order => simp [Codec.writes, plain]
  | ascii =>
      obtain ⟨b, found⟩ := exists_of_decodeEach read
      split at found
      · rename_i low
        exact isSome_lowCode?_of_ofNat? low found
      · contradiction
  | latin1 =>
      obtain ⟨b, found⟩ := exists_of_decodeEach read
      exact isSome_lowCode?_of_ofNat? b.toNat_lt found
  | page p =>
      obtain ⟨b, found⟩ := exists_of_decodeEach read
      exact CodePage.isSome_byte?_of_codePoint? found
  | _ => contradiction

/-- The repertoire of a charset is what it can write. -/
theorem represents_iff_writes (found : find? name = some codec) (whole : codec.isWhole)
    (plain : c.isSurrogate = false)
    : Represents name c ↔ codec.writes c := by
  constructor
  · rintro ⟨bytes, read⟩
    rw [decode?, found] at read
    exact Codec.writes_of_decode? whole plain read
  · intro held
    obtain ⟨bytes, _, read⟩ := Codec.exists_encode_of_writes (t := [c]) whole (by simpa using plain)
      (by simpa using held) name
    exact ⟨bytes, by rw [decode?, found]; exact read⟩

/-- The charsets of all code points that are no surrogates. -/
def Codec.isUnicode : Codec → Bool
  | .utf8 _ | .utf7 | .wide _ _ => true
  | _ => false

omit [Platform] in
theorem Codec.writes_of_isUnicode (unicode : codec.isUnicode) (plain : c.isSurrogate = false)
    : codec.isWhole ∧ codec.writes c := by
  cases codec with
  | utf8 marked => simp [Codec.isWhole, Codec.isCharset, Codec.writes, plain]
  | utf7 => exact ⟨rfl, rfl⟩
  | wide unit order => simp [Codec.isWhole, Codec.isCharset, Codec.writes, plain]
  | _ => contradiction

theorem represents_of_isUnicode (found : find? name = some codec) (unicode : codec.isUnicode)
    (plain : c.isSurrogate = false)
    : Represents name c := by
  obtain ⟨whole, held⟩ := Codec.writes_of_isUnicode unicode plain
  exact (represents_iff_writes found whole plain).mpr held

end Charset

-----------------------------------------------------------------------------------------
-- Text as content
-----------------------------------------------------------------------------------------

namespace Payload

open Dispatch.Charset

section

variable [Platform]

/-- With a supported charset, a text without surrogates is content exactly if the charset has all of
its code points. The content names the charset as it was given and is read under this name as the
text. Any other text is a problem of the payload's type.
-/
theorem content_text_cases {name t : Text} (format : ObjectFormat) (supported : isSupported name)
    (whole : ∀ codec, find? name = some codec → codec.isWhole)
    (plain : ∀ c ∈ t, c.isSurrogate = false)
    : ((∀ c ∈ t, Represents name c)
        ∧ ∃ bytes, content format (.text name) (.text t)
              = .ok ⟨Dispatch.text "text/plain; charset=" ++ name, .blob .fixed bytes⟩
            ∧ decode? name bytes = some t)
      ∨ ((∃ c ∈ t, ¬Represents name c)
        ∧ ∃ p, content format (.text name) (.text t) = .error (.ofProblem p)
          ∧ p.kind = .payloadType) := by
  obtain ⟨codec, found, _, encoded⟩ := exists_codec_of_isSupported supported
  have isWhole := whole codec found
  have repertoire : (∀ c ∈ t, Represents name c) ↔ ∀ c ∈ t, codec.writes c :=
    forall₂_congr fun c member => represents_iff_writes found isWhole (plain c member)
  by_cases held : ∀ c ∈ t, Represents name c
  · refine Or.inl ⟨held, ?_⟩
    obtain ⟨bytes, written, read⟩ :=
      Codec.exists_encode_of_writes isWhole plain (repertoire.mp held) name
    refine ⟨bytes, ?_, by rw [decode?, found]; exact read⟩
    simp only [content, ofValue, textContent, encoded, written]
  · refine Or.inr ⟨by simpa using held, ?_⟩
    have unwritable : isWritable format name (.text t) = false := by
      refine isOk_eq_false.mpr ?_
      cases written : Charset.encode name t with
      | error e => exact ⟨e, rfl⟩
      | ok bytes =>
          rw [encoded] at written
          exact absurd (repertoire.mpr (Codec.writes_of_encode isWhole written)) held
    exact content_of_not_isWritable supported rfl unwritable

end

/-- The standard name with punctuation behind it is another name of the same charset. -/
def punctuatedName : Text :=
  Settings.standardCharset ++ Dispatch.text " !"

theorem content_text_of_punctuatedName
    : ∃ bytes, content .json (.text punctuatedName) (.text (Dispatch.text "+é😀"))
          = .ok ⟨Dispatch.text "text/plain; charset=UTF-8 !", .blob .fixed bytes⟩
        ∧ decode? punctuatedName bytes = some (Dispatch.text "+é😀") := by
  have plain : ∀ c ∈ Dispatch.text "+é😀", c.isSurrogate = false := by decide
  have ignored : ∀ b ∈ Utf8.encode (Dispatch.text " !"), isPunctuation b := by decide +kernel
  have supported : isSupported punctuatedName :=
    isSupported_append isSupported_standard ignored (by decide) (by decide)
  have found : find? punctuatedName = some (.utf8 false) := by
    rw [find?, punctuatedName, normalName_append ignored, ← find?, find?_standard]
  have whole : ∀ codec, find? punctuatedName = some codec → codec.isWhole := by
    rintro codec again
    rw [found] at again
    cases again
    rfl
  rcases content_text_cases .json supported whole plain with ⟨_, given⟩ | ⟨⟨c, member, outside⟩, _⟩
  · exact given
  · exact absurd (represents_of_isUnicode found rfl (plain c member)) outside

end Payload

end Dispatch
