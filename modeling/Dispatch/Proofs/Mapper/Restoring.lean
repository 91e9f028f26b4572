import Dispatch.Proofs.Mapper.Wire
import Dispatch.Proofs.Pickle.Cost

/-! Bodies that can be restored. With the standard format, data that goes into a body comes back
from it, alone or in its message, and it goes there unless it is very large.
-/

namespace Dispatch

open Dispatch.Result

section

variable [Platform]

/-- The content of a structured value in the standard format is its pickle. -/
theorem Payload.content_pickleOf_eq_ok {sharing : Pickle.Sharing} {charset v : Value}
    (structured : v.isStructured) {c : Content}
    (written : content (.pickleOf sharing 4) charset v = .ok c)
    : ∃ bytes, Pickle.dump 4 ⟨v, sharing⟩ = .ok bytes ∧ c.value = .blob .fixed bytes := by
  rw [content, ofValue_of_isStructured structured, ObjectFormat.pickleOf] at written
  cases dumped : Pickle.dump 4 ⟨v, sharing⟩ with
  | ok bytes =>
      simp only [dumped] at written
      exact ⟨bytes, rfl, by rw [← Except.ok.inj written]⟩
  | error e =>
      simp only [dumped] at written
      split at written <;> contradiction

theorem Payload.isWritable_pickleOf {sharing : Pickle.Sharing} {v : Value}
    (structured : v.isStructured) {bytes : Bytes}
    (dumped : Pickle.dump 4 ⟨v, sharing⟩ = .ok bytes) (charset : Text)
    : isWritable (.pickleOf sharing 4) charset v := by
  have encoded : (ObjectFormat.pickleOf sharing 4).encode v = .ok (.blob .fixed bytes) := by
    simp only [ObjectFormat.pickleOf, dumped]
  cases v with
  | null => contradiction
  | text t => contradiction
  | blob kind bytes => contradiction
  | _ => exact isOk_eq_true.mpr ⟨_, encoded⟩

end

namespace Mapper

section

variable [Platform] {mapper : Mapper} {m : Message}

/-- What a mapper sends of a message in a body, and what is to come back: with extraction on, a
structured payload of data, and with extraction off, a message of data with the same payload, the
same headers and the same fields given. -/
inductive Sends (mapper : Mapper) (m : Message) : Value → Prop
  | payload (extract : mapper.settings.extractPayload = true) (structured : m.payload.isStructured)
    (data : m.payload.IsData 100)
    : Sends mapper m m.payload
  | message (envelope : mapper.settings.extractPayload = false) (payload : m.payload.IsData 100)
    (headers : ∀ h ∈ m.headers, h.2.IsData 100) (once : (m.headers.map (·.1)).Nodup)
    : Sends mapper m (.message m.payload m.headers { m.given with byteNames := [] })

variable {w : Value}

theorem method_of_map {d : Descriptor} {method : Text} (mapped : mapper.map m = .ok d)
    (known : Method.ofMessage m = .ok method)
    : d.method = method :=
  Except.ok.inj ((made_of_map mapped).1.known.symm.trans known)

omit [Platform] in
theorem Sends.structured (sends : mapper.Sends m w) : (mapper.bodyValue m).isStructured := by
  cases sends with
  | payload extract structured data =>
      rw [bodyValue, if_pos extract]
      exact structured
  | message envelope =>
      rw [bodyValue, envelope]
      rfl

theorem Sends.restores (sends : mapper.Sends m w) {sharing : Pickle.Sharing}
    (fits : sharing.Fits (mapper.bodyValue m))
    : Pickle.Restores ⟨mapper.bodyValue m, sharing⟩ w := by
  cases sends with
  | payload extract structured data =>
      rw [bodyValue, if_pos extract] at fits ⊢
      exact Pickle.restores_of_isData data fits
  | message envelope payload headers once =>
      rw [bodyValue, envelope] at fits ⊢
      exact Pickle.restores_message payload headers once fits

omit [Platform] in
/-- A payload that is sent alone is not missing. -/
theorem Sends.given (sends : mapper.Sends m w)
    : (mapper.settings.extractPayload && m.payload.isNull) = false := by
  cases sends with
  | payload extract structured data =>
      rw [Value.isNull_of_isStructured structured, Bool.and_false]
  | message envelope => rw [envelope, Bool.false_and]

/-- What is sent in a body in the standard format is a well-formed pickle that gives it back,
whatever parts of it are one object. It is sent whenever the target is absolute, if there is room
for its nesting and it is not very large. -/
theorem restores_of_map {sharing : Pickle.Sharing} (standard : mapper.format = .pickleOf sharing 4)
    (fits : sharing.Fits (mapper.bodyValue m)) (sends : mapper.Sends m w)
    : (∀ d, mapper.map m = .ok d → Method.hasBody d.method → Pickle.load? d.body = some w)
      ∧ (∀ target method, Target.resolve m mapper.settings.defaultUrl = .ok target →
          Url.isAbsoluteText target = .ok true → Method.ofMessage m = .ok method →
          Method.hasBody method → 102 ≤ Platform.pickledDepth →
          (mapper.bodyValue m).extent < 0x80000000 → ∃ d, mapper.map m = .ok d) := by
  constructor
  · intro d mapped body
    cases (made_of_map mapped).1 with
    | body resolved known _ written contentType bytes =>
        rw [standard] at written
        obtain ⟨pickle, dumped, same⟩ := Payload.content_pickleOf_eq_ok sends.structured written
        rw [same] at bytes
        have read : pickle = d.body := Except.ok.inj bytes
        exact (sends.restores fits).load d.body (read ▸ dumped)
    | query resolved known noBody =>
        rw [noBody] at body
        contradiction
  · intro target method resolved absolute known body room small
    obtain ⟨bytes, dumped⟩ := (sends.restores fits).dump room small
    have writes : mapper.format.WritesBytes :=
      standard ▸ ObjectFormat.writesBytes_pickleOf sharing 4
    have writable : Payload.isWritable mapper.format mapper.settings.charset (mapper.bodyValue m) :=
      standard ▸ Payload.isWritable_pickleOf sends.structured dumped mapper.settings.charset
    obtain ⟨d, described⟩ :=
      mapBody_of_isAbsolute writes writable absolute (Method.valid_of_ofMessage known)
    refine ⟨d, ?_⟩
    rw [map_of_known resolved known, assemble_of_hasBody body, sends.given, described]
    rfl

end

-----------------------------------------------------------------------------------------
-- Data with a list that occurs twice, alone and in its message
-----------------------------------------------------------------------------------------

/-- A mapper for data with a given sharing. -/
def sharingMapper (extractPayload : Bool) (sharing : Pickle.Sharing) : Mapper :=
  ⟨{ Settings.standard with extractPayload }, .pickleOf sharing 4, 0⟩

/-- Two equal lists, a tuple of equal texts, and a map from an empty tuple to bytes. -/
def twiceNamed : Message where
  payload := .list [.list [.int 70000], .list [.int 70000],
    .tuple [.text (text "ab"), .text (text "ab")],
    .map .plain [(.tuple [], .blob .fixed [0xff]), (.text (text "ab"), .null)]]
  headers := [(targetHeader, .text (text "http://a/b")), (text "n", .int (-1))]
  given := ⟨true, true, [text "n"]⟩

theorem isData_twiceNamed : twiceNamed.payload.IsData 100 := by
  have list : (Value.list [.int 70000]).IsData 99 := .list (by simp [Value.IsData.int])
  have tuple : (Value.tuple [.text (text "ab"), .text (text "ab")]).IsData 99 :=
    .tuple (by simp [Value.IsData.text])
  have map : (Value.map .plain
      [(.tuple [], .blob .fixed [0xff]), (.text (text "ab"), .null)]).IsData 99 := by
    have proper : Value.AreEntries
        [(.tuple [], .blob .fixed [0xff]), (.text (text "ab"), .null)] := by
      refine ⟨by simp [Value.isKey, Value.areKeys], ?_⟩
      rw [Value.AllDiffer]
      decide
    refine .map proper ?_ ?_
    · exact List.forall_mem_cons.mpr ⟨.tuple (by simp), by simp [Value.IsData.text]⟩
    · simp [Value.IsData.bytes, Value.IsData.null]
  exact .list (by simp [list, tuple, map])

/-- The two lists are one object, and the texts of the tuple are two. -/
def oneList : Pickle.Sharing
  | [0] => some 0
  | [1] => some 0
  | [2, 0] => some 1
  | [2, 1] => some 2
  | _ => none

theorem fits_oneList : oneList.Fits twiceNamed.payload := by
  intro n first second one other a b held also
  unfold oneList at one other
  split at one <;> cases one <;> split at other <;> cases other
  all_goals exact Option.some.inj (held.symm.trans also)

/-- The sharing in a payload, in the message of the payload. -/
def inPayload (s : Pickle.Sharing) : Pickle.Sharing
  | 0 :: place => s place
  | _ => none

theorem fits_inPayload {s : Pickle.Sharing} {m : Message} (fits : s.Fits m.payload)
    : (inPayload s).Fits m.toValue := by
  have inside {n : Nat} {place : List Nat} (number : inPayload s place = some n)
      : ∃ rest, place = 0 :: rest ∧ s rest = some n := by
    unfold inPayload at number
    split at number
    · exact ⟨_, rfl, number⟩
    · contradiction
  intro n first second one other a b held also
  obtain ⟨place, rfl, one⟩ := inside one
  obtain ⟨rest, rfl, other⟩ := inside other
  exact fits n place rest one other a b held also

theorem restores_of_twiceNamed
    : (∃ d, standardMapper.map twiceNamed = .ok d
          ∧ Pickle.load? d.body = some twiceNamed.payload)
      ∧ (∃ d, (sharingMapper true oneList).map twiceNamed = .ok d
          ∧ Pickle.load? d.body = some twiceNamed.payload)
      ∧ ∃ d, (sharingMapper false (inPayload oneList)).map twiceNamed = .ok d
          ∧ Pickle.load? d.body
            = some (.message twiceNamed.payload twiceNamed.headers ⟨true, true, []⟩) := by
  have absolute : Url.isAbsoluteText (text "http://a/b") = .ok true :=
    eq_ok_of_toOption (by decide +kernel)
  have known : Method.ofMessage twiceNamed = .ok (text "POST") :=
    eq_ok_of_toOption (by decide +kernel)
  have body : Method.hasBody (text "POST") := by decide +kernel
  have resolved : Target.resolve twiceNamed none = .ok (text "http://a/b") :=
    eq_ok_of_toOption (by decide +kernel)
  refine ⟨?_, ?_, ?_⟩
  · have sends : standardMapper.Sends twiceNamed _ := .payload rfl rfl isData_twiceNamed
    obtain ⟨loads, sent⟩ := restores_of_map rfl (Pickle.fits_byContent _) sends
    obtain ⟨d, mapped⟩ := sent _ _ resolved absolute known body (by decide) (by decide +kernel)
    exact ⟨d, mapped, loads d mapped (method_of_map mapped known ▸ body)⟩
  · have sends : (sharingMapper true oneList).Sends twiceNamed _ :=
      .payload rfl rfl isData_twiceNamed
    obtain ⟨loads, sent⟩ := restores_of_map rfl fits_oneList sends
    obtain ⟨d, mapped⟩ := sent _ _ resolved absolute known body (by decide) (by decide +kernel)
    exact ⟨d, mapped, loads d mapped (method_of_map mapped known ▸ body)⟩
  · have headers : ∀ h ∈ twiceNamed.headers, h.2.IsData 100 := by
      simp [twiceNamed, Value.IsData.text, Value.IsData.int]
    have sends : (sharingMapper false (inPayload oneList)).Sends twiceNamed _ :=
      .message rfl isData_twiceNamed headers (by decide +kernel)
    obtain ⟨loads, sent⟩ := restores_of_map rfl (fits_inPayload fits_oneList) sends
    obtain ⟨d, mapped⟩ := sent _ _ resolved absolute known body (by decide) (by decide +kernel)
    exact ⟨d, mapped, loads d mapped (method_of_map mapped known ▸ body)⟩

end Mapper

end Dispatch
