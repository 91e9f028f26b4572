import Dispatch.Proofs.Mapper.Assembly
import Dispatch.Proofs.Mapper.Reachable
import Dispatch.Proofs.Target

/-! Which problem a message meets first. The obstacles are tried in a fixed order, and the mapping
ends with the first of them or, if there is none, with a descriptor. The format is an obstacle only
to a value that is offered to it, which texts and bytes are not.
-/

namespace Dispatch

open Dispatch.Result

/-- A message of which the headers give texts and the payload has texts as keys. -/
structure Message.Plain (m : Message) : Prop where
  target : ∀ v ∈ Target.header? m, ∃ t, v = .text t ∧ ∀ c ∈ t, c.isSurrogate = false
  method : ∀ v ∈ m.header? Method.header, v = .null ∨ ∃ t, v = .text t
  keys : ∀ entries ∈ m.payload.entries?, ∀ e ∈ entries, e.1.isText

namespace Mapper

/-- The target of a plain message: the text of its header, or the URL to fall back on. -/
def targetText? (mapper : Mapper) (m : Message) : Option Text :=
  match Target.header? m with
  | some v => v.asText?
  | none => mapper.settings.defaultUrl

/-- The method of a plain message. -/
def methodText (m : Message) : Text :=
  (((m.header? Method.header).bind Value.asText?).map Method.ofText).getD Method.standard

section

variable [Platform]

/-- What keeps a payload out of the query of a target: it gives no parameters, the charset cannot
write one of them, or the target gets too long. -/
def queryObstacle? (target charset : Text) (payload : Value) : Option Problem.Kind :=
  match payload.parameters? with
  | none => some .payloadShape
  | some parameters =>
      if !parameters.isEncodable charset then some .payloadShape
      else if tooLongWith target charset parameters then some .malformedTarget
      else none

/-- The first obstacle on the way of a message with a given target and method. -/
def wayObstacle? (mapper : Mapper) (m : Message) (target method : Text) : Option Problem.Kind :=
  let extract := mapper.settings.extractPayload
  let hasBody := Method.hasBody method
  if !extract && !hasBody then some .method
  else if extract && hasBody && m.payload.isNull then some .missingPayload
  else if hasBody then
    if Payload.isWritable mapper.format mapper.settings.charset (mapper.bodyValue m) then none
    else some .payloadType
  else queryObstacle? target mapper.settings.charset m.payload

/-- The first obstacle that a plain message meets. -/
def obstacle? (mapper : Mapper) (m : Message) : Option Problem.Kind :=
  match mapper.targetText? m with
  | none => some .unresolvedTarget
  | some target =>
      if Url.isAbsoluteUrl target then mapper.wayObstacle? m target (methodText m)
      else some .malformedTarget

variable {mapper : Mapper} {m : Message}

theorem ofMessage_of_plain (plain : m.Plain) : Method.ofMessage m = .ok (methodText m) := by
  rw [Method.ofMessage, methodText]
  cases found : m.header? Method.header with
  | none => rfl
  | some v =>
      rcases plain.method v found with rfl | ⟨t, rfl⟩
      · rfl
      · rfl

-----------------------------------------------------------------------------------------
-- A plain target is absolute, or its problem is known
-----------------------------------------------------------------------------------------

omit [Platform] in
theorem resolve_of_targetText?_none (plain : m.Plain) (absent : mapper.targetText? m = none)
    : Ends (some m) (Target.resolve m mapper.settings.defaultUrl) (some .unresolvedTarget) := by
  rw [targetText?] at absent
  cases found : Target.header? m with
  | some v =>
      obtain ⟨t, rfl, _⟩ := plain.target v found
      simp [found, Value.asText?] at absent
  | none =>
      simp only [found] at absent
      rw [Target.resolve_of_none found, absent]
      exact ⟨.noTarget, rfl, rfl⟩

/-- A plain target is taken if it is absolute, and else refused. The URL to fall back on is always
absolute, and no surrogate ends the reading of a plain header. -/
theorem resolve_of_targetText?_some (plain : m.Plain) (sound : mapper.settings.Sound)
    {target : Text} (given : mapper.targetText? m = some target)
    : (Target.resolve m mapper.settings.defaultUrl = .ok target
        ∧ Url.isAbsoluteText target = .ok true)
      ∨ (Ends (some m) (Target.resolve m mapper.settings.defaultUrl) (some .malformedTarget)
        ∧ Url.isAbsoluteText target ≠ .ok true) := by
  rw [targetText?] at given
  cases found : Target.header? m with
  | none =>
      simp only [found] at given
      rw [Target.resolve_of_none found, given]
      exact Or.inl ⟨rfl, sound.defaultUrl target given⟩
  | some v =>
      obtain ⟨t, rfl, whole⟩ := plain.target v found
      simp only [found, Value.asText?, Option.some.injEq] at given
      subst given
      rw [Target.resolve_of_some found rfl, Target.toText]
      rcases Target.checkText_cases t with ⟨kept, absolute⟩ | ⟨p, refused, kind, relative⟩
        | ⟨c, _, surrogate⟩
      · exact Or.inl ⟨by rw [kept, mapError_ok], absolute⟩
      · refine Or.inr ⟨⟨p, by rw [refused]; rfl, kind⟩, ?_⟩
        rw [relative]
        simp
      · obtain ⟨found, member⟩ := Url.parse_eq_surrogate surrogate
        rw [whole c member] at found
        contradiction

-----------------------------------------------------------------------------------------
-- The first obstacle ends the mapping
-----------------------------------------------------------------------------------------

theorem mapQuery_ends (plain : m.Plain) (sound : mapper.settings.Sound) {target method : Text}
    (absolute : Url.isAbsoluteText target = .ok true) (valid : Method.Valid method)
    : Ends none (mapper.mapQuery m target method)
        (queryObstacle? target mapper.settings.charset m.payload) := by
  rw [queryObstacle?]
  cases given : m.payload.parameters? with
  | none =>
      -- Texts always have a written form, so the shape of the payload is all there is to refuse.
      refine (mapQuery_of_none given).resolve_right ?_
      rintro ⟨before, entry, after, e, entries, _, noText, _⟩
      have text := plain.keys _ entries entry (by simp)
      cases key : entry.1 <;> simp [key, Value.isText, Value.asText?] at text noText
  | some parameters =>
      cases encodable : parameters.isEncodable mapper.settings.charset with
      | false =>
          simp only [encodable, Bool.not_false, if_true]
          exact mapQuery_of_not_isEncodable sound given encodable
      | true =>
          simp only [encodable, Bool.not_true, Bool.false_eq_true, if_false]
          cases long : tooLongWith target mapper.settings.charset parameters with
          | false => exact mapQuery_of_short given encodable absolute valid long
          | true => exact mapQuery_of_long given encodable long

/-- A computation that ends at its first obstacle, or with the fault that comes in the place of a
refused payload. -/
def EndsOrFaults {α : Type} (lost : Option Fault) (carried : Option Message)
    (result : Except Failure α) (first : Option Problem.Kind) : Prop :=
  Ends carried result first
    ∨ first = some .payloadType ∧ ∃ f, lost = some f ∧ result = .error (.fault f)

omit [Platform] in
theorem EndsOrFaults.withMessage {α : Type} {lost : Option Fault} {result : Except Failure α}
    {first : Option Problem.Kind} (ends : EndsOrFaults lost none result first) (m : Message)
    : EndsOrFaults lost (some m) (result.mapError (.withMessage m)) first := by
  rcases ends with ends | ⟨kind, f, found, rfl⟩
  · exact Or.inl (ends.withMessage m)
  · exact Or.inr ⟨kind, f, found, rfl⟩

theorem mapBody_ends (sound : mapper.settings.Sound) (writes : mapper.format.WritesBytes)
    {target method : Text} (absolute : Url.isAbsoluteText target = .ok true)
    (valid : Method.Valid method) (v : Value)
    : EndsOrFaults (Payload.fault? mapper.format v) none (mapper.mapBody v target method)
        (if Payload.isWritable mapper.format mapper.settings.charset v then none
          else some .payloadType) := by
  cases writable : Payload.isWritable mapper.format mapper.settings.charset v with
  | true => exact Or.inl (mapBody_of_isAbsolute writes writable absolute valid)
  | false =>
      cases lost : Payload.fault? mapper.format v with
      | none => exact Or.inl (mapBody_of_not_isWritable sound lost writable)
      | some f =>
          exact Or.inr ⟨rfl, f, rfl, by rw [mapBody, Payload.content_of_fault? lost, error_bind]⟩

theorem assemble_ends (plain : m.Plain) (sound : mapper.settings.Sound)
    (writes : mapper.format.WritesBytes) {target method : Text}
    (absolute : Url.isAbsoluteText target = .ok true) (valid : Method.Valid method)
    : EndsOrFaults (Payload.fault? mapper.format (mapper.bodyValue m)) none
        (mapper.assemble m target method) (mapper.wayObstacle? m target method) := by
  rw [wayObstacle?]
  cases body : Method.hasBody method with
  | false =>
      rw [assemble_of_not_hasBody body]
      cases extract : mapper.settings.extractPayload with
      | false => exact Or.inl ⟨_, rfl, rfl⟩
      | true => exact Or.inl (mapQuery_ends plain sound absolute valid)
  | true =>
      rw [assemble_of_hasBody body]
      cases missing : mapper.settings.extractPayload && m.payload.isNull with
      | true =>
          simp only [Bool.and_true, Bool.not_true, Bool.and_false, missing, Bool.false_eq_true,
            if_true, if_false]
          exact Or.inl ⟨_, rfl, rfl⟩
      | false =>
          simp only [Bool.and_true, Bool.not_true, Bool.and_false, missing, Bool.false_eq_true,
            if_true, if_false]
          exact mapBody_ends sound writes absolute valid _

/-- Mapping a plain message ends with the first obstacle, or else with a descriptor. The fault of a
body takes the place of its refusal and of nothing else. -/
theorem map_ends (reached : mapper.Reachable) (writes : mapper.format.WritesBytes)
    (plain : m.Plain)
    : EndsOrFaults (Payload.fault? mapper.format (mapper.bodyValue m)) (some m) (mapper.map m)
        (mapper.obstacle? m) := by
  have sound := reached.sound
  rw [obstacle?]
  cases given : mapper.targetText? m with
  | none =>
      obtain ⟨p, failed, kind⟩ := resolve_of_targetText?_none plain given
      exact Or.inl ⟨p, by rw [map, failed, error_bind], kind⟩
  | some target =>
      rcases resolve_of_targetText?_some plain sound given with
        ⟨resolved, absolute⟩ | ⟨⟨p, failed, kind⟩, relative⟩
      · have known := ofMessage_of_plain plain
        simp only [Url.isAbsoluteUrl_iff.mpr absolute, if_true]
        rw [map_of_known resolved known]
        exact (assemble_ends plain sound writes absolute
          (Method.valid_of_ofMessage known)).withMessage m
      · simp only [mt Url.isAbsoluteUrl_iff.mp relative]
        exact Or.inl ⟨p, by rw [map, failed, error_bind], kind⟩

/-- Which problem ends the mapping of a plain message, and whether one does, is decided by the order
of the obstacles. A refused payload is a problem of its type unless a fault comes in its place. -/
theorem map_outcome_iff_obstacle (reached : mapper.Reachable) (writes : mapper.format.WritesBytes)
    (plain : m.Plain)
    : (∀ kind, (kind = .payloadType → Payload.fault? mapper.format (mapper.bodyValue m) = none)
        → ((∃ p, mapper.map m = .error (.mapping ⟨p, some m⟩) ∧ p.kind = kind)
          ↔ mapper.obstacle? m = some kind))
      ∧ ((∃ d, mapper.map m = .ok d) ↔ mapper.obstacle? m = none) := by
  rcases map_ends reached writes plain with ends | ⟨first, f, lost, failed⟩
  · have decides (kind : Option Problem.Kind)
        : Ends (some m) (mapper.map m) kind ↔ mapper.obstacle? m = kind :=
      ⟨fun other => ends.unique other, fun same => same ▸ ends⟩
    exact ⟨fun kind _ => decides (some kind), decides none⟩
  · refine ⟨fun kind noFault => ?_, by simp [failed, first]⟩
    have other : kind ≠ .payloadType := by
      rintro rfl
      rw [noFault rfl] at lost
      contradiction
    simpa [failed, first] using Ne.symm other

end

/-- A query with an accent, for a mapper that writes ASCII. -/
def accentedQuery : Message where
  payload := .map .plain [(.text (text "k"), .text (text "é"))]
  headers := [(targetHeader, .text (text "http://a/")), (Method.header, .text (text "get"))]
  given := ⟨true, true, []⟩

theorem map_accentedQuery
    : asciiMapper.Reachable ∧ asciiMapper.format.WritesBytes ∧ accentedQuery.Plain
      ∧ ∃ p, asciiMapper.map accentedQuery = .error (.mapping ⟨p, some accentedQuery⟩)
          ∧ p.kind = .payloadShape := by
  have writes : asciiMapper.format.WritesBytes := ObjectFormat.writesBytes_json
  have plain : accentedQuery.Plain := by
    refine ⟨?_, ?_, ?_⟩
    · rintro v found
      rw [← Option.some.inj (show some (Value.text (text "http://a/")) = some v from found)]
      exact ⟨_, rfl, by decide⟩
    · rintro v found
      rw [← Option.some.inj (show some (Value.text (text "get")) = some v from found)]
      exact Or.inr ⟨_, rfl⟩
    · rintro entries given e listed
      rw [← Option.some.inj (show some [(Value.text (text "k"), Value.text (text "é"))]
        = some entries from given), List.mem_singleton] at listed
      rw [listed]
      rfl
  refine ⟨reachable_asciiMapper, writes, plain, ?_⟩
  exact ((map_outcome_iff_obstacle reachable_asciiMapper writes plain).1 _ fun _ => rfl).mpr
    (by decide +kernel)

/-- A mapper that writes ASCII, with a format that refuses every value. -/
def refusingMapper : Mapper :=
  ⟨⟨none, true, text "us-ascii"⟩,
    ⟨text "broken", fun _ => .error (.format (text "backend unavailable"))⟩, 0⟩

/-- A message of bytes. -/
def bytesMessage : Message where
  payload := .blob .fixed [0x78]
  headers := [(targetHeader, .text (text "http://a/"))]
  given := ⟨true, true, []⟩

/-- Bytes go into the body though the format refuses them, for it is not asked. -/
theorem map_bytesMessage
    : refusingMapper.Reachable ∧ refusingMapper.format.WritesBytes ∧ bytesMessage.Plain
      ∧ refusingMapper.settings.extractPayload
      ∧ Method.ofMessage bytesMessage = .ok (text "POST")
      ∧ refusingMapper.format.encode bytesMessage.payload
          = .error (.format (text "backend unavailable"))
      ∧ refusingMapper.map bytesMessage
          = .ok
              ⟨text "http://a/", text "POST", some (text "application/octet-stream"), [0x78]⟩ := by
  have plain : bytesMessage.Plain := by
    refine ⟨?_, nofun, nofun⟩
    rintro v found
    rw [← Option.some.inj (show some (Value.text (text "http://a/")) = some v from found)]
    exact ⟨_, rfl, by decide⟩
  have resolved : Target.resolve bytesMessage none = .ok (text "http://a/") :=
    eq_ok_of_toOption (by decide +kernel)
  have absolute : Url.isAbsoluteText (text "http://a/") = .ok true :=
    eq_ok_of_toOption (by decide +kernel)
  have known : Method.ofMessage bytesMessage = .ok (text "POST") := rfl
  refine ⟨.created (create_eq_ok (by decide +kernel) true _), nofun, plain, rfl, known, rfl, ?_⟩
  have content : refusingMapper.mapBody (refusingMapper.bodyValue bytesMessage) (text "http://a/")
      (text "POST")
      = describe (text "http://a/") (text "POST")
          (some ⟨text "application/octet-stream", .blob .fixed [0x78]⟩) := rfl
  have given : (refusingMapper.settings.extractPayload && bytesMessage.payload.isNull) = false :=
    rfl
  rw [map_of_known resolved known, assemble_of_hasBody (by decide), given, content,
    describe_some absolute (Method.valid_of_ofMessage known)]
  rfl

end Mapper

end Dispatch
