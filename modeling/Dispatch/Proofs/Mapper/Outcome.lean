import Dispatch.Proofs.Mapper.Assembly

/-! What a finished descriptor is made of. Its target and its method are those of the message; it
holds either a value of the message as its content or the payload of the message in its query.
-/

namespace Dispatch.Mapper

open Dispatch.Result

variable [Platform]

/-- The two ways to the descriptor of a message. -/
inductive Made (mapper : Mapper) (m : Message) (d : Descriptor) : Prop
  | body {content : Content}
    (resolved : Target.resolve m mapper.settings.defaultUrl = .ok d.target)
    (known : Method.ofMessage m = .ok d.method) (body : Method.hasBody d.method)
    (written : Payload.content mapper.format (.text mapper.settings.charset) (mapper.bodyValue m)
      = .ok content)
    (contentType : d.contentType = some content.contentType)
    (bytes : Field.toBytes content.value = .ok d.body)
  | query {target : Text} {parameters : Parameters}
    (resolved : Target.resolve m mapper.settings.defaultUrl = .ok target)
    (known : Method.ofMessage m = .ok d.method) (noBody : Method.hasBody d.method = false)
    (extract : mapper.settings.extractPayload)
    (given : m.payload.parameters? = some parameters)
    (added : Query.add target parameters mapper.settings.charset = .ok d.target)
    (noType : d.contentType = none) (empty : d.body = [])

variable {mapper : Mapper} {m : Message} {target method : Text} {d : Descriptor}

theorem Made.known (made : mapper.Made m d) : Method.ofMessage m = .ok d.method := by
  cases made <;> assumption

theorem mapBody_eq_ok {v : Value} (mapped : mapper.mapBody v target method = .ok d)
    : ∃ content,
        Payload.content mapper.format (.text mapper.settings.charset) v = .ok content
          ∧ describe target method (some content) = .ok d :=
  bind_eq_ok.mp mapped

theorem mapQuery_eq_ok (mapped : mapper.mapQuery m target method = .ok d)
    : ∃ parameters extended, m.payload.parameters? = some parameters
        ∧ Query.add target parameters mapper.settings.charset = .ok extended
        ∧ describe extended method none = .ok d := by
  rw [mapQuery, bind_eq_ok] at mapped
  obtain ⟨parameters, given, mapped⟩ := mapped
  obtain ⟨extended, added, described⟩ := bind_eq_ok.mp mapped
  exact ⟨parameters, extended, Parameters.ofPayload_eq_ok.mp given, added, described⟩

/-- Each descriptor is made in one of the two ways, and its target is absolute. -/
theorem made_of_map (mapped : mapper.map m = .ok d)
    : mapper.Made m d ∧ Url.isAbsoluteText d.target = .ok true := by
  simp only [map, bind_eq_ok, mapError_eq_ok] at mapped
  obtain ⟨target, resolved, method, known, assembled⟩ := mapped
  cases body : Method.hasBody method with
  | true =>
      rw [assemble_of_hasBody body] at assembled
      split at assembled
      · contradiction
      · obtain ⟨content, written, described⟩ := mapBody_eq_ok assembled
        obtain ⟨absolute, rfl, rfl, contentType, bytes⟩ := describe_eq_ok described
        exact ⟨.body resolved known body written contentType bytes, absolute⟩
  | false =>
      rw [assemble_of_not_hasBody body] at assembled
      split at assembled
      · rename_i extract
        obtain ⟨parameters, extended, given, added, described⟩ := mapQuery_eq_ok assembled
        obtain ⟨absolute, rfl, rfl, noType, bytes⟩ := describe_eq_ok described
        exact ⟨.query resolved known body extract given added noType
          (Except.ok.inj bytes).symm, absolute⟩
      · contradiction

end Dispatch.Mapper
