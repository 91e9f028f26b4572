import Dispatch.Proofs.Descriptor
import Dispatch.Proofs.Payload
import Dispatch.Proofs.Query.Adding
import Dispatch.Proofs.Query.Parameters
import Dispatch.Proofs.Settings.Reading

/-! The ends of the ways of a message whose target and method are known. On each way the first thing
that does not fit decides how the mapping ends.
-/

namespace Dispatch.Mapper

open Dispatch.Result

/-- A computation that ends well, or with a problem of the given kind. The error carries the given
message, if one was added to it. -/
def Ends {α : Type} (carried : Option Message) (result : Except Failure α)
    : Option Problem.Kind → Prop
  | none => ∃ a, result = .ok a
  | some kind => ∃ p, result = .error (.mapping ⟨p, carried⟩) ∧ p.kind = kind

theorem Ends.withMessage {α : Type} {result : Except Failure α} {kind : Option Problem.Kind}
    (ends : Ends none result kind) (m : Message)
    : Ends (some m) (result.mapError (.withMessage m)) kind := by
  cases kind with
  | none =>
      obtain ⟨a, rfl⟩ := ends
      exact ⟨a, rfl⟩
  | some kind =>
      obtain ⟨p, rfl, same⟩ := ends
      exact ⟨p, rfl, same⟩

/-- A computation does not end in two ways. -/
theorem Ends.unique {α : Type} {carried : Option Message} {result : Except Failure α}
    {first second : Option Problem.Kind} (one : Ends carried result first)
    (other : Ends carried result second)
    : first = second := by
  cases first <;> cases second <;> simp only [Ends] at one other <;> grind

variable [Platform] {mapper : Mapper} {m : Message} {target method : Text}

-----------------------------------------------------------------------------------------
-- A body needs a value that can be written and an absolute target
-----------------------------------------------------------------------------------------

theorem mapBody_of_not_isWritable {v : Value} (sound : mapper.settings.Sound)
    (noFault : Payload.fault? mapper.format v = none)
    (refused : Payload.isWritable mapper.format mapper.settings.charset v = false)
    : Ends none (mapper.mapBody v target method) (some .payloadType) := by
  obtain ⟨p, failed, kind⟩ := Payload.content_of_not_isWritable sound.charset noFault refused
  exact ⟨p, by rw [mapBody, failed, error_bind, Failure.ofProblem], kind⟩

theorem mapBody_of_isAbsolute {v : Value} (writes : mapper.format.WritesBytes)
    (writable : Payload.isWritable mapper.format mapper.settings.charset v)
    (absolute : Url.isAbsoluteText target = .ok true) (valid : Method.Valid method)
    : Ends none (mapper.mapBody v target method) none := by
  obtain ⟨contentType, bytes, written⟩ := Payload.content_of_isWritable writes writable
  exact ⟨_, by rw [mapBody, written, ok_bind, describe_some absolute valid]⟩

/-- Content does not help a target that is no absolute URL. -/
theorem mapBody_of_not_isAbsolute {v : Value} (writes : mapper.format.WritesBytes)
    (writable : Payload.isWritable mapper.format mapper.settings.charset v)
    (unread : Url.isAbsoluteText target ≠ .ok true) (method : Text)
    : ∃ errors, mapper.mapBody v target method = .error (.fields errors) := by
  obtain ⟨contentType, bytes, written⟩ := Payload.content_of_isWritable writes writable
  rw [mapBody, written, ok_bind]
  exact describe_eq_error unread method _

-----------------------------------------------------------------------------------------
-- A query needs parameters that can be written and fit into the target
-----------------------------------------------------------------------------------------

theorem mapQuery_of_parameters {parameters : Parameters}
    (given : m.payload.parameters? = some parameters)
    : mapper.mapQuery m target method
      = (Query.add target parameters mapper.settings.charset).bind
          fun extended => describe extended method none := by
  rw [mapQuery, Parameters.ofPayload_eq_ok.mpr given]
  rfl

theorem mapQuery_of_not_isEncodable {parameters : Parameters} (sound : mapper.settings.Sound)
    (given : m.payload.parameters? = some parameters)
    (refused : parameters.isEncodable mapper.settings.charset = false)
    : Ends none (mapper.mapQuery m target method) (some .payloadShape) := by
  obtain ⟨p, failed, kind⟩ := Query.add_of_not_isEncodable target sound.charset refused
  exact ⟨p, by rw [mapQuery_of_parameters given, failed]; rfl, kind⟩

/-- A payload without parameters is refused for its shape, or for a key that cannot be written. -/
theorem mapQuery_of_none (given : m.payload.parameters? = none)
    : Ends none (mapper.mapQuery m target method) (some .payloadShape)
      ∨ ∃ before entry after e, m.payload.entries? = some (before ++ entry :: after)
          ∧ (∀ other ∈ before, (Value.parameter? other).isSome)
          ∧ entry.1.asText? = none ∧ entry.1.shown = .error e := by
  cases read : Parameters.ofPayload m.payload method with
  | ok parameters =>
      rw [Parameters.ofPayload_eq_ok.mp read] at given
      contradiction
  | error f =>
      refine (Parameters.ofPayload_eq_error read).imp_left ?_
      rintro ⟨p, rfl, kind, _⟩
      exact ⟨p, by rw [mapQuery, read, error_bind, Failure.ofProblem], kind⟩

/-- A key that cannot be written ends the mapping with a fault. -/
theorem mapQuery_of_unshown {before after : List (Value × Value)} {entry : Value × Value}
    {e : Value.ShowError} (given : m.payload.entries? = some (before ++ entry :: after))
    (taken : ∀ other ∈ before, (Value.parameter? other).isSome) (noText : entry.1.asText? = none)
    (unshown : entry.1.shown = .error e)
    : mapper.mapQuery m target method = .error (.fault (.shown e)) := by
  rw [mapQuery, Parameters.ofPayload_of_unshown given taken noText unshown, error_bind]

/-- Whether a target is too long with some parameters at its end. -/
def tooLongWith (target charset : Text) (parameters : Parameters) : Bool :=
  !parameters.isEmpty
    && Url.maxLength < (Query.assemble target (parameters.pairTexts charset)).length

theorem mapQuery_of_short {parameters : Parameters}
    (given : m.payload.parameters? = some parameters)
    (encodable : parameters.isEncodable mapper.settings.charset)
    (absolute : Url.isAbsoluteText target = .ok true) (valid : Method.Valid method)
    (short : tooLongWith target mapper.settings.charset parameters = false)
    : Ends none (mapper.mapQuery m target method) none := by
  rw [mapQuery_of_parameters given]
  cases parameters with
  | nil => exact ⟨_, describe_none absolute valid⟩
  | cons entry rest =>
      simp only [tooLongWith, List.isEmpty_cons, Bool.not_false, Bool.true_and,
        decide_eq_false_iff_not, Nat.not_lt] at short
      obtain ⟨added, still⟩ :=
        Query.add_of_short absolute (List.cons_ne_nil entry rest) encodable short
      rw [added]
      exact ⟨_, describe_none still valid⟩

theorem mapQuery_of_long {parameters : Parameters}
    (given : m.payload.parameters? = some parameters)
    (encodable : parameters.isEncodable mapper.settings.charset)
    (long : tooLongWith target mapper.settings.charset parameters)
    : Ends none (mapper.mapQuery m target method) (some .malformedTarget) := by
  simp only [tooLongWith, Bool.and_eq_true, Bool.not_eq_true', List.isEmpty_eq_false_iff,
    decide_eq_true_eq] at long
  rw [mapQuery_of_parameters given, Query.add_of_long long.1 encodable long.2]
  exact ⟨_, rfl, rfl⟩

-----------------------------------------------------------------------------------------
-- The method and the settings choose between the body and the query
-----------------------------------------------------------------------------------------

/-- What goes into a body: the payload, or the whole message. -/
def bodyValue (mapper : Mapper) (m : Message) : Value :=
  if mapper.settings.extractPayload then m.payload else m.toValue

omit [Platform] in
/-- What goes into a body is no missing payload. -/
theorem payload_given_of_bodyValue (given : (mapper.bodyValue m).isNull = false)
    : (mapper.settings.extractPayload && m.payload.isNull) = false := by
  rw [bodyValue] at given
  cases extract : mapper.settings.extractPayload with
  | false => rfl
  | true =>
      rw [extract, if_pos rfl] at given
      rw [given, Bool.and_false]

/-- The missing payload is the only one that does not go on to the body. -/
theorem assemble_of_hasBody (body : Method.hasBody method)
    : mapper.assemble m target method
      = if mapper.settings.extractPayload && m.payload.isNull then
          .error (.ofProblem (.noPayload method))
        else mapper.mapBody (mapper.bodyValue m) target method := by
  cases extract : mapper.settings.extractPayload with
  | false => simp [assemble, route, bodyValue, extract, body]
  | true =>
      simp only [assemble, route, bodyValue, extract, body, Bool.true_and, if_true]
      cases m.payload <;> rfl

theorem assemble_of_not_hasBody (noBody : Method.hasBody method = false)
    : mapper.assemble m target method
      = if mapper.settings.extractPayload then mapper.mapQuery m target method
        else .error (.ofProblem (.methodWithoutBody method)) := by
  cases extract : mapper.settings.extractPayload <;> simp [assemble, route, extract, noBody]

/-- With target and method known, the way of the message decides how the mapping ends. -/
theorem map_of_known (resolved : Target.resolve m mapper.settings.defaultUrl = .ok target)
    (known : Method.ofMessage m = .ok method)
    : mapper.map m = (mapper.assemble m target method).mapError (.withMessage m) := by
  rw [map, resolved, known]
  rfl

end Dispatch.Mapper
