import Dispatch.Proofs.Mapper.Assembly
import Dispatch.Proofs.Mapper.Configuring
import Dispatch.Proofs.Target

/-! The URL to fall back on is a fallback and nothing else. Under a header for the target it does
not matter at all, and without one it stands in for the header: the mapping ends as it does for the
message that gives the same URL itself.
-/

namespace Dispatch

open Dispatch.Result

/-- Two messages with the same payload and the same headers but for one. -/
structure Message.AgreesBeside (name : Text) (m other : Message) : Prop where
  payload : other.payload = m.payload
  headers : ∀ header, header ≠ name → other.header? header = m.header? header

/-- A failure without the message that it carries. -/
def Failure.withoutMessage : Failure → Failure
  | .mapping e => .mapping ⟨e.problem, none⟩
  | other => other

theorem Failure.withoutMessage_withMessage (m : Message) (f : Failure)
    : (f.withMessage m).withoutMessage = f.withoutMessage := by
  rcases f with ⟨p, _ | carried⟩ | errors | fault <;> rfl

namespace Target

/-- A header leaves nothing to the fallback, whether it gives a target or not. -/
theorem resolve_eq_of_some {m : Message} {v : Value} (found : header? m = some v)
    (first second : Option Text)
    : resolve m first = resolve m second := by
  cases given : ofValue v with
  | ok target => rw [resolve_of_some found given, resolve_of_some found given]
  | error p => rw [(resolve_of_error found given first).1, (resolve_of_error found given second).1]

/-- A header with the text of an absolute URL gives this text. -/
theorem resolve_of_isAbsolute {m : Message} {t : Text}
    (given : m.header? targetHeader = some (.text t)) (absolute : Url.isAbsoluteText t = .ok true)
    (fallback : Option Text)
    : resolve m fallback = .ok t := by
  have found : header? m = some (.text t) := by rw [header?, given]
  obtain ⟨u, read, named⟩ := Url.isAbsoluteText_eq_true.mp absolute
  have kept : checkText t = .ok t := by rw [checkText, read]; exact if_pos named
  rw [resolve_of_some found rfl, toText, kept, mapError_ok]

end Target

namespace Mapper

/-- Two mappers that differ in the URL to fall back on at most. -/
structure AgreesBesideDefault (mapper other : Mapper) : Prop where
  format : other.format = mapper.format
  extractPayload : other.settings.extractPayload = mapper.settings.extractPayload
  charset : other.settings.charset = mapper.settings.charset

section

variable [Platform] {mapper other : Mapper} {m stated : Message} {target : Text}

theorem map_of_resolved (resolved : Target.resolve m mapper.settings.defaultUrl = .ok target)
    : mapper.map m
      = ((Method.ofMessage m).mapError .fault >>= fun method =>
          (mapper.assemble m target method).mapError (.withMessage m)) := by
  rw [map, resolved]
  rfl

/-- Once the target is known, the URL to fall back on is not asked for. -/
theorem AgreesBesideDefault.assemble (agree : mapper.AgreesBesideDefault other)
    (m : Message) (target method : Text)
    : other.assemble m target method = mapper.assemble m target method := by
  simp only [Mapper.assemble, route, mapBody, mapQuery, agree.format, agree.extractPayload,
    agree.charset]

theorem AgreesBesideDefault.map (agree : mapper.AgreesBesideDefault other) {v : Value}
    (found : Target.header? m = some v)
    : other.map m = mapper.map m := by
  have same := Target.resolve_eq_of_some found other.settings.defaultUrl mapper.settings.defaultUrl
  simp only [Mapper.map, same, agree.assemble]

/-- With extraction on, no header but the one for the target and the one for the method is read. -/
theorem assemble_eq_of_payload (extract : mapper.settings.extractPayload)
    (same : stated.payload = m.payload) (target method : Text)
    : mapper.assemble stated target method = mapper.assemble m target method := by
  cases body : Method.hasBody method with
  | true => simp only [assemble_of_hasBody body, bodyValue, extract, same, if_true]
  | false => simp only [assemble_of_not_hasBody body, mapQuery, same]

/-- Messages with the same target, the same method and the same payload end the same way. -/
theorem map_eq_of_resolved (extract : mapper.settings.extractPayload)
    (agree : m.AgreesBeside targetHeader stated)
    (resolved : Target.resolve m mapper.settings.defaultUrl = .ok target)
    (given : Target.resolve stated mapper.settings.defaultUrl = .ok target)
    : (mapper.map stated).mapError Failure.withoutMessage
      = (mapper.map m).mapError Failure.withoutMessage := by
  have other : Method.header ≠ targetHeader := by decide
  have known : Method.ofMessage stated = Method.ofMessage m := by
    rw [Method.ofMessage, Method.ofMessage, agree.headers Method.header other]
  rw [map_of_resolved resolved, map_of_resolved given, known]
  cases Method.ofMessage m with
  | error f => rfl
  | ok method =>
      simp only [mapError_ok, ok_bind, assemble_eq_of_payload extract agree.payload]
      cases mapper.assemble m target method with
      | ok d => rfl
      | error f => simp only [mapError_error, Failure.withoutMessage_withMessage]

/-- The URL to fall back on does not matter for a message with a header for the target, whatever
that header holds. Without the header it is as good as one: a message that gives the URL as a text
is mapped to the same descriptor, or it ends with the same problem or fault. -/
theorem map_fallback (reached : mapper.Reachable) (m : Message)
    : (∀ v, Target.header? m = some v →
        ∀ other, other.Reachable → mapper.AgreesBesideDefault other → other.map m = mapper.map m)
      ∧ (Target.header? m = none → mapper.settings.extractPayload →
        ∀ u, mapper.settings.defaultUrl = some u →
          ∀ stated, m.AgreesBeside targetHeader stated
            → stated.header? targetHeader = some (.text u)
            → (mapper.map stated).mapError Failure.withoutMessage
              = (mapper.map m).mapError Failure.withoutMessage) := by
  constructor
  · intro v found other _ agree
    exact agree.map found
  · intro absent extract u configured stated agree given
    have resolved : Target.resolve m mapper.settings.defaultUrl = .ok u := by
      rw [Target.resolve_of_none absent, configured]
    have absolute := reached.sound.defaultUrl u configured
    exact map_eq_of_resolved extract agree resolved
      (Target.resolve_of_isAbsolute given absolute mapper.settings.defaultUrl)

end

-----------------------------------------------------------------------------------------
-- A mapper with a URL to fall back on, for a text that it cannot write
-----------------------------------------------------------------------------------------

def fallbackMapper : Mapper :=
  ⟨fallbackSettings, .json, 0⟩

theorem reachable_fallbackMapper : fallbackMapper.Reachable := by
  have sound : fallbackSettings.Sound :=
    ⟨by decide +kernel, fun t held => Option.some.inj held ▸ eq_ok_of_toOption (by decide +kernel)⟩
  exact .configured (ofSettings_of_sound sound .json)

/-- A message with a text that is not ASCII and the given headers. -/
def accentedText (headers : List (Text × Value)) : Message where
  payload := .text (text "é")
  headers := headers
  given := ⟨true, true, []⟩

theorem map_fallback_of_accentedText
    : fallbackMapper.map (accentedText [(targetHeader, .text (text "nowhere"))])
          = asciiMapper.map (accentedText [(targetHeader, .text (text "nowhere"))])
      ∧ (fallbackMapper.map
            (accentedText [(targetHeader, .text (text "http://a/b?x"))])).mapError
              Failure.withoutMessage
          = (fallbackMapper.map (accentedText [(targetHeader, .null)])).mapError
              Failure.withoutMessage := by
  have agree : asciiMapper.AgreesBesideDefault fallbackMapper := ⟨rfl, rfl, rfl⟩
  have beside : (accentedText [(targetHeader, .null)]).AgreesBeside targetHeader
      (accentedText [(targetHeader, .text (text "http://a/b?x"))]) := by
    refine ⟨rfl, fun header other => ?_⟩
    simp [accentedText, Message.header?, other.symm]
  constructor
  · exact (map_fallback reachable_asciiMapper _).1 _ rfl fallbackMapper reachable_fallbackMapper
      agree
  · exact (map_fallback reachable_fallbackMapper _).2 rfl rfl (text "http://a/b?x") rfl _ beside rfl

end Mapper

end Dispatch
