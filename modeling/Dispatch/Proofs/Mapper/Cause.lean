import Dispatch.Proofs.Mapper.Assembly
import Dispatch.Proofs.Mapper.Reachable
import Dispatch.Proofs.Target

/-! What the errors of a mapping carry. Each carries the message that was mapped, and those carry a
cause that rest on a URL which cannot be read, on a text which the charset refuses or on a value
which the format refuses. A header of no target's kind is carried along.
-/

namespace Dispatch.Mapper

open Dispatch.Result

section

variable [Platform]

/-- The faults that a mapping error rests on. -/
inductive Rests (mapper : Mapper) (m : Message) : Fault → Prop
  /-- The text in the header is no URL. -/
  | target {v : Value} {t : Text} {e : Url.Error} (found : Target.header? m = some v)
    (given : v = .text t ∨ ∃ p, v = .parts p ∧ p.join = t) (unread : Url.parse t = .error e)
    : Rests mapper m (.url e)
  /-- The charset refuses a parameter. -/
  | parameter {target method : Text} {parameters : Parameters} {e : Charset.Error}
    (resolved : Target.resolve m mapper.settings.defaultUrl = .ok target)
    (known : Method.ofMessage m = .ok method) (noBody : Method.hasBody method = false)
    (extract : mapper.settings.extractPayload) (given : m.payload.parameters? = some parameters)
    (refused : parameters.refusal? mapper.settings.charset = some e)
    : Rests mapper m (.charset e)
  /-- The target with the parameters is no URL. -/
  | extension {target method : Text} {parameters : Parameters} {e : Url.Error}
    (resolved : Target.resolve m mapper.settings.defaultUrl = .ok target)
    (known : Method.ofMessage m = .ok method) (noBody : Method.hasBody method = false)
    (extract : mapper.settings.extractPayload) (given : m.payload.parameters? = some parameters)
    (present : parameters ≠ []) (encodable : parameters.isEncodable mapper.settings.charset)
    (unread : Url.parse
        (Query.assemble target (parameters.pairTexts mapper.settings.charset)) = .error e)
    : Rests mapper m (.url e)
  /-- The charset refuses the text or the format the value for the body. -/
  | body {target method : Text} {f : Fault}
    (resolved : Target.resolve m mapper.settings.defaultUrl = .ok target)
    (known : Method.ofMessage m = .ok method) (body : Method.hasBody method)
    (refused : Payload.refusal? mapper.format mapper.settings.charset (mapper.bodyValue m) = some f)
    : Rests mapper m f

/-- A problem with the cause that it rests on, or without one if it rests on nothing, and with the
header if it is about that. -/
structure Explained (mapper : Mapper) (m : Message) (p : Problem) : Prop where
  cause : p.cause? = none ∨ ∃ f, mapper.Rests m f ∧ p.cause? = some (.fault f)
  header : ∀ v, p = .headerKind v → Target.header? m = some v

variable {mapper : Mapper} {m : Message} {target method : Text} {e : MappingError} {f : Fault}

theorem Explained.plain {p : Problem} (noCause : p.cause? = none) (other : p.kind ≠ .headerType)
    : mapper.Explained m p :=
  ⟨Or.inl noCause, fun _ same => absurd (same ▸ rfl) other⟩

theorem Explained.resting {p : Problem} (rests : mapper.Rests m f)
    (cause : p.cause? = some (.fault f)) (other : p.kind ≠ .headerType)
    : mapper.Explained m p :=
  ⟨Or.inr ⟨f, rests, cause⟩, fun _ same => absurd (same ▸ rfl) other⟩

-----------------------------------------------------------------------------------------
-- Every problem is explained, stage by stage
-----------------------------------------------------------------------------------------

/-- The message is added to a problem that does not carry it yet. -/
theorem mapping_of_withMessage {failure : Failure} (same : failure.withMessage m = .mapping e)
    (carried : ∀ d, failure = .mapping d → d.message = none ∧ mapper.Explained m d.problem)
    : e.message = some m ∧ mapper.Explained m e.problem := by
  cases failure with
  | mapping d =>
      obtain ⟨p, message⟩ := d
      obtain ⟨rfl, explained⟩ := carried _ rfl
      cases same
      exact ⟨rfl, explained⟩
  | fields errors => contradiction
  | fault f => contradiction

/-- Reads an absolute URL, with the problems of a relative one and of one that cannot be read. -/
def readAbsolute {α : Type} (t : Text) (kept : α) (relative : Problem)
    (unreadable : Url.Error → Problem) : Except Failure α :=
  match Url.parse t with
  | .ok u => if u.isAbsolute then .ok kept else .error (.ofProblem relative)
  | .error (.surrogate c) => .error (.fault (.url (.surrogate c)))
  | .error d => .error (.ofProblem (unreadable d))

/-- A relative URL is a problem without a cause, and one that cannot be read rests on the reason. -/
theorem readAbsolute_explained {α : Type} {t : Text} {kept : α} {relative : Problem}
    {unreadable : Url.Error → Problem}
    (failed : readAbsolute t kept relative unreadable = .error (.mapping e))
    (rests : ∀ d, Url.parse t = .error d → mapper.Rests m (.url d))
    (noCause : relative.cause? = none ∧ relative.kind ≠ .headerType)
    (caused : ∀ d, (unreadable d).cause? = some (.fault (.url d))
      ∧ (unreadable d).kind ≠ .headerType)
    : e.message = none ∧ mapper.Explained m e.problem := by
  rw [readAbsolute] at failed
  cases read : Url.parse t with
  | ok u =>
      simp only [read] at failed
      split at failed
      · contradiction
      · cases failed
        exact ⟨rfl, .plain noCause.1 noCause.2⟩
  | error d =>
      obtain ⟨cause, other⟩ := caused d
      cases d with
      | surrogate c =>
          simp only [read] at failed
          cases failed
      | _ =>
          simp only [read] at failed
          cases failed
          exact ⟨rfl, .resting (rests _ read) cause other⟩

theorem checkText_explained {v : Value} {t : Text} (found : Target.header? m = some v)
    (given : v = .text t ∨ ∃ p, v = .parts p ∧ p.join = t)
    (failed : Target.checkText t = .error (.mapping e))
    : e.message = none ∧ mapper.Explained m e.problem := by
  have same : Target.checkText t
      = readAbsolute t t (.relativeTarget t) (.unreadableTarget t) := rfl
  rw [same] at failed
  exact readAbsolute_explained failed (fun d => .target found given) ⟨rfl, nofun⟩
    fun d => ⟨rfl, nofun⟩

theorem resolve_explained
    (failed : Target.resolve m mapper.settings.defaultUrl = .error (.mapping e))
    : e.message = some m ∧ mapper.Explained m e.problem := by
  cases found : Target.header? m with
  | none =>
      rw [Target.resolve_of_none found] at failed
      split at failed
      · contradiction
      · cases failed
        exact ⟨rfl, .plain rfl nofun⟩
  | some v =>
      cases given : Target.ofValue v with
      | error p =>
          obtain ⟨refused, _⟩ := Target.resolve_of_error found given mapper.settings.defaultUrl
          cases refused.symm.trans failed
          cases Target.eq_headerKind_of_ofValue given
          exact ⟨rfl, Or.inl rfl, fun w same => by rw [found, Problem.headerKind.inj same]⟩
      | ok target =>
          rw [Target.resolve_of_some found given, mapError_eq_error] at failed
          obtain ⟨failure, failed, same⟩ := failed
          refine mapping_of_withMessage same fun d mapping => ?_
          subst mapping
          cases v with
          | text t =>
              cases given
              exact checkText_explained found (Or.inl rfl) failed
          | parts p =>
              cases given
              exact checkText_explained found (Or.inr ⟨p, rfl, rfl⟩) failed
          | url u =>
              cases given
              rw [Target.toText] at failed
              split at failed
              · contradiction
              · cases failed
                exact ⟨rfl, .plain rfl nofun⟩
          | _ => contradiction

theorem mapBody_explained (resolved : Target.resolve m mapper.settings.defaultUrl = .ok target)
    (known : Method.ofMessage m = .ok method) (body : Method.hasBody method)
    (sound : mapper.settings.Sound)
    (failed : mapper.mapBody (mapper.bodyValue m) target method = .error (.mapping e))
    : e.message = none ∧ mapper.Explained m e.problem := by
  rw [mapBody, bind_eq_error] at failed
  rcases failed with unwritten | ⟨c, _, undescribed⟩
  · cases refused : Payload.refusal? mapper.format mapper.settings.charset (mapper.bodyValue m) with
    | some f =>
        rcases Payload.content_of_refusal? sound.charset refused with
          ⟨noFault, p, failed, kind, cause⟩ | ⟨raised, lost⟩
        · cases failed.symm.trans unwritten
          exact ⟨rfl, .resting (.body resolved known body refused) cause (by rw [kind]; decide)⟩
        · cases (Payload.content_of_fault? lost _).symm.trans unwritten
    | none =>
        rcases Payload.content_of_no_refusal refused with ⟨c, written⟩ | ⟨f, nothing⟩
          | ⟨p, failed, kind, noCause⟩
        · cases written.symm.trans unwritten
        · cases nothing.symm.trans unwritten
        · cases failed.symm.trans unwritten
          exact ⟨rfl, .plain noCause (by rw [kind]; decide)⟩
  · obtain ⟨errors, _, same⟩ := mapError_eq_error.mp undescribed
    contradiction

theorem checkAbsolute_explained {url : Text}
    (rests : ∀ d, Url.parse url = .error d → mapper.Rests m (.url d))
    (failed : Query.checkAbsolute url = .error (.mapping e))
    : e.message = none ∧ mapper.Explained m e.problem := by
  have same : Query.checkAbsolute url
      = readAbsolute url () (.relativeQuery url) .unreadableQuery := rfl
  rw [same] at failed
  exact readAbsolute_explained failed rests ⟨rfl, nofun⟩ fun d => ⟨rfl, nofun⟩

theorem add_explained {parameters : Parameters}
    (resolved : Target.resolve m mapper.settings.defaultUrl = .ok target)
    (known : Method.ofMessage m = .ok method) (noBody : Method.hasBody method = false)
    (extract : mapper.settings.extractPayload) (sound : mapper.settings.Sound)
    (given : m.payload.parameters? = some parameters)
    (failed : Query.add target parameters mapper.settings.charset = .error (.mapping e))
    : e.message = none ∧ mapper.Explained m e.problem := by
  cases refused : parameters.refusal? mapper.settings.charset with
  | some d =>
      obtain ⟨name, unwritten⟩ := Query.add_of_refusal? target sound.charset refused
      cases unwritten.symm.trans failed
      have rests : mapper.Rests m (.charset d) :=
        .parameter resolved known noBody extract given refused
      exact ⟨rfl, .resting rests rfl nofun⟩
  | none =>
      have encodable := Parameters.refusal?_eq_none.mp refused
      by_cases present : parameters = []
      · subst present
        contradiction
      · rw [Query.add_of_isEncodable present encodable, map_eq_error] at failed
        exact checkAbsolute_explained
          (fun d => .extension resolved known noBody extract given present encodable) failed

theorem mapQuery_explained (resolved : Target.resolve m mapper.settings.defaultUrl = .ok target)
    (known : Method.ofMessage m = .ok method) (noBody : Method.hasBody method = false)
    (extract : mapper.settings.extractPayload) (sound : mapper.settings.Sound)
    (failed : mapper.mapQuery m target method = .error (.mapping e))
    : e.message = none ∧ mapper.Explained m e.problem := by
  rw [mapQuery, bind_eq_error] at failed
  rcases failed with refused | ⟨parameters, given, failed⟩
  · rcases Parameters.ofPayload_eq_error refused with ⟨p, same, kind, noCause⟩
      | ⟨before, entry, after, d, entries, taken, noText, unshown⟩
    · cases same
      exact ⟨rfl, .plain noCause (by rw [kind]; decide)⟩
    · cases (Parameters.ofPayload_of_unshown entries taken noText unshown).symm.trans refused
  · rw [bind_eq_error] at failed
    rcases failed with unadded | ⟨extended, _, undescribed⟩
    · exact add_explained resolved known noBody extract sound
        (Parameters.ofPayload_eq_ok.mp given) unadded
    · obtain ⟨errors, _, same⟩ := mapError_eq_error.mp undescribed
      contradiction

theorem assemble_explained (resolved : Target.resolve m mapper.settings.defaultUrl = .ok target)
    (known : Method.ofMessage m = .ok method) (sound : mapper.settings.Sound)
    (failed : mapper.assemble m target method = .error (.mapping e))
    : e.message = none ∧ mapper.Explained m e.problem := by
  cases body : Method.hasBody method with
  | true =>
      rw [assemble_of_hasBody body] at failed
      split at failed
      · cases failed
        exact ⟨rfl, .plain rfl nofun⟩
      · exact mapBody_explained resolved known body sound failed
  | false =>
      rw [assemble_of_not_hasBody body] at failed
      split at failed
      · rename_i extract
        exact mapQuery_explained resolved known body extract sound failed
      · cases failed
        exact ⟨rfl, .plain rfl nofun⟩

/-- A mapping error carries the message and is explained, whichever stage it comes from. -/
theorem map_explained (sound : mapper.settings.Sound) (failed : mapper.map m = .error (.mapping e))
    : e.message = some m ∧ mapper.Explained m e.problem := by
  rw [map, bind_eq_error] at failed
  rcases failed with unresolved | ⟨target, resolved, failed⟩
  · exact resolve_explained unresolved
  · rw [bind_eq_error] at failed
    rcases failed with unknown | ⟨method, known, failed⟩
    · obtain ⟨f, _, same⟩ := mapError_eq_error.mp unknown
      contradiction
    · obtain ⟨failure, failed, same⟩ := mapError_eq_error.mp failed
      refine mapping_of_withMessage same fun d mapping => ?_
      exact assemble_explained resolved (mapError_eq_ok.mp known) sound (mapping ▸ failed)

-----------------------------------------------------------------------------------------
-- What an error can rest on shows in every error
-----------------------------------------------------------------------------------------

theorem cause_of_assemble {p : Problem}
    (resolved : Target.resolve m mapper.settings.defaultUrl = .ok target)
    (known : Method.ofMessage m = .ok method)
    (assembled : mapper.assemble m target method = .error (.ofProblem p))
    (cause : p.cause? = some (.fault f)) (failed : mapper.map m = .error (.mapping e))
    : e.problem.cause? = some (.fault f) := by
  rw [map_of_known resolved known, assembled] at failed
  cases failed
  exact cause

/-- A target that cannot be read with its parameters ends the mapping with the reason, be it as the
cause of a problem or as a fault. -/
theorem cause_of_extension {extended : Text} {d : Url.Error}
    (resolved : Target.resolve m mapper.settings.defaultUrl = .ok target)
    (known : Method.ofMessage m = .ok method) (unread : Url.parse extended = .error d)
    (assembled : mapper.assemble m target method
      = (Query.checkAbsolute extended).bind fun _ => describe extended method none)
    (failed : mapper.map m = .error (.mapping e))
    : e.problem.cause? = some (.fault (.url d)) := by
  rw [map_of_known resolved known, assembled, Query.checkAbsolute, unread] at failed
  cases d <;> cases failed <;> rfl

/-- A value that is refused is not missing, so it goes on to the body. -/
theorem payload_given_of_refusal?
    (refused : Payload.refusal? mapper.format mapper.settings.charset (mapper.bodyValue m) = some f)
    : (mapper.settings.extractPayload && m.payload.isNull) = false := by
  refine payload_given_of_bodyValue ?_
  cases missing : mapper.bodyValue m with
  | null =>
      rw [missing] at refused
      contradiction
  | _ => rfl

/-- Whatever an error can rest on is the cause of every error of the mapping. -/
theorem cause_of_rests (rests : mapper.Rests m f) (sound : mapper.settings.Sound)
    (failed : mapper.map m = .error (.mapping e))
    : e.problem.cause? = some (.fault f) := by
  cases rests with
  | @target v t d found given unread =>
      have resolved : Target.resolve m mapper.settings.defaultUrl
          = (Target.checkText t).mapError (.withMessage m) := by
        rcases given with rfl | ⟨p, rfl, rfl⟩ <;> rw [Target.resolve_of_some found rfl] <;> rfl
      rw [map, resolved, Target.checkText, unread] at failed
      cases d <;> cases failed <;> rfl
  | @parameter target method parameters d resolved known noBody extract given refused =>
      obtain ⟨name, unadded⟩ := Query.add_of_refusal? target sound.charset refused
      have assembled : mapper.assemble m target method
          = .error (.ofProblem (.parameterNotEncodable name mapper.settings.charset
              (.charset d))) := by
        rw [assemble_of_not_hasBody noBody, if_pos extract, mapQuery_of_parameters given, unadded]
        rfl
      exact cause_of_assemble resolved known assembled rfl failed
  | @extension target method parameters d resolved known noBody extract given present encodable
      unread =>
      refine cause_of_extension resolved known unread ?_ failed
      rw [assemble_of_not_hasBody noBody, if_pos extract, mapQuery_of_parameters given,
        Query.add_of_isEncodable present encodable]
      cases Query.checkAbsolute _ <;> rfl
  | @body target method f resolved known body refused =>
      rcases Payload.content_of_refusal? sound.charset refused with
        ⟨_, p, unwritten, _, cause⟩ | ⟨raised, lost⟩
      · refine cause_of_assemble resolved known ?_ cause failed
        rw [assemble_of_hasBody body, payload_given_of_refusal? refused, mapBody, unwritten]
        rfl
      · rw [map_of_known resolved known, assemble_of_hasBody body,
          payload_given_of_refusal? refused, mapBody, Payload.content_of_fault? lost] at failed
        cases failed

/-- A mapping error carries the message that was mapped. Its cause is what it rests on, and it has
none if it rests on nothing. An error about the kind of a header carries the header.
-/
theorem error_of_map (reached : mapper.Reachable) (failed : mapper.map m = .error (.mapping e))
    : e.message = some m
      ∧ (∀ c, e.problem.cause? = some c ↔ ∃ f, mapper.Rests m f ∧ c = .fault f)
      ∧ (e.problem.kind = .headerType
          → ∃ v, e.problem = .headerKind v ∧ Target.header? m = some v) := by
  obtain ⟨message, explained⟩ := map_explained reached.sound failed
  refine ⟨message, fun c => ⟨fun caused => ?_, ?_⟩, fun kind => ?_⟩
  · rcases explained.cause with noCause | ⟨f, rests, cause⟩
    · rw [noCause] at caused
      contradiction
    · rw [cause] at caused
      exact ⟨f, rests, (Option.some.inj caused).symm⟩
  · rintro ⟨f, rests, rfl⟩
    exact cause_of_rests rests reached.sound failed
  · cases about : e.problem with
    | headerKind v => exact ⟨v, rfl, explained.header v about⟩
    | _ => simp [about, Problem.kind] at kind

end

/-- A message of text that is no ASCII. -/
def accentedBody : Message where
  payload := .text (text "é")
  headers := [(targetHeader, .text (text "http://a/"))]
  given := ⟨true, true, []⟩

theorem error_of_accentedBody
    : asciiMapper.Reachable
      ∧ ∃ e d, asciiMapper.map accentedBody = .error (.mapping e)
          ∧ Charset.encode (text "us-ascii") (text "é") = .error d
          ∧ e.message = some accentedBody ∧ e.problem.cause? = some (.fault (.charset d)) := by
  have resolved : Target.resolve accentedBody none = .ok (text "http://a/") :=
    eq_ok_of_toOption (by decide +kernel)
  have known : Method.ofMessage accentedBody = .ok (text "POST") := rfl
  have unwritten : (Charset.encode (text "us-ascii") (text "é")).isOk = false := by decide +kernel
  obtain ⟨d, unwritten⟩ := isOk_eq_false.mp unwritten
  have given : asciiMapper.bodyValue accentedBody = .text (text "é") := rfl
  have refused : Payload.refusal? asciiMapper.format asciiMapper.settings.charset
      (asciiMapper.bodyValue accentedBody) = some (.charset d) := by
    have charset : asciiMapper.settings.charset = text "us-ascii" := rfl
    rw [given, charset, Payload.refusal?, unwritten]
    rfl
  have rests : asciiMapper.Rests accentedBody (.charset d) :=
    .body resolved known (by decide) refused
  have noFault : ¬∃ raised,
      Payload.fault? asciiMapper.format (asciiMapper.bodyValue accentedBody) = some raised := by
    simp [given, Payload.fault?]
  obtain ⟨_, p, noContent, _⟩ :=
    (Payload.content_of_refusal? reachable_asciiMapper.sound.charset refused).resolve_right noFault
  have failed : asciiMapper.map accentedBody = .error (.mapping ⟨p, some accentedBody⟩) := by
    rw [map_of_known resolved known, assemble_of_hasBody (by decide),
      payload_given_of_refusal? refused, mapBody, noContent]
    rfl
  obtain ⟨message, cause, _⟩ := error_of_map reachable_asciiMapper failed
  exact ⟨reachable_asciiMapper, _, d, failed, unwritten, message, (cause _).mpr ⟨_, rests, rfl⟩⟩

end Dispatch.Mapper
