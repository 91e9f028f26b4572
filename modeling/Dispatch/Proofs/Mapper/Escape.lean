import Dispatch.Proofs.Mapper.Assembly
import Dispatch.Proofs.Mapper.Reachable
import Dispatch.Proofs.Target

/-! Which mappings end in anything but a descriptor or a documented problem. There are six ways, and
each comes from a header, a key or a payload that no check expects. All other faults are caught.
-/

namespace Dispatch.Mapper

open Dispatch.Result

/-- The kinds of problems that a mapping is documented to end with. -/
def documentedKinds : List Problem.Kind :=
  [.unresolvedTarget, .malformedTarget, .headerType, .missingPayload, .payloadShape, .payloadType,
    .method]

/-- A computation that ends well or with a documented problem. -/
def EndsTyped {α : Type} (carried : Option Message) (result : Except Failure α) : Prop :=
  ∃ kind, Ends carried result kind ∧ ∀ k ∈ kind, k ∈ documentedKinds

section

variable [Platform]

/-- The way of a message leaves the target as it is: the body is written, or no parameter is there.
-/
def KeepsTarget (mapper : Mapper) (m : Message) (method : Text) : Prop :=
  (Method.hasBody method
      ∧ Payload.isWritable mapper.format mapper.settings.charset (mapper.bodyValue m))
    ∨ (Method.hasBody method = false ∧ mapper.settings.extractPayload
      ∧ m.payload.parameters? = some [])

/-- The messages that a mapper fails on without a documented problem. -/
inductive Escapes (mapper : Mapper) (m : Message) : Prop
  /-- Reading the header comes upon a surrogate. -/
  | surrogate {v : Value} {t : Text} {c : CodePoint} (found : Target.header? m = some v)
    (given : v = .text t ∨ ∃ p, v = .parts p ∧ p.join = t)
    (read : Url.parse t = .error (.surrogate c))
  /-- The header that gives the method has no plain form. -/
  | method {target : Text} {v : Value} {e : Value.ShowError}
    (resolved : Target.resolve m mapper.settings.defaultUrl = .ok target)
    (found : m.header? Method.header = some v) (given : v.isNull = false)
    (unshown : v.plain = .error e)
  /-- The first key of the payload that does not fit has no written form. -/
  | key {target method : Text} {before after : List (Value × Value)} {entry : Value × Value}
    {e : Value.ShowError} (resolved : Target.resolve m mapper.settings.defaultUrl = .ok target)
    (known : Method.ofMessage m = .ok method) (noBody : Method.hasBody method = false)
    (extract : mapper.settings.extractPayload)
    (given : m.payload.entries? = some (before ++ entry :: after))
    (taken : ∀ other ∈ before, (Value.parameter? other).isSome)
    (noText : entry.1.asText? = none) (unshown : entry.1.shown = .error e)
  /-- The text of a URL in the header does not read as an absolute URL itself. -/
  | address {u : Url} {method : Text} (found : Target.header? m = some (.url u))
    (named : u.isAbsolute) (known : Method.ofMessage m = .ok method)
    (unread : Url.isAbsoluteText u.render ≠ .ok true) (kept : mapper.KeepsTarget m method)
  /-- Reading the text of a URL in the header, extended by parameters, comes upon a surrogate. -/
  | extension {u : Url} {method : Text} {parameters : Parameters} {c : CodePoint}
    (found : Target.header? m = some (.url u)) (named : u.isAbsolute)
    (known : Method.ofMessage m = .ok method) (noBody : Method.hasBody method = false)
    (extract : mapper.settings.extractPayload)
    (given : m.payload.parameters? = some parameters) (present : parameters ≠ [])
    (encodable : parameters.isEncodable mapper.settings.charset)
    (read : Url.parse
        (Query.assemble u.render (parameters.pairTexts mapper.settings.charset))
      = .error (.surrogate c))
  /-- The bytes of a view that was released, or the text of a format's error, are asked for in vain.
  -/
  | content {target method : Text} {f : Fault}
    (resolved : Target.resolve m mapper.settings.defaultUrl = .ok target)
    (known : Method.ofMessage m = .ok method) (body : Method.hasBody method)
    (lost : Payload.fault? mapper.format (mapper.bodyValue m) = some f)

variable {mapper : Mapper} {m : Message} {target method : Text}

omit [Platform] in
theorem EndsTyped.withMessage {α : Type} {result : Except Failure α}
    (typed : EndsTyped none result) (m : Message)
    : EndsTyped (some m) (result.mapError (.withMessage m)) := by
  obtain ⟨kind, ends, documented⟩ := typed
  exact ⟨kind, ends.withMessage m, documented⟩

omit [Platform] in
theorem EndsTyped.ok {α : Type} (carried : Option Message) (a : α)
    : EndsTyped carried (.ok a) :=
  ⟨none, ⟨a, rfl⟩, by simp⟩

omit [Platform] in
theorem EndsTyped.problem {α : Type} (carried : Option Message) {p : Problem}
    (documented : p.kind ∈ documentedKinds)
    : EndsTyped carried (.error (.mapping ⟨p, carried⟩) : Except Failure α) :=
  ⟨some p.kind, ⟨p, rfl, rfl⟩, fun _ same => Option.some.inj same ▸ documented⟩

omit [Platform] in
theorem Ends.typed {α : Type} {carried : Option Message} {result : Except Failure α}
    {kind : Problem.Kind} (ends : Ends carried result (some kind))
    (documented : kind ∈ documentedKinds)
    : EndsTyped carried result :=
  ⟨some kind, ends, fun _ same => Option.some.inj same ▸ documented⟩

-----------------------------------------------------------------------------------------
-- Whatever does not escape ends well or as documented
-----------------------------------------------------------------------------------------

/-- Where a resolved target comes from: it was read, or it is the text of a URL in the header. -/
def Known (m : Message) (target : Text) : Prop :=
  Url.isAbsoluteText target = .ok true
    ∨ ∃ u, Target.header? m = some (.url u) ∧ u.isAbsolute ∧ u.render = target

/-- How the target of a message may come out. -/
inductive Resolution (mapper : Mapper) (m : Message) : Prop
  | resolved {target : Text} (taken : Target.resolve m mapper.settings.defaultUrl = .ok target)
    (origin : Known m target)
  | refused {kind : Problem.Kind} (documented : kind ∈ documentedKinds)
    (ends : Ends (some m) (Target.resolve m mapper.settings.defaultUrl) (some kind))
  | escaped (escapes : mapper.Escapes m)

/-- The text of a header is taken, refused as documented, or escapes by a surrogate. -/
theorem resolution_of_text {v : Value} {given : Target} {t : Text}
    (found : Target.header? m = some v) (kind : Target.ofValue v = .ok given)
    (checked : given.toText = Target.checkText t)
    (origin : v = .text t ∨ ∃ p, v = .parts p ∧ p.join = t)
    : Resolution mapper m := by
  have resolved := Target.resolve_of_some found kind mapper.settings.defaultUrl
  rw [checked] at resolved
  rcases Target.checkText_cases t with ⟨kept, read⟩ | ⟨p, refused, malformed, _⟩
    | ⟨c, _, surrogate⟩
  · exact .resolved (by rw [resolved, kept, mapError_ok]) (Or.inl read)
  · exact .refused (by decide) ⟨p, by rw [resolved, refused]; rfl, malformed⟩
  · exact .escaped (.surrogate found origin surrogate)

/-- A target is resolved, refused as documented, or escapes by a surrogate, whatever the header. -/
theorem resolution (sound : mapper.settings.Sound) : Resolution mapper m := by
  cases found : Target.header? m with
  | none =>
      have resolved := Target.resolve_of_none found mapper.settings.defaultUrl
      cases fallback : mapper.settings.defaultUrl with
      | none =>
          rw [fallback] at resolved
          exact .refused (by decide) ⟨.noTarget, by rw [fallback, resolved], rfl⟩
      | some t =>
          rw [fallback] at resolved
          exact .resolved (by rw [fallback, resolved]) (Or.inl (sound.defaultUrl t fallback))
  | some v =>
      cases given : Target.ofValue v with
      | error p =>
          obtain ⟨failed, kind⟩ := Target.resolve_of_error found given mapper.settings.defaultUrl
          exact .refused (by decide) ⟨p, failed, kind⟩
      | ok target =>
          cases v with
          | text t => exact resolution_of_text found rfl rfl (Or.inl rfl)
          | parts p => exact resolution_of_text found rfl rfl (Or.inr ⟨p, rfl, rfl⟩)
          | url u =>
              have resolved := Target.resolve_of_some found rfl mapper.settings.defaultUrl
              rw [Target.toText] at resolved
              cases named : u.isAbsolute with
              | true =>
                  rw [named] at resolved
                  exact .resolved resolved (Or.inr ⟨u, found, named, rfl⟩)
              | false =>
                  rw [named] at resolved
                  have documented : Problem.Kind.malformedTarget ∈ documentedKinds := by decide
                  exact .refused documented ⟨.relativeTarget u.render, resolved, rfl⟩
          | _ => simp [Target.ofValue] at given

/-- What is left as it is becomes a descriptor, unless it is the text of a URL that escapes. -/
theorem escapes_of_kept (origin : Known m target) (known : Method.ofMessage m = .ok method)
    (kept : mapper.KeepsTarget m method)
    : Url.isAbsoluteText target = .ok true ∨ mapper.Escapes m := by
  by_cases read : Url.isAbsoluteText target = .ok true
  · exact Or.inl read
  · obtain ⟨u, found, named, rfl⟩ := origin.resolve_left read
    exact Or.inr (.address found named known read kept)

theorem assemble_body_cases (sound : mapper.settings.Sound) (writes : mapper.format.WritesBytes)
    (resolved : Target.resolve m mapper.settings.defaultUrl = .ok target)
    (origin : Known m target) (known : Method.ofMessage m = .ok method)
    (body : Method.hasBody method)
    : EndsTyped none (mapper.assemble m target method) ∨ mapper.Escapes m := by
  rw [assemble_of_hasBody body]
  split
  · have documented : (Problem.noPayload method).kind ∈ documentedKinds := by
      rw [Problem.kind]
      decide
    exact Or.inl (.problem none documented)
  · cases writable : Payload.isWritable mapper.format mapper.settings.charset
        (mapper.bodyValue m) with
    | false =>
        cases lost : Payload.fault? mapper.format (mapper.bodyValue m) with
        | some f => exact Or.inr (.content resolved known body lost)
        | none => exact Or.inl ((mapBody_of_not_isWritable sound lost writable).typed (by decide))
    | true =>
        have kept : mapper.KeepsTarget m method := Or.inl ⟨body, writable⟩
        refine (escapes_of_kept origin known kept).imp_left fun absolute => ?_
        obtain ⟨d, done⟩ :=
          mapBody_of_isAbsolute writes writable absolute (Method.valid_of_ofMessage known)
        rw [done]
        exact .ok none d

/-- Parameters that are there extend the target, which is then read again. -/
theorem mapQuery_of_present {parameters : Parameters}
    (given : m.payload.parameters? = some parameters) (present : parameters ≠ [])
    (encodable : parameters.isEncodable mapper.settings.charset)
    : mapper.mapQuery m target method
      = ((Query.checkAbsolute (Query.assemble target
          (parameters.pairTexts mapper.settings.charset))).map fun _ =>
            Query.assemble target (parameters.pairTexts mapper.settings.charset)).bind
        fun extended => describe extended method none := by
  rw [mapQuery_of_parameters given, Query.add_of_isEncodable present encodable]

theorem mapQuery_present_cases {parameters : Parameters} (origin : Known m target)
    (known : Method.ofMessage m = .ok method) (noBody : Method.hasBody method = false)
    (extract : mapper.settings.extractPayload)
    (given : m.payload.parameters? = some parameters) (present : parameters ≠ [])
    (encodable : parameters.isEncodable mapper.settings.charset)
    : EndsTyped none (mapper.mapQuery m target method) ∨ mapper.Escapes m := by
  rw [mapQuery_of_present given present encodable]
  rcases Query.checkAbsolute_cases (Query.assemble target
      (parameters.pairTexts mapper.settings.charset)) with
    ⟨whole, absolute⟩ | ⟨p, refused, kind⟩ | ⟨c, _, surrogate⟩
  · have done := describe_none absolute (Method.valid_of_ofMessage known)
    rw [whole, map_ok, Except.bind, done]
    exact Or.inl (.ok none _)
  · rw [refused]
    exact Or.inl (.problem none (by rw [kind]; decide))
  · -- A target that was read stays free of surrogates, which leaves a URL in the header.
    refine Or.inr ?_
    rcases origin with absolute | ⟨u, found, named, rfl⟩
    · obtain ⟨u, read, _⟩ := Url.isAbsoluteText_eq_true.mp absolute
      exact absurd surrogate (Query.parse_assemble_ne_surrogate
        (fun p => Query.isPairText_of_mem_pairTexts) read c)
    · exact .extension found named known noBody extract given present encodable surrogate

/-- Parameters end as documented, unless they are those of a URL that escapes. -/
theorem mapQuery_parameters_cases {parameters : Parameters} (sound : mapper.settings.Sound)
    (origin : Known m target) (known : Method.ofMessage m = .ok method)
    (noBody : Method.hasBody method = false) (extract : mapper.settings.extractPayload)
    (given : m.payload.parameters? = some parameters)
    : EndsTyped none (mapper.mapQuery m target method) ∨ mapper.Escapes m := by
  cases encodable : parameters.isEncodable mapper.settings.charset with
  | false =>
      exact Or.inl ((mapQuery_of_not_isEncodable sound given encodable).typed (by decide))
  | true =>
      by_cases empty : parameters = []
      · have kept : mapper.KeepsTarget m method := Or.inr ⟨noBody, extract, empty ▸ given⟩
        refine (escapes_of_kept origin known kept).imp_left fun absolute => ?_
        have done : mapper.mapQuery m target method = .ok ⟨target, method, none, []⟩ := by
          rw [mapQuery_of_parameters given, empty]
          exact describe_none absolute (Method.valid_of_ofMessage known)
        rw [done]
        exact .ok none _
      · exact mapQuery_present_cases origin known noBody extract given empty encodable

theorem assemble_query_cases (sound : mapper.settings.Sound)
    (resolved : Target.resolve m mapper.settings.defaultUrl = .ok target)
    (origin : Known m target) (known : Method.ofMessage m = .ok method)
    (noBody : Method.hasBody method = false)
    : EndsTyped none (mapper.assemble m target method) ∨ mapper.Escapes m := by
  rw [assemble_of_not_hasBody noBody]
  cases extract : mapper.settings.extractPayload with
  | false =>
      have documented : (Problem.methodWithoutBody method).kind ∈ documentedKinds := by
        rw [Problem.kind]
        decide
      exact Or.inl (.problem none documented)
  | true =>
      simp only [if_true]
      cases given : m.payload.parameters? with
      | some parameters =>
          exact mapQuery_parameters_cases sound origin known noBody extract given
      | none =>
          rcases @mapQuery_of_none _ mapper m target method given with
            ends | ⟨before, entry, after, e, entries, taken, noText, unshown⟩
          · exact Or.inl (ends.typed (by decide))
          · exact Or.inr
              (.key resolved known noBody extract entries taken noText unshown)

/-- Every mapping ends typed or escapes, stage by stage. -/
theorem endsTyped_or_escapes (sound : mapper.settings.Sound) (writes : mapper.format.WritesBytes)
    : EndsTyped (some m) (mapper.map m) ∨ mapper.Escapes m := by
  have stage : Resolution mapper m := resolution sound
  cases stage with
  | refused documented ends =>
      obtain ⟨p, failed, kind⟩ := ends
      rw [map, failed, error_bind]
      exact Or.inl (.problem (some m) (kind ▸ documented))
  | escaped escapes => exact Or.inr escapes
  | @resolved target taken origin =>
      cases known : Method.ofMessage m with
      | error f =>
          obtain ⟨v, e, found, given, unshown, _⟩ := Method.ofMessage_eq_error.mp known
          exact Or.inr (.method taken found given unshown)
      | ok method =>
          rw [map_of_known taken known]
          have way : EndsTyped none (mapper.assemble m target method) ∨ mapper.Escapes m := by
            cases body : Method.hasBody method with
            | true => exact assemble_body_cases sound writes taken origin known body
            | false => exact assemble_query_cases sound taken origin known body
          exact way.imp_left fun typed => typed.withMessage m

-----------------------------------------------------------------------------------------
-- Whatever escapes is not caught later
-----------------------------------------------------------------------------------------

/-- A failure that is no mapping error. -/
def IsUntyped : Failure → Prop
  | .mapping _ => False
  | .fields _ => True
  | .fault _ => True

omit [Platform] in
theorem resolve_of_url {u : Url} (found : Target.header? m = some (.url u)) (named : u.isAbsolute)
    (fallback : Option Text)
    : Target.resolve m fallback = .ok u.render := by
  rw [Target.resolve_of_some found rfl, Target.toText, if_pos named, mapError_ok]

/-- What escapes on the way is not caught at its end. -/
theorem map_of_untyped {f : Failure} (untyped : IsUntyped f)
    (resolved : Target.resolve m mapper.settings.defaultUrl = .ok target)
    (known : Method.ofMessage m = .ok method) (failed : mapper.assemble m target method = .error f)
    : ∃ f, IsUntyped f ∧ mapper.map m = .error f := by
  refine ⟨f, untyped, ?_⟩
  rw [map_of_known resolved known, failed]
  cases f with
  | mapping e => exact untyped.elim
  | fields errors => rfl
  | fault f => rfl

theorem Escapes.untyped (escapes : mapper.Escapes m) (writes : mapper.format.WritesBytes)
    : ∃ f, IsUntyped f ∧ mapper.map m = .error f := by
  cases escapes with
  | @surrogate v t c found given read =>
      have failed : Target.checkText t = .error (.fault (.url (.surrogate c))) := by
        rw [Target.checkText, read]
      refine ⟨.fault (.url (.surrogate c)), trivial, ?_⟩
      rcases given with rfl | ⟨p, rfl, rfl⟩
      · rw [map, Target.resolve_of_some found rfl, Target.toText, failed]
        rfl
      · rw [map, Target.resolve_of_some found rfl, Target.toText, failed]
        rfl
  | @method target v e resolved found given unshown =>
      have unknown := Method.ofMessage_eq_error.mpr ⟨v, e, found, given, unshown, rfl⟩
      refine ⟨.fault (.shown e), trivial, ?_⟩
      rw [map, resolved, unknown]
      rfl
  | @key target method before after entry e resolved known noBody extract given taken noText
      unshown =>
      refine map_of_untyped (f := .fault (.shown e)) trivial resolved known ?_
      rw [assemble_of_not_hasBody noBody, if_pos extract]
      exact mapQuery_of_unshown given taken noText unshown
  | @address u method found named known unread kept =>
      have resolved := resolve_of_url found named mapper.settings.defaultUrl
      have failed : ∃ errors, mapper.assemble m u.render method = .error (.fields errors) := by
        rcases kept with ⟨body, writable⟩ | ⟨noBody, extract, given⟩
        · have given : (mapper.bodyValue m).isNull = false := by
            cases missing : mapper.bodyValue m with
            | null => simp [missing, Payload.isWritable] at writable
            | _ => rfl
          rw [assemble_of_hasBody body, payload_given_of_bodyValue given]
          exact mapBody_of_not_isAbsolute writes writable unread method
        · rw [assemble_of_not_hasBody noBody, if_pos extract, mapQuery_of_parameters given]
          exact describe_eq_error unread method none
      obtain ⟨errors, failed⟩ := failed
      exact map_of_untyped (f := .fields errors) trivial resolved known failed
  | @extension u method parameters c found named known noBody extract given present encodable
      read =>
      have resolved := resolve_of_url found named mapper.settings.defaultUrl
      refine map_of_untyped (f := .fault (.url (.surrogate c))) trivial resolved known ?_
      rw [assemble_of_not_hasBody noBody, if_pos extract,
        mapQuery_of_present given present encodable, Query.checkAbsolute, read]
      rfl
  | @content target method f resolved known body lost =>
      have given : (mapper.bodyValue m).isNull = false := by
        cases missing : mapper.bodyValue m with
        | null => simp [missing, Payload.fault?] at lost
        | _ => rfl
      refine map_of_untyped (f := .fault f) trivial resolved known ?_
      rw [assemble_of_hasBody body, payload_given_of_bodyValue given, mapBody,
        Payload.content_of_fault? lost]
      rfl

/-- A mapping gives a descriptor or a documented problem that carries the message, unless the
message escapes, and then it gives neither. -/
theorem map_typed_iff_not_escapes (reached : mapper.Reachable) (writes : mapper.format.WritesBytes)
    : ((∃ d, mapper.map m = .ok d)
        ∨ ∃ p, mapper.map m = .error (.mapping ⟨p, some m⟩) ∧ p.kind ∈ documentedKinds)
      ↔ ¬mapper.Escapes m := by
  constructor
  · intro typed escapes
    obtain ⟨f, untyped, failed⟩ := escapes.untyped writes
    rw [failed] at typed
    rcases typed with ⟨d, impossible⟩ | ⟨p, same, _⟩
    · simp at impossible
    · rw [Except.error.inj same] at untyped
      exact untyped
  · intro noEscape
    obtain ⟨kind, ends, documented⟩ :=
      (endsTyped_or_escapes reached.sound writes).resolve_right noEscape
    cases kind with
    | none => exact Or.inl ends
    | some kind =>
        obtain ⟨p, failed, same⟩ := ends
        exact Or.inr ⟨p, failed, same ▸ documented kind rfl⟩

end

/-- A message for a URL that ends in a lone surrogate. -/
def surrogateTarget : Message where
  payload := .text (text "a")
  headers := [(targetHeader, .text (text "http://a/" ++ [CodePoint.ofNat 0xd800]))]
  given := ⟨true, true, []⟩

theorem map_surrogateTarget
    : asciiMapper.Reachable ∧ asciiMapper.format.WritesBytes
      ∧ ¬((∃ d, asciiMapper.map surrogateTarget = .ok d)
        ∨ ∃ p, asciiMapper.map surrogateTarget = .error (.mapping ⟨p, some surrogateTarget⟩)
            ∧ p.kind ∈ documentedKinds) := by
  have writes : asciiMapper.format.WritesBytes := ObjectFormat.writesBytes_json
  have escapes : asciiMapper.Escapes surrogateTarget :=
    .surrogate rfl (Or.inl rfl) (c := CodePoint.ofNat 0xd800) (by decide +kernel)
  refine ⟨reachable_asciiMapper, writes, ?_⟩
  exact fun typed => (map_typed_iff_not_escapes reachable_asciiMapper writes).mp typed escapes

end Dispatch.Mapper
