import Dispatch.Proofs.Charset.Standard
import Dispatch.Proofs.Mapper.Outcome
import Dispatch.Proofs.Query.Reader
import Dispatch.Proofs.Request

/-! Payloads on the wire. What the query of a request reads as is the payload that was mapped, name
by name and value by value, through form encoding, assembly and the normal form of URLs.
-/

namespace Dispatch.Mapper

open Dispatch.Result
open Dispatch.Url (queryText)

section

variable [Platform] {mapper : Mapper} {m : Message} {target method : Text} {d : Descriptor}

/-- A payload in the query gives parameters, and the descriptor is their URL alone. -/
theorem map_query_eq_ok (extract : mapper.settings.extractPayload)
    (resolved : Target.resolve m mapper.settings.defaultUrl = .ok target)
    (known : Method.ofMessage m = .ok method) (noBody : Method.hasBody method = false)
    (mapped : mapper.map m = .ok d)
    : ∃ parameters, m.payload.parameters? = some parameters
        ∧ Query.add target parameters mapper.settings.charset = .ok d.target
        ∧ Url.isAbsoluteText d.target = .ok true
        ∧ d.contentType = none ∧ d.body = [] := by
  rw [map_of_known resolved known, mapError_eq_ok, assemble_of_not_hasBody noBody,
    if_pos extract] at mapped
  obtain ⟨parameters, extended, given, added, described⟩ := mapQuery_eq_ok mapped
  obtain ⟨absolute, same, _, noType, empty⟩ := describe_eq_ok described
  rw [← same] at added absolute
  exact ⟨parameters, given, added, absolute, noType, (Except.ok.inj empty).symm⟩

/-- Parameters are all that stands in the query of a target that had none. -/
theorem queryText_of_add {charset result : Text} {parameters : Parameters}
    (noQuery : CodePoint.ofChar '?' ∉ target)
    (added : Query.add target parameters charset = .ok result)
    : queryText result = Text.joinWith (text "&") (parameters.pairTexts charset) := by
  have bare : queryText target = [] := by
    rw [queryText, Url.queryText?_of_not_mem noQuery, Option.getD_none]
  obtain ⟨_, query⟩ := Query.add_eq_ok added
  rw [query, bare]
  split
  · rename_i empty
    rw [List.isEmpty_iff.mp empty]
    rfl
  · rfl

omit [Platform] in
/-- A query of pairs is in normal form already. -/
theorem escape_joinWith {pairs : List Text} (fits : ∀ p ∈ pairs, Query.IsPairText p)
    : Escape.escape Escape.inQuery (Text.joinWith (text "&") pairs)
      = Text.joinWith (text "&") pairs := by
  refine Url.escape_eq_self fun c member => ?_
  have added : Query.isAddedCharacter c := by
    rcases Text.mem_joinWith member with separator | ⟨p, listed, inside⟩
    · rw [show text "&" = [CodePoint.ofChar '&'] from rfl, List.mem_singleton] at separator
      rw [separator]
      decide
    · simp [Query.isAddedCharacter, (fits p listed).characters c inside]
  exact (Query.plain_of_isAddedCharacter added).2.2

/-- A payload that a mapper puts into the query of a target without one is what the query of the
request reads as, names and values in their order. There is such a request exactly if the host of
the target can be written in a header and has a readable form where it is marked to have one. -/
theorem readQuery_of_map (extract : mapper.settings.extractPayload)
    (utf8 : Charset.find? mapper.settings.charset = some (.utf8 false))
    (resolved : Target.resolve m mapper.settings.defaultUrl = .ok target)
    (noQuery : CodePoint.ofChar '?' ∉ target) (known : Method.ofMessage m = .ok method)
    (noBody : Method.hasBody method = false) (mapped : mapper.map m = .ok d)
    : ∃ u parameters, Url.parse d.target = .ok u
        ∧ m.payload.parameters? = some parameters
        ∧ Query.readQuery? (u.query.getD []) = some parameters.toPairs
        ∧ (∀ r, Request.ofDescriptor d [] = .ok r →
          r.url = u ∧ Query.readQuery? (r.url.query.getD []) = some parameters.toPairs)
        ∧ ((∃ r, Request.ofDescriptor d [] = .ok r) ↔ u.HasReadableHost) := by
  obtain ⟨parameters, given, added, absolute, noType, _⟩ :=
    map_query_eq_ok extract resolved known noBody mapped
  obtain ⟨u, read, named⟩ := Url.isAbsoluteText_eq_true.mp absolute
  have query : u.query.getD []
      = Text.joinWith (text "&") (parameters.pairTexts mapper.settings.charset) := by
    rw [Url.query_getD_of_parse read, queryText_of_add noQuery added,
      escape_joinWith fun p => Query.isPairText_of_mem_pairTexts]
  have back : Query.readQuery? (u.query.getD []) = some parameters.toPairs := by
    rw [query]
    exact Query.readQuery?_joinWith utf8 (Query.add_eq_ok added).1
  refine ⟨u, parameters, read, given, back, fun r made => ?_, ?_⟩
  · have same := Request.parse_of_ofDescriptor made
    rw [read] at same
    cases same
    exact ⟨rfl, back⟩
  · rw [Request.ofDescriptor_isOk_iff read named, noType, Request.hostHeader_isOk_iff]
    exact and_iff_right nofun

end

-----------------------------------------------------------------------------------------
-- The round trip of a query with separators, under the standard settings
-----------------------------------------------------------------------------------------

def standardMapper : Mapper :=
  ⟨Settings.standard, .standard, 0⟩

/-- A query with separators in a value, an empty value and an empty name. -/
def separatorQuery : Message where
  payload := .map .plain [
    (.text (text "a b"), .list [.text (text "é&="), .text []]), (.text [], .text (text "1"))]
  headers := [(targetHeader, .text (text "http://a/#f")), (Method.header, .text (text "get"))]
  given := ⟨true, true, []⟩

def separatorParameters : Parameters :=
  [(text "a b", [text "é&=", []]), ([], [text "1"])]

/-- The target with the parameters in its query. -/
def separatorTarget : Text :=
  text "http://a/?a+b=%C3%A9%26%3D&a+b=&=1#f"

/-- The host of the target stands for itself. -/
theorem hasReadableHost_separatorTarget {u : Url} (read : Url.parse separatorTarget = .ok u)
    : u.HasReadableHost := by
  have host : (Url.parse separatorTarget).toOption.map (·.host) = some (text "a") := by
    decide +kernel
  rw [read] at host
  have same : u.host = text "a" := Option.some.inj host
  exact ⟨by rw [same]; decide, fun marked => by rw [same] at marked; contradiction⟩

theorem readQuery_of_separatorQuery
    : ∃ d r, standardMapper.map separatorQuery = .ok d ∧ d.target = separatorTarget
        ∧ Request.ofDescriptor d [] = .ok r
        ∧ Query.readQuery? (r.url.query.getD [])
          = some [(text "a b", text "é&="), (text "a b", []), ([], text "1")] := by
  have extract : standardMapper.settings.extractPayload = true := rfl
  have supported : Charset.isSupported standardMapper.settings.charset :=
    Charset.isSupported_standard
  have utf8 : Charset.find? standardMapper.settings.charset = some (.utf8 false) :=
    Charset.find?_standard
  have resolved : Target.resolve separatorQuery standardMapper.settings.defaultUrl
      = .ok (text "http://a/#f") :=
    eq_ok_of_toOption (by decide +kernel)
  have absolute : Url.isAbsoluteText (text "http://a/#f") = .ok true :=
    eq_ok_of_toOption (by decide +kernel)
  have known : Method.ofMessage separatorQuery = .ok (text "GET") :=
    eq_ok_of_toOption (by decide +kernel)
  have noBody : Method.hasBody (text "GET") = false := by decide +kernel
  have given : separatorQuery.payload.parameters? = some separatorParameters := rfl
  have plain : Query.Plain separatorParameters := by
    rw [Query.Plain]
    decide
  have assembled : Query.withParameters (text "http://a/#f") separatorParameters
      standardMapper.settings.charset = separatorTarget := by
    rw [Query.withParameters, Query.pairTexts_utf8 supported utf8 plain]
    decide +kernel
  have short : tooLongWith (text "http://a/#f") standardMapper.settings.charset separatorParameters
      = false := by
    rw [tooLongWith, Query.pairTexts_utf8 supported utf8 plain]
    decide +kernel
  obtain ⟨d, described⟩ := mapQuery_of_short given (Query.isEncodable_utf8 supported utf8 plain)
    absolute (Method.valid_of_ofMessage known) short
  have mapped : standardMapper.map separatorQuery = .ok d := by
    rw [map_of_known resolved known, assemble_of_not_hasBody noBody, if_pos extract, described]
    rfl
  obtain ⟨_, same, added, _⟩ := map_query_eq_ok extract resolved known noBody mapped
  rw [given] at same
  cases same
  have extended : d.target = separatorTarget :=
    (Query.eq_withParameters_of_add added).2.trans assembled
  obtain ⟨u, _, read, same, _, back, sent⟩ :=
    readQuery_of_map extract utf8 resolved (by decide +kernel) known noBody mapped
  rw [given] at same
  cases same
  obtain ⟨r, made⟩ := sent.mpr (hasReadableHost_separatorTarget (extended ▸ read))
  exact ⟨d, r, mapped, extended, made, (back r made).2⟩

end Dispatch.Mapper
