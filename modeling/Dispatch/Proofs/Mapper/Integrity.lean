import Dispatch.Proofs.Mapper.Outcome
import Dispatch.Proofs.Mapper.Reachable
import Dispatch.Proofs.Query.Isolation
import Dispatch.Proofs.Query.Merging

/-! The integrity of descriptors. Whatever the message is, its descriptor names an absolute target
and a proper method, has a content type exactly if it has a method with a body, and keeps to the
target of the message but for the query that a payload may extend.
-/

namespace Dispatch

open Dispatch.Result

namespace Query

open Dispatch.Url

variable [Platform]

/-- Parameters that are added leave what stands before the query and the fragment as they are. -/
theorem parts_of_add {url charset result : Text} {parameters : Parameters}
    (added : add url parameters charset = .ok result)
    : pathText result = pathText url ∧ fragmentText? result = fragmentText? url := by
  obtain ⟨_, rfl⟩ := eq_withParameters_of_add added
  rw [withParameters]
  split
  · exact ⟨rfl, rfl⟩
  · exact parts_assemble (fun p => isPairText_of_mem_pairTexts) url

end Query

namespace Mapper

open Dispatch.Url (pathText fragmentText?)

section

variable [Platform] {mapper : Mapper} {m : Message} {d : Descriptor}

omit [Platform] in
/-- A method has a body if it is one of two. -/
theorem hasBody_iff {method : Text}
    : Method.hasBody method ↔ method = text "POST" ∨ method = text "PUT" := by
  rw [Method.hasBody, List.contains_iff_mem, Method.withBody, List.mem_cons, List.mem_singleton]

omit [Platform] in
/-- The length of a body is announced if there is one. -/
theorem mem_headers_contentLength_iff {d : Descriptor} {n : Text}
    : (text "Content-Length", n) ∈ d.headers ↔ d.body ≠ [] ∧ n = Text.ofNat d.contentLength := by
  have other : text "Content-Length" ≠ text "Content-Type" := by decide
  rw [Descriptor.headers]
  cases d.contentType <;> cases d.body <;> simp [other]

/-- A descriptor is in order, and its target is that of the message: as it was resolved if the
method has a body, and else, with extraction on, but for the query. -/
theorem integrity_of_map (mapped : mapper.map m = .ok d)
    : Url.isAbsoluteUrl d.target
      ∧ d.method ≠ [] ∧ d.method.upper = d.method
      ∧ (d.contentType.isSome ↔ d.method = text "POST" ∨ d.method = text "PUT")
      ∧ (d.contentType = none → d.body = [])
      ∧ d.contentLength = d.body.length
      ∧ (∀ n, (text "Content-Length", n) ∈ d.headers
          ↔ d.body ≠ [] ∧ n = Text.ofNat d.contentLength)
      ∧ ∃ target, Target.resolve m mapper.settings.defaultUrl = .ok target
        ∧ (d.method = text "POST" ∨ d.method = text "PUT" → d.target = target)
        ∧ (¬(d.method = text "POST" ∨ d.method = text "PUT")
          → mapper.settings.extractPayload
            ∧ pathText d.target = pathText target
            ∧ fragmentText? d.target = fragmentText? target) := by
  obtain ⟨made, absolute⟩ := made_of_map mapped
  have valid := Method.valid_of_ofMessage made.known
  simp only [← hasBody_iff]
  refine ⟨Url.isAbsoluteUrl_iff.mpr absolute, valid.nonempty, valid.upper, ?_, ?_, rfl,
    fun n => mem_headers_contentLength_iff, ?_⟩
  · cases made with
    | body resolved known body written contentType =>
        rw [contentType]
        exact iff_of_true rfl body
    | query resolved known noBody extract given added noType =>
        rw [noType, noBody]
        exact iff_of_false Bool.false_ne_true Bool.false_ne_true
  · intro untyped
    cases made with
    | body resolved known body written contentType =>
        rw [contentType] at untyped
        contradiction
    | query resolved known noBody extract given added noType empty => exact empty
  · cases made with
    | body resolved known body =>
        exact ⟨d.target, resolved, fun _ => rfl, fun noBody => absurd body noBody⟩
    | @query target parameters resolved known noBody extract given added =>
        have kept := Query.parts_of_add added
        refine ⟨target, resolved, fun body => ?_, fun _ => ⟨extract, kept⟩⟩
        rw [noBody] at body
        contradiction

end

/-- A target with a query and a fragment, which a payload extends for a method without a body. -/
def extendedQuery : Message where
  payload := .map .plain [(.text (text "k"), .list [.text (text "#?")])]
  headers := [(targetHeader, .text (text "http://a/b?x#y?z")),
    (Method.header, .text (text " delete "))]
  given := ⟨true, true, []⟩

def extendedDescriptor : Descriptor :=
  ⟨text "http://a/b?x&k=%23%3F#y?z", text "DELETE", none, []⟩

theorem integrity_of_extendedQuery
    : asciiMapper.map extendedQuery = .ok extendedDescriptor
      ∧ extendedDescriptor.contentLength = 0
      ∧ ∃ target, Target.resolve extendedQuery asciiMapper.settings.defaultUrl = .ok target
        ∧ pathText extendedDescriptor.target = pathText target
        ∧ fragmentText? extendedDescriptor.target = fragmentText? target := by
  have mapped : asciiMapper.map extendedQuery = .ok extendedDescriptor :=
    eq_ok_of_toOption (by decide +kernel)
  obtain ⟨_, _, _, _, _, length, _, target, resolved, _, extended⟩ := integrity_of_map mapped
  exact ⟨mapped, length, target, resolved, (extended (by decide +kernel)).2⟩

end Mapper

end Dispatch
