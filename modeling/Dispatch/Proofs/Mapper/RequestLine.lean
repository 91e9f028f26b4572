import Dispatch.Proofs.Mapper.Outcome
import Dispatch.Proofs.Mapper.Reachable

/-! The method on the request line. It is a single token exactly when the header text is one, blanks
around it aside: no divider is added and none inside the text is taken away. A request with a body
has a method without dividers, whatever the header is.
-/

namespace Dispatch.Mapper

open Dispatch.Result

/-- A text that does not end a token or a line anywhere. -/
def IsUndivided (t : Text) : Prop :=
  ∀ c ∈ t, c.isDivider = false

theorem isUndivided_iff_filter {t : Text} : IsUndivided t ↔ t.filter CodePoint.isDivider = [] := by
  rw [IsUndivided, List.filter_eq_nil_iff]
  simp only [Bool.not_eq_true]

theorem isUndivided_of_hasBody {method : Text} (body : Method.hasBody method)
    : IsUndivided method := by
  rw [Method.hasBody, List.contains_iff_mem, Method.withBody, List.mem_cons,
    List.mem_singleton] at body
  rw [isUndivided_iff_filter]
  rcases body with rfl | rfl <;> decide

section

variable [Platform] {mapper : Mapper} {m : Message} {d : Descriptor}

/-- The method of a descriptor has the blanks and control characters that the header text has after
the blanks around it are dropped, in their order, and no others.
-/
theorem dividers_of_map (mapped : mapper.map m = .ok d)
    : d.method.filter CodePoint.isDivider
          = (Method.given m).strip.filter CodePoint.isDivider
      ∧ (IsUndivided d.method ↔ IsUndivided (Method.given m).strip)
      ∧ (d.contentType.isSome → IsUndivided d.method) := by
  have made := (made_of_map mapped).1
  have same : d.method.filter CodePoint.isDivider
      = (Method.given m).strip.filter CodePoint.isDivider := by
    rw [Method.eq_ofText_of_ofMessage made.known, Method.filter_ofText]
  refine ⟨same, ?_, ?_⟩
  · rw [isUndivided_iff_filter, isUndivided_iff_filter, same]
  · intro typed
    cases made with
    | body resolved known body => exact isUndivided_of_hasBody body
    | query resolved known noBody extract given added noType =>
        rw [noType] at typed
        contradiction

end

/-- A message whose header for the method holds a second line. -/
def twoLineMethod : Message where
  payload := .map .plain []
  headers := [(targetHeader, .text (text "http://a/")),
    (Method.header, .text (text " get / x\r\ny: z\t"))]
  given := ⟨true, true, []⟩

theorem map_twoLineMethod
    : asciiMapper.map twoLineMethod
      = .ok ⟨text "http://a/", text "GET / X\r\nY: Z", none, []⟩ :=
  eq_ok_of_toOption (by decide +kernel)

theorem dividers_of_twoLineMethod
    : asciiMapper.map twoLineMethod
          = .ok ⟨text "http://a/", text "GET / X\r\nY: Z", none, []⟩
      ∧ (text "GET / X\r\nY: Z").filter CodePoint.isDivider
          = (Method.given twoLineMethod).strip.filter CodePoint.isDivider :=
  ⟨map_twoLineMethod, (dividers_of_map map_twoLineMethod).1⟩

/-- The header text of a method can bring a second line into the request line. -/
theorem method_divided_of_twoLineMethod
    : asciiMapper.Reachable
      ∧ ∃ d, asciiMapper.map twoLineMethod = .ok d
        ∧ CodePoint.ofChar ' ' ∈ d.method ∧ CodePoint.ofChar '\r' ∈ d.method
        ∧ CodePoint.ofChar '\n' ∈ d.method ∧ ¬IsUndivided d.method := by
  refine ⟨reachable_asciiMapper, _, map_twoLineMethod, by decide, by decide, by decide, ?_⟩
  rw [isUndivided_iff_filter]
  decide

end Dispatch.Mapper
