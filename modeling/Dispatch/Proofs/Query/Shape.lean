import Dispatch.Proofs.Query.Parameters

/-! What becomes of a payload that is read as parameters. They have the names of the map in its
order, each with the texts of its value, and given as a payload themselves they stay as they are.
-/

namespace Dispatch.Parameters

open Dispatch.Result

section

variable [Platform] {payload : Value} {method : Text} {parameters : Parameters} {f : Failure}

/-- A refusal is a problem of the shape, unless a key cannot be shown. -/
theorem Refused.shape (refused : Refused method payload f)
    : (∃ p, f = .ofProblem p ∧ p.kind = .payloadShape ∧ p.cause? = none)
      ∨ ∃ e, f = .fault (.shown e) := by
  cases refused with
  | noMap => exact Or.inl ⟨_, rfl, rfl, rfl⟩
  | entry taken refused =>
      cases refused with
      | key | value => exact Or.inl ⟨_, rfl, rfl, rfl⟩
      | unshown => exact Or.inr ⟨_, rfl⟩

end

end Dispatch.Parameters
