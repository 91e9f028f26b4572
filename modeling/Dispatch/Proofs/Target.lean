import Dispatch.Proofs.Url.Reading
import Dispatch.Target

/-! Where the target of a message comes from. A header decides alone, and without one the fallback
is taken as it is; a text that a header gives is kept if it is an absolute URL.
-/

namespace Dispatch.Target

open Dispatch.Result

/-- A text is kept if it is absolute, and else a problem of the target, unless a surrogate ends the
reading. -/
theorem checkText_cases (t : Text)
    : (checkText t = .ok t ∧ Url.isAbsoluteText t = .ok true)
      ∨ (∃ p, checkText t = .error (.ofProblem p) ∧ p.kind = .malformedTarget
          ∧ Url.isAbsoluteText t = .ok false)
      ∨ (∃ c, checkText t = .error (.fault (.url (.surrogate c)))
          ∧ Url.parse t = .error (.surrogate c)) := by
  rw [checkText]
  split
  · rename_i u read
    cases absolute : u.isAbsolute with
    | true => exact Or.inl ⟨rfl, Url.isAbsoluteText_eq_true.mpr ⟨u, read, absolute⟩⟩
    | false =>
        exact Or.inr (Or.inl ⟨_, rfl, rfl, Url.isAbsoluteText_eq_false_of_ok read absolute⟩)
  · rename_i c failed
    exact Or.inr (Or.inr ⟨c, rfl, failed⟩)
  · rename_i e other failed
    have noSurrogate : ∀ c, e ≠ .surrogate c := fun c same => other c same
    exact Or.inr (Or.inl
      ⟨_, rfl, rfl, Url.isAbsoluteText_eq_false_of_error failed noSurrogate⟩)

-----------------------------------------------------------------------------------------
-- A header decides alone, and the fallback is taken without one
-----------------------------------------------------------------------------------------

theorem resolve_of_none {m : Message} (absent : header? m = none) (fallback : Option Text)
    : resolve m fallback
      = match fallback with
        | some t => .ok t
        | none => .error (.mapping ⟨.noTarget, some m⟩) := by
  rw [resolve, resolveOr, ofHeader, absent]
  cases fallback <;> rfl

/-- A header that gives a target decides alone. -/
theorem resolve_of_some {m : Message} {v : Value} {target : Target} (found : header? m = some v)
    (given : ofValue v = .ok target) (fallback : Option Text)
    : resolve m fallback = target.toText.mapError (.withMessage m) := by
  rw [resolve, resolveOr, ofHeader, found]
  simp only [given]
  cases target.toText <;> rfl

theorem eq_headerKind_of_ofValue {v : Value} {p : Problem} (refused : ofValue v = .error p)
    : p = .headerKind v := by
  cases v with
  | url u => contradiction
  | parts parts => contradiction
  | text t => contradiction
  | _ => exact (Except.error.inj refused).symm

/-- A header of another kind is refused. -/
theorem resolve_of_error {m : Message} {v : Value} {p : Problem} (found : header? m = some v)
    (refused : ofValue v = .error p) (fallback : Option Text)
    : resolve m fallback = .error (.mapping ⟨p, some m⟩) ∧ p.kind = .headerType := by
  refine ⟨?_, by rw [eq_headerKind_of_ofValue refused, Problem.kind]⟩
  rw [resolve, resolveOr, ofHeader, found]
  simp only [refused]
  rfl

end Dispatch.Target
