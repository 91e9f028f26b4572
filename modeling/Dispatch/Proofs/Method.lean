import Dispatch.Method
import Dispatch.Proofs.Result
import Dispatch.Proofs.Text.Dividers

/-! The method of a message. Upper case is final, so whatever a header says, the method is no empty
text and its own upper case, as descriptors ask for. What divides the text of the header, the blanks
around it aside, divides the method.
-/

namespace Dispatch.Method

open Dispatch.Result

/-- The methods that a descriptor takes. -/
structure Valid (method : Text) : Prop where
  nonempty : method ≠ []
  upper : Text.upper method = method

theorem valid_standard : Valid standard :=
  ⟨by decide, by decide⟩

theorem valid_ofText (t : Text) : Valid (ofText t) := by
  simp only [ofText]
  split
  · exact valid_standard
  · rename_i given
    exact ⟨fun none => given (List.isEmpty_iff.mpr none), Text.upper_upper t.strip⟩

/-- The method has the dividers that the header text has inside. -/
theorem filter_ofText (t : Text)
    : (ofText t).filter CodePoint.isDivider = t.strip.filter CodePoint.isDivider := by
  have kept := Text.filter_upper t.strip
  simp only [ofText]
  split
  · rename_i empty
    rw [List.isEmpty_iff.mp empty] at kept
    rw [← kept]
    decide
  · exact kept

variable [Platform]

/-- Only a header without a plain form keeps the method from being known. -/
theorem ofMessage_eq_error {m : Message} {f : Fault}
    : ofMessage m = .error f
      ↔ ∃ v e, m.header? header = some v ∧ v.isNull = false ∧ v.plain = .error e
          ∧ f = .shown e := by
  rw [ofMessage]
  split
  · rename_i absent
    simp [absent]
  · rename_i null
    simp [null, Value.isNull]
  · rename_i v other found
    have given : v.isNull = false := by
      cases v with
      | null => exact absurd rfl other
      | _ => rfl
    rw [map_eq_error, mapError_eq_error]
    constructor
    · rintro ⟨e, unshown, rfl⟩
      exact ⟨v, e, found, given, unshown, rfl⟩
    · rintro ⟨w, e, same, _, unshown, rfl⟩
      rw [found] at same
      exact ⟨e, Option.some.inj same ▸ unshown, rfl⟩

/-- The text that the header gives, empty if there is none. -/
def given (m : Message) : Text :=
  match m.header? header with
  | none => []
  | some .null => []
  | some v => v.plain.toOption.getD []

theorem eq_ofText_of_ofMessage {m : Message} {method : Text} (known : ofMessage m = .ok method)
    : method = ofText (given m) := by
  rw [ofMessage] at known
  rw [given]
  cases found : m.header? header with
  | none =>
      rw [found] at known
      exact (Except.ok.inj known).symm
  | some v =>
      rw [found] at known
      cases v with
      | null => exact (Except.ok.inj known).symm
      | _ =>
          obtain ⟨t, plain, rfl⟩ := map_eq_ok.mp known
          rw [mapError_eq_ok] at plain
          simp only [plain, Except.toOption, Option.getD_some]

theorem valid_of_ofMessage {m : Message} {method : Text} (known : ofMessage m = .ok method)
    : Valid method := by
  rw [eq_ofText_of_ofMessage known]
  exact valid_ofText (given m)

end Dispatch.Method
