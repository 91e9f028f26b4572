import Dispatch.Pickle.Writer
import Dispatch.Proofs.Pickle.Operand

/-! Each instruction of version 4 comes back from its bytes in front of any rest, if it is not
refused for the size of its operand.
-/

namespace Dispatch.Pickle.Opcode

attribute [local instance (1100)] instPowNat

/-- The instructions that version 4 is written with. -/
def IsCurrent : Opcode → Prop
  | .smallTuple count => 1 ≤ count ∧ count ≤ 3
  | .put _ | .global .. | .editable _ => False
  | _ => True

/-- An instruction comes back: its first byte tells it from a frame, and the bytes after it are read
as its operand, all of them and nothing else. -/
def Returns (o : Opcode) : Prop :=
  ∃ code operand, o.encode 4 = code :: operand ∧ code ≠ frameCode
    ∧ ∀ rest, read? code (operand ++ rest) = some (o, operand.length)

variable {o : Opcode} {code : UInt8} {width : Nat} {operand content : Bytes}

theorem returns_of_byte (encoded : o.encode 4 = [code]) (other : code ≠ frameCode)
    (read : ∀ rest, read? code rest = some (o, 0))
    : o.Returns :=
  ⟨code, [], encoded, other, read⟩

theorem returns_of_plain {make : Bytes → Opcode} (encoded : o.encode 4 = code :: operand)
    (other : code ≠ frameCode) (length : operand.length = width) (made : make operand = o)
    (read : ∀ rest, read? code rest = plain? width make rest)
    : o.Returns := by
  refine ⟨code, operand, encoded, other, ?_⟩
  intro rest
  rw [read, plain?, first?_append length, ← length, ← made]
  rfl

/-- An instruction whose operand is content with its length in front. -/
theorem returns_of_sized {make : Bytes × Nat → Option (Opcode × Nat)}
    (encoded : o.encode 4 = sized code width content) (other : code ≠ frameCode)
    (room : content.length < 256 ^ width)
    (made : make (content, width + content.length) = some (o, width + content.length))
    (read : ∀ rest, read? code rest = sized? width rest >>= make)
    : o.Returns := by
  refine ⟨code, littleEndian width content.length ++ content, encoded, other, ?_⟩
  intro rest
  rw [read, sized?_append room, List.length_append, length_littleEndian]
  exact made

theorem length_lt_of_sized (encoded : o.encode 4 = sized code width content)
    (short : (o.encode 4).length < 0x4000000000000000)
    : content.length < 0x4000000000000000 := by
  rw [encoded, sized, List.length_append] at short
  omega

theorem returns_int {n : Int} (accepted : (int n).refusal? 4 = none) : (int n).Returns := by
  have encoded : (int n).encode 4 = intBytes 4 n := rfl
  simp only [intBytes, Bool.and_eq_true, decide_eq_true_eq] at encoded
  split at encoded
  · rw [if_neg (by decide)] at encoded
    split at encoded
    · refine returns_of_plain encoded (by decide) (length_littleEndian ..) ?_ (fun _ => rfl)
      rw [ofLittleEndian_of_lt (by omega)]
      exact congrArg int (by omega)
    · split at encoded
      · refine returns_of_plain encoded (by decide) (length_littleEndian ..) ?_ (fun _ => rfl)
        rw [ofLittleEndian_of_lt (by omega)]
        exact congrArg int (by omega)
      · refine returns_of_plain encoded (by decide) (length_littleEndian ..) ?_ (fun _ => rfl)
        exact congrArg int (ofSigned_signedBytes (by omega) (by omega))
  · have back : ofSigned (signedBytes (signedWidth n) n) = n :=
      ofSigned_signedBytes (signedWidth_suffices n).1 (signedWidth_suffices n).2
    have length : (signedBytes (signedWidth n) n).length = signedWidth n := length_littleEndian ..
    have limit : signedWidth n ≤ 0x7fffffff := by
      have counted := signedWidth_le n
      rw [refusal?, if_neg (by decide)] at accepted
      split at accepted
      · contradiction
      · omega
    rw [if_neg (by decide)] at encoded
    split at encoded
    · refine returns_of_sized encoded (by decide) (by omega) ?_ (fun _ => rfl)
      simp only [Bool.false_and, back]
      rfl
    · have signed : ¬ 0x80000000 ≤ (signedBytes (signedWidth n) n).length := by omega
      refine returns_of_sized encoded (by decide) (by omega) ?_ (fun _ => rfl)
      simp only [Bool.true_and, decide_eq_true_eq, if_neg signed, back]
      rfl

theorem returns_text {t : Text} (short : ((text t).encode 4).length < 0x4000000000000000)
    : (text t).Returns := by
  have made (size : Nat)
      : (do return (text (← Utf8.decodeGeneral? (Utf8.encode t)), size)) = some (text t, size) := by
    rw [Utf8.decodeGeneral?_encode]
    rfl
  have encoded : (text t).encode 4 = textBytes 4 t := rfl
  rw [textBytes, if_neg (by decide)] at encoded
  simp only [Nat.le_refl, decide_true, Bool.true_and, decide_eq_true_eq] at encoded
  split at encoded
  · exact returns_of_sized encoded (by decide) (by assumption) (made _) (fun _ => rfl)
  · split at encoded
    · have bound := length_lt_of_sized encoded short
      exact returns_of_sized encoded (by decide) (by omega) (made _) (fun _ => rfl)
    · exact returns_of_sized encoded (by decide) (by omega) (made _) (fun _ => rfl)

theorem returns_bytes {b : Bytes} (short : ((bytes b).encode 4).length < 0x4000000000000000)
    : (bytes b).Returns := by
  have read (width : Nat) (rest : Bytes)
      : ((sized? width rest).map fun given => (bytes given.1, given.2))
        = sized? width rest >>= fun given => some (bytes given.1, given.2) := by
    cases sized? width rest <;> rfl
  have encoded : (bytes b).encode 4 = fixedBytes 4 b := rfl
  rw [fixedBytes] at encoded
  simp only [Nat.le_refl, decide_true, Bool.true_and, decide_eq_true_eq] at encoded
  split at encoded
  · exact returns_of_sized encoded (by decide) (by assumption) rfl (read 1)
  · split at encoded
    · have bound := length_lt_of_sized encoded short
      exact returns_of_sized encoded (by decide) (by omega) rfl (read 8)
    · exact returns_of_sized encoded (by decide) (by omega) rfl (read 4)

theorem returns_get {index : Nat} (accepted : (get index).refusal? 4 = none)
    : (get index).Returns := by
  have limit : index < 0x100000000 := by
    simpa [refusal?] using accepted
  have encoded : (get index).encode 4 = memoBytes 4 0x67 0x68 0x6a index := rfl
  rw [memoBytes, if_neg (by decide)] at encoded
  split at encoded
  · refine returns_of_plain encoded (by decide) (length_littleEndian ..) ?_ (fun _ => rfl)
    rw [ofLittleEndian_of_lt (by omega)]
  · refine returns_of_plain encoded (by decide) (length_littleEndian ..) ?_ (fun _ => rfl)
    rw [ofLittleEndian_of_lt (by omega)]

theorem returns_smallTuple {count : Nat} (least : 1 ≤ count) (most : count ≤ 3)
    : (smallTuple count).Returns := by
  obtain rfl | rfl | rfl : count = 1 ∨ count = 2 ∨ count = 3 := by omega
  all_goals exact returns_of_byte rfl (by decide) (fun _ => rfl)

/-- What is not refused comes back. -/
theorem returns_of_isCurrent {o : Opcode} (current : o.IsCurrent) (accepted : o.refusal? 4 = none)
    (short : (o.encode 4).length < 0x4000000000000000)
    : o.Returns := by
  cases o with
  | int n => exact returns_int accepted
  | text t => exact returns_text short
  | bytes b => exact returns_bytes short
  | get index => exact returns_get accepted
  | smallTuple count => exact returns_smallTuple current.1 current.2
  | float x =>
      refine returns_of_plain rfl (by decide) rfl ?_ (fun _ => rfl)
      exact congrArg float (ofBytes_toBytes x)
  | bool b =>
      cases b with
      | true => exact returns_of_byte rfl (by decide) (fun _ => rfl)
      | false => exact returns_of_byte rfl (by decide) (fun _ => rfl)
  | put _ => exact current.elim
  | global _ _ => exact current.elim
  | editable _ => exact current.elim
  | _ => exact returns_of_byte rfl (by decide) (fun _ => rfl)

end Dispatch.Pickle.Opcode
