import Dispatch.Text.Basic

/-! Printable ASCII. Decimal numbers are made of it, and what is made of it can stand in a header.
The lower case of ASCII is ASCII.
-/

namespace Dispatch

/-- The code points of ASCII that are no control characters. -/
def CodePoint.isPrintableAscii (c : CodePoint) : Bool :=
  0x20 ≤ c.val && c.val ≤ 0x7e

theorem CodePoint.isAscii_of_isPrintableAscii {c : CodePoint} (printable : c.isPrintableAscii)
    : c.isAscii := by
  simp only [isPrintableAscii, isAscii, Bool.and_eq_true, decide_eq_true_eq] at printable ⊢
  omega

theorem CodePoint.val_toLowerAscii (c : CodePoint)
    : c.toLowerAscii.val = if 0x41 ≤ c.val && c.val ≤ 0x5a then c.val + 0x20 else c.val := by
  rw [toLowerAscii]
  split
  · rename_i upper
    exact (if_pos upper).symm
  · rename_i other
    exact (if_neg other).symm

theorem CodePoint.isAscii_toLowerAscii {c : CodePoint} (ascii : c.isAscii)
    : c.toLowerAscii.isAscii := by
  simp only [isAscii, decide_eq_true_eq, val_toLowerAscii] at ascii ⊢
  split
  · rename_i upper
    simp at upper
    omega
  · exact ascii

namespace Text

def isPrintableAscii (t : Text) : Bool :=
  t.all CodePoint.isPrintableAscii

@[simp] theorem isPrintableAscii_append (t u : Text)
    : (t ++ u).isPrintableAscii = (t.isPrintableAscii && u.isPrintableAscii) :=
  List.all_append

@[simp] theorem isAscii_append (t u : Text) : (t ++ u).isAscii = (t.isAscii && u.isAscii) :=
  List.all_append

theorem isAscii_of_isPrintableAscii {t : Text} (printable : t.isPrintableAscii) : t.isAscii := by
  rw [isPrintableAscii, List.all_eq_true] at printable
  rw [isAscii, List.all_eq_true]
  exact fun c member => CodePoint.isAscii_of_isPrintableAscii (printable c member)

theorem isPrintableAscii_ofNat (n : Nat) : (ofNat n).isPrintableAscii := by
  rw [isPrintableAscii, List.all_eq_true]
  intro c member
  obtain ⟨digit, listed, rfl⟩ := List.mem_map.mp member
  have range := Nat.isDigit_of_mem_toDigits (by decide) (by decide) listed
  simp only [Char.isDigit, Bool.and_eq_true, decide_eq_true_eq] at range
  have low : (48 : Nat) ≤ digit.toNat := range.1
  have high : digit.toNat ≤ (57 : Nat) := range.2
  rw [CodePoint.isPrintableAscii, Bool.and_eq_true]
  exact ⟨decide_eq_true (Nat.le_trans (by decide) low),
    decide_eq_true (Nat.le_trans high (by decide))⟩

theorem isAscii_ofInt (n : Int) : (ofInt n).isAscii := by
  cases n with
  | ofNat n => exact isAscii_of_isPrintableAscii (isPrintableAscii_ofNat n)
  | negSucc n =>
      have digits := isAscii_of_isPrintableAscii (isPrintableAscii_ofNat (n + 1))
      rw [isAscii] at digits
      rw [ofInt, isAscii, List.all_cons, digits, Bool.and_true]
      decide

theorem isAscii_lowerAscii {t : Text} (ascii : t.isAscii) : t.lowerAscii.isAscii := by
  rw [isAscii, List.all_eq_true] at ascii ⊢
  intro c member
  obtain ⟨b, listed, rfl⟩ := List.mem_map.mp member
  exact CodePoint.isAscii_toLowerAscii (ascii b listed)

end Text

end Dispatch
