import Dispatch.Pickle.Reader
import Dispatch.Proofs.Text.Utf8

/-! Operands of instructions. A number comes back from its bytes if they are enough for it, and
content comes back from behind its length, whatever follows.
-/

namespace Dispatch

attribute [local instance (1100)] instPowNat

namespace Pickle

@[simp] theorem length_littleEndian (width n : Nat) : (littleEndian width n).length = width := by
  simp [littleEndian]

theorem littleEndian_succ (width n : Nat)
    : littleEndian (width + 1) n = UInt8.ofNat n :: littleEndian width (n / 256) := by
  simp [littleEndian, List.range_succ_eq_map, Function.comp_def, Nat.pow_succ',
    Nat.div_div_eq_div_mul]

/-- A number comes back up to what its bytes have no room for, by induction on their count. -/
theorem ofLittleEndian_littleEndian (width n : Nat)
    : ofLittleEndian (littleEndian width n) = n % 256 ^ width := by
  induction width generalizing n with
  | zero => simp [littleEndian, ofLittleEndian, Nat.mod_one]
  | succ width ih =>
      have rest := ih (n / 256)
      rw [ofLittleEndian] at rest
      have count : 256 ^ (width + 1) = 256 * 256 ^ width := Nat.pow_succ'
      rw [littleEndian_succ, ofLittleEndian, List.foldr_cons, rest, UInt8.toNat_ofNat', count,
        Nat.mod_mul]

theorem ofLittleEndian_of_lt {width n : Nat} (room : n < 256 ^ width)
    : ofLittleEndian (littleEndian width n) = n := by
  rw [ofLittleEndian_littleEndian, Nat.mod_eq_of_lt room]

/-- The bytes of a float are those of its number, the highest first. -/
theorem toBytes_eq (x : Binary64) : x.toBytes = (littleEndian 8 x.bits.toNat).reverse := by
  simp [Binary64.toBytes, littleEndian, List.range_succ]

theorem ofBytes_toBytes (x : Binary64) : Binary64.ofBytes x.toBytes = x := by
  have room : x.bits.toNat < 256 ^ 8 := x.bits.toNat_lt
  have digit : (fun (b : UInt8) n => 256 * n + b.toNat) = fun b n => b.toNat + 256 * n := by
    funext b n
    exact Nat.add_comm ..
  have number : x.toBytes.foldl (fun n b => 256 * n + b.toNat) 0 = x.bits.toNat := by
    rw [toBytes_eq, List.foldl_reverse, digit]
    exact ofLittleEndian_of_lt room
  rw [Binary64.ofBytes, number, UInt64.ofNat_toNat]

/-- An integer comes back if half of what its bytes count is enough for each sign. -/
theorem ofSigned_signedBytes {width : Nat} {n : Int} (low : -(256 ^ width : Nat) ≤ 2 * n)
    (high : 2 * n < (256 ^ width : Nat))
    : ofSigned (signedBytes width n) = n := by
  have positive : 0 < 256 ^ width := Nat.pow_pos (by decide)
  rw [ofSigned, signedBytes, length_littleEndian, ofLittleEndian_littleEndian]
  generalize 256 ^ width = count at *
  have within : (n % (count : Int)).toNat < count := by
    have := Int.emod_lt_of_pos n (Int.natCast_pos.mpr positive)
    omega
  rw [Nat.mod_eq_of_lt within]
  by_cases negative : n < 0
  · have wrapped : n % (count : Int) = n + count := by
      rw [← Int.add_emod_right, Int.emod_eq_of_lt (by omega) (by omega)]
    simp only [wrapped]
    split <;> omega
  · have same : n % (count : Int) = n := Int.emod_eq_of_lt (by omega) (by omega)
    simp only [same]
    split <;> omega

/-- What is written of an integer besides its sign. -/
def magnitude (n : Int) : Nat :=
  if n < 0 then (-n - 1).toNat else n.toNat

theorem signedWidth_eq (n : Int)
    : signedWidth n
      = if magnitude n = 0 then 1
        else (magnitude n).log2 / 8 + (if (magnitude n).log2 % 8 = 7 then 2 else 1) := rfl

theorem magnitude_lt_signedWidth (n : Int) : 2 * magnitude n + 1 < 256 ^ signedWidth n := by
  have base (width : Nat) : 256 ^ width = 2 ^ (8 * width) := by
    rw [Nat.pow_mul]
  rw [signedWidth_eq, base]
  by_cases zero : magnitude n = 0
  · rw [if_pos zero, zero]
    decide
  · rw [if_neg zero]
    have bound : magnitude n < 2 ^ ((magnitude n).log2 + 1) := Nat.lt_log2_self
    generalize (magnitude n).log2 = l at *
    generalize widthOf : 8 * (l / 8 + if l % 8 = 7 then 2 else 1) = width
    have enough : l + 1 + 1 ≤ width := by
      split at widthOf <;> omega
    have power : 2 ^ (l + 1 + 1) ≤ 2 ^ width := Nat.pow_le_pow_right (by decide) enough
    rw [Nat.pow_succ] at power
    omega

/-- The bytes of an integer are enough for it and its sign. -/
theorem signedWidth_suffices (n : Int)
    : -(256 ^ signedWidth n : Nat) ≤ 2 * n ∧ 2 * n < (256 ^ signedWidth n : Nat) := by
  have room := magnitude_lt_signedWidth n
  rw [magnitude] at room
  split at room <;> omega

/-- The bytes of an integer are not more than the writer counts before it cuts one off. -/
theorem signedWidth_le (n : Int) : signedWidth n ≤ (n.natAbs.log2 + 1) / 8 + 1 := by
  have smaller : magnitude n ≤ n.natAbs := by
    rw [magnitude]
    split <;> omega
  rw [signedWidth_eq]
  by_cases zero : magnitude n = 0
  · rw [if_pos zero]
    omega
  · rw [if_neg zero]
    have power : 2 ^ (magnitude n).log2 ≤ n.natAbs :=
      Nat.le_trans (Nat.log2_self_le zero) smaller
    have logs : (magnitude n).log2 ≤ n.natAbs.log2 := (Nat.le_log2 (by omega)).mpr power
    split <;> omega

theorem first?_append {count : Nat} {taken : Bytes} (length : taken.length = count) (rest : Bytes)
    : first? count (taken ++ rest) = some taken := by
  rw [first?, List.take_left' length]
  exact if_pos length

theorem sized?_append {width : Nat} {content : Bytes} (room : content.length < 256 ^ width)
    (rest : Bytes)
    : sized? width (littleEndian width content.length ++ content ++ rest)
      = some (content, width + content.length) := by
  have length := length_littleEndian width content.length
  rw [sized?, List.append_assoc, first?_append length]
  simp only [Option.bind_eq_bind, Option.bind_some, ofLittleEndian_of_lt room,
    List.drop_left' length, first?_append rfl]
  rfl

end Pickle

end Dispatch
