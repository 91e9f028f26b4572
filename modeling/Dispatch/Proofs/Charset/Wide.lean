import Dispatch.Charset.Wide
import Dispatch.Proofs.Text.Utf8

/-! The wide charsets back and forth. The bytes of each unit give the unit again in the same order,
and the units of each code point that is no surrogate give the code point again.
-/

namespace Dispatch.Charset.Wide

variable {c : CodePoint} {t done : Text} {unit : UnitSize} {order : ByteOrder} {n : Nat}
  {units : List Nat} {bytes : Bytes}

-----------------------------------------------------------------------------------------
-- Units and their bytes
-----------------------------------------------------------------------------------------

/-- How many values a unit has. -/
def unitLimit : UnitSize → Nat
  | .double => 0x10000
  | .quadruple => 0x100000000

/-- The two bytes of a unit give it again, by induction on the units. -/
theorem doubles_unitBytes (small : ∀ n ∈ units, n < unitLimit .double) (read : List Nat)
    : doubles (order = .big) (units.flatMap (unitBytes .double order)) read
      = some (read.reverse ++ units) := by
  induction units generalizing read with
  | nil => simp [doubles]
  | cons n units ih =>
      have bound : n < 0x10000 := small n List.mem_cons_self
      have low : (UInt8.ofNat n).toNat = n % 0x100 := UInt8.toNat_ofNat'
      have high : (UInt8.ofNat (n / 0x100)).toNat = n / 0x100 :=
        Utf8.toNat_ofNat_of_lt (by omega)
      have rest := ih (fun m member => small m (List.mem_cons_of_mem _ member)) (n :: read)
      rw [List.reverse_cons, List.append_assoc, List.singleton_append] at rest
      have value : n % 0x100 + 0x100 * (n / 0x100) = n := Nat.mod_add_div n 0x100
      rw [List.flatMap_cons]
      by_cases big : order = .big
      · simp only [unitBytes, littleBytes, big, decide_true, if_true, List.reverse_cons,
          List.reverse_nil, List.nil_append, List.cons_append, doubles, low, high] at rest ⊢
        rw [Nat.add_comm, value, rest]
      · simp only [unitBytes, littleBytes, big, decide_false, if_false, List.nil_append,
          List.cons_append, doubles, low, high, Bool.false_eq_true] at rest ⊢
        rw [value, rest]

/-- The four bytes of a unit give it again, by induction on the units. -/
theorem quadruples_unitBytes (small : ∀ n ∈ units, n < unitLimit .quadruple) (read : List Nat)
    : quadruples (order = .big) (units.flatMap (unitBytes .quadruple order)) read
      = some (read.reverse ++ units) := by
  induction units generalizing read with
  | nil => simp [quadruples]
  | cons n units ih =>
      have bound : n < 0x100000000 := small n List.mem_cons_self
      have first : (UInt8.ofNat n).toNat = n % 0x100 := UInt8.toNat_ofNat'
      have second : (UInt8.ofNat (n / 0x100)).toNat = n / 0x100 % 0x100 := UInt8.toNat_ofNat'
      have third : (UInt8.ofNat (n / 0x10000)).toNat = n / 0x10000 % 0x100 := UInt8.toNat_ofNat'
      have fourth : (UInt8.ofNat (n / 0x1000000)).toNat = n / 0x1000000 :=
        Utf8.toNat_ofNat_of_lt (by omega)
      have value : n % 0x100 + 0x100 * (n / 0x100 % 0x100) + 0x10000 * (n / 0x10000 % 0x100)
          + 0x1000000 * (n / 0x1000000) = n := by
        omega
      have rest := ih (fun m member => small m (List.mem_cons_of_mem _ member)) (n :: read)
      rw [List.reverse_cons, List.append_assoc, List.singleton_append] at rest
      rw [List.flatMap_cons]
      by_cases big : order = .big
      · simp only [unitBytes, littleBytes, big, decide_true, if_true, List.reverse_cons,
          List.reverse_nil, List.nil_append, List.cons_append, quadruples, first, second, third,
          fourth, value] at rest ⊢
        exact rest
      · simp only [unitBytes, littleBytes, big, decide_false, if_false, List.nil_append,
          List.cons_append, quadruples, first, second, third, fourth, value, Bool.false_eq_true]
          at rest ⊢
        exact rest

theorem unitsOfBytes_unitBytes (small : ∀ n ∈ units, n < unitLimit unit)
    : unitsOfBytes unit (order = .big) (units.flatMap (unitBytes unit order)) = some units := by
  cases unit with
  | double => exact doubles_unitBytes small []
  | quadruple => exact quadruples_unitBytes small []

-----------------------------------------------------------------------------------------
-- Code points and their units
-----------------------------------------------------------------------------------------

/-- Two units make up a pair that stands for a code point. -/
structure Pair (high low : Nat) (c : CodePoint) : Prop where
  first : 0xd800 ≤ high ∧ high < 0xdc00
  second : 0xdc00 ≤ low ∧ low < 0xe000
  value : 0x10000 + 0x400 * (high - 0xd800) + (low - 0xdc00) = c.val

/-- A code point that is no surrogate is one unit that is none either, or a pair. -/
theorem unitsOf_double_cases (plain : c.isSurrogate = false)
    : (unitsOf .double c = [c.val] ∧ c.val < 0x10000 ∧ ¬(0xd800 ≤ c.val ∧ c.val < 0xe000))
      ∨ ∃ high low, unitsOf .double c = [high, low] ∧ Pair high low c := by
  simp only [CodePoint.isSurrogate, Bool.and_eq_false_iff, decide_eq_false_iff_not] at plain
  have bound := c.isLt
  simp only [unitsOf]
  split
  · exact Or.inl ⟨rfl, by omega, by omega⟩
  · exact Or.inr ⟨_, _, rfl, by omega, by omega, by omega⟩

theorem lt_unitLimit (plain : c.isSurrogate = false) (member : n ∈ unitsOf unit c)
    : n < unitLimit unit := by
  cases unit with
  | quadruple =>
      obtain rfl := List.mem_singleton.mp member
      have bound := c.isLt
      simp only [unitLimit]
      omega
  | double =>
      simp only [unitLimit]
      rcases unitsOf_double_cases plain with ⟨one, small, _⟩ | ⟨high, low, two, pair⟩
      · rw [one, List.mem_singleton] at member
        omega
      · simp only [two, List.mem_cons, List.not_mem_nil, or_false] at member
        have first := pair.first
        have second := pair.second
        omega

/-- A unit that is no surrogate is read on its own, whatever follows. -/
theorem ofDoubles_cons (alone : ¬(0xd800 ≤ c.val ∧ c.val < 0xe000)) (units : List Nat)
    : ofDoubles (c.val :: units) done = ofDoubles units (c :: done) := by
  have noPair : ¬(0xd800 ≤ c.val ∧ c.val < 0xdc00) := by omega
  cases units <;> simp [ofDoubles, alone, noPair, CodePoint.ofNat_val]

theorem ofDoubles_pair {high low : Nat} (pair : Pair high low c) (units : List Nat)
    : ofDoubles (high :: low :: units) done = ofDoubles units (c :: done) := by
  simp [ofDoubles, pair.first, pair.second, pair.value, CodePoint.ofNat_val]

/-- Units of two bytes are read as the text that they were written for, by induction on the text. -/
theorem ofDoubles_unitsOf (plain : ∀ c ∈ t, c.isSurrogate = false) (done : Text)
    : ofDoubles (t.flatMap (unitsOf .double)) done = some (done.reverse ++ t) := by
  induction t generalizing done with
  | nil => simp [ofDoubles]
  | cons c t ih =>
      have rest := ih (fun d member => plain d (List.mem_cons_of_mem _ member)) (c :: done)
      rw [List.reverse_cons, List.append_assoc, List.singleton_append] at rest
      rw [List.flatMap_cons]
      rcases unitsOf_double_cases (plain c List.mem_cons_self)
        with ⟨one, _, alone⟩ | ⟨high, low, two, pair⟩
      · rw [one, List.singleton_append, ofDoubles_cons alone, rest]
      · rw [two, List.cons_append, List.singleton_append, ofDoubles_pair pair, rest]

theorem ofQuadruples_unitsOf (plain : ∀ c ∈ t, c.isSurrogate = false)
    : ofQuadruples (t.flatMap (unitsOf .quadruple)) = some t := by
  rw [ofQuadruples]
  induction t with
  | nil => rfl
  | cons c t ih =>
      have first := plain c List.mem_cons_self
      have rest := ih fun d member => plain d (List.mem_cons_of_mem _ member)
      simp [unitsOf, List.mapM_cons, CodePoint.ofNat?_val, Option.filter, first] at rest ⊢
      simp [rest]

-----------------------------------------------------------------------------------------
-- Back and forth
-----------------------------------------------------------------------------------------

/-- Reads units of either size as code points. -/
def readUnits : UnitSize → List Nat → Option Text
  | .double, units => ofDoubles units []
  | .quadruple, units => ofQuadruples units

theorem readMark_mark (unit : UnitSize) (bytes : Bytes)
    : readMark unit (unitBytes unit .little mark ++ bytes) = (false, bytes) := by
  cases unit <;> rfl

/-- The bytes of a marked text come after its mark, and those of any other text alone. -/
theorem decode?_start (unit : UnitSize) (order : ByteOrder) (bytes : Bytes)
    : decode? unit order (start unit order ++ bytes)
      = (unitsOfBytes unit (order = .big) bytes).bind (readUnits unit) := by
  cases unit <;> cases order <;> simp [decode?, start, readMark_mark] <;> rfl

/-- A text without surrogates is read as it was written. -/
theorem decode?_charBytes (plain : ∀ c ∈ t, c.isSurrogate = false)
    : decode? unit order (start unit order ++ t.flatMap (charBytes unit order)) = some t := by
  have written : t.flatMap (charBytes unit order)
      = (t.flatMap (unitsOf unit)).flatMap (unitBytes unit order) := by
    rw [List.flatMap_assoc]
    rfl
  have small : ∀ n ∈ t.flatMap (unitsOf unit), n < unitLimit unit := by
    intro n member
    obtain ⟨c, listed, inside⟩ := List.mem_flatMap.mp member
    exact lt_unitLimit (plain c listed) inside
  rw [decode?_start, written, unitsOfBytes_unitBytes small, Option.bind_some]
  cases unit with
  | double => exact ofDoubles_unitsOf plain []
  | quadruple => exact ofQuadruples_unitsOf plain

end Dispatch.Charset.Wide
