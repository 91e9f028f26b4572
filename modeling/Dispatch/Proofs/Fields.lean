import Dispatch.Fields

/-! Words for truth values. A word stands for true or for false by the list that it is on in lower
case, and it is on no more than one of them. Among the values that stand for a truth value, only the
words for false count as the other one by themselves.
-/

namespace Dispatch

attribute [local instance (1100)] instPowNat

/-- Only zeros are equal to the integer zero. -/
theorem Binary64.toInt?_eq_zero_iff {x : Binary64} : x.toInt? = some 0 ↔ x.isZero = true := by
  rw [toInt?, isZero]
  cases x.form with
  | notANumber => simp
  | infinite negative => simp
  | finite negative m e =>
      cases m with
      | zero => simp [scale]
      | succ m =>
          have positive : 0 < 2 ^ (-e).toNat := Nat.two_pow_pos _
          have numerator : 0 < (m + 1) * 2 ^ e.toNat :=
            Nat.mul_pos m.succ_pos (Nat.two_pow_pos _)
          simp only [scale, Nat.one_mul, Bool.false_eq_true, iff_false]
          split
          · rename_i whole
            have quotient : 0 < (m + 1) * 2 ^ e.toNat / 2 ^ (-e).toNat :=
              Nat.div_pos (Nat.le_of_dvd numerator (Nat.dvd_of_mod_eq_zero whole)) positive
            generalize (m + 1) * 2 ^ e.toNat / 2 ^ (-e).toNat = q at quotient
            cases negative <;> simp only [Bool.false_eq_true, if_true, if_false, Option.some.injEq]
              <;> omega
          · simp

namespace Field

/-- The word that a text or fixed bytes hold. -/
def word? : Value → Option Text
  | .text t => some t
  | .blob .fixed bytes => Utf8.decode? bytes
  | _ => none

/-- A value is a word for false. -/
def IsFalseWord (v : Value) : Prop :=
  ∃ word, word? v = some word ∧ word.lowerAscii ∈ falseWords

variable {word : Text} {v : Value} {n : Int} {b : Bool}

-----------------------------------------------------------------------------------------
-- The two lists of words
-----------------------------------------------------------------------------------------

theorem not_mem_falseWords (listed : word ∈ trueWords) : word ∉ falseWords := by
  have apart : trueWords.all (fun word => !falseWords.contains word) = true := by decide
  have other := List.all_eq_true.mp apart word listed
  simpa using other

/-- A word stands for the truth value of the list that it is on. -/
theorem wordTruth_eq_ok_iff
    : wordTruth word = .ok b
      ↔ (b = true ∧ word.lowerAscii ∈ trueWords) ∨ (b = false ∧ word.lowerAscii ∈ falseWords) := by
  simp only [wordTruth, List.contains_iff_mem]
  split
  · rename_i listed
    simp [listed, not_mem_falseWords listed, eq_comm]
  · rename_i notTrue
    split
    · rename_i listed
      simp [notTrue, listed, eq_comm]
    · rename_i notFalse
      simp [notTrue, notFalse]

theorem eq_false_iff_of_wordTruth (stands : wordTruth word = .ok b)
    : b = false ↔ word.lowerAscii ∈ falseWords := by
  rcases wordTruth_eq_ok_iff.mp stands with ⟨rfl, listed⟩ | ⟨rfl, listed⟩
  · exact iff_of_false nofun (not_mem_falseWords listed)
  · exact iff_of_true rfl listed

/-- No word for a truth value is empty. -/
theorem ne_nil_of_wordTruth (stands : wordTruth word = .ok b) : word ≠ [] := by
  rintro rfl
  have refused : wordTruth [] = .error .truthWord := rfl
  rw [refused] at stands
  contradiction

-----------------------------------------------------------------------------------------
-- Truth values by reading and by counting
-----------------------------------------------------------------------------------------

/-- A value is read as the truth value of its word, if it holds one. -/
theorem wordTruth_of_toTruth (stands : toTruth v = .ok b) (held : word? v = some word)
    : wordTruth word = .ok b := by
  cases v with
  | text t =>
      obtain rfl := Option.some.inj held
      rw [toTruth] at stands
      split at stands
      · contradiction
      · exact stands
  | blob kind bytes =>
      cases kind with
      | fixed => simpa only [toTruth, show Utf8.decode? bytes = some word from held] using stands
      | _ => contradiction
  | _ => contradiction

theorem integerTruth_eq_ok (stands : integerTruth n = .ok b) : b = (n != 0) := by
  rw [integerTruth] at stands
  split at stands
  · rename_i one
    rw [← Except.ok.inj stands, one]
    rfl
  · split at stands
    · rename_i zero
      rw [← Except.ok.inj stands, zero]
      rfl
    · split at stands <;> contradiction

/-- A word is no empty value, whatever it stands for. -/
theorem truthy_of_word (held : word? v = some word) (nonempty : word ≠ []) : v.truthy = true := by
  cases v with
  | text t =>
      obtain rfl := Option.some.inj held
      simpa [Value.truthy] using nonempty
  | blob kind bytes =>
      cases kind with
      | fixed =>
          cases bytes with
          | nil => exact absurd (Option.some.inj held).symm nonempty
          | cons byte rest => rfl
      | _ => contradiction
  | _ => contradiction

theorem IsFalseWord.truthy (isFalse : IsFalseWord v) : v.truthy = true := by
  obtain ⟨word, held, listed⟩ := isFalse
  exact truthy_of_word held (ne_nil_of_wordTruth (wordTruth_eq_ok_iff.mpr (Or.inr ⟨rfl, listed⟩)))

theorem IsFalseWord.eq_false (isFalse : IsFalseWord v) (stands : toTruth v = .ok b)
    : b = false := by
  obtain ⟨word, held, listed⟩ := isFalse
  exact (eq_false_iff_of_wordTruth (wordTruth_of_toTruth stands held)).mpr listed

/-- Words for true count as true, and of the values that are no words just those that stand for
true. -/
theorem truthy_of_not_isFalseWord (other : ¬IsFalseWord v) (stands : toTruth v = .ok b)
    : v.truthy = b := by
  cases held : word? v with
  | some word =>
      have read := wordTruth_of_toTruth stands held
      rw [truthy_of_word held (ne_nil_of_wordTruth read)]
      cases b with
      | true => rfl
      | false => exact absurd ⟨word, held, (eq_false_iff_of_wordTruth read).mp rfl⟩ other
  | none =>
      cases v with
      | bool c => exact Except.ok.inj stands
      | int n => exact (integerTruth_eq_ok stands).symm
      | float x =>
          rw [toTruth] at stands
          split at stands
          · rename_i n whole
            rw [integerTruth_eq_ok stands, Value.truthy, Bool.not_eq_eq_eq_not]
            rw [Bool.eq_iff_iff, ← Binary64.toInt?_eq_zero_iff, whole]
            simp
          · contradiction
      | text t => contradiction
      | blob kind bytes =>
          cases kind with
          | fixed =>
              rw [toTruth, show Utf8.decode? bytes = none from held] at stands
              contradiction
          | _ => contradiction
      | _ => contradiction

/-- A value that stands for a truth value does not answer for itself. -/
theorem truth_of_toTruth (stands : toTruth v = .ok b) : v.truth = .ok v.truthy := by
  cases v with
  | blob kind bytes =>
      cases kind with
      | view address released => contradiction
      | _ => rfl
  | handle h => contradiction
  | map kind entries => contradiction
  | _ => rfl

/-- A value that stands for a truth value counts as the same one by itself, unless it is a word for
false, which counts as true. -/
theorem truthy_eq_iff (stands : toTruth v = .ok b) : v.truthy = b ↔ ¬IsFalseWord v := by
  constructor
  · intro same isFalse
    rw [isFalse.truthy, isFalse.eq_false stands] at same
    contradiction
  · intro other
    exact truthy_of_not_isFalseWord other stands

end Field

end Dispatch
