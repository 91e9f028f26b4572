import Dispatch.Proofs.Text.UpperCase
import Dispatch.Text.Blank

/-! Code points that divide a line: blanks and control characters. Upper case leaves them where they
are and brings in no others. The tables of upper case are checked run by run, for the numbers that a
run maps and for those that it maps them to.
-/

namespace Dispatch

/-- The control characters of Unicode. -/
def controlRanges : Ranges := [(0x0, 0x1f), (0x7f, 0x9f)]

/-- Whether a code point is a blank or a control character. -/
def CodePoint.isDivider (c : CodePoint) : Bool :=
  c.isBlank || controlRanges.holds c.val

/-- Whether no number from a low one to a high one is in the ranges. -/
def Ranges.misses (low high : Nat) : Ranges → Bool
  | [] => true
  | (first, last) :: rest => Nat.blt high first || (Nat.blt last low && misses low high rest)

/-- Whether no number from a low one to a high one is that of a divider. -/
def missesDividers (low high : Nat) : Bool :=
  blankRanges.misses low high && controlRanges.misses low high

theorem Ranges.holds_eq_false {low high n : Nat} {ranges : Ranges}
    (apart : ranges.misses low high) (start : low ≤ n) (stop : n ≤ high)
    : ranges.holds n = false := by
  induction ranges with
  | nil => rfl
  | cons range rest ih =>
      obtain ⟨first, last⟩ := range
      simp only [misses, Bool.or_eq_true, Bool.and_eq_true, Nat.blt_eq] at apart
      rw [holds]
      rcases apart with beyond | ⟨before, later⟩
      · rw [if_pos (by omega)]
      · split
        · rfl
        · rw [if_neg (by omega), ih later]

theorem CodePoint.isDivider_eq_false {c : CodePoint} {low high : Nat}
    (apart : missesDividers low high) (start : low ≤ c.val) (stop : c.val ≤ high)
    : c.isDivider = false := by
  simp only [missesDividers, Bool.and_eq_true] at apart
  rw [isDivider, isBlank, Ranges.holds_eq_false apart.1 start stop,
    Ranges.holds_eq_false apart.2 start stop, Bool.or_self]

-----------------------------------------------------------------------------------------
-- The tables of upper case hold no divider, neither as a key nor as an image
-----------------------------------------------------------------------------------------

theorem upperRuns_missDividers
    : upperRuns.all (fun run =>
        missesDividers run.first run.last
          && Nat.blt (run.target + (run.last - run.first)) 0x110000
          && missesDividers run.target (run.target + (run.last - run.first))) = true := by
  decide

theorem upperExpansions_missDividers
    : upperExpansions.all (fun e =>
        missesDividers e.1 e.1
          && e.2.all fun n => Nat.blt n 0x110000 && missesDividers n n) = true := by
  decide

/-- A code point that is not its own upper case is no divider, and its upper case holds none. -/
theorem CodePoint.upper_cases (c : CodePoint)
    : c.upper = [c] ∨ (c.isDivider = false ∧ ∀ d ∈ c.upper, d.isDivider = false) := by
  rw [upper]
  split
  · split
    · rename_i lower
      simp only [isLowerAscii, Bool.and_eq_true, decide_eq_true_eq] at lower
      have small : missesDividers 0x61 0x7a := rfl
      have capital : missesDividers 0x41 0x5a := rfl
      refine Or.inr ⟨isDivider_eq_false small lower.1 lower.2, ?_⟩
      intro d member
      have value : d.val = c.val - 0x20 := by
        rw [List.mem_singleton.mp member, val_ofNat (by omega)]
      exact isDivider_eq_false capital (by omega) (by omega)
    · exact Or.inl rfl
  · split
    · rename_i m image
      obtain ⟨run, listed, start, stop, _, rfl⟩ := CaseRun.exists_of_image? image
      have apart := List.all_eq_true.mp upperRuns_missDividers run listed
      simp only [Bool.and_eq_true, Nat.blt_eq] at apart
      obtain ⟨⟨source, small⟩, target⟩ := apart
      refine Or.inr ⟨isDivider_eq_false source start stop, ?_⟩
      intro d member
      have value : d.val = run.target + (c.val - run.first) := by
        rw [List.mem_singleton.mp member, val_ofNat (by omega)]
      exact isDivider_eq_false target (by omega) (by omega)
    · split
      · rename_i key ns found
        have same : key = c.val := by simpa using List.find?_some found
        have apart := List.all_eq_true.mp upperExpansions_missDividers _
          (List.mem_of_find?_eq_some found)
        simp only [Bool.and_eq_true, List.all_eq_true, Nat.blt_eq] at apart
        refine Or.inr ⟨isDivider_eq_false apart.1 (by simp [same]) (by simp [same]), ?_⟩
        intro d member
        obtain ⟨n, listed, rfl⟩ := List.mem_map.mp member
        obtain ⟨small, image⟩ := apart.2 n listed
        have value := val_ofNat small
        exact isDivider_eq_false image (by omega) (by omega)
      · exact Or.inl rfl

/-- The dividers of an upper case are those of the code point. -/
theorem CodePoint.filter_upper (c : CodePoint)
    : c.upper.filter CodePoint.isDivider = [c].filter CodePoint.isDivider := by
  rcases c.upper_cases with same | ⟨source, image⟩
  · rw [same]
  · have none : c.upper.filter CodePoint.isDivider = [] :=
      List.filter_eq_nil_iff.mpr fun d member => by simp [image d member]
    rw [none, List.filter_cons_of_neg (by simp [source]), List.filter_nil]

/-- The dividers of an upper case are those of the text, in their order. -/
theorem Text.filter_upper (t : Text)
    : t.upper.filter CodePoint.isDivider = t.filter CodePoint.isDivider := by
  induction t with
  | nil => rfl
  | cons c t ih =>
      rw [upper] at ih
      rw [upper, List.flatMap_cons, List.filter_append, ih, CodePoint.filter_upper,
        ← List.filter_append, List.singleton_append]

end Dispatch
