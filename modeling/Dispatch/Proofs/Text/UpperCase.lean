import Dispatch.Text.Upper

/-! Upper case is a normal form: no code point of an upper case has another upper case. The tables
are checked run by run, since the image of a run overlaps other runs only where both take every
second number.
-/

namespace Dispatch

namespace CaseRun

/-- Whether a run takes every second number, or holds one number only. -/
def alternates (run : CaseRun) : Bool :=
  Nat.beq run.stride 2 || Nat.beq run.first run.last

/-- Whether the image of a run has no number in the runs of a sorted table. The walk ends at the
first run beyond the image, as the search for an image does.
-/
def misses (run : CaseRun) : List CaseRun → Bool
  | [] => true
  | other :: rest =>
      Nat.blt (run.target + (run.last - run.first)) other.first
        || ((Nat.blt other.last run.target
            || (run.alternates && other.alternates
              && Nat.beq ((run.target + other.first) % 2) 1))
          && run.misses rest)

/-- A number in the image of a run, at an even distance from its start if the run alternates. -/
structure Reaches (run : CaseRun) (n : Nat) : Prop where
  low : run.target ≤ n
  high : n ≤ run.target + (run.last - run.first)
  even : run.alternates → (n - run.target) % 2 = 0

/-- A number that a run alone holds is its own image there. -/
theorem reaches_single (n : Nat) : Reaches ⟨n, n, 1, n⟩ n :=
  ⟨Nat.le_refl n, by simp, by simp⟩

/-- An image that misses a table is not mapped further, by induction on the table. -/
theorem image?_eq_none {run : CaseRun} {n : Nat} {runs : List CaseRun} (reached : run.Reaches n)
    (apart : run.misses runs)
    : image? runs n = none := by
  obtain ⟨low, high, even⟩ := reached
  induction runs with
  | nil => rfl
  | cons other rest ih =>
      simp only [misses, Bool.or_eq_true, Bool.and_eq_true, Nat.blt_eq, Nat.beq_eq] at apart
      rcases apart with beyond | ⟨outside, later⟩
      · rw [image?, if_pos (by omega)]
      · rw [image?]
        split
        · rfl
        · rename_i start
          have skipped : ¬(n ≤ other.last ∧ (n - other.first) % other.stride = 0) := by
            rintro ⟨stop, place⟩
            rcases outside with before | ⟨⟨runStep, otherStep⟩, odd⟩
            · omega
            · have shift := even runStep
              simp only [alternates, Bool.or_eq_true, Nat.beq_eq] at otherStep
              rcases otherStep with two | one
              · rw [two] at place
                omega
              · omega
          simpa [skipped] using ih later

/-- A number with an image is at a step of a run, and its image is as far from the start of the
target. -/
theorem exists_of_image? {runs : List CaseRun} {n m : Nat} (image : image? runs n = some m)
    : ∃ run ∈ runs, run.first ≤ n ∧ n ≤ run.last ∧ (n - run.first) % run.stride = 0
        ∧ m = run.target + (n - run.first) := by
  induction runs with
  | nil => simp [image?] at image
  | cons run rest ih =>
      rw [image?] at image
      split at image
      · contradiction
      · rename_i start
        split at image
        · rename_i inside
          simp only [Bool.and_eq_true, decide_eq_true_eq] at inside
          exact ⟨run, List.mem_cons_self, Nat.le_of_not_lt start, inside.1, inside.2,
            (Option.some.inj image).symm⟩
        · obtain ⟨found, listed, place⟩ := ih image
          exact ⟨found, List.mem_cons_of_mem run listed, place⟩

/-- An image reaches as far as its run does. -/
theorem exists_reaches {runs : List CaseRun} {n m : Nat} (image : image? runs n = some m)
    : ∃ run ∈ runs, run.Reaches m := by
  obtain ⟨run, listed, start, stop, place, rfl⟩ := exists_of_image? image
  refine ⟨run, listed, by omega, by omega, ?_⟩
  intro step
  simp only [alternates, Bool.or_eq_true, Nat.beq_eq] at step
  rcases step with two | one
  · rw [two] at place
    omega
  · omega

theorem image?_cons_ne_none {run : CaseRun} {n : Nat} (low : run.first ≤ n) (high : n ≤ run.last)
    (step : run.stride = 1) (rest : List CaseRun)
    : image? (run :: rest) n ≠ none := by
  rw [image?, if_neg (by omega), if_pos (by simp [high, step, Nat.mod_one])]
  simp

end CaseRun

-----------------------------------------------------------------------------------------
-- No run of the tables leads to a code point that has an upper case itself
-----------------------------------------------------------------------------------------

/-- Whether the image of a run holds neither a number of a run nor one with an expansion. -/
def CaseRun.isFinal (run : CaseRun) : Bool :=
  Nat.blt (run.target + (run.last - run.first)) 0x110000
    && run.misses upperRuns
    && upperExpansions.all fun e =>
      Nat.blt (run.target + (run.last - run.first)) e.1 || Nat.blt e.1 run.target

theorem upperRuns_final : upperRuns.all CaseRun.isFinal = true := by decide +kernel

theorem upperExpansions_final
    : upperExpansions.all (fun e => e.2.all fun n => CaseRun.isFinal ⟨n, n, 1, n⟩) = true := by
  decide +kernel

theorem CodePoint.val_ofNat {n : Nat} (small : n < 0x110000) : (CodePoint.ofNat n).val = n := by
  simp [CodePoint.ofNat, small]

/-- A number in the image of a final run is its own upper case. -/
theorem CaseRun.isFinal.upper {run : CaseRun} {n : Nat} (final : run.isFinal)
    (reached : run.Reaches n)
    : (CodePoint.ofNat n).upper = [CodePoint.ofNat n] := by
  simp only [isFinal, Bool.and_eq_true, Nat.blt_eq, List.all_eq_true, Bool.or_eq_true] at final
  obtain ⟨⟨small, missed⟩, single⟩ := final
  have value := CodePoint.val_ofNat (Nat.lt_of_le_of_lt reached.high small)
  have noImage := image?_eq_none reached missed
  have noExpansion : upperExpansions.find? (fun e => e.1 = n) = none := by
    refine List.find?_eq_none.mpr (fun e member => ?_)
    have apart := single e member
    have low := reached.low
    have high := reached.high
    simp only [decide_eq_true_eq]
    omega
  simp only [CodePoint.upper, value, noImage, noExpansion]
  split
  · -- The table starts with the letters of ASCII, so a number without an image is none of them.
    have noLetter : ¬(CodePoint.ofNat n).isLowerAscii = true := by
      intro lower
      simp only [CodePoint.isLowerAscii, value, Bool.and_eq_true, decide_eq_true_eq] at lower
      exact @image?_cons_ne_none ⟨0x61, 0x7a, 1, 0x41⟩ n lower.1 lower.2 rfl upperRuns.tail noImage
    rw [if_neg noLetter]
  · rfl

/-- What upper case gives is its own upper case, by the branches of the mapping. -/
theorem CodePoint.upper_of_mem_upper {c d : CodePoint} (member : d ∈ c.upper) : d.upper = [d] := by
  have whole := member
  rw [CodePoint.upper] at member
  split at member
  · rename_i ascii
    split at member
    · rename_i lower
      simp only [CodePoint.isLowerAscii, Bool.and_eq_true, decide_eq_true_eq] at lower
      have value := CodePoint.val_ofNat (show c.val - 0x20 < 0x110000 by omega)
      rw [List.mem_singleton.mp member, CodePoint.upper]
      simp only [CodePoint.isAscii, CodePoint.isLowerAscii, value]
      rw [if_pos (by simp; omega), if_neg (by simp; omega)]
    · rename_i other
      rw [List.mem_singleton.mp member, CodePoint.upper, if_pos ascii, if_neg other]
  · rename_i wide
    split at member
    · rename_i n image
      obtain ⟨run, table, reached⟩ := CaseRun.exists_reaches image
      rw [List.mem_singleton.mp member]
      exact CaseRun.isFinal.upper (List.all_eq_true.mp upperRuns_final run table) reached
    · rename_i noImage
      split at member
      · rename_i key ns found
        obtain ⟨n, listed, rfl⟩ := List.mem_map.mp member
        have row := List.all_eq_true.mp upperExpansions_final _ (List.mem_of_find?_eq_some found)
        exact CaseRun.isFinal.upper (List.all_eq_true.mp row n listed) (CaseRun.reaches_single n)
      · rename_i noExpansion
        rw [List.mem_singleton.mp member, CodePoint.upper, if_neg wide]
        simp only [noImage, noExpansion]

namespace Text

/-- Upper case changes nothing in a text of which each code point is its own. -/
theorem upper_eq_self {t : Text} (fixed : ∀ c ∈ t, c.upper = [c]) : t.upper = t := by
  induction t with
  | nil => rfl
  | cons c rest ih =>
      have tail : Text.upper rest = rest := ih (fun d member => fixed d (by simp [member]))
      rw [Text.upper, List.flatMap_cons, fixed c (by simp)]
      exact congrArg (c :: ·) tail

theorem upper_upper (t : Text) : t.upper.upper = t.upper := by
  refine upper_eq_self (fun d member => ?_)
  obtain ⟨c, _, image⟩ := List.mem_flatMap.mp member
  exact CodePoint.upper_of_mem_upper image

end Text

end Dispatch
