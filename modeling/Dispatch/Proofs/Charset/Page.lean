import Dispatch.Charset.Page.Basic
import Dispatch.Proofs.Text.Utf8

/-! Code pages back and forth. No two runs of a page share a byte, so the byte that is written for a
code point is read as that code point again, and every code point that a byte is read as has a byte.
-/

namespace Dispatch.CodePage

variable {page : CodePage} {c : CodePoint} {b : UInt8} {run : Nat × Nat × Nat}

-----------------------------------------------------------------------------------------
-- One run
-----------------------------------------------------------------------------------------

/-- The code point of a byte under one run. -/
def codePointIn? (b : UInt8) : Nat × Nat × Nat → Option CodePoint :=
  fun (low, high, start) =>
    if low ≤ b.toNat && b.toNat ≤ high then CodePoint.ofNat? (start + (b.toNat - low)) else none

/-- A run holds a byte for a code point. -/
def Holds (run : Nat × Nat × Nat) (b : UInt8) (c : CodePoint) : Prop :=
  run.1 ≤ b.toNat ∧ b.toNat ≤ run.2.1 ∧ c.val = run.2.2 + (b.toNat - run.1)

theorem byteIn?_eq_some_iff (bytes : run.1 ≤ run.2.1 ∧ run.2.1 < 0x100)
    : byteIn? c run = some b ↔ Holds run b c := by
  obtain ⟨low, high, start⟩ := run
  simp only at bytes
  simp only [byteIn?, Holds]
  constructor
  · intro written
    split at written
    · rename_i inside
      simp only [Bool.and_eq_true, decide_eq_true_eq] at inside
      rw [← Option.some.inj written, Utf8.toNat_ofNat_of_lt (by omega)]
      omega
    · contradiction
  · rintro ⟨first, last, value⟩
    have back : low + (c.val - start) = b.toNat := by omega
    rw [if_pos (by simp only [Bool.and_eq_true, decide_eq_true_eq]; omega), back, UInt8.ofNat_toNat]

theorem codePointIn?_eq_some_iff : codePointIn? b run = some c ↔ Holds run b c := by
  obtain ⟨low, high, start⟩ := run
  simp only [codePointIn?, Holds]
  constructor
  · intro read
    split at read
    · rename_i inside
      simp only [Bool.and_eq_true, decide_eq_true_eq] at inside
      simp only [CodePoint.ofNat?] at read
      split at read
      · cases read
        exact ⟨inside.1, inside.2, rfl⟩
      · contradiction
    · contradiction
  · rintro ⟨first, last, value⟩
    rw [if_pos (by simp [first, last]), ← value, CodePoint.ofNat?_val]

-----------------------------------------------------------------------------------------
-- All runs of a page
-----------------------------------------------------------------------------------------

/-- The last of several results is the first one from behind. -/
theorem foldl_or {α β : Type} (f : α → Option β) (xs : List α) (found : Option β)
    : xs.foldl (fun found x => (f x).or found) found = (xs.reverse.findSome? f).or found := by
  induction xs generalizing found with
  | nil => rfl
  | cons x xs ih =>
      rw [List.foldl_cons, ih, List.reverse_cons, List.findSome?_append, Option.or_assoc,
        List.findSome?_singleton]

theorem byte?_eq (page : CodePage) (c : CodePoint)
    : page.byte? c = page.runs.reverse.findSome? (byteIn? c) := by
  rw [byte?, foldl_or, Option.or_none]

theorem exists_holds_of_byte? (written : page.byte? c = some b)
    : ∃ run ∈ page.runs, Holds run b c := by
  rw [byte?_eq] at written
  obtain ⟨run, listed, inRun⟩ := List.exists_of_findSome?_eq_some written
  have member := List.mem_reverse.mp listed
  exact ⟨run, member, (byteIn?_eq_some_iff (page.areByteRuns.bytes run member)).mp inRun⟩

theorem isSome_byte?_of_holds (member : run ∈ page.runs) (holds : Holds run b c)
    : (page.byte? c).isSome := by
  have inRun := (byteIn?_eq_some_iff (page.areByteRuns.bytes run member)).mpr holds
  rw [byte?_eq, List.findSome?_isSome_iff]
  exact ⟨run, List.mem_reverse.mpr member, by rw [inRun]; rfl⟩

/-- A byte is read under the one run that holds it, since the runs before it end earlier. -/
theorem codePoint?_eq_some_iff : page.codePoint? b = some c ↔ ∃ run ∈ page.runs, Holds run b c := by
  constructor
  · intro read
    obtain ⟨run, listed, inRun⟩ := List.exists_of_findSome?_eq_some read
    exact ⟨run, listed, codePointIn?_eq_some_iff.mp inRun⟩
  · rintro ⟨run, member, holds⟩
    obtain ⟨before, after, split⟩ := List.append_of_mem member
    have apart := page.areByteRuns.apart
    rw [split, List.pairwise_append] at apart
    refine List.findSome?_eq_some_iff.mpr ⟨before, run, after, split,
      codePointIn?_eq_some_iff.mpr holds, ?_⟩
    rintro ⟨low, high, start⟩ listed
    have ended : high < run.1 := apart.2.2 _ listed run List.mem_cons_self
    have first := holds.1
    exact if_neg (by simp only [Bool.and_eq_true, decide_eq_true_eq]; omega)

-----------------------------------------------------------------------------------------
-- Back and forth
-----------------------------------------------------------------------------------------

theorem codePoint?_of_byte? (written : page.byte? c = some b) : page.codePoint? b = some c :=
  codePoint?_eq_some_iff.mpr (exists_holds_of_byte? written)

theorem isSome_byte?_of_codePoint? (read : page.codePoint? b = some c) : (page.byte? c).isSome := by
  obtain ⟨run, member, holds⟩ := codePoint?_eq_some_iff.mp read
  exact isSome_byte?_of_holds member holds

end Dispatch.CodePage
