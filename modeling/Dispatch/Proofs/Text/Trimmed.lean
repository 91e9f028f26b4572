import Dispatch.Proofs.Text.Dividers
import Mathlib.Data.List.DropRight

/-! Texts without blanks around them. Dropping blanks takes a text apart into blanks, a text that
neither starts nor ends with one, and blanks, and there is no other way to do so. Upper case may be
taken before the blanks are dropped or after, since it neither makes a blank nor takes one away.
-/

namespace Dispatch

namespace Text

/-- A text of blanks only. -/
def IsBlank (t : Text) : Prop :=
  ∀ c ∈ t, c.isBlank

/-- A text that neither starts nor ends with a blank. -/
structure Trimmed (t : Text) : Prop where
  start : ∀ c ∈ t.head?, c.isBlank = false
  stop : ∀ c ∈ t.getLast?, c.isBlank = false

/-- A text that has nothing but blanks around another one. -/
def Pads (t core : Text) : Prop :=
  ∃ before after, IsBlank before ∧ IsBlank after ∧ t = before ++ core ++ after

theorem Pads.refl (t : Text) : t.Pads t :=
  ⟨[], [], nofun, nofun, (List.append_nil t).symm⟩

theorem Pads.trans {s t core : Text} (outer : s.Pads t) (inner : t.Pads core) : s.Pads core := by
  obtain ⟨first, last, blankFirst, blankLast, rfl⟩ := outer
  obtain ⟨before, after, blankBefore, blankAfter, rfl⟩ := inner
  refine ⟨first ++ before, after ++ last, ?_, ?_, by simp only [List.append_assoc]⟩
  · exact List.forall_mem_append.mpr ⟨blankFirst, blankBefore⟩
  · exact List.forall_mem_append.mpr ⟨blankAfter, blankLast⟩

theorem trimmed_of_no_blank {t : Text} (noBlank : ∀ c ∈ t, c.isBlank = false) : Trimmed t :=
  ⟨fun c first => noBlank c (List.mem_of_mem_head? first),
    fun c last => noBlank c (List.mem_of_mem_getLast? last)⟩

-----------------------------------------------------------------------------------------
-- Dropping blanks
-----------------------------------------------------------------------------------------

theorem strip_eq_rdropWhile (t : Text)
    : t.strip = (t.dropWhile CodePoint.isBlank).rdropWhile CodePoint.isBlank :=
  rfl

theorem pads_strip (t : Text) : t.Pads t.strip := by
  refine ⟨t.takeWhile CodePoint.isBlank,
    (t.dropWhile CodePoint.isBlank).rtakeWhile CodePoint.isBlank,
    fun c member => List.mem_takeWhile_imp member,
    fun c member => List.mem_rtakeWhile_imp member, ?_⟩
  rw [strip_eq_rdropWhile, List.append_assoc, List.rdropWhile_append_rtakeWhile,
    List.takeWhile_append_dropWhile]

theorem trimmed_strip (t : Text) : Trimmed t.strip := by
  constructor
  · intro c first
    obtain ⟨rest, whole⟩ := List.rdropWhile_prefix CodePoint.isBlank (t.dropWhile CodePoint.isBlank)
    have head : (t.dropWhile CodePoint.isBlank).head? = some c := by
      rw [← whole, List.head?_append, ← strip_eq_rdropWhile, Option.mem_def.mp first,
        Option.some_or]
    have kept := List.head?_dropWhile_not CodePoint.isBlank t
    rw [head] at kept
    exact kept
  · intro c last
    obtain ⟨nonempty, rfl⟩ := List.mem_getLast?_eq_getLast last
    exact Bool.eq_false_iff.mpr (List.rdropWhile_last_not CodePoint.isBlank _ nonempty)

/-- Blanks around a text without such are dropped, and nothing else is. -/
theorem strip_of_pads {t core : Text} (pads : t.Pads core) (trimmed : Trimmed core)
    : t.strip = core := by
  obtain ⟨before, after, blankBefore, blankAfter, rfl⟩ := pads
  rw [strip_eq_rdropWhile, List.append_assoc, List.dropWhile_append_of_pos blankBefore]
  cases core with
  | nil =>
      rw [List.nil_append, List.dropWhile_eq_nil_iff.mpr blankAfter]
      rfl
  | cons c rest =>
      have kept : (c :: rest ++ after).dropWhile CodePoint.isBlank = c :: rest ++ after :=
        List.dropWhile_cons_of_neg (by simp [trimmed.start c rfl])
      have blankBack : ∀ d ∈ after.reverse, d.isBlank := fun d member =>
        blankAfter d (List.mem_reverse.mp member)
      rw [kept, List.rdropWhile, List.reverse_append, List.dropWhile_append_of_pos blankBack,
        ← List.rdropWhile, List.rdropWhile_eq_self_iff]
      intro nonempty
      simp [trimmed.stop _ (List.getLast?_eq_some_getLast nonempty)]

/-- What is left of a text is the one text without blanks around that it has blanks around. -/
theorem strip_eq_iff {t core : Text} : t.strip = core ↔ t.Pads core ∧ Trimmed core := by
  constructor
  · rintro rfl
    exact ⟨pads_strip t, trimmed_strip t⟩
  · rintro ⟨pads, trimmed⟩
    exact strip_of_pads pads trimmed

theorem Pads.strip_eq {t core : Text} (pads : t.Pads core) : t.strip = core.strip :=
  strip_of_pads (pads.trans (pads_strip core)) (trimmed_strip core)

theorem Trimmed.strip_eq {t : Text} (trimmed : Trimmed t) : t.strip = t :=
  strip_of_pads (Pads.refl t) trimmed

/-- Dropping blanks leaves nothing of a text of blanks only. -/
theorem strip_eq_nil_iff {t : Text} : t.strip = [] ↔ IsBlank t := by
  rw [strip_eq_iff]
  constructor
  · rintro ⟨⟨before, after, blankBefore, blankAfter, rfl⟩, _⟩
    rw [List.append_nil]
    exact List.forall_mem_append.mpr ⟨blankBefore, blankAfter⟩
  · intro blank
    exact ⟨⟨t, [], blank, nofun, by simp⟩, nofun, nofun⟩

end Text

-----------------------------------------------------------------------------------------
-- Upper case keeps blanks
-----------------------------------------------------------------------------------------

theorem upperExpansions_nonempty : upperExpansions.all (fun e => !e.2.isEmpty) = true := by
  decide

/-- Every code point has an upper case, by the branches of the mapping. -/
theorem CodePoint.upper_ne_nil (c : CodePoint) : c.upper ≠ [] := by
  rw [upper]
  split
  · split <;> exact List.cons_ne_nil _ _
  · split
    · exact List.cons_ne_nil _ _
    · split
      · rename_i key ns found
        have row := List.all_eq_true.mp upperExpansions_nonempty _ (List.mem_of_find?_eq_some found)
        simpa using row
      · exact List.cons_ne_nil _ _

/-- A blank is its own upper case, and no other upper case holds one. -/
theorem CodePoint.isBlank_of_mem_upper {c d : CodePoint} (member : d ∈ c.upper)
    : d.isBlank = c.isBlank := by
  rcases c.upper_cases with same | ⟨source, image⟩
  · rw [same] at member
    rw [List.mem_singleton.mp member]
  · have noBlank {e : CodePoint} (apart : e.isDivider = false) : e.isBlank = false :=
      (Bool.or_eq_false_iff.mp apart).1
    rw [noBlank source, noBlank (image d member)]

namespace Text

theorem upper_append (s t : Text) : (s ++ t).upper = s.upper ++ t.upper :=
  List.flatMap_append

theorem IsBlank.upper {t : Text} (blank : IsBlank t) : IsBlank t.upper := by
  intro d member
  obtain ⟨c, listed, image⟩ := List.mem_flatMap.mp member
  rw [CodePoint.isBlank_of_mem_upper image, blank c listed]

theorem Pads.upper {t core : Text} (pads : t.Pads core) : t.upper.Pads core.upper := by
  obtain ⟨before, after, blankBefore, blankAfter, rfl⟩ := pads
  exact ⟨before.upper, after.upper, blankBefore.upper, blankAfter.upper, by
    rw [upper_append, upper_append]⟩

/-- The first and the last code point of an upper case come from those of the text. -/
theorem Trimmed.upper {t : Text} (trimmed : Trimmed t) : Trimmed t.upper := by
  constructor
  · intro d first
    cases t with
    | nil => contradiction
    | cons c rest =>
        rw [Text.upper, List.flatMap_cons, List.head?_append_of_ne_nil _ c.upper_ne_nil] at first
        rw [CodePoint.isBlank_of_mem_upper (List.mem_of_mem_head? first), trimmed.start c rfl]
  · intro d last
    rcases List.eq_nil_or_concat t with rfl | ⟨rest, c, rfl⟩
    · contradiction
    · have stop := trimmed.stop c (by simp)
      rw [List.concat_eq_append, upper_append, Text.upper, Text.upper, List.flatMap_singleton,
        List.getLast?_append_of_ne_nil _ c.upper_ne_nil] at last
      rw [CodePoint.isBlank_of_mem_upper (List.mem_of_mem_getLast? last), stop]

theorem upper_strip (t : Text) : t.strip.upper = t.upper.strip :=
  (strip_of_pads (pads_strip t).upper (trimmed_strip t).upper).symm

end Text

end Dispatch
