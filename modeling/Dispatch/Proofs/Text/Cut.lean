import Dispatch.Text.Basic
import Mathlib.Data.List.TakeWhile

/-! Cutting and splitting undo joining. A text is the part before a mark and the marked rest, and
pieces that do not hold the separator come back from the text that they are joined to.
-/

namespace Dispatch.Text

/-- A part with its mark in front, if the part is there. -/
def marked (mark : CodePoint) : Option Text → Text
  | none => []
  | some t => mark :: t

/-- The cut at a mark gives back what the mark was put between. -/
theorem cut_append_marked {mark : CodePoint} {before : Text} (absent : mark ∉ before)
    (after : Option Text)
    : (before ++ marked mark after).cut mark = (before, after) := by
  have kept : ∀ c ∈ before, (c != mark) = true := by
    intro c member
    exact bne_iff_ne.mpr (fun same => absent (same ▸ member))
  have whole : before.takeWhile (· != mark) = before := List.takeWhile_eq_self_iff.mpr kept
  have nothing : before.dropWhile (· != mark) = [] := List.dropWhile_eq_nil_iff.mpr kept
  cases after with
  | none => simp [cut, marked, whole, nothing]
  | some t =>
      simp [cut, marked, List.takeWhile_append_of_pos kept, List.dropWhile_append_of_pos kept]

theorem cut_of_not_mem {mark : CodePoint} {t : Text} (absent : mark ∉ t)
    : t.cut mark = (t, none) := by
  simpa [marked] using cut_append_marked absent none

theorem not_mem_cut (mark : CodePoint) (t : Text) : mark ∉ (t.cut mark).1 := by
  intro member
  have kept := List.mem_takeWhile_imp member
  simp at kept

/-- Nothing is lost in a cut. -/
theorem cut_append (mark : CodePoint) (t : Text)
    : (t.cut mark).1 ++ marked mark (t.cut mark).2 = t := by
  have whole : t.takeWhile (· != mark) ++ t.dropWhile (· != mark) = t :=
    List.takeWhile_append_dropWhile
  cases rest : t.dropWhile (· != mark) with
  | nil =>
      rw [rest, List.append_nil] at whole
      simp [cut, rest, marked, whole]
  | cons c after =>
      have stop : c = mark := by
        have head := List.head?_dropWhile_not (· != mark) t
        rw [rest] at head
        simpa using head
      rw [rest, stop] at whole
      simp [cut, rest, marked, whole]

theorem mem_joinWith {separator : Text} {pieces : List Text} {c : CodePoint}
    (member : c ∈ joinWith separator pieces)
    : c ∈ separator ∨ ∃ piece ∈ pieces, c ∈ piece := by
  induction pieces with
  | nil => simp [joinWith, List.intercalate_nil] at member
  | cons piece pieces ih =>
      cases pieces with
      | nil => exact Or.inr ⟨piece, by simp, by simpa [joinWith] using member⟩
      | cons next pieces =>
          rw [joinWith, List.intercalate_cons_cons, List.mem_append, List.mem_append] at member
          rcases member with (first | between) | later
          · exact Or.inr ⟨piece, by simp, first⟩
          · exact Or.inl between
          · exact (ih later).imp_right
              (fun ⟨other, listed, inside⟩ => ⟨other, by simp [listed], inside⟩)

-----------------------------------------------------------------------------------------
-- Separators divide the pieces and nothing else does
-----------------------------------------------------------------------------------------

@[simp] theorem splitOn_nil (separator : CodePoint) : splitOn separator [] = [[]] := rfl

theorem splitOn_cons_self (separator : CodePoint) (t : Text)
    : splitOn separator (separator :: t) = [] :: splitOn separator t := by
  simp [splitOn, splitWhere]

theorem splitOn_cons_of_ne {separator c : CodePoint} (other : c ≠ separator) {t piece : Text}
    {pieces : List Text} (rest : splitOn separator t = piece :: pieces)
    : splitOn separator (c :: t) = (c :: piece) :: pieces := by
  simp only [splitOn, splitWhere, List.cons.injEq] at rest ⊢
  simp only [List.foldr_cons, beq_false_of_ne other, Bool.false_eq_true, if_false, rest, and_self]

theorem splitOn_ne_nil (separator : CodePoint) (t : Text) : splitOn separator t ≠ [] := by
  simp [splitOn, splitWhere]

/-- A piece before the first separator comes first, by induction on the piece. -/
theorem splitOn_append {separator : CodePoint} {before t piece : Text} {pieces : List Text}
    (absent : separator ∉ before) (rest : splitOn separator t = piece :: pieces)
    : splitOn separator (before ++ t) = (before ++ piece) :: pieces := by
  induction before with
  | nil => exact rest
  | cons c before ih =>
      simp only [List.mem_cons, not_or] at absent
      exact splitOn_cons_of_ne (Ne.symm absent.1) (ih absent.2)

theorem splitOn_of_not_mem {separator : CodePoint} {t : Text} (absent : separator ∉ t)
    : splitOn separator t = [t] := by
  simpa using splitOn_append absent (splitOn_nil separator)

/-- A separator divides the pieces, by induction on the text before it. -/
theorem splitOn_append_cons (separator : CodePoint) (before after : Text)
    : splitOn separator (before ++ separator :: after)
      = splitOn separator before ++ splitOn separator after := by
  induction before with
  | nil => exact splitOn_cons_self separator after
  | cons c before ih =>
      by_cases same : c = separator
      · rw [same, List.cons_append, splitOn_cons_self, splitOn_cons_self, ih, List.cons_append]
      · obtain ⟨piece, pieces, rest⟩ :=
          List.exists_cons_of_ne_nil (splitOn_ne_nil separator before)
        rw [rest, List.cons_append] at ih
        rw [splitOn_cons_of_ne same rest, List.cons_append, splitOn_cons_of_ne same ih,
          List.cons_append]

end Dispatch.Text
