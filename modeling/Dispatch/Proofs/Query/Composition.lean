import Dispatch.Proofs.Query.ClosedForm

/-! Adding parameters in two steps. The query that the first ones leave behind takes up the second
ones as it would have taken up all of them at once, so an absolute URL ends up the same, and if it
becomes too long on the way, it is too long in the end.
-/

namespace Dispatch

open Dispatch.Result

theorem Text.joinWith_append (separator : Text) {left right : List Text} (leftFilled : left ≠ [])
    (rightFilled : right ≠ [])
    : joinWith separator (left ++ right)
      = joinWith separator left ++ separator ++ joinWith separator right := by
  induction left with
  | nil => contradiction
  | cons piece left ih =>
      cases left with
      | nil =>
          obtain ⟨next, right, rfl⟩ := List.exists_cons_of_ne_nil rightFilled
          rw [List.singleton_append, joinWith, joinWith, List.intercalate_cons_cons,
            List.intercalate_singleton]
          rfl
      | cons next left =>
          have rest := ih (List.cons_ne_nil next left)
          simp only [joinWith, List.cons_append, List.intercalate_cons_cons] at rest ⊢
          rw [rest]
          simp only [List.append_assoc]

namespace Parameters

variable [Platform]

theorem pairTexts_append (charset : Text) (left right : Parameters)
    : pairTexts charset (left ++ right) = left.pairTexts charset ++ right.pairTexts charset :=
  List.flatMap_append

theorem isEncodable_append (charset : Text) (left right : Parameters)
    : isEncodable charset (left ++ right)
      = (left.isEncodable charset && right.isEncodable charset) :=
  List.all_append

end Parameters

namespace Query

open Dispatch.Url

-----------------------------------------------------------------------------------------
-- Pairs that are added after others follow them in the query
-----------------------------------------------------------------------------------------

theorem extended_nil (query : Text) : extended query [] = query := by
  simp [extended, separatorAfter, Text.joinWith, List.intercalate_nil]

/-- What is joined from pairs ends in the last of them. -/
theorem exists_joinWith_concat (front : List Text) (p : Text)
    : ∃ before, Text.joinWith (text "&") (front ++ [p]) = before ++ p := by
  cases front with
  | nil => exact ⟨[], List.intercalate_singleton⟩
  | cons q front =>
      refine ⟨Text.joinWith (text "&") (q :: front) ++ text "&", ?_⟩
      rw [Text.joinWith_append _ (List.cons_ne_nil q front) (List.cons_ne_nil p [])]
      exact congrArg _ List.intercalate_singleton

/-- A query that was extended by a pair does not end openly. -/
theorem isOpen_lastOf_extended {pairs : List Text} (fits : ∀ p ∈ pairs, IsPairText p)
    (filled : pairs ≠ []) (query : Text)
    : isOpen (lastOf (extended query pairs)) = false := by
  obtain ⟨front, p, rfl⟩ := (List.eq_nil_or_concat' pairs).resolve_left filled
  have pair := fits p (by simp)
  obtain ⟨before, ends⟩ := exists_joinWith_concat front p
  rw [lastOf, extended, ends, ← List.append_assoc, ← List.cons_append,
    List.getLast?_append_of_ne_nil _ pair.nonempty]
  exact pair.closed

/-- Pairs that are added to a query behind others extend it as all of them do together. -/
theorem extended_extended {left right : List Text} (leftFits : ∀ p ∈ left, IsPairText p)
    (query : Text)
    : extended (extended query left) right = extended query (left ++ right) := by
  by_cases leftFilled : left = []
  · rw [leftFilled, extended_nil, List.nil_append]
  · by_cases rightFilled : right = []
    · rw [rightFilled, extended_nil, List.append_nil]
    · have next : separatorAfter (extended query left) right = text "&" := by
        rw [separatorAfter, isOpen_lastOf_extended leftFits leftFilled,
          List.isEmpty_eq_false_iff.mpr rightFilled]
        rfl
      have first : separatorAfter query (left ++ right) = separatorAfter query left := by
        rw [separatorAfter, separatorAfter, List.isEmpty_eq_false_iff.mpr leftFilled,
          List.isEmpty_eq_false_iff.mpr (List.append_ne_nil_of_left_ne_nil leftFilled right)]
      calc extended (extended query left) right
        _ = query ++ separatorAfter query left ++ Text.joinWith (text "&") left ++ text "&"
              ++ Text.joinWith (text "&") right := by
            rw [extended, next, extended]
        _ = extended query (left ++ right) := by
            rw [extended, first, Text.joinWith_append _ leftFilled rightFilled]
            simp only [List.append_assoc]

/-- Pairs are added to a URL with pairs as they are added behind those. -/
theorem assemble_assemble {left right : List Text} (leftFits : ∀ p ∈ left, IsPairText p)
    (rightFits : ∀ p ∈ right, IsPairText p) (url : Text)
    : assemble (assemble url left) right = assemble url (left ++ right) := by
  have fits : ∀ p ∈ left ++ right, IsPairText p := by
    intro p member
    exact (List.mem_append.mp member).elim (leftFits p) (rightFits p)
  have around := parts_assemble leftFits url
  rw [assemble_eq rightFits, around.1, around.2, queryText_assemble leftFits,
    extended_extended leftFits, ← assemble_eq fits]

theorem length_le_assemble {pairs : List Text} (fits : ∀ p ∈ pairs, IsPairText p) (url : Text)
    : url.length ≤ (assemble url pairs).length := by
  have whole := congrArg List.length (baseText_append url)
  rw [assemble_eq_closed fits]
  simp only [List.length_append] at whole ⊢
  omega

-----------------------------------------------------------------------------------------
-- Adding to an absolute URL depends on the length at the end only
-----------------------------------------------------------------------------------------

section

variable [Platform] {url charset : Text}

theorem length_le_withParameters (url : Text) (parameters : Parameters) (charset : Text)
    : url.length ≤ (withParameters url parameters charset).length := by
  rw [withParameters]
  split
  · exact Nat.le_refl _
  · exact length_le_assemble (fun p => isPairText_of_mem_pairTexts) url

theorem withParameters_append (url : Text) (left right : Parameters) (charset : Text)
    : withParameters (withParameters url left charset) right charset
      = withParameters url (left ++ right) charset := by
  cases left with
  | nil => rfl
  | cons entry left =>
      cases right with
      | nil => rw [List.append_nil]; rfl
      | cons other right =>
          have leftFits : ∀ p ∈ Parameters.pairTexts charset (entry :: left), IsPairText p :=
            fun p => isPairText_of_mem_pairTexts
          have rightFits : ∀ p ∈ Parameters.pairTexts charset (other :: right), IsPairText p :=
            fun p => isPairText_of_mem_pairTexts
          have both := assemble_assemble leftFits rightFits url
          rw [← Parameters.pairTexts_append] at both
          exact both

/-- An absolute URL takes up parameters exactly if they can be written and it does not become too
long. -/
theorem add_eq_ok_iff {parameters : Parameters} {result : Text}
    (absolute : isAbsoluteText url = .ok true)
    : add url parameters charset = .ok result
      ↔ parameters.isEncodable charset ∧ result = withParameters url parameters charset
        ∧ result.length ≤ maxLength := by
  cases parameters with
  | nil =>
      obtain ⟨u, read, _⟩ := isAbsoluteText_eq_true.mp absolute
      have short := (parse_eq_ok.mp read).1
      constructor
      · intro added
        have same : url = result := Except.ok.inj added
        exact ⟨rfl, same.symm, same ▸ short⟩
      · rintro ⟨_, rfl, _⟩
        rfl
  | cons entry rest =>
      have nonempty := List.cons_ne_nil entry rest
      constructor
      · intro added
        obtain ⟨encodable, same⟩ := eq_withParameters_of_add added
        refine ⟨encodable, same, ?_⟩
        rw [add_of_isAbsolute absolute nonempty encodable] at added
        split at added
        · rename_i short
          exact same ▸ short
        · contradiction
      · rintro ⟨encodable, rfl, short⟩
        exact (add_of_short absolute nonempty encodable short).1

/-- An absolute URL stays absolute when it takes up parameters. -/
theorem isAbsoluteText_of_add {parameters : Parameters} {result : Text}
    (absolute : isAbsoluteText url = .ok true) (added : add url parameters charset = .ok result)
    : isAbsoluteText result = .ok true := by
  obtain ⟨encodable, rfl, short⟩ := (add_eq_ok_iff absolute).mp added
  cases parameters with
  | nil => exact absolute
  | cons entry rest => exact (add_of_short absolute (List.cons_ne_nil entry rest) encodable short).2

/-- Adding parameters to an absolute URL and then others gives what adding all of them at once
gives, if one of the two gives anything. The names of the others may be new or not, and there may be
no values or no parameters at all.
-/
theorem add_append (absolute : isAbsoluteUrl url) (left right : Parameters) (result : Text)
    : (add url left charset >>= fun extended => add extended right charset) = .ok result
      ↔ add url (left ++ right) charset = .ok result := by
  have absoluteText := isAbsoluteUrl_iff.mp absolute
  rw [bind_eq_ok, add_eq_ok_iff absoluteText, Parameters.isEncodable_append, Bool.and_eq_true,
    ← withParameters_append]
  constructor
  · rintro ⟨extended, first, second⟩
    have next := isAbsoluteText_of_add absoluteText first
    obtain ⟨leftFits, rfl, _⟩ := (add_eq_ok_iff absoluteText).mp first
    obtain ⟨rightFits, same, short⟩ := (add_eq_ok_iff next).mp second
    exact ⟨⟨leftFits, rightFits⟩, same, short⟩
  · rintro ⟨⟨leftFits, rightFits⟩, same, short⟩
    have between : (withParameters url left charset).length ≤ maxLength := by
      rw [same] at short
      exact Nat.le_trans (length_le_withParameters _ right charset) short
    have first := (add_eq_ok_iff absoluteText).mpr ⟨leftFits, rfl, between⟩
    have next := isAbsoluteText_of_add absoluteText first
    exact ⟨_, first, (add_eq_ok_iff next).mpr ⟨rightFits, same, short⟩⟩

end

/-- A name without values opens the query in front of the fragment, and the next parameter takes no
separator. -/
theorem add_append_of_noValues
    : (add (text "http://h#f?") [(text "a", [])] (text "us-ascii")
          >>= fun extended => add extended [(text "b", [text "1", text ""])] (text "us-ascii"))
        = .ok (text "http://h?b=1&b=#f?")
      ∧ add (text "http://h#f?") [(text "a", []), (text "b", [text "1", text ""])]
          (text "us-ascii")
        = .ok (text "http://h?b=1&b=#f?") := by
  have whole : add (text "http://h#f?") [(text "a", []), (text "b", [text "1", text ""])]
      (text "us-ascii") = .ok (text "http://h?b=1&b=#f?") :=
    eq_ok_of_toOption (by decide +kernel)
  have absolute : isAbsoluteUrl (text "http://h#f?") := by decide +kernel
  exact ⟨(add_append absolute [(text "a", [])] [(text "b", [text "1", text ""])] _).mpr whole,
    whole⟩

end Query

end Dispatch
