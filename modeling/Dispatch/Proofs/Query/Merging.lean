import Dispatch.Proofs.Query.Assembly

/-! Merging parameters into a query. The parameters that were there stay as they are and the new
ones follow, except that a query ending in a question mark takes the first new pair into its last
parameter.
-/

namespace Dispatch.Query

open Dispatch.Result
open Dispatch.Url (queryText)

/-- The parameters of a query as they are written: what stands between its separators. -/
def segments (query : Text) : List Text :=
  (query.splitOn '&').filter fun s => !s.isEmpty

@[simp] theorem segments_nil : segments [] = [] := rfl

theorem segments_append_cons (before after : Text)
    : segments (before ++ CodePoint.ofChar '&' :: after) = segments before ++ segments after := by
  rw [segments, Text.splitOn_append_cons, List.filter_append]
  rfl

theorem segments_of_not_mem {query : Text} (whole : CodePoint.ofChar '&' ∉ query)
    (nonempty : query ≠ [])
    : segments query = [query] := by
  simp [segments, Text.splitOn_of_not_mem whole, nonempty]

theorem IsPairText.segments {p : Text} (fits : IsPairText p) : segments p = [p] :=
  segments_of_not_mem (fits.not_mem (by decide)) fits.nonempty

/-- Joined pairs are the segments of the join, by induction on the pairs. -/
theorem segments_joinWith {pairs : List Text} (fits : ∀ p ∈ pairs, IsPairText p)
    : segments (Text.joinWith (text "&") pairs) = pairs := by
  induction pairs with
  | nil => rfl
  | cons p pairs ih =>
      have first := (fits p (by simp)).segments
      have rest := ih (fun q member => fits q (by simp [member]))
      cases pairs with
      | nil => simpa [Text.joinWith] using first
      | cons q pairs =>
          rw [Text.joinWith, List.intercalate_cons_cons, List.append_assoc]
          exact (segments_append_cons p _).trans (by rw [first]; exact congrArg (p :: ·) rest)

/-- A query that does not end in a separator has a last segment, which takes up what is written
right after it. By strong induction on the query, cut at its first separator. -/
theorem segments_append_of_open {query : Text} {last : CodePoint}
    (ends : query.getLast? = some last) (inside : last ≠ CodePoint.ofChar '&')
    : ∃ front back, segments query = front ++ [back]
        ∧ ∀ more, CodePoint.ofChar '&' ∉ more →
          segments (query ++ more) = front ++ [back ++ more] := by
  have whole := Text.cut_append (CodePoint.ofChar '&') query
  have noSeparator := Text.not_mem_cut (CodePoint.ofChar '&') query
  cases rest : (query.cut '&').2 with
  | none =>
      rw [rest, Text.marked, List.append_nil] at whole
      rw [whole] at noSeparator
      have nonempty : query ≠ [] := by
        rintro rfl
        simp at ends
      refine ⟨[], query, segments_of_not_mem noSeparator nonempty, ?_⟩
      intro more absent
      exact segments_of_not_mem (by simp [noSeparator, absent]) (by simp [nonempty])
  | some after =>
      rw [rest, Text.marked] at whole
      -- The last code point is no separator, so it ends what follows the separator, too.
      have tail : after.getLast? = some last := by
        rw [← whole, List.getLast?_append_of_ne_nil _ (by simp)] at ends
        cases after with
        | nil => exact absurd (Option.some.inj ends).symm inside
        | cons c after => simpa using ends
      have shorter : after.length < query.length := by
        have size := congrArg List.length whole
        simp at size
        omega
      obtain ⟨front, back, split, grown⟩ := segments_append_of_open tail inside
      refine ⟨segments (query.cut '&').1 ++ front, back, ?_, ?_⟩
      · rw [← whole, segments_append_cons, split, whole, List.append_assoc]
      · intro more absent
        rw [← whole, List.append_assoc, List.cons_append, segments_append_cons, grown more absent,
          whole, List.append_assoc]
termination_by query.length

/-- The segments of an extended query that did not end in a question mark. -/
theorem segments_extended {query : Text} {pairs : List Text} (fits : ∀ p ∈ pairs, IsPairText p)
    (divided : query.getLast? ≠ some (CodePoint.ofChar '?') ∨ pairs = [])
    : segments (extended query pairs) = segments query ++ pairs := by
  have joined := segments_joinWith fits
  cases pairs with
  | nil => simp [extended, separatorAfter, Text.joinWith, List.intercalate_nil]
  | cons p pairs =>
      have noMark := divided.resolve_right (by simp)
      rw [extended, separatorAfter]
      rcases List.eq_nil_or_concat query with rfl | ⟨query, last, rfl⟩
      · simpa [lastOf, isOpen] using joined
      · simp only [List.concat_eq_append] at noMark ⊢
        have ends : lastOf (query ++ [last]) = some last := by
          rw [lastOf, ← List.cons_append, List.getLast?_concat]
        rw [List.getLast?_concat] at noMark
        by_cases amp : last = CodePoint.ofChar '&'
        · have opened : isOpen (some last) = true := by
            rw [amp]
            rfl
          rw [ends, opened, amp]
          simp [segments_append_cons, joined]
        · have closed : isOpen (some last) = false := by
            simp only [isOpen, Bool.or_eq_false_iff, decide_eq_false_iff_not]
            exact ⟨noMark, fun same => amp (Option.some.inj same)⟩
          rw [ends, closed]
          have split := segments_append_cons (query ++ [last])
            (Text.joinWith (text "&") (p :: pairs))
          rw [joined] at split
          rw [← split]
          simp [text]

/-- A question mark at the end of a query joins the first pair to its last segment. -/
theorem segments_extended_of_mark {query p : Text} {pairs : List Text}
    (fits : ∀ q ∈ p :: pairs, IsPairText q)
    (ends : query.getLast? = some (CodePoint.ofChar '?'))
    : ∃ front back, segments query = front ++ [back]
        ∧ segments (extended query (p :: pairs)) = front ++ (back ++ p) :: pairs := by
  obtain ⟨front, back, split, grown⟩ := segments_append_of_open ends (by decide)
  refine ⟨front, back, split, ?_⟩
  have opened : isOpen (lastOf query) = true := by
    have last : lastOf query = some (CodePoint.ofChar '?') := by
      cases query with
      | nil => simp at ends
      | cons c query => rw [lastOf, List.getLast?_cons_cons, ends]
    rw [last]
    rfl
  have first := grown p ((fits p (by simp)).not_mem (by decide))
  have rest := segments_joinWith (fun q member => fits q (List.mem_cons_of_mem p member))
  rw [extended, separatorAfter, opened]
  cases pairs with
  | nil => simpa [Text.joinWith] using first
  | cons q pairs =>
      rw [Text.joinWith, List.intercalate_cons_cons]
      have divided := segments_append_cons (query ++ p) (Text.joinWith (text "&") (q :: pairs))
      rw [first, rest] at divided
      simpa [text, Text.joinWith] using divided

-----------------------------------------------------------------------------------------
-- What is added is the pairs of the parameters
-----------------------------------------------------------------------------------------

section

variable [Platform]

/-- What is added to a URL is the pairs of the parameters, all of which the charset can write. -/
theorem add_eq_ok {url charset result : Text} {parameters : Parameters}
    (added : add url parameters charset = .ok result)
    : parameters.isEncodable charset
      ∧ queryText result
        = if parameters.isEmpty then queryText url
          else extended (queryText url) (parameters.pairTexts charset) := by
  obtain ⟨encodable, rfl⟩ := eq_withParameters_of_add added
  refine ⟨encodable, ?_⟩
  rw [withParameters]
  split
  · rfl
  · exact queryText_assemble (fun p => isPairText_of_mem_pairTexts) url

/-- Adding parameters keeps every segment of the query and puts the new ones behind them, each the
encoded name and value with the sign between. The one exception is a query that ends in a question
mark: its last segment takes up the first new one.
-/
theorem segments_add {url charset result : Text} {parameters : Parameters}
    (added : add url parameters charset = .ok result)
    : (∀ entry ∈ parameters, ∀ value ∈ entry.2,
        formText charset entry.1 = .ok (encoded charset entry.1)
          ∧ formText charset value = .ok (encoded charset value))
      ∧ ((queryText url).getLast? ≠ some (CodePoint.ofChar '?')
            ∨ parameters.pairTexts charset = []
          → segments (queryText result)
            = segments (queryText url) ++ parameters.pairTexts charset)
      ∧ ((queryText url).getLast? = some (CodePoint.ofChar '?')
          → ∀ first rest, parameters.pairTexts charset = first :: rest
            → ∃ front back, segments (queryText url) = front ++ [back]
                ∧ segments (queryText result) = front ++ (back ++ first) :: rest) := by
  obtain ⟨encodable, query⟩ := add_eq_ok added
  have fits : ∀ p ∈ parameters.pairTexts charset, IsPairText p :=
    fun p => isPairText_of_mem_pairTexts
  refine ⟨?_, ?_, ?_⟩
  · intro entry listed value given
    obtain ⟨nameFits, valueFits⟩ := Parameters.isEncodable_iff.mp encodable entry listed value given
    exact ⟨formText_of_isEncodable nameFits, formText_of_isEncodable valueFits⟩
  · intro divided
    rw [query]
    split
    · rename_i empty
      rw [List.isEmpty_iff.mp empty]
      simp [Parameters.pairTexts]
    · exact segments_extended fits divided
  · intro ends first rest pairs
    have nonempty : ¬parameters.isEmpty = true := by
      intro empty
      rw [List.isEmpty_iff.mp empty] at pairs
      simp [Parameters.pairTexts] at pairs
    rw [query, if_neg nonempty, pairs]
    exact segments_extended_of_mark (pairs ▸ fits) ends

end

theorem segments_add_two_values
    : add (text "http://x/y?z=0&&w#f?g") [(text "a", [text "1", text "&"])] (text "us-ascii")
          = .ok (text "http://x/y?z=0&&w&a=1&a=%26#f?g")
      ∧ segments (queryText (text "http://x/y?z=0&&w&a=1&a=%26#f?g"))
          = segments (queryText (text "http://x/y?z=0&&w#f?g"))
            ++ Parameters.pairTexts (text "us-ascii") [(text "a", [text "1", text "&"])] := by
  have added : add (text "http://x/y?z=0&&w#f?g") [(text "a", [text "1", text "&"])]
      (text "us-ascii") = .ok (text "http://x/y?z=0&&w&a=1&a=%26#f?g") :=
    eq_ok_of_toOption (by decide +kernel)
  exact ⟨added, (segments_add added).2.1 (Or.inl (by decide +kernel))⟩

/-- A query that ends in a question mark loses its last parameter to the first new pair. -/
theorem segments_add_absorbed
    : (Url.isAbsoluteText (text "http://x/?a?")).toOption = some true
      ∧ add (text "http://x/?a?") [(text "k", [text "v"])] (text "us-ascii")
          = .ok (text "http://x/?a?k=v")
      ∧ segments (queryText (text "http://x/?a?k=v"))
        ≠ segments (queryText (text "http://x/?a?"))
          ++ Parameters.pairTexts (text "us-ascii") [(text "k", [text "v"])] :=
  ⟨by decide +kernel, eq_ok_of_toOption (by decide +kernel), by decide +kernel⟩

end Dispatch.Query
