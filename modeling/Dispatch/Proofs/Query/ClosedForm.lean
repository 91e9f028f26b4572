import Dispatch.Proofs.Query.Adding
import Dispatch.Proofs.Query.Reader

/-! The text of a URL with parameters, in closed form. It is the URL up to its fragment, a question
mark if there is none, a separator if one is needed, the pairs joined with separators, and the
fragment as it was. Every separator that is added stands between two parameters.
-/

namespace Dispatch.Query

open Dispatch.Result Dispatch.Url

/-- The text of a URL in front of its fragment. -/
def baseText (url : Text) : Text :=
  (url.cut '#').1

/-- The fragment of a URL with its hash, empty if there is none. -/
def fragmentPart (url : Text) : Text :=
  Text.marked '#' (fragmentText? url)

/-- The question mark in front of parameters, for a base that has none yet. -/
def opening (base : Text) : Text :=
  if CodePoint.ofChar '?' ∈ base then [] else text "?"

/-- The separator in front of parameters, for a base with a query that does not end openly. -/
def separator (base written : Text) : Text :=
  if written ≠ [] ∧ CodePoint.ofChar '?' ∈ base ∧ base.getLast? ≠ some (CodePoint.ofChar '?')
      ∧ base.getLast? ≠ some (CodePoint.ofChar '&') then text "&"
  else []

theorem baseText_append (url : Text) : baseText url ++ fragmentPart url = url :=
  Text.cut_append _ url

theorem joinWith_eq_nil_iff {pairs : List Text} (fits : ∀ p ∈ pairs, IsPairText p)
    : Text.joinWith (text "&") pairs = [] ↔ pairs = [] := by
  constructor
  · intro empty
    have split := segments_joinWith fits
    rw [empty] at split
    exact split.symm
  · rintro rfl
    rfl

/-- A separator is needed exactly if there are pairs and the text in front of them does not end
openly. -/
theorem separator_eq {pairs : List Text} (fits : ∀ p ∈ pairs, IsPairText p) (base : Text)
    : separator base (Text.joinWith (text "&") pairs)
      = if isOpen (base ++ opening base).getLast? || pairs.isEmpty then [] else text "&" := by
  have written := joinWith_eq_nil_iff fits
  by_cases query : CodePoint.ofChar '?' ∈ base
  · rw [opening, if_pos query, List.append_nil]
    cases pairs with
    | nil =>
        rw [List.isEmpty_nil, Bool.or_true]
        exact if_neg fun needed => needed.1 (written.mpr rfl)
    | cons p pairs =>
        rw [List.isEmpty_cons, Bool.or_false]
        cases closed : isOpen base.getLast? with
        | false => exact if_pos ⟨by simp [written], query, isOpen_eq_false.mp closed⟩
        | true =>
            refine if_neg fun needed => ?_
            rw [isOpen_eq_false.mpr needed.2.2] at closed
            contradiction
  · have opened : isOpen (base ++ text "?").getLast? = true := by
      rw [show text "?" = [CodePoint.ofChar '?'] from rfl, List.getLast?_concat]
      rfl
    rw [opening, if_neg query, opened]
    exact if_neg fun needed => query needed.2.1

/-- The closed form of a URL with pairs. -/
theorem assemble_eq_closed {pairs : List Text} (fits : ∀ p ∈ pairs, IsPairText p) (url : Text)
    : assemble url pairs
      = baseText url ++ opening (baseText url)
        ++ separator (baseText url) (Text.joinWith (text "&") pairs)
        ++ Text.joinWith (text "&") pairs ++ fragmentPart url := by
  have start (base : Text)
      : (if base.contains (CodePoint.ofChar '?') then base else base ++ text "?")
        = base ++ opening base := by
    rw [opening]
    by_cases query : CodePoint.ofChar '?' ∈ base
    · rw [if_pos (List.contains_iff_mem.mpr query), if_pos query, List.append_nil]
    · rw [if_neg (mt List.contains_iff_mem.mp query), if_neg query]
  simp only [assemble]
  rw [start, flatten_separated fits, ← baseText, ← separator_eq fits]
  simp only [fragmentPart, fragmentText?, List.append_assoc]
  cases (url.cut '#').2 <;> rfl

-----------------------------------------------------------------------------------------
-- No separator is doubled and none is left at the end
-----------------------------------------------------------------------------------------

/-- A code point that a text does not hold is found behind it. -/
theorem exists_of_append_eq {t rest before after : Text} {c : CodePoint} (absent : c ∉ t)
    (split : t ++ rest = before ++ c :: after)
    : ∃ more, before = t ++ more ∧ rest = more ++ c :: after := by
  rcases List.append_eq_append_iff.mp split with ⟨more, whole, later⟩ | ⟨more, whole, later⟩
  · exact ⟨more, whole, later⟩
  · cases more with
    | nil => exact ⟨[], by simpa using whole.symm, by simpa using later.symm⟩
    | cons d more =>
        rw [← (List.cons.inj later).1] at whole
        exact absurd (whole ▸ by simp) absent

/-- What is joined from pairs begins with a pair. -/
theorem exists_cons_of_joinWith {p : Text} {pairs : List Text}
    (fits : ∀ q ∈ p :: pairs, IsPairText q)
    : ∃ c rest, Text.joinWith (text "&") (p :: pairs) = c :: rest ∧ isPairCharacter c := by
  obtain ⟨nonempty, characters⟩ := fits p List.mem_cons_self
  obtain ⟨c, q, rfl⟩ := List.exists_cons_of_ne_nil nonempty
  have inside := characters c List.mem_cons_self
  cases pairs with
  | nil => exact ⟨c, q, List.intercalate_singleton, inside⟩
  | cons next pairs =>
      refine ⟨c, q ++ text "&" ++ Text.joinWith (text "&") (next :: pairs), ?_, inside⟩
      rw [Text.joinWith, List.intercalate_cons_cons]
      rfl

/-- A separator among joined pairs stands between two of them, by induction on the pairs. -/
theorem between_of_joinWith {pairs : List Text} (fits : ∀ p ∈ pairs, IsPairText p)
    {before after : Text}
    (split : Text.joinWith (text "&") pairs = before ++ CodePoint.ofChar '&' :: after)
    : (∃ d, before.getLast? = some d ∧ isPairCharacter d)
      ∧ ∃ c rest, after = c :: rest ∧ isPairCharacter c := by
  induction pairs generalizing before with
  | nil => simp [Text.joinWith, List.intercalate_nil] at split
  | cons p pairs ih =>
      have pair := fits p List.mem_cons_self
      have absent : CodePoint.ofChar '&' ∉ p := pair.not_mem (by decide)
      have others := fun q member => fits q (List.mem_cons_of_mem p member)
      cases pairs with
      | nil =>
          rw [Text.joinWith, List.intercalate_singleton] at split
          exact absurd (split ▸ by simp) absent
      | cons next pairs =>
          rw [Text.joinWith, List.intercalate_cons_cons, List.append_assoc] at split
          obtain ⟨more, rfl, rest⟩ := exists_of_append_eq absent split
          cases more with
          | nil =>
              have follows : Text.joinWith (text "&") (next :: pairs) = after :=
                (List.cons.inj rest).2
              rw [List.append_nil, List.getLast?_eq_some_getLast pair.nonempty, ← follows]
              exact ⟨⟨_, rfl, pair.characters _ (List.getLast_mem pair.nonempty)⟩,
                exists_cons_of_joinWith others⟩
          | cons d more =>
              obtain ⟨⟨e, ends, inside⟩, after⟩ := ih others (List.cons.inj rest).2
              refine ⟨⟨e, ?_, inside⟩, after⟩
              rw [List.getLast?_append, List.getLast?_cons, ends]
              rfl

/-- A separator in front of pairs or among them stands behind what does not end openly and in front
of a pair. -/
theorem between_of_closed {pairs : List Text} (fits : ∀ p ∈ pairs, IsPairText p)
    {base before after : Text}
    (split : separator base (Text.joinWith (text "&") pairs) ++ Text.joinWith (text "&") pairs
      = before ++ CodePoint.ofChar '&' :: after)
    : isOpen (base ++ opening base ++ before).getLast? = false
      ∧ ∃ c rest, after = c :: rest ∧ isPairCharacter c := by
  have among {more : Text}
      (inside : Text.joinWith (text "&") pairs = more ++ CodePoint.ofChar '&' :: after)
      (start : Text)
      : isOpen (start ++ more).getLast? = false
        ∧ ∃ c rest, after = c :: rest ∧ isPairCharacter c := by
    obtain ⟨⟨d, ends, pair⟩, next⟩ := between_of_joinWith fits inside
    rw [List.getLast?_append, ends, Option.some_or]
    exact ⟨isOpen_of_isPairCharacter pair, next⟩
  rw [separator_eq fits] at split
  split at split
  · exact among split _
  · rename_i needed
    rw [Bool.not_eq_true, Bool.or_eq_false_iff] at needed
    cases before with
    | nil =>
        rw [List.append_nil, ← (List.cons.inj split).2]
        cases pairs with
        | nil => exact absurd needed.2 (by decide)
        | cons p pairs => exact ⟨needed.1, exists_cons_of_joinWith fits⟩
    | cons d before =>
        obtain ⟨rfl, inside⟩ := List.cons.inj split
        rw [← List.singleton_append, ← List.append_assoc]
        exact among inside _

-----------------------------------------------------------------------------------------
-- Adding parameters in closed form
-----------------------------------------------------------------------------------------

section

variable [Platform]

theorem component_of_isEncodable {charset t : Text} (encodable : isEncodable charset t)
    : component (.text t) (.text charset) = .ok (encoded charset t) := by
  rw [component_text, formText_of_isEncodable encodable, mapError_ok]

/-- A URL with parameters is the URL up to its fragment, a question mark if it has none, a separator
if there is something to separate, the encoded names and values of all parameters in their order,
joined with separators, and the fragment as it was. Every separator that is added stands behind
something that does not end openly and in front of a parameter.
-/
theorem add_closed_form {url charset result : Text} {parameters : Parameters}
    (nonempty : parameters ≠ []) (added : add url parameters charset = .ok result)
    : ∃ written,
        written = Text.joinWith (text "&") (parameters.toPairs.map fun pair =>
          encoded charset pair.1 ++ text "=" ++ encoded charset pair.2)
        ∧ (∀ pair ∈ parameters.toPairs,
            component (.text pair.1) (.text charset) = .ok (encoded charset pair.1)
            ∧ component (.text pair.2) (.text charset) = .ok (encoded charset pair.2))
        ∧ url = baseText url ++ fragmentPart url ∧ CodePoint.ofChar '#' ∉ baseText url
        ∧ result = baseText url ++ opening (baseText url) ++ separator (baseText url) written
            ++ written ++ fragmentPart url
        ∧ fragmentText? result = fragmentText? url
        ∧ ∀ before after,
            separator (baseText url) written ++ written = before ++ CodePoint.ofChar '&' :: after
            → isOpen (baseText url ++ opening (baseText url) ++ before).getLast? = false
              ∧ ∃ c rest, after = c :: rest ∧ isPairCharacter c := by
  obtain ⟨encodable, whole⟩ := eq_withParameters_of_add added
  rw [withParameters, if_neg (mt List.isEmpty_iff.mp nonempty)] at whole
  subst whole
  have fits : ∀ p ∈ parameters.pairTexts charset, IsPairText p :=
    fun p => isPairText_of_mem_pairTexts
  refine ⟨Text.joinWith (text "&") (parameters.pairTexts charset), ?_, ?_,
    (baseText_append url).symm, Text.not_mem_cut _ url, assemble_eq_closed fits url,
    (parts_assemble fits url).2, fun before after => between_of_closed fits⟩
  · rw [pairTexts_eq_map]
    rfl
  · intro pair member
    have written := isEncodable_iff_toPairs.mp encodable pair member
    exact ⟨component_of_isEncodable written.1, component_of_isEncodable written.2⟩

end

/-- A query that ends in a parameter takes a separator, and a hash in the fragment stays there. -/
theorem add_closed_form_of_fragment
    : add (text "http://h/?x#?#") [(text "a", []), (text "", [text " ", text ""])]
          (text "us-ascii")
        = .ok (text "http://h/?x&=+&=#?#")
      ∧ fragmentText? (text "http://h/?x&=+&=#?#") = fragmentText? (text "http://h/?x#?#") := by
  have added : add (text "http://h/?x#?#") [(text "a", []), (text "", [text " ", text ""])]
      (text "us-ascii") = .ok (text "http://h/?x&=+&=#?#") :=
    eq_ok_of_toOption (by decide +kernel)
  obtain ⟨_, _, _, _, _, _, fragment, _⟩ := add_closed_form (List.cons_ne_nil _ _) added
  exact ⟨added, fragment⟩

end Dispatch.Query
