import Dispatch.Proofs.Query.Pairs
import Dispatch.Proofs.Url.Parts

/-! The closed form of a URL with pairs. Only its query changes: the pairs are joined with
separators, and one more stands in front of them unless the query so far ends openly.
-/

namespace Dispatch.Query

open Dispatch.Result Dispatch.Url

-----------------------------------------------------------------------------------------
-- Pairs hold no separator and end in none
-----------------------------------------------------------------------------------------

/-- The code points of a pair: those of form encoding and the sign between name and value. -/
def isPairCharacter (c : CodePoint) : Bool :=
  isFormCharacter c || c.val = 0x3d

/-- What a pair looks like in a query. -/
structure IsPairText (p : Text) : Prop where
  nonempty : p ≠ []
  characters : ∀ c ∈ p, isPairCharacter c

theorem IsPairText.not_mem {p : Text} (fits : IsPairText p) {c : CodePoint}
    (other : isPairCharacter c = false)
    : c ∉ p := by
  intro member
  rw [fits.characters c member] at other
  contradiction

theorem isOpen_eq_false {last : Option CodePoint}
    : isOpen last = false
      ↔ last ≠ some (CodePoint.ofChar '?') ∧ last ≠ some (CodePoint.ofChar '&') := by
  rw [isOpen, Bool.or_eq_false_iff, decide_eq_false_iff_not, decide_eq_false_iff_not]

theorem isOpen_of_isPairCharacter {c : CodePoint} (pair : isPairCharacter c)
    : isOpen (some c) = false := by
  refine isOpen_eq_false.mpr ⟨?_, ?_⟩
  · rintro ⟨rfl⟩
    exact absurd pair (by decide)
  · rintro ⟨rfl⟩
    exact absurd pair (by decide)

theorem IsPairText.closed {p : Text} (fits : IsPairText p) : isOpen p.getLast? = false := by
  rw [List.getLast?_eq_some_getLast fits.nonempty]
  exact isOpen_of_isPairCharacter (fits.characters _ (List.getLast_mem fits.nonempty))

section

variable [Platform]

theorem isFormCharacter_of_mem_encoded {charset t : Text} {c : CodePoint}
    (member : c ∈ encoded charset t)
    : isFormCharacter c := by
  rw [encoded] at member
  cases written : formText charset t with
  | ok form =>
      rw [written] at member
      exact isFormCharacter_of_mem_formText written member
  | error e => simp [written, Except.toOption] at member

theorem isPairText_pairText (charset name value : Text)
    : IsPairText (pairText charset name value) := by
  refine ⟨by simp [pairText, text], ?_⟩
  intro c member
  simp only [pairText, List.mem_append] at member
  rw [isPairCharacter, Bool.or_eq_true]
  rcases member with (inName | sign) | inValue
  · exact Or.inl (isFormCharacter_of_mem_encoded inName)
  · rw [show text "=" = [CodePoint.ofChar '='] from rfl, List.mem_singleton] at sign
    rw [sign]
    decide
  · exact Or.inl (isFormCharacter_of_mem_encoded inValue)

theorem isPairText_of_mem_pairTexts {charset : Text} {parameters : Parameters} {p : Text}
    (member : p ∈ parameters.pairTexts charset)
    : IsPairText p := by
  obtain ⟨entry, _, listed⟩ := List.mem_flatMap.mp member
  obtain ⟨value, _, rfl⟩ := List.mem_map.mp listed
  exact isPairText_pairText charset entry.1 value

end

/-- The last code point of a query, or the question mark in front of it. -/
def lastOf (query : Text) : Option CodePoint :=
  (CodePoint.ofChar '?' :: query).getLast?

/-- The separator in front of pairs that follow a query. -/
def separatorAfter (query : Text) (pairs : List Text) : Text :=
  if isOpen (lastOf query) || pairs.isEmpty then [] else text "&"

/-- Closed pairs are separated as they are joined, by induction on the pairs. -/
theorem flatten_separated {pairs : List Text} (fits : ∀ p ∈ pairs, IsPairText p)
    (last : Option CodePoint)
    : (separated last pairs).flatten
      = (if isOpen last || pairs.isEmpty then [] else text "&")
        ++ Text.joinWith (text "&") pairs := by
  induction pairs generalizing last with
  | nil => simp [separated, Text.joinWith, List.intercalate_nil]
  | cons p pairs ih =>
      have next := ih (fun q member => fits q (by simp [member])) p.getLast?
      rw [(fits p (by simp)).closed] at next
      have first : (if isOpen last then p else text "&" ++ p)
          = (if isOpen last || (p :: pairs).isEmpty then [] else text "&") ++ p := by
        cases isOpen last <;> rfl
      rw [separated, List.flatten_cons, next, first]
      cases pairs with
      | nil => simp [Text.joinWith, List.intercalate_nil]
      | cons q pairs => simp [Text.joinWith, List.intercalate_cons_cons]

/-- The query of a URL with pairs at its end. -/
def extended (query : Text) (pairs : List Text) : Text :=
  query ++ separatorAfter query pairs ++ Text.joinWith (text "&") pairs

/-- Pairs change the query of a URL and nothing else. -/
theorem assemble_eq {pairs : List Text} (fits : ∀ p ∈ pairs, IsPairText p) (url : Text)
    : assemble url pairs
      = joinParts (pathText url) (some (extended (queryText url) pairs)) (fragmentText? url) := by
  have base : (url.cut '#').1
      = pathText url ++ Text.marked (CodePoint.ofChar '?') (queryText? url) :=
    (Text.cut_append _ _).symm
  have start : (if (url.cut '#').1.contains (CodePoint.ofChar '?') then (url.cut '#').1
      else (url.cut '#').1 ++ text "?")
      = pathText url ++ CodePoint.ofChar '?' :: queryText url := by
    rw [base]
    cases query : queryText? url with
    | none =>
        have absent := (areParts url).pathQuery
        simp only [Text.marked, List.append_nil, queryText, query, Option.getD_none,
          List.contains_iff_mem, if_neg absent]
        rfl
    | some q => simp [Text.marked, queryText, query]
  have last : (pathText url ++ CodePoint.ofChar '?' :: queryText url).getLast?
      = lastOf (queryText url) :=
    List.getLast?_append_of_ne_nil _ (by simp)
  simp only [assemble]
  rw [start, flatten_separated fits, last]
  simp only [joinParts, extended, separatorAfter, Text.marked, fragmentText?, List.append_assoc,
    List.cons_append]
  cases (url.cut '#').2 <;> rfl

/-- The text that pairs add to a query holds the code points of pairs and separators only. -/
theorem isPairCharacter_of_mem_added {pairs : List Text} (fits : ∀ p ∈ pairs, IsPairText p)
    {query : Text} {c : CodePoint}
    (member : c ∈ separatorAfter query pairs ++ Text.joinWith (text "&") pairs)
    : isPairCharacter c ∨ c = CodePoint.ofChar '&' := by
  have separator {d : CodePoint} (inside : d ∈ text "&") : d = CodePoint.ofChar '&' := by
    simpa [text] using inside
  rcases List.mem_append.mp member with before | inPairs
  · rw [separatorAfter] at before
    split at before
    · simp at before
    · exact Or.inr (separator before)
  · rcases Text.mem_joinWith inPairs with between | ⟨p, listed, inside⟩
    · exact Or.inr (separator between)
    · exact Or.inl ((fits p listed).characters c inside)

/-- What a query is extended with keeps it within its URL. -/
theorem areParts_extended {pairs : List Text} (fits : ∀ p ∈ pairs, IsPairText p) (url : Text)
    : AreParts (pathText url) (some (extended (queryText url) pairs)) := by
  have parts := areParts url
  refine ⟨parts.pathQuery, parts.pathFragment, ?_⟩
  intro q given member
  rw [← Option.some.inj given, extended, List.append_assoc, List.mem_append] at member
  rcases member with inQuery | added
  · cases query : queryText? url with
    | none => simp [queryText, query] at inQuery
    | some q => exact parts.queryFragment q query (by simpa [queryText, query] using inQuery)
  · rcases isPairCharacter_of_mem_added fits added with impossible | same
    · exact absurd impossible (by decide)
    · exact absurd same (by decide)

/-- The query of an assembled URL is the extended one. -/
theorem queryText_assemble {pairs : List Text} (fits : ∀ p ∈ pairs, IsPairText p) (url : Text)
    : queryText (assemble url pairs) = extended (queryText url) pairs := by
  rw [assemble_eq fits, queryText, ((areParts_extended fits url).cuts _).2.1, Option.getD_some]

/-- The text around the query is taken over as it is. -/
theorem parts_assemble {pairs : List Text} (fits : ∀ p ∈ pairs, IsPairText p) (url : Text)
    : pathText (assemble url pairs) = pathText url
      ∧ fragmentText? (assemble url pairs) = fragmentText? url := by
  have cuts := (areParts_extended fits url).cuts (fragmentText? url)
  rw [assemble_eq fits]
  exact ⟨cuts.1, cuts.2.2⟩

-----------------------------------------------------------------------------------------
-- Adding gives the URL with the pairs of its parameters or nothing
-----------------------------------------------------------------------------------------

variable [Platform]

/-- A URL with parameters, before it is checked. -/
def withParameters (url : Text) (parameters : Parameters) (charset : Text) : Text :=
  if parameters.isEmpty then url else assemble url (parameters.pairTexts charset)

theorem eq_withParameters_of_add {url charset result : Text} {parameters : Parameters}
    (added : add url parameters charset = .ok result)
    : parameters.isEncodable charset ∧ result = withParameters url parameters charset := by
  cases parameters with
  | nil => exact ⟨rfl, (Except.ok.inj added).symm⟩
  | cons entry parameters =>
      simp only [add, addEntries, Parameters.toEntries, List.map_cons, List.isEmpty_cons,
        Bool.false_eq_true, if_false] at added
      obtain ⟨texts, written, checked⟩ := bind_eq_ok.mp added
      obtain ⟨_, _, same⟩ := bind_eq_ok.mp checked
      have whole : pairs (.text charset) (Parameters.toEntries (entry :: parameters)) = .ok texts :=
        written
      obtain ⟨encodable, rfl⟩ := Parameters.pairs_eq_ok.mp whole
      exact ⟨encodable, (Except.ok.inj same).symm⟩

end Dispatch.Query
