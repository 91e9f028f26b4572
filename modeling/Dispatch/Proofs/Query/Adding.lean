import Dispatch.Proofs.Charset.Repertoire
import Dispatch.Proofs.Query.Assembly
import Dispatch.Proofs.Query.Refusal
import Dispatch.Proofs.Url.Reading

/-! Adding parameters to a URL as a whole. A URL that can be read can be read with parameters,
unless it becomes too long, and then it differs in its query only. A parameter that the charset
refuses is a problem of the payload.
-/

namespace Dispatch.Query

open Dispatch.Result Dispatch.Url

-----------------------------------------------------------------------------------------
-- A URL with pairs reads as the URL with another query
-----------------------------------------------------------------------------------------

/-- What pairs add to a URL: their own code points, a question mark and separators. -/
def isAddedCharacter (c : CodePoint) : Bool :=
  isPairCharacter c || c.val = 0x3f || c.val = 0x26

/-- The added code points stay as they are in the query of a URL. -/
theorem plain_of_isAddedCharacter {c : CodePoint} (added : isAddedCharacter c)
    : isControl c = false ∧ c.isSurrogate = false ∧ Escape.inQuery c := by
  have range : 0x20 < c.val ∧ c.val < 0x7f := by
    simp only [isAddedCharacter, isPairCharacter, Bool.or_eq_true, isFormCharacter_iff,
      decide_eq_true_eq] at added
    omega
  have allowed : Escape.among "\"#<>" c = false := by
    rw [Escape.among, Bool.eq_false_iff, ne_eq, List.contains_iff_mem]
    intro member
    have sign : c = CodePoint.ofChar '\"' ∨ c = CodePoint.ofChar '#' ∨ c = CodePoint.ofChar '<'
        ∨ c = CodePoint.ofChar '>' := by
      simpa [text] using member
    rcases sign with rfl | rfl | rfl | rfl <;> exact absurd added (by decide)
  simp only [isControl, CodePoint.isSurrogate, Escape.inQuery, allowed, Bool.or_eq_false_iff,
    Bool.and_eq_false_iff, Bool.and_eq_true, decide_eq_false_iff_not, decide_eq_true_eq,
    Bool.not_false, and_true]
  omega

theorem isAddedCharacter_of_mem {pairs : List Text} (fits : ∀ p ∈ pairs, IsPairText p)
    {url : Text} {c : CodePoint} (member : c ∈ extended (queryText url) pairs)
    : c ∈ queryText url ∨ isAddedCharacter c := by
  rw [extended, List.append_assoc, List.mem_append] at member
  refine member.imp_right fun added => ?_
  rcases isPairCharacter_of_mem_added fits added with inPair | separator
  · simp [isAddedCharacter, inPair]
  · rw [separator]
    decide

theorem mem_of_mem_queryText {url : Text} {c : CodePoint} (member : c ∈ queryText url)
    : c ∈ url := by
  cases query : queryText? url with
  | none => simp [queryText, query] at member
  | some q =>
      rw [queryText, query] at member
      exact mem_of_mem_cut (Or.inl (mem_of_mem_cut (Or.inr ⟨q, query, member⟩)))

/-- A URL with pairs holds the code points of the URL, of the pairs and the signs between them. -/
theorem mem_of_mem_assemble {pairs : List Text} (fits : ∀ p ∈ pairs, IsPairText p) {url : Text}
    {c : CodePoint} (member : c ∈ assemble url pairs)
    : c ∈ url ∨ isAddedCharacter c := by
  have whole := joinParts_parts url
  rw [assemble_eq fits, joinParts, List.mem_append, List.mem_append] at member
  rcases member with (path | query) | fragment
  · rw [← whole, joinParts]
    exact Or.inl (by simp [path])
  · rcases List.mem_cons.mp query with rfl | inside
    · exact Or.inr (by decide)
    · exact (isAddedCharacter_of_mem fits inside).imp_left mem_of_mem_queryText
  · rw [← whole, joinParts]
    exact Or.inl (by simp [fragment])

/-- A URL that can be read can be read with pairs unless it is too long then. It is the same but for
its query. -/
theorem parse_assemble {pairs : List Text} (fits : ∀ p ∈ pairs, IsPairText p) {url : Text} {u : Url}
    (read : Url.parse url = .ok u) (short : (assemble url pairs).length ≤ maxLength)
    : Url.parse (assemble url pairs)
      = .ok { u with
          query := some (Escape.escape Escape.inQuery (extended (queryText url) pairs)) } := by
  obtain ⟨_, plain, given⟩ := parse_eq_ok.mp read
  have closed := (areParts_extended fits url).queryFragment _ rfl
  -- The old query was escaped once, so it has no surrogate that could end the escaping.
  have queryPlain : ∀ c ∈ extended (queryText url) pairs, c.isSurrogate = false := by
    intro c member
    rcases isAddedCharacter_of_mem fits member with inQuery | added
    · have quoted := given.query
      rw [ofText_query] at quoted
      cases query : queryText? url with
      | none => simp [queryText, query] at inQuery
      | some q =>
          rw [queryText, query] at inQuery
          rw [query, quote?, map_eq_ok] at quoted
          obtain ⟨_, quoted, _⟩ := quoted
          exact (quote_eq_ok.mp quoted).1 c inQuery
    · exact (plain_of_isAddedCharacter added).2.1
  refine parse_eq_ok.mpr ⟨short, ?_, ?_⟩
  · intro c member
    rcases mem_of_mem_assemble fits member with inUrl | added
    · exact plain c inUrl
    · exact (plain_of_isAddedCharacter added).1
  · rw [assemble_eq fits, ofText_replaceQuery closed]
    exact given.replaceQuery queryPlain

theorem parse_of_long {t : Text} (long : maxLength < t.length) : Url.parse t = .error .tooLong := by
  rw [Url.parse, if_pos long]

/-- Pairs bring no surrogate into a URL that can be read. -/
theorem parse_assemble_ne_surrogate {pairs : List Text} (fits : ∀ p ∈ pairs, IsPairText p)
    {url : Text} {u : Url} (read : Url.parse url = .ok u) (c : CodePoint)
    : Url.parse (assemble url pairs) ≠ .error (.surrogate c) := by
  rcases Nat.lt_or_ge maxLength (assemble url pairs).length with long | short
  · rw [parse_of_long long]
    simp
  · rw [parse_assemble fits read short]
    simp

-----------------------------------------------------------------------------------------
-- Adding fails for the charset, for the length, or for the target itself
-----------------------------------------------------------------------------------------

/-- A text with parameters is in order if it is absolute, and else a problem of the target, unless a
surrogate ends the reading. -/
theorem checkAbsolute_cases (url : Text)
    : (checkAbsolute url = .ok () ∧ isAbsoluteText url = .ok true)
      ∨ (∃ p, checkAbsolute url = .error (.ofProblem p) ∧ p.kind = .malformedTarget)
      ∨ (∃ c, checkAbsolute url = .error (.fault (.url (.surrogate c)))
          ∧ Url.parse url = .error (.surrogate c)) := by
  rw [checkAbsolute]
  split
  · rename_i u read
    cases absolute : u.isAbsolute with
    | true => exact Or.inl ⟨rfl, isAbsoluteText_eq_true.mpr ⟨u, read, absolute⟩⟩
    | false => exact Or.inr (Or.inl ⟨_, rfl, rfl⟩)
  · rename_i c failed
    exact Or.inr (Or.inr ⟨c, rfl, failed⟩)
  · exact Or.inr (Or.inl ⟨_, rfl, rfl⟩)

variable [Platform]

theorem add_of_isEncodable {url charset : Text} {parameters : Parameters}
    (nonempty : parameters ≠ []) (encodable : parameters.isEncodable charset)
    : add url parameters charset
      = (checkAbsolute (assemble url (parameters.pairTexts charset))).map
          fun _ => assemble url (parameters.pairTexts charset) := by
  have entries : parameters.toEntries.isEmpty = false := by
    simpa [Parameters.toEntries] using nonempty
  rw [add, addEntries, entries, Parameters.pairs_eq_ok.mpr ⟨encodable, rfl⟩]
  simp only [Bool.false_eq_true, if_false, ok_bind]
  cases checkAbsolute (assemble url (parameters.pairTexts charset)) <;> rfl

/-- What a configured charset refuses is a problem of the payload, and the first refusal is its
cause. -/
theorem add_of_refusal? (url : Text) {charset : Text} {parameters : Parameters} {e : Charset.Error}
    (supported : Charset.isSupported charset) (refused : parameters.refusal? charset = some e)
    : ∃ name, add url parameters charset
        = .error (.ofProblem (.parameterNotEncodable name charset (.charset e))) := by
  have entries : parameters.toEntries.isEmpty = false := by
    cases parameters with
    | nil => contradiction
    | cons entry parameters => rfl
  obtain ⟨t, _, unwritten⟩ := List.exists_of_findSome?_eq_some refused
  rw [refusal?_eq_some, formText] at unwritten
  have refusal : (Fault.charset e).refusesText := by
    split at unwritten
    · contradiction
    · exact Charset.refusesText_of_isSupported supported (map_eq_error.mp unwritten)
  obtain ⟨name, failed⟩ := Parameters.pairs_of_refusal? refused
  refine ⟨name.quoted, ?_⟩
  rw [add, addEntries, entries, failed]
  simp only [Bool.false_eq_true, if_false, error_bind, parameterFailure, refusal, if_true,
    Value.shown_text, Value.plain]

theorem add_of_not_isEncodable (url : Text) {charset : Text} {parameters : Parameters}
    (supported : Charset.isSupported charset) (refused : parameters.isEncodable charset = false)
    : ∃ p, add url parameters charset = .error (.ofProblem p) ∧ p.kind = .payloadShape := by
  cases first : parameters.refusal? charset with
  | none =>
      rw [Parameters.refusal?_eq_none.mp first] at refused
      contradiction
  | some e =>
      obtain ⟨name, failed⟩ := add_of_refusal? url supported first
      exact ⟨_, failed, rfl⟩

/-- An absolute URL takes up parameters as long as it stays short enough. -/
theorem add_of_short {url charset : Text} {parameters : Parameters}
    (absolute : isAbsoluteText url = .ok true) (nonempty : parameters ≠ [])
    (encodable : parameters.isEncodable charset)
    (short : (assemble url (parameters.pairTexts charset)).length ≤ maxLength)
    : add url parameters charset = .ok (assemble url (parameters.pairTexts charset))
      ∧ isAbsoluteText (assemble url (parameters.pairTexts charset)) = .ok true := by
  obtain ⟨u, read, named⟩ := isAbsoluteText_eq_true.mp absolute
  have extended := parse_assemble (fun p => isPairText_of_mem_pairTexts) read short
  have whole : checkAbsolute (assemble url (parameters.pairTexts charset)) = .ok () := by
    rw [checkAbsolute, extended]
    exact if_pos named
  refine ⟨?_, isAbsoluteText_eq_true.mpr ⟨_, extended, named⟩⟩
  rw [add_of_isEncodable nonempty encodable, whole, map_ok]

theorem add_of_long {url charset : Text} {parameters : Parameters}
    (nonempty : parameters ≠ []) (encodable : parameters.isEncodable charset)
    (long : maxLength < (assemble url (parameters.pairTexts charset)).length)
    : add url parameters charset = .error (.ofProblem (.unreadableQuery .tooLong)) := by
  have refused : checkAbsolute (assemble url (parameters.pairTexts charset))
      = .error (.ofProblem (.unreadableQuery .tooLong)) := by
    rw [checkAbsolute, parse_of_long long]
  rw [add_of_isEncodable nonempty encodable, refused, map_error]

/-- Only the length decides whether an absolute URL takes up parameters that can be written. -/
theorem add_of_isAbsolute {url charset : Text} {parameters : Parameters}
    (absolute : isAbsoluteText url = .ok true) (nonempty : parameters ≠ [])
    (encodable : parameters.isEncodable charset)
    : add url parameters charset
      = if (assemble url (parameters.pairTexts charset)).length ≤ maxLength then
          .ok (assemble url (parameters.pairTexts charset))
        else .error (.ofProblem (.unreadableQuery .tooLong)) := by
  split
  · rename_i short
    exact (add_of_short absolute nonempty encodable short).1
  · rename_i long
    exact add_of_long nonempty encodable (Nat.lt_of_not_le long)

end Dispatch.Query
