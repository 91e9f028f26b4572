import Dispatch.Proofs.Text.Cut

/-! The parts of the text of a URL: what stands before the first question mark or hash, the query up
to the first hash, and the fragment. They can be joined again, and the cuts find them.
-/

namespace Dispatch.Url

/-- The part before the query and the fragment. -/
def pathText (url : Text) : Text :=
  ((url.cut '#').1.cut '?').1

/-- The part from the first question mark to the first hash, if there is a query. -/
def queryText? (url : Text) : Option Text :=
  ((url.cut '#').1.cut '?').2

/-- The part after the first hash, if there is a fragment. -/
def fragmentText? (url : Text) : Option Text :=
  (url.cut '#').2

/-- The query of a URL text, empty if it has none. -/
def queryText (url : Text) : Text :=
  (queryText? url).getD []

/-- A URL text from its parts. -/
def joinParts (path : Text) (query fragment : Option Text) : Text :=
  path ++ Text.marked (CodePoint.ofChar '?') query ++ Text.marked (CodePoint.ofChar '#') fragment

theorem joinParts_parts (url : Text)
    : joinParts (pathText url) (queryText? url) (fragmentText? url) = url := by
  rw [joinParts, pathText, queryText?, fragmentText?, Text.cut_append, Text.cut_append]

/-- Texts that can stand as the parts of a URL text. -/
structure AreParts (path : Text) (query : Option Text) : Prop where
  pathQuery : CodePoint.ofChar '?' ∉ path
  pathFragment : CodePoint.ofChar '#' ∉ path
  queryFragment : ∀ q ∈ query, CodePoint.ofChar '#' ∉ q

theorem AreParts.not_mem_base {path : Text} {query : Option Text} (parts : AreParts path query)
    : CodePoint.ofChar '#' ∉ path ++ Text.marked (CodePoint.ofChar '?') query := by
  intro member
  rcases List.mem_append.mp member with inPath | inQuery
  · exact parts.pathFragment inPath
  · cases query with
    | none => simp [Text.marked] at inQuery
    | some q =>
        rcases List.mem_cons.mp inQuery with same | inside
        · exact absurd same (by decide)
        · exact parts.queryFragment q rfl inside

/-- The cuts find the parts that a text was joined from. -/
theorem AreParts.cuts {path : Text} {query : Option Text} (parts : AreParts path query)
    (fragment : Option Text)
    : pathText (joinParts path query fragment) = path
      ∧ queryText? (joinParts path query fragment) = query
      ∧ fragmentText? (joinParts path query fragment) = fragment := by
  simp only [pathText, queryText?, fragmentText?, joinParts,
    Text.cut_append_marked parts.not_mem_base, Text.cut_append_marked parts.pathQuery, and_self]

theorem areParts (url : Text) : AreParts (pathText url) (queryText? url) := by
  have noHash := Text.not_mem_cut (CodePoint.ofChar '#') url
  have whole := Text.cut_append (CodePoint.ofChar '?') (url.cut '#').1
  refine ⟨Text.not_mem_cut _ _, ?_, ?_⟩
  · intro member
    exact noHash (whole ▸ List.mem_append_left _ member)
  · intro q found member
    have marked : CodePoint.ofChar '#' ∈ Text.marked (CodePoint.ofChar '?') (queryText? url) := by
      rw [Option.mem_def.mp found]
      exact List.mem_cons_of_mem _ member
    exact noHash (whole ▸ List.mem_append_right _ marked)

end Dispatch.Url
