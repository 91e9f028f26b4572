import Dispatch.Proofs.Url.Parts
import Dispatch.Url.Parser

/-! Components and the parts of a URL text. The query and the fragment are cut off last, so a text
with another query has the same components but for it, and each component is made of code points of
the text.
-/

namespace Dispatch.Url

/-- A text that ends what stands before it: it is empty or starts as a query or a fragment. -/
def IsTail (t : Text) : Prop :=
  ∀ c ∈ t.head?, c = CodePoint.ofChar '?' ∨ c = CodePoint.ofChar '#'

theorem isTail_marked (query fragment : Option Text)
    : IsTail (Text.marked (CodePoint.ofChar '?') query
        ++ Text.marked (CodePoint.ofChar '#') fragment) := by
  cases query <;> cases fragment <;> simp [IsTail, Text.marked]

-----------------------------------------------------------------------------------------
-- A query or a fragment does not change the cuts in front of it
-----------------------------------------------------------------------------------------

theorem isSchemeCharacter_of_mem {t : Text} (scheme : isScheme t) {c : CodePoint} (member : c ∈ t)
    : isSchemeCharacter c := by
  cases t with
  | nil => simp at member
  | cons first rest =>
      simp only [isScheme, Bool.and_eq_true, List.all_eq_true] at scheme
      rcases List.mem_cons.mp member with rfl | later
      · simp [isSchemeCharacter, CodePoint.isAlnum, scheme.1]
      · exact scheme.2 c later

/-- No scheme is cut off where the mark of a query or a fragment stands before the first colon. -/
theorem cutScheme_of_mem {t : Text} {c : CodePoint} (member : c ∈ (t.cut ':').1)
    (other : isSchemeCharacter c = false)
    : cutScheme t = ([], t) := by
  have noScheme : ¬isScheme (t.cut ':').1 = true := by
    intro scheme
    rw [isSchemeCharacter_of_mem scheme member] at other
    contradiction
  rw [cutScheme]
  split
  · rename_i scheme rest cut
    rw [cut] at noScheme
    exact if_neg noScheme
  · rfl

/-- A colon in the tail is not that of a scheme. -/
theorem cutScheme_append (t : Text) {tail : Text} (ends : IsTail tail)
    : cutScheme (t ++ tail) = ((cutScheme t).1, (cutScheme t).2 ++ tail) := by
  have whole := Text.cut_append (CodePoint.ofChar ':') t
  have absent := Text.not_mem_cut (CodePoint.ofChar ':') t
  cases split : t.cut ':' with
  | mk before rest =>
      rw [split] at whole absent
      cases rest with
      | some after =>
          have longer := Text.cut_append_marked absent (some (after ++ tail))
          rw [Text.marked] at whole longer
          rw [← List.cons_append, ← List.append_assoc, whole] at longer
          simp only [cutScheme, split, longer]
          split <;> rfl
      | none =>
          rw [Text.marked, List.append_nil] at whole
          -- The first colon may stand in the tail, but then a mark stands in front of it.
          have unchanged : cutScheme t = ([], t) := by rw [cutScheme, split]
          rw [unchanged]
          cases tail with
          | nil => rw [List.append_nil, unchanged]
          | cons mark tail =>
              have kind := ends mark rfl
              have early : mark ∈ ((t ++ mark :: tail).cut ':').1 := by
                have kept : ∀ c ∈ t ++ [mark], (c != CodePoint.ofChar ':') = true := by
                  intro c member
                  rcases List.mem_append.mp member with inside | last
                  · exact bne_iff_ne.mpr (fun same => absent (whole ▸ same ▸ inside))
                  · rw [List.mem_singleton.mp last]
                    rcases kind with rfl | rfl <;> decide
                rw [Text.cut, ← List.singleton_append, ← List.append_assoc,
                  List.takeWhile_append_of_pos kept]
                simp
              exact cutScheme_of_mem early (by rcases kind with rfl | rfl <;> decide)

/-- A tail that starts with a stop is not searched, by induction on the text before it. -/
theorem takeWhile_append_stop {p : CodePoint → Bool} (t : Text) {tail : Text}
    (stop : ∀ c ∈ tail.head?, p c = false)
    : (t ++ tail).takeWhile p = t.takeWhile p
      ∧ (t ++ tail).dropWhile p = t.dropWhile p ++ tail := by
  induction t with
  | nil =>
      cases tail with
      | nil => simp
      | cons c tail => simp [stop c rfl]
  | cons c t ih =>
      cases kept : p c with
      | true => simp [kept, ih]
      | false => simp [kept]

theorem startsWith_slashes_append (t : Text) {tail : Text} (ends : IsTail tail)
    : (t ++ tail).startsWith (text "//") = t.startsWith (text "//") := by
  have slashes : text "//" = [CodePoint.ofChar '/', CodePoint.ofChar '/'] := rfl
  have noSlash : ∀ c ∈ tail.head?, c ≠ CodePoint.ofChar '/' := by
    intro c head
    rcases ends c head with rfl | rfl <;> decide
  rw [slashes]
  match t, tail with
  | [], [] => rfl
  | [], c :: tail =>
      simp [Text.startsWith, List.isPrefixOf, (noSlash c rfl).symm]
  | [a], [] => rfl
  | [a], c :: tail =>
      simp [Text.startsWith, List.isPrefixOf, (noSlash c rfl).symm]
  | a :: b :: t, tail => simp [Text.startsWith, List.isPrefixOf]

/-- A slash in the tail is not that of an authority. -/
theorem cutAuthority_append (t : Text) {tail : Text} (ends : IsTail tail)
    : cutAuthority (t ++ tail) = ((cutAuthority t).1, (cutAuthority t).2 ++ tail) := by
  have stop : ∀ c ∈ tail.head?, (!endsAuthority c) = false := by
    intro c head
    rcases ends c head with rfl | rfl <;> decide
  rw [cutAuthority, cutAuthority, startsWith_slashes_append t ends]
  by_cases slashes : t.startsWith (text "//") = true
  · have long : 2 ≤ t.length := (List.isPrefixOf_iff_prefix.mp slashes).length_le
    have split := takeWhile_append_stop (p := (!endsAuthority ·)) (t.drop 2) stop
    simp only [if_pos slashes, List.drop_append_of_le_length long, split.1, split.2]
  · rw [if_neg slashes, if_neg slashes]

-----------------------------------------------------------------------------------------
-- Cuts take their code points from the text
-----------------------------------------------------------------------------------------

theorem mem_of_mem_cutScheme {t : Text} {c : CodePoint} (member : c ∈ (cutScheme t).2) : c ∈ t := by
  have whole := Text.cut_append (CodePoint.ofChar ':') t
  rw [cutScheme] at member
  split at member
  · rename_i scheme rest cut
    rw [cut] at whole
    split at member
    · rw [← whole]
      exact List.mem_append_right _ (List.mem_cons_of_mem _ member)
    · exact member
  · exact member

theorem mem_of_mem_cutAuthority {t : Text} {c : CodePoint}
    (member : c ∈ (cutAuthority t).1 ∨ c ∈ (cutAuthority t).2)
    : c ∈ t := by
  rw [cutAuthority] at member
  split at member
  · rcases member with authority | rest
    · exact List.mem_of_mem_drop ((List.takeWhile_sublist _).subset authority)
    · exact List.mem_of_mem_drop ((List.dropWhile_sublist _).subset rest)
  · simpa using member

theorem mem_of_mem_cut {mark c : CodePoint} {t : Text}
    (member : c ∈ (t.cut mark).1 ∨ ∃ after ∈ (t.cut mark).2, c ∈ after)
    : c ∈ t := by
  rw [← Text.cut_append mark t]
  rcases member with before | ⟨after, found, inside⟩
  · exact List.mem_append_left _ before
  · rw [Option.mem_def.mp found]
    exact List.mem_append_right _ (List.mem_cons_of_mem _ inside)

theorem queryText?_of_not_mem {url : Text} (absent : CodePoint.ofChar '?' ∉ url)
    : queryText? url = none := by
  have noMark : CodePoint.ofChar '?' ∉ (url.cut '#').1 :=
    fun member => absent (mem_of_mem_cut (Or.inl member))
  rw [queryText?, Text.cut_of_not_mem noMark]

theorem mem_of_mem_cutLast {mark c : CodePoint} {t : Text}
    (member : (∃ before ∈ (t.cutLast mark).1, c ∈ before) ∨ c ∈ (t.cutLast mark).2)
    : c ∈ t := by
  have either : c ∈ (Text.cut mark t.reverse).1
      ∨ ∃ after ∈ (Text.cut mark t.reverse).2, c ∈ after := by
    rcases member with ⟨before, found, inside⟩ | inside
    · obtain ⟨after, rest, rfl⟩ := Option.map_eq_some_iff.mp (Option.mem_def.mp found)
      exact Or.inr ⟨after, rest, List.mem_reverse.mp inside⟩
    · exact Or.inl (List.mem_reverse.mp inside)
  exact List.mem_reverse.mp (mem_of_mem_cut either)

-----------------------------------------------------------------------------------------
-- Another query leaves the other components alone
-----------------------------------------------------------------------------------------

/-- The authority of a text. -/
def authorityText (t : Text) : Text :=
  (cutAuthority (cutScheme t).2).1

/-- What follows the scheme and the authority. -/
def relativeText (t : Text) : Text :=
  (cutAuthority (cutScheme t).2).2

theorem ofText_eq (t : Text)
    : Components.ofText t = {
        scheme := (cutScheme t).1
        userinfo := ((authorityText t).cutLast '@').1.getD []
        host := (cutHost ((authorityText t).cutLast '@').2).1
        port := (cutHost ((authorityText t).cutLast '@').2).2
        path := pathText (relativeText t)
        query := queryText? (relativeText t)
        fragment := fragmentText? (relativeText t) } := rfl

theorem mem_of_mem_relativeText {t : Text} {c : CodePoint} (member : c ∈ relativeText t) : c ∈ t :=
  mem_of_mem_cutScheme (mem_of_mem_cutAuthority (Or.inr member))

theorem AreParts.relative {path : Text} {query : Option Text} (parts : AreParts path query)
    : AreParts (relativeText path) query :=
  ⟨fun member => parts.pathQuery (mem_of_mem_relativeText member),
    fun member => parts.pathFragment (mem_of_mem_relativeText member), parts.queryFragment⟩

/-- The query and the fragment of a text are those of its components. -/
theorem ofText_joinParts {path : Text} {query : Option Text} (parts : AreParts path query)
    (fragment : Option Text)
    : Components.ofText (joinParts path query fragment)
      = { Components.ofText path with query, fragment } := by
  have ends := isTail_marked query fragment
  have authority : authorityText (joinParts path query fragment) = authorityText path := by
    rw [authorityText, joinParts, List.append_assoc, cutScheme_append path ends,
      cutAuthority_append _ ends, authorityText]
  have relative : relativeText (joinParts path query fragment)
      = joinParts (relativeText path) query fragment := by
    rw [relativeText, joinParts, List.append_assoc, cutScheme_append path ends,
      cutAuthority_append _ ends, relativeText, joinParts, List.append_assoc]
  have scheme : (cutScheme (joinParts path query fragment)).1 = (cutScheme path).1 := by
    rw [joinParts, List.append_assoc, cutScheme_append path ends]
  have found := parts.relative.cuts fragment
  have alone : pathText (relativeText path) = relativeText path := by
    have bare : AreParts (relativeText path) none :=
      ⟨parts.relative.pathQuery, parts.relative.pathFragment, by simp⟩
    simpa [joinParts, Text.marked] using (bare.cuts none).1
  rw [ofText_eq, ofText_eq, authority, relative, scheme, found.1, found.2.1, found.2.2, alone]

/-- The query that a text is cut into is the one of its components. -/
theorem ofText_query (t : Text) : (Components.ofText t).query = queryText? t := by
  rw [← joinParts_parts t, ofText_joinParts (areParts t), joinParts_parts]

/-- Another query in place of the one of a text. -/
theorem ofText_replaceQuery {t q : Text} (closed : CodePoint.ofChar '#' ∉ q)
    : Components.ofText (joinParts (pathText t) (some q) (fragmentText? t))
      = { Components.ofText t with query := some q } := by
  have parts := areParts t
  have replaced : AreParts (pathText t) (some q) :=
    ⟨parts.pathQuery, parts.pathFragment, fun _ same => Option.some.inj same ▸ closed⟩
  have whole : Components.ofText t
      = { Components.ofText (pathText t) with
          query := queryText? t, fragment := fragmentText? t } := by
    rw [← ofText_joinParts parts, joinParts_parts]
  rw [ofText_joinParts replaced, whole]

-----------------------------------------------------------------------------------------
-- What is escaped stands in the text
-----------------------------------------------------------------------------------------

/-- The components that are escaped. -/
def Components.escaped (c : Components) : List Text :=
  [c.userinfo, c.path] ++ c.query.toList ++ c.fragment.toList

theorem mem_of_mem_escaped {t part : Text} (listed : part ∈ (Components.ofText t).escaped)
    {c : CodePoint} (member : c ∈ part)
    : c ∈ t := by
  simp only [ofText_eq, Components.escaped, List.mem_append, List.mem_cons, List.not_mem_nil,
    or_false, Option.mem_toList] at listed
  rcases listed with ((userinfo | path) | query) | fragment
  · have inAuthority : c ∈ authorityText t := by
      cases found : ((authorityText t).cutLast '@').1 with
      | none => simp [userinfo, found] at member
      | some before =>
          rw [userinfo, found] at member
          exact mem_of_mem_cutLast (Or.inl ⟨before, found, member⟩)
    exact mem_of_mem_cutScheme (mem_of_mem_cutAuthority (Or.inl inAuthority))
  · rw [path] at member
    exact mem_of_mem_relativeText (mem_of_mem_cut (Or.inl (mem_of_mem_cut (Or.inl member))))
  · have inBase := mem_of_mem_cut (Or.inr ⟨part, query, member⟩)
    exact mem_of_mem_relativeText (mem_of_mem_cut (Or.inl inBase))
  · exact mem_of_mem_relativeText (mem_of_mem_cut (Or.inr ⟨part, fragment, member⟩))

end Dispatch.Url
