import Dispatch.Proofs.Result
import Dispatch.Proofs.Yaml.Node

/-! Why a node has no value. Its collections break the grammar, or a node inside it has content that
does not fit its tag or is never found; the levels that are filled never run out.
-/

namespace Dispatch.Yaml

open Dispatch.Result

-----------------------------------------------------------------------------------------
-- A scalar without a value breaks the grammar or does not fit its tag
-----------------------------------------------------------------------------------------

/-- Content that does not fit its tag: no word for a truth value, no number, no moment. -/
inductive Misfit (content : Text) : Tag → ScalarError → Prop
  | truth {e : ScalarError} (unread : Literal.truth content = .error e) : Misfit content .bool e
  | integer {e : ScalarError} (unread : Literal.documentInteger content = .error e)
    : Misfit content .int e
  | float {e : ScalarError} (unread : Literal.documentFloat content = .error e)
    : Misfit content .float e
  | moment {e : ScalarError} (unread : Literal.moment content = .error e)
    : Misfit content .timestamp e

theorem Literal.bytes_eq_error {content : Text} {e : Error} (unread : bytes content = .error e)
    : e = .grammar := by
  rw [bytes] at unread
  split at unread
  · exact (Except.error.inj unread).symm
  · split at unread
    · contradiction
    · exact (Except.error.inj unread).symm

theorem Literal.made_eq_error {α : Type} {make : α → Value} {x : Except ScalarError α} {e : Error}
    : made make x = .error e ↔ ∃ s, e = .scalar s ∧ x = .error s := by
  rw [made, map_eq_error, mapError_eq_error]
  exact exists_congr fun s => ⟨fun ⟨failed, same⟩ => ⟨same.symm, failed⟩,
    fun ⟨same, failed⟩ => ⟨failed, same.symm⟩⟩

theorem Literal.misfit_of_made {α : Type} {make : α → Value} {x : Except ScalarError α}
    {tag : Tag} {content : Text} {e : Error} (unread : made make x = .error e)
    (misfit : ∀ s, x = .error s → Misfit content tag s)
    : e = .grammar ∨ ∃ s, e = .scalar s ∧ Misfit content tag s := by
  obtain ⟨s, rfl, failed⟩ := made_eq_error.mp unread
  exact Or.inr ⟨s, rfl, misfit s failed⟩

theorem Literal.value_eq_error {tag : Tag} {content : Text} {e : Error}
    (unread : value tag content = .error e)
    : e = .grammar ∨ ∃ s, e = .scalar s ∧ Misfit content tag s := by
  cases tag with
  | null => contradiction
  | text => contradiction
  | bool => exact misfit_of_made unread fun _ => .truth
  | int => exact misfit_of_made unread fun _ => .integer
  | float => exact misfit_of_made unread fun _ => .float
  | timestamp => exact misfit_of_made unread fun _ => .moment
  | binary => exact Or.inl (bytes_eq_error (map_eq_error.mp unread))
  | _ => exact Or.inl (Except.error.inj unread).symm

namespace Node

-----------------------------------------------------------------------------------------
-- Merging takes entries from inside only
-----------------------------------------------------------------------------------------

/-- An entry from inside a node. Its key may have lost the tag of the sign for the value. -/
structure Holds (n : Node) (e : Node × Node) : Prop where
  key : ∃ k, e.1 = asKey k ∧ Inside k n
  value : Inside e.2 n

theorem Holds.of_parts {n k : Node} {e : Node × Node} (holds : Holds n e)
    (parts : ∀ p, Part p n → Part p k)
    : Holds k e := by
  obtain ⟨⟨key, same, inside⟩, value⟩ := holds
  exact ⟨⟨key, same, inside.of_parts parts⟩, value.of_parts parts⟩

theorem Holds.of_part {n k : Node} {e : Node × Node} (holds : Holds n e) (part : Part n k)
    : Holds k e := by
  obtain ⟨⟨key, same, inside⟩, value⟩ := holds
  exact ⟨⟨key, same, inside.of_part part⟩, value.of_part part⟩

theorem Holds.of_rest_entries {tag : Tag} {first e : Node × Node} {rest : List (Node × Node)}
    (holds : Holds (.map tag rest) e)
    : Holds (.map tag (first :: rest)) e := by
  refine holds.of_parts fun p part => ?_
  cases part with
  | key member => exact .key (List.mem_cons_of_mem first member)
  | value member => exact .value (List.mem_cons_of_mem first member)

theorem Holds.of_rest_items {tag : Tag} {first : Node} {rest : List Node} {e : Node × Node}
    (holds : Holds (.sequence tag rest) e)
    : Holds (.sequence tag (first :: rest)) e := by
  refine holds.of_parts fun p part => ?_
  cases part with
  | item member => exact .item (List.mem_cons_of_mem first member)

theorem Holds.of_value {tag : Tag} {key value : Node} {rest : List (Node × Node)}
    {e : Node × Node} (holds : Holds value e)
    : Holds (.map tag ((key, value) :: rest)) e :=
  holds.of_part (.value (e := (key, value)) List.mem_cons_self)

theorem holds_own (tag : Tag) (key value : Node) (rest : List (Node × Node))
    : Holds (.map tag ((key, value) :: rest)) (asKey key, value) where
  key := ⟨key, rfl, key, .refl, .key (e := (key, value)) List.mem_cons_self⟩
  value := ⟨value, .refl, .value (e := (key, value)) List.mem_cons_self⟩

/-- A merge key puts what it stands for in front of what the rest merges. -/
theorem sortEntries_eq_ok_of_merge {key value : Node} {rest merged own : List (Node × Node)}
    (isMerge : key.tag? = some .merge)
    (sorted : sortEntries ((key, value) :: rest) = .ok (merged, own))
    : ∃ found later, mergedEntries value = .ok found ∧ sortEntries rest = .ok (later, own)
        ∧ merged = found ++ later := by
  rw [sortEntries, if_pos isMerge] at sorted
  obtain ⟨found, readValue, sorted⟩ := bind_eq_ok.mp sorted
  obtain ⟨⟨later, ownRest⟩, readRest, given⟩ := bind_eq_ok.mp sorted
  cases given
  exact ⟨found, later, readValue, readRest, rfl⟩

/-- Any other key stays with its value in front of the own entries of the rest. -/
theorem sortEntries_eq_ok_of_own {key value : Node} {rest merged own : List (Node × Node)}
    (noMerge : key.tag? ≠ some .merge)
    (sorted : sortEntries ((key, value) :: rest) = .ok (merged, own))
    : ∃ ownRest, sortEntries rest = .ok (merged, ownRest)
        ∧ own = (asKey key, value) :: ownRest := by
  rw [sortEntries, if_neg noMerge] at sorted
  obtain ⟨⟨later, ownRest⟩, readRest, given⟩ := bind_eq_ok.mp sorted
  cases given
  exact ⟨ownRest, readRest, rfl⟩

/-- What merging finds is from inside, by induction along the three functions that merge. -/
theorem holds_of_merging
    : (∀ entries, ∀ merged own, sortEntries entries = .ok (merged, own)
        → ∀ tag, ∀ e ∈ merged ++ own, Holds (.map tag entries) e)
      ∧ (∀ n, ∀ found, mergedEntries n = .ok found → ∀ e ∈ found, Holds n e)
      ∧ ∀ items, ∀ found, mergedItems items = .ok found
        → ∀ tag, ∀ es ∈ found, ∀ e ∈ es, Holds (.sequence tag items) e := by
  apply sortEntries.mutual_induct
  -- What a merge key stands for: a map, a sequence, the node itself, a scalar.
  case case1 =>
    intro tag entries ih found read
    rw [mergedEntries] at read
    obtain ⟨⟨merged, own⟩, sorted, given⟩ := bind_eq_ok.mp read
    cases given
    exact ih merged own sorted tag
  case case2 =>
    intro tag items ih found read e member
    rw [mergedEntries] at read
    obtain ⟨all, merged, given⟩ := bind_eq_ok.mp read
    cases given
    obtain ⟨es, listed, inside⟩ := List.mem_flatten.mp member
    exact ih all merged tag es (List.mem_reverse.mp listed) e inside
  case case3 =>
    intro between found read e member
    cases read
    contradiction
  case case4 =>
    intro tag content found read
    contradiction
  -- The items of a sequence: none, a map first, the node itself first, another one first.
  case case5 =>
    intro found read tag es listed
    cases read
    contradiction
  case case6 =>
    intro inner entries rest ihFirst ihRest found read tag es listed e member
    rw [mergedItems] at read
    obtain ⟨⟨merged, own⟩, sorted, read⟩ := bind_eq_ok.mp read
    obtain ⟨later, readRest, given⟩ := bind_eq_ok.mp read
    cases given
    rcases List.mem_cons.mp listed with rfl | inRest
    · exact (ihFirst merged own sorted inner e member).of_part (.item List.mem_cons_self)
    · exact (ihRest later readRest tag es inRest e member).of_rest_items
  case case7 =>
    intro between rest ih found read tag es listed e member
    rw [mergedItems] at read
    obtain ⟨later, readRest, given⟩ := bind_eq_ok.mp read
    cases given
    rcases List.mem_cons.mp listed with rfl | inRest
    · contradiction
    · exact (ih later readRest tag es inRest e member).of_rest_items
  case case8 =>
    intro first rest noMap noCycle found read
    rw [mergedItems] at read
    · contradiction
    · exact noMap
    · exact noCycle
  -- The entries of a map: none, a merge key first, another key first.
  case case9 =>
    intro merged own read tag e member
    cases read
    contradiction
  case case10 =>
    intro key value rest isMerge ihValue ihRest merged own read tag e member
    obtain ⟨found, later, readValue, readRest, rfl⟩ := sortEntries_eq_ok_of_merge isMerge read
    rw [List.append_assoc] at member
    rcases List.mem_append.mp member with inValue | inRest
    · exact (ihValue found readValue e inValue).of_value
    · exact (ihRest later own readRest tag e inRest).of_rest_entries
  case case11 =>
    intro key value rest noMerge ih merged own read tag e member
    obtain ⟨ownRest, readRest, rfl⟩ := sortEntries_eq_ok_of_own noMerge read
    rcases List.mem_append.mp member with inMerged | inOwn
    · exact (ih merged ownRest readRest tag e (List.mem_append_left _ inMerged)).of_rest_entries
    · rcases List.mem_cons.mp inOwn with rfl | inRest
      · exact holds_own tag key value rest
      · exact (ih merged ownRest readRest tag e (List.mem_append_right _ inRest)).of_rest_entries

/-- Only the grammar keeps entries from being merged. -/
theorem failsWith_of_merging
    : (∀ entries, FailsWith (· = .grammar) (sortEntries entries))
      ∧ (∀ n, FailsWith (· = .grammar) (mergedEntries n))
      ∧ ∀ items, FailsWith (· = .grammar) (mergedItems items) := by
  apply sortEntries.mutual_induct
  -- Only scalars, and items that are no maps, are refused here: cases 4 and 8.
  case case1 =>
    intro tag entries ih
    rw [mergedEntries]
    exact ih.bind fun _ _ => .ok _
  case case2 =>
    intro tag items ih
    rw [mergedEntries]
    exact ih.bind fun _ _ => .ok _
  case case3 => exact fun between => .ok _
  case case4 => exact fun tag content => .error rfl
  case case5 => exact .ok _
  case case6 =>
    intro tag entries rest first ih
    rw [mergedItems]
    exact first.bind fun _ _ => ih.bind fun _ _ => .ok _
  case case7 =>
    intro between rest ih
    rw [mergedItems]
    exact ih.bind fun _ _ => .ok _
  case case8 =>
    intro first rest noMap noCycle
    rw [mergedItems]
    · exact .error rfl
    · exact noMap
    · exact noCycle
  case case9 => exact .ok _
  case case10 =>
    intro key value rest isMerge first ih
    rw [sortEntries, if_pos isMerge]
    exact first.bind fun _ _ => ih.bind fun _ _ => .ok _
  case case11 =>
    intro key value rest noMerge ih
    rw [sortEntries, if_neg noMerge]
    exact ih.bind fun _ _ => .ok _

theorem failsWith_allEntries (entries : List (Node × Node))
    : FailsWith (· = .grammar) (allEntries entries) :=
  (failsWith_of_merging.1 entries).bind fun _ _ => .ok _

theorem holds_of_mem_allEntries {entries all : List (Node × Node)}
    (merged : allEntries entries = .ok all) (tag : Tag)
    : ∀ e ∈ all, Holds (.map tag entries) e := by
  obtain ⟨⟨found, own⟩, sorted, given⟩ := bind_eq_ok.mp merged
  cases given
  exact holds_of_merging.1 entries found own sorted tag

-----------------------------------------------------------------------------------------
-- What keeps a node from having a value is inside it
-----------------------------------------------------------------------------------------

/-- A node whose content does not fit its tag. A timestamp is no map. -/
inductive Unfit (n : Node) : ScalarError → Prop
  | content {tag : Tag} {content : Text} {e : ScalarError} (tagged : n.tag? = some tag)
    (found : n.content = .ok content) (misfit : Misfit content tag e)
    : Unfit n e
  | timestampMap {content : Text} (tagged : n.tag? = some .timestamp)
    (found : n.content = .ok content) (map : n.isMap)
    : Unfit n .timestampMap

/-- A map with a tag for scalars whose value sign leads back to the map. -/
structure IsEndless (n : Node) : Prop where
  tagged : ∃ tag, n.tag? = some tag ∧ tag.isCollection = false
  endless : n.content = .error .depth

/-- Why a node alone has no value, if it does not break the grammar. -/
inductive Flawed (n : Node) : Error → Prop
  | unfit {e : ScalarError} (unfit : Unfit n e) : Flawed n (.scalar e)
  | endless (endless : IsEndless n) : Flawed n .depth

/-- A node within another breaks the grammar or has a flaw of its own. -/
def Explains (n : Node) (e : Error) : Prop :=
  e = .grammar ∨ ∃ m, Within m n ∧ Flawed m e

theorem Explains.of_within {m n : Node} {e : Error} (explains : Explains m e) (within : Within m n)
    : Explains n e := by
  rcases explains with grammar | ⟨k, inside, flawed⟩
  · exact Or.inl grammar
  · exact Or.inr ⟨k, inside.trans within, flawed⟩

theorem Explains.of_grammar (n : Node) : ∀ e, e = Error.grammar → Explains n e :=
  fun _ => Or.inl

theorem not_part_scalar {n : Node} {tag : Tag} {content : Text} : ¬Part n (.scalar tag content) :=
  nofun

theorem not_flawed_text (content : Text) (e : Error) : ¬Flawed (.scalar .text content) e := by
  intro flawed
  cases flawed with
  | unfit unfit =>
      cases unfit with
      | content tagged _ misfit =>
          cases tagged
          cases misfit
      | timestampMap tagged => cases tagged
  | endless endless => cases endless.endless

/-- The sign for a value, as a key, is a text, and every text fits. -/
theorem Explains.of_asKey {n : Node} {e : Error} (explains : Explains (asKey n) e)
    : Explains n e := by
  unfold asKey at explains
  split at explains
  · rename_i content
    rcases explains with grammar | ⟨m, within, flawed⟩
    · exact Or.inl grammar
    · rcases Relation.ReflTransGen.cases_tail within with rfl | ⟨part, _, impossible⟩
      · exact absurd flawed (not_flawed_text content e)
      · exact absurd impossible not_part_scalar
  · exact explains

/-- Content is not found because of the grammar, or because it leads back to its own node. -/
theorem failsWith_contentFrom
    : (∀ count n, FailsWith (fun e => e = .grammar ∨ e = .depth) (contentFrom count n))
      ∧ ∀ count entries,
          FailsWith (fun e => e = .grammar ∨ e = .depth) (contentIn count entries) := by
  apply contentFrom.mutual_induct
  case case1 => exact fun count tag content => .ok _
  case case2 => exact fun count tag entries ih => ih
  case case3 => exact fun count tag items => .error (Or.inl rfl)
  -- An alias of a node around it: of a map on the way, or of another one.
  case case4 =>
    intro count between inside
    rw [contentFrom, if_pos inside]
    exact .error (Or.inr rfl)
  case case5 =>
    intro count between outside
    rw [contentFrom, if_neg outside]
    exact .error (Or.inl rfl)
  case case6 => exact fun count => .error (Or.inl rfl)
  case case7 =>
    intro count key value rest sign ih
    rwa [contentIn, if_pos sign]
  case case8 =>
    intro count key value rest other ih
    rwa [contentIn, if_neg other]

theorem failsWith_shallow (n : Node) : FailsWith (Explains n) n.shallow := by
  intro e failed
  rw [shallow] at failed
  split at failed
  case h_7 tag list omap pairs set map tagged =>
    rcases bind_eq_error.mp failed with missing | ⟨content, found, failed⟩
    · rcases failsWith_contentFrom.1 0 n e missing with rfl | rfl
      · exact Or.inl rfl
      · have other : tag.isCollection = false := by cases tag <;> trivial
        exact Or.inr ⟨n, .refl, .endless ⟨⟨tag, tagged, other⟩, missing⟩⟩
    · split at failed
      · rename_i stamped
        obtain ⟨stamp, map⟩ := (Bool.and_eq_true _ _).mp stamped
        cases failed
        exact Or.inr ⟨n, .refl, .unfit (.timestampMap (of_decide_eq_true stamp ▸ tagged) found map)⟩
      · rcases Literal.value_eq_error failed with grammar | ⟨s, rfl, misfit⟩
        · exact Or.inl grammar
        · exact Or.inr ⟨n, .refl, .unfit (.content tagged found misfit)⟩
  all_goals contradiction

theorem failsWith_checkKey (key : Node) : FailsWith (Explains key) (checkKey key) := by
  refine (failsWith_shallow key).bind fun v _ => ?_
  split
  · exact .ok _
  · exact .error (Or.inl rfl)

/-- What is inside a node explains why the node has no value. -/
theorem FailsWith.of_within {α : Type} {m n : Node} {x : Except Error α}
    (fails : FailsWith (Explains m) x) (within : Within m n)
    : FailsWith (Explains n) x :=
  fails.mono fun _ explains => explains.of_within within

theorem Holds.failsWith_key {α : Type} {n : Node} {e : Node × Node} {x : Except Error α}
    (holds : Holds n e) (fails : FailsWith (Explains e.1) x)
    : FailsWith (Explains n) x := by
  obtain ⟨key, same, inside⟩ := holds.key
  rw [same] at fails
  exact fails.mono fun _ explains => explains.of_asKey.of_within inside.within

theorem failsWith_fillMap (tag : Tag) (entries : List (Node × Node))
    : FailsWith (Explains (.map tag entries)) (fill.fillMap entries) := by
  refine ((failsWith_allEntries entries).mono (.of_grammar _)).bind fun all merged => ?_
  have holds := holds_of_mem_allEntries merged tag
  refine FailsWith.bind (.forM fun e member => ?_) fun _ _ => .ok _
  refine ((holds e member).failsWith_key (failsWith_checkKey e.1)).bind fun _ _ => ?_
  exact (FailsWith.of_within (failsWith_shallow e.2) (holds e member).value.within).bind
    fun _ _ => .ok _

theorem inside_of_fillMap {tag : Tag} {entries : List (Node × Node)} {held : List Node}
    (filled : fill.fillMap entries = .ok held)
    : ∀ m ∈ held, Inside m (.map tag entries) := by
  obtain ⟨all, merged, filled⟩ := bind_eq_ok.mp filled
  obtain ⟨_, _, given⟩ := bind_eq_ok.mp filled
  cases given
  intro m member
  obtain ⟨e, listed, rfl⟩ := List.mem_map.mp member
  exact (holds_of_mem_allEntries merged tag e listed).value

theorem failsWith_fillPairs (tag : Tag) (items : List Node)
    : FailsWith (Explains (.sequence tag items)) (fill.fillPairs items) := by
  refine FailsWith.bind (.mapM fun n member => ?_) fun _ _ => .ok _
  have inside : Within n (.sequence tag items) := .single (.item member)
  split
  · rename_i inner key value
    have within {m : Node} (part : Part m (.map inner [(key, value)]))
        : Within m (.sequence tag items) := .head part inside
    refine (FailsWith.of_within (failsWith_shallow key) (within ?_)).bind fun _ _ => ?_
    · exact .key (e := (key, value)) List.mem_cons_self
    · refine (FailsWith.of_within (failsWith_shallow value) (within ?_)).bind fun _ _ => .ok _
      exact .value (e := (key, value)) List.mem_cons_self
  · exact .error (Or.inl rfl)

theorem inside_of_fillPairs {tag : Tag} {items held : List Node}
    (filled : fill.fillPairs items = .ok held)
    : ∀ m ∈ held, Inside m (.sequence tag items) := by
  obtain ⟨found, read, given⟩ := bind_eq_ok.mp filled
  cases given
  intro m member
  obtain ⟨pair, listed, inPair⟩ := List.mem_flatten.mp member
  obtain ⟨n, isItem, one⟩ := exists_mem_of_mapM_eq_ok read listed
  split at one
  · rename_i inner key value
    obtain ⟨_, _, one⟩ := bind_eq_ok.mp one
    obtain ⟨_, _, given⟩ := bind_eq_ok.mp one
    cases given
    have part : Part m (.map inner [(key, value)]) := by
      rcases List.mem_cons.mp inPair with rfl | isValue
      · exact .key (e := (m, value)) List.mem_cons_self
      · rw [List.mem_singleton.mp isValue]
        exact .value (e := (key, value)) List.mem_cons_self
    exact ⟨_, .single part, .item isItem⟩
  · contradiction

theorem failsWith_fill (n : Node) : FailsWith (Explains n) n.fill := by
  unfold fill
  split
  · rename_i tag items
    refine FailsWith.bind (.forM fun m member => ?_) fun _ _ => .ok _
    exact (FailsWith.of_within (failsWith_shallow m) (.single (.item member))).bind
      fun _ _ => .ok _
  · exact failsWith_fillPairs _ _
  · exact failsWith_fillPairs _ _
  · exact failsWith_fillMap _ _
  · exact failsWith_fillMap _ _
  · split
    · exact .error (Or.inl rfl)
    · exact .ok _
  · exact .ok _

theorem inside_of_fill {n : Node} {held : List Node} (filled : n.fill = .ok held)
    : ∀ m ∈ held, Inside m n := by
  unfold fill at filled
  split at filled
  · obtain ⟨_, _, given⟩ := bind_eq_ok.mp filled
    cases given
    exact fun m member => ⟨m, .refl, .item member⟩
  · exact inside_of_fillPairs filled
  · exact inside_of_fillPairs filled
  · exact inside_of_fillMap filled
  · exact inside_of_fillMap filled
  · split at filled
    · contradiction
    · cases filled
      exact nofun
  · cases filled
    exact nofun

theorem inside_of_levels {level : List Node} {levels : List (List Node)}
    (filled : level.mapM fill = .ok levels) {k : Node} (listed : k ∈ levels.flatten)
    : ∃ m ∈ level, Inside k m := by
  obtain ⟨held, isLevel, member⟩ := List.mem_flatten.mp listed
  obtain ⟨m, isNode, given⟩ := exists_mem_of_mapM_eq_ok filled isLevel
  exact ⟨m, isNode, inside_of_fill given k member⟩

/-- Every level is lower than the one before, so the levels end before they run out, by induction on
how many there may be. -/
theorem failsWith_fillLevels {n : Node} {fuel : Nat} {level : List Node} (enough : 0 < fuel)
    (within : ∀ m ∈ level, Within m n) (low : ∀ m ∈ level, m.height < fuel)
    : FailsWith (Explains n) (fillLevels fuel level) := by
  induction fuel generalizing level with
  | zero => contradiction
  | succ fuel ih =>
      rw [fillLevels]
      split
      · exact .ok _
      · rename_i nonempty
        refine FailsWith.bind (.mapM fun m member => ?_) fun levels filled => ih ?_ ?_ ?_
        · exact FailsWith.of_within (failsWith_fill m) (within m member)
        · obtain ⟨m, member⟩ := List.exists_mem_of_ne_nil level (by simpa using nonempty)
          have pos := m.height_pos
          have below := low m member
          omega
        · intro k listed
          obtain ⟨m, member, inside⟩ := inside_of_levels filled listed
          exact inside.within.trans (within m member)
        · intro k listed
          obtain ⟨m, member, inside⟩ := inside_of_levels filled listed
          have lower := inside.height_lt
          have below := low m member
          omega

theorem height_asKey (n : Node) : (asKey n).height = n.height := by
  unfold asKey
  split
  · rw [height, height]
  · rfl

/-- What holds one level of values is explained by a node if each of its entries is. -/
theorem failsWith_entryValues {fuel : Nat} {n : Node} {entries : List (Node × Node)}
    (each : ∀ e ∈ entries, FailsWith (Explains n) (valueWithin fuel e.1)
      ∧ FailsWith (Explains n) (valueWithin fuel e.2))
    : FailsWith (Explains n) (valueWithin.entryValues fuel entries) := by
  rw [valueWithin.entryValues]
  exact .mapM fun e member => (each e member).1.bind fun _ _ => (each e member).2.bind
    fun _ _ => .ok _

theorem inside_of_singleEntries {tag : Tag} {items : List Node} {found : List (Node × Node)}
    (read : singleEntries items = .ok found)
    : ∀ e ∈ found, Inside e.1 (.sequence tag items) ∧ Inside e.2 (.sequence tag items) := by
  intro e member
  obtain ⟨n, isItem, one⟩ := exists_mem_of_mapM_eq_ok read member
  split at one
  · cases one
    exact ⟨⟨_, .single (.key List.mem_cons_self), .item isItem⟩,
      ⟨_, .single (.value List.mem_cons_self), .item isItem⟩⟩
  · contradiction

theorem failsWith_pairs {fuel : Nat} {tag : Tag} {items : List Node}
    (each : ∀ m, Inside m (.sequence tag items)
      → FailsWith (Explains (.sequence tag items)) (valueWithin fuel m))
    : FailsWith (Explains (.sequence tag items)) (valueWithin.pairs fuel items) := by
  have single : FailsWith (Explains (.sequence tag items)) (singleEntries items) := by
    refine FailsWith.mapM fun n _ => ?_
    split
    · exact .ok _
    · exact .error (Or.inl rfl)
  rw [valueWithin.pairs]
  refine single.bind fun found read => (failsWith_entryValues fun e member => ?_).bind
    fun _ _ => .ok _
  obtain ⟨key, value⟩ := inside_of_singleEntries read e member
  exact ⟨each e.1 key, each e.2 value⟩

/-- A node is lower than the levels that it is given, so they do not run out, by induction on
them. -/
theorem failsWith_valueWithin {fuel : Nat} {n : Node} (enough : n.height ≤ fuel)
    : FailsWith (Explains n) (valueWithin fuel n) := by
  induction fuel generalizing n with
  | zero =>
      have pos := n.height_pos
      omega
  | succ fuel ih =>
      have below {m : Node} (inside : Inside m n)
          : FailsWith (Explains n) (valueWithin fuel m) := by
        have lower := inside.height_lt
        exact FailsWith.of_within (ih (by omega)) inside.within
      have held {e : Node × Node} (holds : Holds n e)
          : FailsWith (Explains n) (valueWithin fuel e.1)
            ∧ FailsWith (Explains n) (valueWithin fuel e.2) := by
        obtain ⟨key, same, inside⟩ := holds.key
        have lower := inside.height_lt
        have fails := ih (n := e.1) (by rw [same, height_asKey]; omega)
        exact ⟨holds.failsWith_key fails, below holds.value⟩
      unfold valueWithin
      split
      · exact (FailsWith.mapM fun m member => below ⟨m, .refl, .item member⟩).map _
      · exact failsWith_pairs fun m inside => below inside
      · exact failsWith_pairs fun m inside => below inside
      · refine ((failsWith_allEntries _).mono (.of_grammar _)).bind fun all merged => ?_
        refine (failsWith_entryValues fun e member => ?_).bind fun _ _ => .ok _
        exact held (holds_of_mem_allEntries merged _ e member)
      · refine ((failsWith_allEntries _).mono (.of_grammar _)).bind fun all merged => ?_
        refine (failsWith_entryValues fun e member => ?_).bind fun _ _ => .ok _
        exact held (holds_of_mem_allEntries merged _ e member)
      · exact failsWith_shallow _

/-- A node without a value breaks the grammar, or a node within it does not fit its tag. -/
theorem failsWith_toValue (n : Node) : FailsWith (Explains n) n.toValue := by
  have pos := n.height_pos
  have filled : FailsWith (Explains n) (fillLevels (n.height + 2) [n]) := by
    refine failsWith_fillLevels (by omega) (fun m member => ?_) fun m member => ?_
    · rw [List.mem_singleton.mp member]
      exact .refl
    · rw [List.mem_singleton.mp member]
      omega
  exact filled.bind fun _ _ => failsWith_valueWithin (by omega)

end Node

end Dispatch.Yaml
