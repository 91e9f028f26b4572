import Dispatch.Proofs.Template
import Dispatch.Proofs.Text.Cut

/-! How a text is filled in, told without the pieces that it is read as. Its first placeholder
divides it: what stands before is copied, the value of the variable comes in its place, and only
what follows is searched for the next one. What the variables hold is never searched.
-/

namespace Dispatch.Template

open Dispatch.Result

variable {env : Environment}

/-- A text has a placeholder for this name between these two parts. -/
structure Occurs (t before name after : Text) : Prop where
  split : t = before ++ CodePoint.ofChar '$' :: CodePoint.ofChar '\x7b'
    :: (name ++ CodePoint.ofChar '\x7d' :: after)
  named : name ≠ []
  closed : CodePoint.ofChar '\x7d' ∉ name

/-- The placeholder of a text that no other one starts before. -/
structure Leftmost (t before name after : Text) : Prop extends Occurs t before name after where
  first : ∀ b n a, Occurs t b n a → before.length ≤ b.length

/-- A text without placeholders. -/
def Plain (t : Text) : Prop :=
  ∀ before name after, ¬Occurs t before name after

/-- A text and what becomes of it, placeholder by placeholder. -/
inductive Expands (env : Environment) : Text → Text → Prop
  | plain {t : Text} (plain : Plain t) : Expands env t t
  | next {t before name after value rest : Text} (leftmost : Leftmost t before name after)
    (set : env.get? name = .ok (some value)) (expands : Expands env after rest)
    : Expands env t (before ++ value ++ rest)

/-- The names that texts ask for, in the order in which they come. -/
inductive Asks : List Text → List Text → Prop
  | nil : Asks [] []
  | plain {t : Text} {ts names : List Text} (plain : Plain t) (asks : Asks ts names)
    : Asks (t :: ts) names
  | next {t before name after : Text} {ts names : List Text}
    (leftmost : Leftmost t before name after) (asks : Asks (after :: ts) names)
    : Asks (t :: ts) (name :: names)

-----------------------------------------------------------------------------------------
-- Placeholders at the start of a text
-----------------------------------------------------------------------------------------

/-- A name in braces is cut off at the first closing brace. -/
theorem bracedName?_eq_some {t name after : Text}
    : bracedName? t = some (name, after)
      ↔ Text.cut (CodePoint.ofChar '\x7d') t = (name, some after) ∧ name ≠ [] := by
  have whole : t = t.takeWhile (fun c => c != CodePoint.ofChar '\x7d')
      ++ t.dropWhile (fun c => c != CodePoint.ofChar '\x7d') :=
    List.takeWhile_append_dropWhile.symm
  have dropped : t.drop (t.takeWhile (fun c => c != CodePoint.ofChar '\x7d')).length
      = t.dropWhile (fun c => c != CodePoint.ofChar '\x7d') :=
    (congrArg (List.drop _) whole).trans List.drop_left
  simp only [bracedName?, Text.cut, dropped]
  cases t.dropWhile (fun c => c != CodePoint.ofChar '\x7d') with
  | nil => simp
  | cons c tail =>
      simp only [List.isEmpty_iff, Option.ite_none_left_eq_some, Option.some.injEq, List.tail?_cons,
        Prod.mk.injEq]
      constructor
      · rintro ⟨named, rfl, rfl⟩
        exact ⟨⟨rfl, rfl⟩, named⟩
      · rintro ⟨⟨rfl, rfl⟩, named⟩
        exact ⟨named, rfl, rfl⟩

theorem occurs_nil {t name after : Text}
    : Occurs t [] name after
      ↔ ∃ inner, t = CodePoint.ofChar '$' :: CodePoint.ofChar '\x7b' :: inner
        ∧ Text.cut (CodePoint.ofChar '\x7d') inner = (name, some after) ∧ name ≠ [] := by
  constructor
  · rintro ⟨split, named, closed⟩
    exact ⟨_, split, Text.cut_append_marked closed (some after), named⟩
  · rintro ⟨inner, rfl, cut, named⟩
    have whole := Text.cut_append (CodePoint.ofChar '\x7d') inner
    have closed := Text.not_mem_cut (CodePoint.ofChar '\x7d') inner
    rw [cut] at whole closed
    exact ⟨by rw [← whole]; rfl, named, closed⟩

theorem placeholder?_eq_some {t name after : Text}
    : placeholder? t = some (name, after) ↔ Occurs t [] name after := by
  rw [occurs_nil]
  constructor
  · intro found
    match t, found with
    | dollar :: brace :: inner, found =>
        simp only [placeholder?, Bool.and_eq_true, decide_eq_true_eq] at found
        split at found
        · rename_i opened
          exact ⟨inner, by rw [opened.1, opened.2], bracedName?_eq_some.mp found⟩
        · contradiction
  · rintro ⟨inner, rfl, cut⟩
    simpa [placeholder?] using bracedName?_eq_some.mpr cut

/-- A placeholder that does not start a text is one of what follows the first code point. -/
theorem occurs_cons {c : CodePoint} {t before name after : Text}
    : Occurs (c :: t) (c :: before) name after ↔ Occurs t before name after :=
  ⟨fun ⟨split, named, closed⟩ => ⟨(List.cons.inj split).2, named, closed⟩,
    fun ⟨split, named, closed⟩ => ⟨congrArg (List.cons c) split, named, closed⟩⟩

theorem Occurs.cases {c : CodePoint} {t before name after : Text}
    (occurs : Occurs (c :: t) before name after)
    : before = [] ∨ ∃ rest, before = c :: rest ∧ Occurs t rest name after := by
  cases before with
  | nil => exact Or.inl rfl
  | cons d rest =>
      obtain ⟨rfl, _⟩ := List.cons.inj occurs.split
      exact Or.inr ⟨rest, rfl, occurs_cons.mp occurs⟩

theorem plain_nil : Plain [] := by
  rintro before name after ⟨split, _, _⟩
  simp at split

theorem leftmost_of_occurs_nil {t name after : Text} (occurs : Occurs t [] name after)
    : Leftmost t [] name after :=
  ⟨occurs, fun _ _ _ _ => Nat.zero_le _⟩

variable {c : CodePoint} {t : Text}

theorem Leftmost.cons {before name after : Text} (none : placeholder? (c :: t) = none)
    (leftmost : Leftmost t before name after)
    : Leftmost (c :: t) (c :: before) name after := by
  refine ⟨occurs_cons.mpr leftmost.toOccurs, fun b n a occurs => ?_⟩
  rcases occurs.cases with rfl | ⟨b, rfl, later⟩
  · rw [placeholder?_eq_some.mpr occurs] at none
    contradiction
  · exact Nat.succ_le_succ (leftmost.first b n a later)

theorem Leftmost.tail {before name after : Text}
    (leftmost : Leftmost (c :: t) (c :: before) name after)
    : Leftmost t before name after :=
  ⟨occurs_cons.mp leftmost.toOccurs, fun b n a occurs =>
    Nat.le_of_succ_le_succ (leftmost.first (c :: b) n a (occurs_cons.mpr occurs))⟩

theorem Plain.cons (none : placeholder? (c :: t) = none) (plain : Plain t) : Plain (c :: t) := by
  intro before name after occurs
  rcases occurs.cases with rfl | ⟨rest, rfl, later⟩
  · rw [placeholder?_eq_some.mpr occurs] at none
    contradiction
  · exact plain rest name after later

theorem Plain.tail (plain : Plain (c :: t)) : Plain t :=
  fun before name after occurs => plain (c :: before) name after (occurs_cons.mpr occurs)

theorem Plain.placeholder? (plain : Plain t) : placeholder? t = none := by
  cases found : Template.placeholder? t with
  | none => rfl
  | some p => exact absurd (placeholder?_eq_some.mp found) (plain [] p.1 p.2)

/-- A text has a first placeholder or none, by induction on the text. -/
theorem plain_or_leftmost (t : Text)
    : Plain t ∨ ∃ before name after, Leftmost t before name after := by
  induction t with
  | nil => exact Or.inl plain_nil
  | cons c t ih =>
      cases found : Template.placeholder? (c :: t) with
      | some p =>
          exact Or.inr ⟨[], p.1, p.2, leftmost_of_occurs_nil (placeholder?_eq_some.mp found)⟩
      | none =>
          rcases ih with plain | ⟨before, name, after, leftmost⟩
          · exact Or.inl (plain.cons found)
          · exact Or.inr ⟨c :: before, name, after, leftmost.cons found⟩

theorem Occurs.length_lt {before name after : Text} (occurs : Occurs t before name after)
    : after.length < t.length := by
  have size := congrArg List.length occurs.split
  simp at size
  omega

/-- Induction from one placeholder to the next: what holds of texts without any, and of a text if it
holds of what follows its first one, holds of every text. -/
@[elab_as_elim]
theorem placeholderInduction {motive : Text → Prop} (plain : ∀ t, Plain t → motive t)
    (next : ∀ t before name after, Leftmost t before name after → motive after → motive t)
    (t : Text)
    : motive t := by
  induction size : t.length using Nat.strong_induction_on generalizing t with
  | _ n ih =>
    rcases plain_or_leftmost t with none | ⟨before, name, after, leftmost⟩
    · exact plain t none
    · exact next t before name after leftmost (ih _ (size ▸ leftmost.length_lt) after rfl)

-----------------------------------------------------------------------------------------
-- The pieces of a text
-----------------------------------------------------------------------------------------

theorem readPieces_of_placeholder {name after : Text} (found : placeholder? t = some (name, after))
    (done : List Piece)
    : readPieces t done = readPieces after (.variable name :: done) := by
  rw [readPieces]
  split
  · rename_i other rest same
    rw [found] at same
    obtain ⟨rfl, rfl⟩ := Prod.mk.inj (Option.some.inj same)
    rfl
  · rename_i none
    rw [found] at none
    contradiction

theorem readPieces_cons (none : placeholder? (c :: t) = none) (done : List Piece)
    : readPieces (c :: t) done = readPieces t (.literal c :: done) := by
  rw [readPieces]
  split
  · rename_i found
    rw [none] at found
    contradiction
  · rfl

/-- What was read before stands in front and changes nothing else. -/
theorem readPieces_append (t : Text) (done before : List Piece)
    : readPieces t (done ++ before) = before.reverse ++ readPieces t done := by
  fun_induction readPieces t done with
  | case1 t done name rest found ih => rw [readPieces_of_placeholder found, ← ih, List.cons_append]
  | case2 done none => simp [readPieces, placeholder?]
  | case3 done c rest none ih => rw [readPieces_cons none, ← ih, List.cons_append]

theorem pieces_nil : pieces [] = [] := by
  simp [pieces, readPieces, placeholder?]

theorem pieces_of_placeholder {name after : Text} (found : placeholder? t = some (name, after))
    : pieces t = .variable name :: pieces after := by
  rw [pieces, readPieces_of_placeholder found]
  exact readPieces_append after [] [.variable name]

theorem pieces_cons (none : placeholder? (c :: t) = none)
    : pieces (c :: t) = .literal c :: pieces t := by
  rw [pieces, readPieces_cons none]
  exact readPieces_append t [] [.literal c]

/-- A text without placeholders stands for itself, by induction on the text. -/
theorem Plain.pieces_eq (plain : Plain t) : pieces t = t.map .literal := by
  induction t with
  | nil => exact pieces_nil
  | cons c t ih => rw [pieces_cons plain.placeholder?, ih plain.tail, List.map_cons]

/-- The first placeholder divides the pieces as it divides the text, by induction on what stands
before it. -/
theorem Leftmost.pieces_eq {before name after : Text} (leftmost : Leftmost t before name after)
    : pieces t = before.map .literal ++ .variable name :: pieces after := by
  induction before generalizing t with
  | nil => exact pieces_of_placeholder (placeholder?_eq_some.mpr leftmost.toOccurs)
  | cons c before ih =>
      obtain ⟨rest, rfl⟩ : ∃ rest, t = c :: rest := ⟨_, leftmost.split⟩
      have none : placeholder? (c :: rest) = none := by
        cases found : placeholder? (c :: rest) with
        | none => rfl
        | some p =>
            have earlier := leftmost.first [] p.1 p.2 (placeholder?_eq_some.mp found)
            simp at earlier
      rw [pieces_cons none, ih leftmost.tail, List.map_cons, List.cons_append]

-----------------------------------------------------------------------------------------
-- Filling in, placeholder by placeholder
-----------------------------------------------------------------------------------------

/-- What a variable stands for. -/
def lookUp (env : Environment) (name : Text) : Except Failure Text :=
  fillPiece env (.variable name)

theorem lookUp_eq_ok {name value : Text}
    : lookUp env name = .ok value ↔ env.get? name = .ok (some value) := by
  rw [lookUp, fillPiece]
  split <;> simp_all

theorem mapM_fillPiece_literal (t : Text)
    : (t.map Piece.literal).mapM (fillPiece env) = .ok (t.map fun c => [c]) := by
  rw [mapM_eq_ok_iff, List.forall₂_map_left_iff, List.forall₂_map_right_iff, List.forall₂_same]
  exact fun _ _ => rfl

theorem flatten_literals (t : Text) : (t.map fun c => [c]).flatten = t := by
  rw [← List.flatMap_def, List.flatMap_singleton']

theorem Plain.fill_eq (plain : Plain t) : fill env t = .ok t := by
  rw [fill, plain.pieces_eq, mapM_fillPiece_literal, map_ok, flatten_literals]

/-- The first placeholder is filled in, then what follows. -/
theorem Leftmost.fill_eq {before name after : Text} (leftmost : Leftmost t before name after)
    : fill env t
      = lookUp env name >>= fun value =>
          (fill env after).map fun rest => before ++ value ++ rest := by
  rw [fill, leftmost.pieces_eq, List.mapM_append, mapM_fillPiece_literal, ok_bind, List.mapM_cons]
  rw [fill, lookUp]
  cases fillPiece env (.variable name) with
  | error e => rfl
  | ok value =>
      cases (pieces after).mapM (fillPiece env) with
      | error e => rfl
      | ok filled => simp [flatten_literals]

/-- A text is filled in exactly as its placeholders expand. -/
theorem fill_eq_ok {t s : Text} : fill env t = .ok s ↔ Expands env t s := by
  constructor
  · intro filled
    induction t using placeholderInduction generalizing s with
    | plain t plain =>
        rw [plain.fill_eq] at filled
        cases filled
        exact .plain plain
    | next t before name after leftmost ih =>
        rw [leftmost.fill_eq, bind_eq_ok] at filled
        obtain ⟨value, found, filled⟩ := filled
        obtain ⟨rest, later, rfl⟩ := map_eq_ok.mp filled
        exact .next leftmost (lookUp_eq_ok.mp found) (ih later)
  · intro expands
    induction expands with
    | plain plain => exact plain.fill_eq
    | next leftmost set _ ih =>
        rw [leftmost.fill_eq, lookUp_eq_ok.mpr set, ok_bind, ih, map_ok]

/-- Texts stop being filled in where the first of their names does, by induction on the names. -/
theorem Asks.errorOf?_eq {ts names : List Text} (asks : Asks ts names)
    : ts.findSome? (fun t => errorOf? (fill env t))
      = names.findSome? (fun name => errorOf? (lookUp env name)) := by
  induction asks with
  | nil => rfl
  | plain plain _ ih => rw [List.findSome?_cons, plain.fill_eq, errorOf?_ok, ih]
  | @next t before name after ts names leftmost asks ih =>
      rw [List.findSome?_cons] at ih
      rw [List.findSome?_cons, List.findSome?_cons, leftmost.fill_eq, ← ih]
      cases lookUp env name with
      | error e => rfl
      | ok value => cases fill env after <;> rfl

/-- A text stops at a name that it asks for, by induction on the names. -/
theorem Asks.exists_lookUp_eq_error {ts names : List Text} (asks : Asks ts names) {t : Text}
    (member : t ∈ ts) {e : Failure} (failed : fill env t = .error e)
    : ∃ name ∈ names, lookUp env name = .error e := by
  induction asks generalizing t with
  | nil => contradiction
  | plain plain _ ih =>
      rcases List.mem_cons.mp member with rfl | later
      · rw [plain.fill_eq] at failed
        contradiction
      · exact ih later failed
  | @next t before name after ts names leftmost asks ih =>
      have later (found : ∃ n ∈ names, lookUp env n = .error e)
          : ∃ n ∈ name :: names, lookUp env n = .error e :=
        found.imp fun n given => ⟨List.mem_cons_of_mem name given.1, given.2⟩
      rcases List.mem_cons.mp member with rfl | other
      · rw [leftmost.fill_eq] at failed
        rcases bind_eq_error.mp failed with unfilled | ⟨value, _, failed⟩
        · exact ⟨name, List.mem_cons_self, unfilled⟩
        · exact later (ih List.mem_cons_self (map_eq_error.mp failed))
      · exact later (ih (List.mem_cons_of_mem after other) failed)

theorem exists_asks (ts : List Text) : ∃ names, Asks ts names := by
  induction ts with
  | nil => exact ⟨[], .nil⟩
  | cons t ts ih =>
      induction t using placeholderInduction with
      | plain t plain => exact ih.imp fun names asks => .plain plain asks
      | next t before name after leftmost ih =>
          obtain ⟨names, asks⟩ := ih
          exact ⟨name :: names, .next leftmost asks⟩

end Dispatch.Template
