import Dispatch.Proofs.Result
import Dispatch.Yaml.Layout

/-! Why a text ends in a failure. It breaks the grammar, an escape between quotes is the number of
no code point, or a version has too many digits.
-/

namespace Dispatch.Yaml

open Dispatch.Result

/-- What keeps a text from being divided into tokens. -/
inductive Undivided : Error → Prop
  | grammar : Undivided .grammar
  | codePoint : Undivided (.scalar .codePoint)
  | codePointRange : Undivided (.scalar .codePointRange)
  | version {count : Nat} (long : Text.maxDigits < count)
    : Undivided (.scalar (.integerDigits count))

/-- A refusal by the grammar. -/
theorem failsWith_grammar {α : Type} : FailsWith Undivided (.error .grammar : Except Error α) :=
  .error .grammar

-----------------------------------------------------------------------------------------
-- What stands beside nodes
-----------------------------------------------------------------------------------------

namespace Property

theorem failsWith_anchorName (c : Cursor) : FailsWith Undivided (anchorName c) :=
  .ite failsWith_grammar (.ok _)

theorem failsWith_escapedBytes (fuel : Nat) (c : Cursor) (done : Bytes)
    : FailsWith Undivided (escapedBytes fuel c done) := by
  induction fuel generalizing c done with
  | zero => exact failsWith_grammar
  | succ fuel ih =>
      refine .ite (.ok _) ?_
      split
      · exact .ite (ih _ _) failsWith_grammar
      · exact failsWith_grammar

theorem failsWith_tagText (fuel : Nat) (c : Cursor) (done : Text)
    : FailsWith Undivided (tagText fuel c done) := by
  induction fuel generalizing c done with
  | zero => exact failsWith_grammar
  | succ fuel ih =>
      refine .ite ((failsWith_escapedBytes _ _ _).bind fun (bytes, after) _ => ?_)
        (.ite (ih _ _) (.ok _))
      dsimp only
      split
      · exact ih _ _
      · exact failsWith_grammar

theorem failsWith_tagSuffix (c : Cursor) : FailsWith Undivided (tagSuffix c) :=
  .ite (failsWith_tagText _ _ _) failsWith_grammar

theorem failsWith_tagHandle (c : Cursor) : FailsWith Undivided (tagHandle c) :=
  .ite failsWith_grammar (.ite (.ok _) (.ite (.ok _) failsWith_grammar))

theorem failsWith_tag (c : Cursor) : FailsWith Undivided (tag c) := by
  have given {x : Except Error (Token × Cursor)} (fails : FailsWith Undivided x)
      : FailsWith Undivided (x >>= fun found =>
        if endsField found.2.head? then .ok found else .error .grammar) :=
    fails.bind fun _ _ => .ite (.ok _) failsWith_grammar
  refine FailsWith.ite ?_ (.ite (given (.ok _)) (.ite ?_ ?_))
  · exact (failsWith_tagSuffix _).bind fun _ _ => .ite (given (.ok _)) (given failsWith_grammar)
  · exact (failsWith_tagHandle _).bind fun _ _ =>
      (failsWith_tagSuffix _).bind fun _ _ => given (.ok _)
  · exact (failsWith_tagSuffix _).bind fun _ _ => given (.ok _)

theorem eq_tag_of_tag {c after : Cursor} {t : Token} (read : tag c = .ok (t, after))
    : ∃ handle suffix, t = .tag handle suffix := by
  have last {handle : Option Text} {suffix : Text} {c : Cursor}
      (read : (if endsField c.head? then Except.ok (Token.tag handle suffix, c)
          else Except.error Error.grammar) = .ok (t, after))
      : ∃ handle suffix, t = .tag handle suffix := by
    split at read
    · cases read
      exact ⟨handle, suffix, rfl⟩
    · contradiction
  unfold tag at read
  split at read
  · obtain ⟨_, _, read⟩ := bind_eq_ok.mp read
    dsimp only at read
    split at read
    · exact last read
    · contradiction
  · split at read
    · exact last read
    · split at read
      · obtain ⟨_, _, read⟩ := bind_eq_ok.mp read
        obtain ⟨_, _, read⟩ := bind_eq_ok.mp read
        exact last read
      · obtain ⟨_, _, read⟩ := bind_eq_ok.mp read
        exact last read

theorem failsWith_number (c : Cursor) : FailsWith Undivided (number c) := by
  unfold number
  dsimp only
  split
  · split
    · exact .error (.version (by assumption))
    · exact .ok _
  · exact failsWith_grammar

theorem failsWith_versionDirective (c : Cursor) : FailsWith Undivided (versionDirective c) :=
  (failsWith_number _).bind fun _ _ =>
    .ite failsWith_grammar ((failsWith_number _).bind fun _ _ =>
      .ite (.ok _) failsWith_grammar)

theorem failsWith_handleDirective (c : Cursor) : FailsWith Undivided (handleDirective c) :=
  (failsWith_tagHandle _).bind fun _ _ =>
    .ite failsWith_grammar ((failsWith_tagSuffix _).bind fun _ _ =>
      .ite (.ok _) failsWith_grammar)

theorem failsWith_directive (c : Cursor) : FailsWith Undivided (directive c) := by
  have given {x : Except Error (Directive × Cursor)} (fails : FailsWith Undivided x)
      : FailsWith Undivided (x >>= fun found =>
        if endsLine found.2.skipComment.head? then .ok (found.1, found.2.skipComment.skipBreak)
        else .error .grammar) :=
    fails.bind fun _ _ => .ite (.ok _) failsWith_grammar
  exact .ite failsWith_grammar (.ite (given (failsWith_versionDirective _))
    (.ite (given (failsWith_handleDirective _)) (given (.ok _))))

end Property

-----------------------------------------------------------------------------------------
-- Scalars
-----------------------------------------------------------------------------------------

namespace Block

theorem failsWith_indentationOf (c : Cursor) : FailsWith Undivided (indentationOf c) := by
  unfold indentationOf
  split
  · exact .ite (.ok _) (.ite failsWith_grammar (.ok _))
  · exact .ok _

theorem failsWith_header (c : Cursor) : FailsWith Undivided (header c) := by
  refine (failsWith_indentationOf _).bind fun indentation _ => ?_
  exact .ite failsWith_grammar (.ite failsWith_grammar (.ok _))

theorem failsWith_scan (folded : Bool) (parent : Int) (c : Cursor)
    : FailsWith Undivided (scan folded parent c) := by
  refine (failsWith_header _).bind fun _ _ => ?_
  exact .ite (.ok _) (.ok _)

end Block

namespace Quoted

theorem failsWith_codePoint (digits : Text) : FailsWith Undivided (codePoint digits) := by
  unfold codePoint
  dsimp only
  split
  · exact .ok _
  · split
    · exact .error .codePoint
    · exact .error .codePointRange

theorem failsWith_breaks (fuel : Nat) (c : Cursor) (done : Text)
    : FailsWith Undivided (breaks fuel c done) := by
  induction fuel generalizing c done with
  | zero => exact failsWith_grammar
  | succ fuel ih =>
      refine .ite failsWith_grammar ?_
      dsimp only
      split
      · exact ih _ _
      · exact .ok _

theorem failsWith_blankLines (c : Cursor) : FailsWith Undivided (blankLines c) :=
  failsWith_breaks _ _ _

theorem failsWith_escape (c : Cursor) : FailsWith Undivided (escape c) := by
  unfold escape
  split
  · exact failsWith_grammar
  · split
    · exact .ok _
    · exact .ite ((failsWith_codePoint _).map _) failsWith_grammar
    · split
      · exact failsWith_blankLines _
      · exact failsWith_grammar

theorem failsWith_gap (c : Cursor) : FailsWith Undivided (gap c) := by
  unfold gap
  dsimp only
  split
  · exact (failsWith_blankLines _).map _
  · exact .ite failsWith_grammar (.ok _)

theorem failsWith_piece (double : Bool) (a : CodePoint) (c : Cursor)
    : FailsWith Undivided (piece double a c) :=
  .ite (.ok _) (.ite (failsWith_gap _) (.ite (failsWith_escape _) (.ite (.ok _) (.ok _))))

theorem failsWith_pieces (double : Bool) (fuel : Nat) (c : Cursor) (done : List Text)
    : FailsWith Undivided (pieces double fuel c done) := by
  induction fuel generalizing c done with
  | zero => exact failsWith_grammar
  | succ fuel ih =>
      refine .ite (.ok _) ?_
      split
      · exact failsWith_grammar
      · exact (failsWith_piece _ _ _).bind fun _ _ => ih _ _

theorem failsWith_scan (double : Bool) (c : Cursor) : FailsWith Undivided (scan double c) :=
  failsWith_pieces _ _ _ _

end Quoted

-----------------------------------------------------------------------------------------
-- Tokens that are read hold no failure
-----------------------------------------------------------------------------------------

namespace Layout

/-- No token so far is a failure. -/
def Clean (l : Layout) : Prop :=
  ∀ e, Token.failure e ∉ l.done

/-- Tokens go on without a failure, or the text is not divided. -/
def Scans (x : Except Error Layout) : Prop :=
  FailsWith Undivided x ∧ ∀ l, x = .ok l → Clean l

variable {l : Layout}

theorem Clean.emit (clean : Clean l) (t : Token) (other : ∀ e, t ≠ .failure e)
    : Clean (l.emit t) := by
  intro e member
  rcases List.mem_cons.mp member with same | before
  · exact other e same.symm
  · exact clean e before

theorem Clean.insert (clean : Clean l) (number : Nat) (t : Token)
    (other : ∀ e, t ≠ .failure e)
    : Clean (l.insert number t) := by
  intro e member
  rcases List.mem_append.mp member with before | rest
  · exact clean e (List.mem_of_mem_take before)
  · rcases List.mem_cons.mp rest with same | after
    · exact other e same.symm
    · exact clean e (List.mem_of_mem_drop after)

theorem mem_closeBlocks {column indentation : Int} {outer : List Int} {ends : List Token}
    {t : Token} (member : t ∈ (closeBlocks column outer indentation ends).2.2)
    : t = .blockEnd ∨ t ∈ ends := by
  induction outer generalizing indentation ends with
  | nil => exact Or.inr member
  | cons next outer ih =>
      rw [closeBlocks] at member
      split at member
      · rcases ih member with isEnd | before
        · exact Or.inl isEnd
        · exact List.mem_cons.mp before
      · exact Or.inr member

theorem Clean.closeTo (clean : Clean l) (column : Int) : Clean (l.closeTo column) := by
  rw [Layout.closeTo]
  split
  · exact clean
  · intro e member
    rcases List.mem_append.mp member with isEnd | before
    · rcases mem_closeBlocks isEnd with same | impossible
      · contradiction
      · contradiction
    · exact clean e before

theorem Scans.ok (clean : Clean l) : Scans (.ok l) := by
  refine ⟨.ok _, fun m same => ?_⟩
  rw [← Except.ok.inj same]
  exact clean

theorem scans_grammar : Scans (.error .grammar) :=
  ⟨failsWith_grammar, nofun⟩

theorem Scans.ite {c : Prop} [Decidable c] {x y : Except Error Layout} (yes : Scans x)
    (no : Scans y)
    : Scans (if c then x else y) := by
  split
  · exact yes
  · exact no

theorem Scans.bind {x : Except Error Layout} {f : Layout → Except Error Layout} (first : Scans x)
    (next : ∀ m, Clean m → Scans (f m))
    : Scans (x >>= f) := by
  refine ⟨first.1.bind fun m done => (next m (first.2 m done)).1, fun n done => ?_⟩
  obtain ⟨m, before, after⟩ := bind_eq_ok.mp done
  exact (next m (first.2 m before)).2 n after

/-- Something else is read first. -/
theorem scans_bind {α : Type} {x : Except Error α} {f : α → Except Error Layout}
    (first : FailsWith Undivided x) (next : ∀ a, x = .ok a → Scans (f a))
    : Scans (x >>= f) := by
  refine ⟨first.bind fun a done => (next a done).1, fun n done => ?_⟩
  obtain ⟨a, before, after⟩ := bind_eq_ok.mp done
  exact (next a before).2 n after

theorem scans_dropKey (clean : Clean l) : Scans l.dropKey :=
  .ite scans_grammar (.ok clean)

theorem scans_saveKey (clean : Clean l) : Scans l.saveKey :=
  .ite ((scans_dropKey clean).bind fun _ kept => .ok kept) (.ok clean)

theorem scans_dropStale (clean : Clean l) : Scans l.dropStale :=
  .ite scans_grammar (.ok clean)

theorem scans_openBlock (clean : Clean l) (t : Token) (other : ∀ e, t ≠ .failure e)
    : Scans (l.openBlock t) :=
  .ite (.ok clean) (.ite scans_grammar (.ite (.ok (Clean.emit clean t other)) (.ok clean)))

theorem scans_toToken (clean : Clean l) : Scans l.toToken := by
  refine Scans.bind (scans_dropStale ?_) fun m kept => .ok (Clean.closeTo kept _)
  exact clean

theorem scans_finish (clean : Clean l) : Scans l.finish :=
  (scans_dropKey (clean.closeTo _)).bind fun _ kept => .ok (kept.emit .streamEnd nofun)

theorem scans_directive (clean : Clean l) : Scans l.directive :=
  (scans_dropKey (clean.closeTo _)).bind fun _ kept =>
    scans_bind (Property.failsWith_directive _) fun (found, _) _ =>
      .ok (Clean.emit kept (.directive found) nofun)

theorem scans_separator (clean : Clean l) (t : Token) (other : ∀ e, t ≠ .failure e)
    : Scans (l.separator t) :=
  (scans_dropKey (clean.closeTo _)).bind fun _ kept => .ok (Clean.emit kept t other)

theorem scans_openBracket (clean : Clean l) (t : Token) (other : ∀ e, t ≠ .failure e)
    : Scans (l.openBracket t) :=
  (scans_saveKey clean).bind fun _ kept => .ok (Clean.emit kept t other)

theorem scans_closeBracket (clean : Clean l) (t : Token) (other : ∀ e, t ≠ .failure e)
    : Scans (l.closeBracket t) :=
  (scans_dropKey clean).bind fun _ kept => .ok (Clean.emit kept t other)

theorem scans_flowEntry (clean : Clean l) : Scans l.flowEntry := by
  refine Scans.bind (scans_dropKey ?_) fun _ kept => .ok (Clean.emit kept .flowEntry nofun)
  exact clean

/-- A block opens if need be, and its token follows. -/
theorem scans_opened (clean : Clean l) (start t : Token) (starts : ∀ e, start ≠ .failure e)
    (other : ∀ e, t ≠ .failure e) (allowed : Layout → Bool)
    : Scans (do
      let l ← l.openBlock start
      let l ← { l with keyAllowed := allowed l }.dropKey
      return (l.forward 1).emit t) := by
  refine (scans_openBlock clean start starts).bind fun _ opened => ?_
  refine Scans.bind (scans_dropKey ?_) fun _ kept => .ok (Clean.emit kept t other)
  exact opened

theorem scans_blockEntry (clean : Clean l) : Scans l.blockEntry :=
  scans_opened clean .sequenceStart .entry nofun nofun fun _ => true

theorem scans_markedKey (clean : Clean l) : Scans l.markedKey :=
  scans_opened clean .mapStart .key nofun nofun fun l => !l.inFlow

theorem scans_value (clean : Clean l) : Scans l.value := by
  unfold value
  split
  · rename_i key _
    have marked : Clean ((l.setKey none).insert key.number .key) := Clean.insert clean _ .key nofun
    dsimp only
    split
    · exact .ok (Clean.emit (Clean.insert marked key.number .mapStart nofun) .value nofun)
    · exact .ok (Clean.emit marked .value nofun)
  · exact scans_opened clean .mapStart .value nofun nofun fun l => !l.inFlow

theorem scans_startingKey (clean : Clean l) {scan : Cursor → Except Error (Token × Cursor)}
    (fails : ∀ c, FailsWith Undivided (scan c))
    (other : ∀ c t after, scan c = .ok (t, after) → ∀ e, t ≠ .failure e)
    : Scans (l.startingKey scan) :=
  (scans_saveKey clean).bind fun _ kept =>
    scans_bind (fails _) fun (t, after) read => .ok (Clean.emit kept t (other _ t after read))

theorem scans_blockScalar (clean : Clean l) (folded : Bool) : Scans (l.blockScalar folded) := by
  refine Scans.bind (scans_dropKey ?_) fun _ kept =>
    scans_bind (Block.failsWith_scan _ _ _) fun (content, _) _ =>
      .ok (Clean.emit kept (.scalar content false) nofun)
  exact clean

theorem scans_plainScalar (clean : Clean l) : Scans l.plainScalar :=
  (scans_saveKey clean).bind fun _ kept => .ok (Clean.emit kept (.scalar _ true) nofun)

theorem scans_name (clean : Clean l) (make : Text → Token)
    (other : ∀ name e, make name ≠ .failure e)
    : Scans (l.startingKey (nameToken make)) := by
  refine scans_startingKey clean (fun c => (Property.failsWith_anchorName c).map _) ?_
  intro c t after read
  obtain ⟨⟨name, _⟩, _, given⟩ := map_eq_ok.mp read
  cases given
  exact other name

theorem scans_quoted (clean : Clean l) (double : Bool)
    : Scans (l.startingKey (quotedToken double)) := by
  refine scans_startingKey clean (fun c => (Quoted.failsWith_scan double c).map _) ?_
  intro c t after read
  obtain ⟨⟨content, _⟩, _, given⟩ := map_eq_ok.mp read
  cases given
  exact nofun

theorem scans_tag (clean : Clean l) : Scans (l.startingKey Property.tag) := by
  refine scans_startingKey clean Property.failsWith_tag ?_
  intro c t after read
  obtain ⟨handle, suffix, rfl⟩ := Property.eq_tag_of_tag read
  exact nofun

theorem scans_token (clean : Clean l) (a : CodePoint) : Scans (l.token a) := by
  unfold token
  dsimp only
  refine .ite (scans_directive clean) (.ite (scans_separator clean .documentStart nofun) ?_)
  refine .ite (scans_separator clean .documentEnd nofun) ?_
  refine .ite (scans_openBracket clean .flowSequenceStart nofun) ?_
  refine .ite (scans_openBracket clean .flowMapStart nofun) ?_
  refine .ite (scans_closeBracket clean .flowSequenceEnd nofun) ?_
  refine .ite (scans_closeBracket clean .flowMapEnd nofun) ?_
  refine .ite (scans_flowEntry clean) (.ite (scans_blockEntry clean) ?_)
  refine .ite (scans_markedKey clean) (.ite (scans_value clean) ?_)
  refine .ite (scans_name clean .alias nofun) (.ite (scans_name clean .anchor nofun) ?_)
  refine .ite (scans_tag clean) ?_
  refine .ite (scans_blockScalar clean false) (.ite (scans_blockScalar clean true) ?_)
  refine .ite (scans_quoted clean false) (.ite (scans_quoted clean true) ?_)
  exact .ite (scans_plainScalar clean) scans_grammar

/-- The only failure among tokens that stop at one is this one. -/
theorem undivided_of_failed (clean : Clean l) {e f : Error} (undivided : Undivided e)
    (member : Token.failure f ∈ l.failed e)
    : Undivided f := by
  rcases List.mem_append.mp member with before | last
  · exact absurd (List.mem_reverse.mp (List.mem_of_mem_take before)) (clean f)
  · cases List.mem_singleton.mp last
    exact undivided

/-- One step of reading tokens, and whether it is the last. -/
def step (l : Layout) : Except Error (Layout × Bool) := do
  let l ← l.toToken
  match l.cursor.head? with
  | none => return (← l.finish, true)
  | some a => return (← l.token a, false)

theorem run_succ (fuel : Nat) (l : Layout)
    : run (fuel + 1) l = match l.step with
      | .error e => l.failed e
      | .ok (l, true) => l.done.reverse
      | .ok (l, false) => run fuel l :=
  rfl

theorem scans_step (clean : Clean l) : Scans (l.step.map (·.1)) := by
  have fused : l.step.map (·.1) = l.toToken >>= fun m =>
      match m.cursor.head? with
      | none => m.finish
      | some a => m.token a := by
    rw [step]
    cases l.toToken with
    | error e => rfl
    | ok m =>
        rw [ok_bind, ok_bind]
        cases m.cursor.head? with
        | none =>
            dsimp only
            cases m.finish <;> rfl
        | some a =>
            dsimp only
            cases m.token a <;> rfl
  rw [fused]
  refine (scans_toToken clean).bind fun m kept => ?_
  split
  · exact scans_finish kept
  · exact scans_token kept _

/-- Failures are those of single steps, by induction on how many there may be. -/
theorem undivided_of_run (clean : Clean l) {fuel : Nat} {e : Error}
    (member : Token.failure e ∈ l.run fuel)
    : Undivided e := by
  induction fuel generalizing l with
  | zero => exact undivided_of_failed clean .grammar member
  | succ fuel ih =>
      obtain ⟨fails, keeps⟩ := scans_step clean
      rw [run_succ] at member
      split at member
      · rename_i f failed
        exact undivided_of_failed clean (fails f (map_eq_error.mpr failed)) member
      · rename_i m done
        exact absurd (List.mem_reverse.mp member) (keeps m (map_eq_ok.mpr ⟨_, done, rfl⟩) e)
      · rename_i m done
        exact ih (keeps m (map_eq_ok.mpr ⟨_, done, rfl⟩)) member

end Layout

/-- The failures among the tokens of a text. -/
theorem Token.undivided_of_ofText {t : Text} {e : Error} (member : Token.failure e ∈ Token.ofText t)
    : Undivided e := by
  refine Layout.undivided_of_run (l := Layout.ofText t) ?_ member
  exact fun _ => List.not_mem_nil

end Dispatch.Yaml
