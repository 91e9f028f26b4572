import Dispatch.Proofs.Result
import Dispatch.Yaml.Grammar

/-! Why tokens make no document. They break the grammar, their nodes are nested too deeply, or they
end in a failure; reading never makes up a failure of its own.
-/

namespace Dispatch.Yaml.Reader

open Dispatch.Result

/-- Every failure among the tokens that are left satisfies a property. -/
def Fits (p : Error → Prop) (s : Parse) : Prop :=
  ∀ e, Token.failure e ∈ s.tokens → p e

/-- Reading ends with errors of a property only, as long as all failures among the tokens have it;
the tokens that it leaves are such ones again. -/
def Reads {α : Type} (p : Error → Prop) (x : Reader α) : Prop :=
  ∀ s, Fits p s → FailsWith p (x s) ∧ ∀ a s', x s = .ok (a, s') → Fits p s'

variable {p : Error → Prop} {α β : Type}

-----------------------------------------------------------------------------------------
-- Steps that are put together
-----------------------------------------------------------------------------------------

theorem reads_pure (a : α) : Reads p (pure a) := by
  intro s fits
  refine ⟨.ok _, fun b s' done => ?_⟩
  cases done
  exact fits

theorem reads_throw {e : Error} (holds : p e) : Reads p (throw e : Reader α) :=
  fun _ _ => ⟨.error holds, nofun⟩

theorem Reads.bind {x : Reader α} {f : α → Reader β} (first : Reads p x)
    (next : ∀ a, Reads p (f a))
    : Reads p (x >>= f) := by
  intro s fits
  obtain ⟨fails, keeps⟩ := first s fits
  refine ⟨?_, fun b s' done => ?_⟩
  · exact fails.bind fun (a, s') done => (next a s' (keeps a s' done)).1
  · obtain ⟨⟨a, t⟩, done, later⟩ := bind_eq_ok.mp done
    exact (next a t (keeps a t done)).2 b s' later

theorem reads_get : Reads p (get : Reader Parse) := by
  intro s fits
  refine ⟨.ok _, fun b s' done => ?_⟩
  cases done
  exact fits

/-- A change that only drops tokens. -/
theorem reads_modify {f : Parse → Parse} (fewer : ∀ s, (f s).tokens ⊆ s.tokens)
    : Reads p (modify f) := by
  intro s fits
  refine ⟨.ok _, fun b s' done => ?_⟩
  cases done
  exact fun e member => fits e (fewer s member)

theorem peek_eq (s : Parse)
    : peek s = match s.tokens with
      | .failure e :: _ => .error e
      | t :: _ => .ok (t, s)
      | [] => .error .grammar := by
  obtain ⟨tokens, handles, anchors⟩ := s
  cases tokens with
  | nil => rfl
  | cons t rest => cases t <;> rfl

theorem reads_peek (grammar : p .grammar) : Reads p peek := by
  intro s fits
  rw [peek_eq]
  refine ⟨?_, fun a s' done => ?_⟩
  · split
    · rename_i e _ tokens
      exact .error (fits e (by rw [tokens]; exact List.mem_cons_self))
    · exact .ok _
    · exact .error grammar
  · split at done
    · contradiction
    · cases done
      exact fits
    · contradiction

theorem reads_advance : Reads p advance :=
  reads_modify fun _ _ => List.mem_of_mem_tail

theorem Reads.ite {c : Prop} [Decidable c] {x y : Reader α} (yes : Reads p x) (no : Reads p y)
    : Reads p (if c then x else y) := by
  split
  · exact yes
  · exact no

theorem reads_left : Reads p left :=
  reads_get.bind fun _ => reads_pure _

theorem reads_finishAnchor (name : Option Text) (n : Node) : Reads p (finishAnchor name n) := by
  cases name with
  | none => exact reads_pure _
  | some name => exact reads_modify fun _ => List.Subset.refl _

variable (grammar : p .grammar)
include grammar

theorem reads_expect (t : Token) : Reads p (expect t) :=
  (reads_peek grammar).bind fun _ => .ite reads_advance (reads_throw grammar)

theorem reads_anchor? : Reads p anchor? := by
  refine (reads_peek grammar).bind fun t => ?_
  split
  · exact reads_advance.bind fun _ => reads_pure _
  · exact reads_pure _

theorem reads_tagName (handle : Option Text) (suffix : Text) : Reads p (tagName handle suffix) := by
  cases handle with
  | none => exact reads_pure _
  | some handle =>
      refine reads_get.bind fun s => ?_
      split
      · exact reads_pure _
      · exact reads_throw grammar

theorem reads_rawTag? : Reads p rawTag? := by
  refine (reads_peek grammar).bind fun t => ?_
  split
  · exact reads_advance.bind fun _ => reads_pure _
  · exact reads_pure _

theorem reads_properties : Reads p properties := by
  refine (reads_anchor? grammar).bind fun first => (reads_rawTag? grammar).bind fun raw => ?_
  cases raw with
  | none => exact Reads.ite ((reads_anchor? grammar).bind fun _ => reads_pure _) (reads_pure _)
  | some raw =>
      have named (anchor : Option Text)
          : Reads p (do return (anchor, some (← tagName raw.1 raw.2))) :=
        (reads_tagName grammar _ _).bind fun _ => reads_pure _
      exact Reads.ite ((reads_anchor? grammar).bind named) (named first)

theorem reads_startAnchor (room : Nat) (name : Option Text) : Reads p (startAnchor room name) := by
  cases name with
  | none => exact reads_pure _
  | some name =>
      have started : Reads p (modify fun s =>
          { s with anchors := (name, .started room) :: s.anchors }) :=
        reads_modify fun _ => List.Subset.refl _
      refine reads_get.bind fun s => Reads.ite ?_ started
      exact (reads_throw grammar).bind fun _ => started

theorem reads_aliased (room : Nat) (name : Text) : Reads p (aliased room name) := by
  refine reads_get.bind fun s => ?_
  split
  · exact reads_pure _
  · exact reads_pure _
  · exact reads_throw grammar

-----------------------------------------------------------------------------------------
-- Collections, of nodes that read as well
-----------------------------------------------------------------------------------------

theorem reads_nodeUnless {node : Reader Node} (reads : Reads p node) (ends : List Token)
    : Reads p (nodeUnless ends node) :=
  (reads_peek grammar).bind fun _ => .ite (reads_pure _) reads

theorem reads_valueNode {node : Reader Node} (reads : Reads p node) (ends : List Token)
    : Reads p (valueNode ends node) :=
  (reads_peek grammar).bind fun _ =>
    .ite (reads_advance.bind fun _ => reads_nodeUnless grammar reads ends) (reads_pure _)

theorem reads_blockItems {node : Reader Node} (reads : Reads p node) (fuel : Nat)
    (done : List Node)
    : Reads p (blockItems node fuel done) := by
  induction fuel generalizing done with
  | zero => exact reads_throw grammar
  | succ fuel ih =>
      refine (reads_peek grammar).bind fun t => ?_
      split
      · exact reads_advance.bind fun _ => (reads_nodeUnless grammar reads _).bind fun _ => ih _
      · exact reads_advance.bind fun _ => reads_pure _
      · exact reads_throw grammar

theorem reads_flushItems {node : Reader Node} (reads : Reads p node) (fuel : Nat)
    (done : List Node)
    : Reads p (flushItems node fuel done) := by
  induction fuel generalizing done with
  | zero => exact reads_throw grammar
  | succ fuel ih =>
      refine (reads_peek grammar).bind fun t => .ite ?_ (reads_pure _)
      exact reads_advance.bind fun _ => (reads_nodeUnless grammar reads _).bind fun _ => ih _

theorem reads_blockPairs {node : Reader Node} (reads : Reads p node) (fuel : Nat)
    (done : List (Node × Node))
    : Reads p (blockPairs node fuel done) := by
  induction fuel generalizing done with
  | zero => exact reads_throw grammar
  | succ fuel ih =>
      refine (reads_peek grammar).bind fun t => ?_
      split
      · exact reads_advance.bind fun _ => (reads_nodeUnless grammar reads _).bind fun _ =>
          (reads_valueNode grammar reads _).bind fun _ => ih _
      · exact reads_advance.bind fun _ => reads_pure _
      · exact reads_throw grammar

theorem reads_flowPair {node : Reader Node} (reads : Reads p node) (last : Token)
    : Reads p (flowPair last node) :=
  reads_advance.bind fun _ => (reads_nodeUnless grammar reads _).bind fun _ =>
    (reads_valueNode grammar reads _).bind fun _ => reads_pure _

theorem reads_flowItems {last : Token} {item : Token → Reader α}
    (reads : ∀ t, Reads p (item t)) (fuel : Nat) (done : List α)
    : Reads p (flowItems last item fuel done) := by
  induction fuel generalizing done with
  | zero => exact reads_throw grammar
  | succ fuel ih =>
      have ends : Reads p (do advance; return done.reverse) :=
        reads_advance.bind fun _ => reads_pure _
      refine (reads_peek grammar).bind fun t => .ite ends ?_
      have next : Reads p (do
          let t ← peek
          if t = last then do
            advance
            return done.reverse
          else do
            let found ← item t
            flowItems last item fuel (found :: done)) :=
        (reads_peek grammar).bind fun t => .ite ends ((reads t).bind fun _ => ih _)
      refine Reads.ite ?_ next
      exact (reads_expect grammar _).bind fun _ => next

theorem reads_flowItem {node : Reader Node} (reads : Reads p node) (t : Token)
    : Reads p (flowItem node t) :=
  .ite ((reads_flowPair grammar reads _).bind fun _ => reads_pure _) reads

theorem reads_flowMapItem {node : Reader Node} (reads : Reads p node) (t : Token)
    : Reads p (flowMapItem node t) :=
  .ite (reads_flowPair grammar reads _) (reads.bind fun _ => reads_pure _)

-----------------------------------------------------------------------------------------
-- Nodes and documents
-----------------------------------------------------------------------------------------

theorem reads_contentNode (room : Nat) {node : Place → Reader Node}
    (reads : ∀ place, Reads p (node place)) (place : Place) (anchor tag : Option Text)
    : Reads p (contentNode room node place anchor tag) := by
  have start := reads_startAnchor grammar room anchor
  refine reads_left.bind fun left => (reads_peek grammar).bind fun t => ?_
  split
  · exact reads_advance.bind fun _ => start.bind fun _ => reads_pure _
  · exact start.bind fun _ => reads_advance.bind fun _ =>
      (reads_flowItems grammar (reads_flowItem grammar (reads .flow)) _ _).bind fun _ =>
        reads_pure _
  · exact start.bind fun _ => reads_advance.bind fun _ =>
      (reads_flowItems grammar (reads_flowMapItem grammar (reads .flow)) _ _).bind fun _ =>
        reads_pure _
  · refine .ite ?_ (.ite ?_ (.ite ?_ (.ite ?_ (reads_throw grammar))))
    · exact start.bind fun _ => (reads_flushItems grammar (reads .block) _ _).bind fun _ =>
        reads_pure _
    · exact start.bind fun _ => reads_advance.bind fun _ =>
        (reads_blockItems grammar (reads .block) _ _).bind fun _ => reads_pure _
    · exact start.bind fun _ => reads_advance.bind fun _ =>
        (reads_blockPairs grammar (reads .pair) _ _).bind fun _ => reads_pure _
    · exact start.bind fun _ => reads_pure _

theorem reads_node (depth : p .depth) (levels : Nat) (place : Place)
    : Reads p (node levels place) := by
  induction levels generalizing place with
  | zero => exact reads_throw depth
  | succ levels ih =>
      refine (reads_peek grammar).bind fun t => ?_
      split
      · exact reads_advance.bind fun _ => reads_aliased grammar _ _
      · exact (reads_properties grammar).bind fun (anchor, tag) =>
          (reads_contentNode grammar _ ih place anchor tag).bind fun n =>
            (reads_finishAnchor anchor n).bind fun _ => reads_pure _

theorem reads_directives (fuel : Nat) (hasVersion : Bool) (handles : List (Text × Text))
    : Reads p (directives fuel hasVersion handles) := by
  induction fuel generalizing hasVersion handles with
  | zero => exact reads_throw grammar
  | succ fuel ih =>
      refine (reads_peek grammar).bind fun t => ?_
      split
      · refine reads_advance.bind fun _ => ?_
        split
        · exact .ite (reads_throw grammar) (ih _ _)
        · exact .ite (reads_throw grammar) (ih _ _)
        · exact ih _ _
      · exact reads_pure _

variable [Platform]

theorem reads_markedDocument (depth : p .depth) : Reads p markedDocument := by
  refine reads_left.bind fun left => (reads_directives grammar _ _ _).bind fun _ => ?_
  refine (reads_expect grammar _).bind fun _ => Reads.bind ?_ fun _ => ?_
  · exact reads_modify fun _ => List.Subset.refl _
  · exact (reads_peek grammar).bind fun _ => .ite (reads_pure _) (reads_node grammar depth _ _)

omit [Platform] in
theorem reads_skipEnds (fuel : Nat) : Reads p (skipEnds fuel) := by
  induction fuel with
  | zero => exact reads_pure _
  | succ fuel ih =>
      exact (reads_peek grammar).bind fun _ =>
        .ite (reads_advance.bind fun _ => ih) (reads_pure _)

theorem reads_document (depth : p .depth) : Reads p document := by
  refine (reads_peek grammar).bind fun t => .ite (reads_pure _) ?_
  have ended (n : Node) : Reads p (do
      skipEnds ((← left) + 1)
      expect .streamEnd
      return some n) :=
    reads_left.bind fun _ => (reads_skipEnds grammar _).bind fun _ =>
      (reads_expect grammar _).bind fun _ => reads_pure _
  refine Reads.ite ?_ ?_
  · exact (reads_markedDocument grammar depth).bind ended
  · exact (reads_node grammar depth _ _).bind ended

end Dispatch.Yaml.Reader

namespace Dispatch.Yaml.Node

open Dispatch.Result

variable [Platform]

/-- Tokens that make no document break the grammar, are nested too deeply, or hold a failure that
says why. -/
theorem failsWith_ofTokens (tokens : List Token)
    : FailsWith (fun e => e = .grammar ∨ e = .depth ∨ Token.failure e ∈ tokens)
        (ofTokens tokens) := by
  have reads := Reader.reads_document
    (p := fun e => e = .grammar ∨ e = .depth ∨ Token.failure e ∈ tokens)
    (Or.inl rfl) (Or.inr (Or.inl rfl))
  exact (reads _ fun e member => Or.inr (Or.inr member)).1.map _

end Dispatch.Yaml.Node
