import Dispatch.Proofs.Pickle.Draft
import Dispatch.Proofs.Result

/-! Filling containers. However the items of a container are cut into batches, the machine adds
them in their order, and each batch finds the container with the items of those before it.
-/

namespace Dispatch

namespace Pickle

open Dispatch.Result

/-- Whether items on the stack have given values, the last one on top. -/
def Stacked (items : List Item) (vs : List Value) : Prop :=
  items.map Item.value? = vs.reverse.map some

section

variable {items more : List Item} {vs ws : List Value}

theorem stacked_singleton {item : Item} {v : Value} (value : item.value? = some v)
    : Stacked [item] [v] := by
  simp [Stacked, value]

theorem Stacked.append (first : Stacked items vs) (second : Stacked more ws)
    : Stacked (more ++ items) (vs ++ ws) := by
  rw [Stacked] at first second ⊢
  rw [List.map_append, first, second, List.reverse_append, List.map_append]

theorem Stacked.length (stacked : Stacked items vs) : items.length = vs.length := by
  simpa using congrArg List.length stacked

theorem Stacked.eq_singleton {v : Value} (stacked : Stacked items [v])
    : ∃ item, items = [item] ∧ item.value? = some v := by
  obtain ⟨item, rfl⟩ := List.length_eq_one_iff.mp stacked.length
  exact ⟨item, rfl, (List.cons.inj stacked).1⟩

theorem Stacked.values? (stacked : Stacked items vs) : Item.values? items = some vs := by
  have each (items : List Item) (ws : List Value) (values : items.map Item.value? = ws.map some)
      : items.mapM Item.value? = some ws := by
    induction items generalizing ws with
    | nil =>
        obtain rfl := List.map_eq_nil_iff.mp values.symm
        rfl
    | cons item items ih =>
        cases ws with
        | nil => contradiction
        | cons w ws =>
            obtain ⟨first, rest⟩ := List.cons.inj values
            simp [first, ih ws rest]
  refine each items.reverse vs ?_
  rw [List.map_reverse, stacked, ← List.map_reverse, List.reverse_reverse]

end

variable {α : Type} {known : Nat → Value}

/-- Whether writing something goes well wherever it starts, and leaves values on the stack. -/
def Writes (known : Nat → Value) (write : Draft → α → Except Error Draft) (x : α)
    (vs : List Value) : Prop :=
  ∀ d filling stack below, d.Shows known filling stack below
    → ∃ d' items, write d x = .ok d' ∧ Stacked items vs
      ∧ d'.Shows known filling (items ++ stack) below

variable {write : Draft → α → Except Error Draft} {values : α → List Value} {xs all : List α}

/-- Writing items in turn leaves the values of all of them, by induction on the items. -/
theorem Writes.foldlM (each : ∀ x ∈ xs, Writes known write x (values x))
    : Writes known (List.foldlM write) xs (xs.flatMap values) := by
  intro d filling stack below shows
  induction xs generalizing d stack with
  | nil => exact ⟨d, [], rfl, rfl, shows⟩
  | cons x xs ih =>
      obtain ⟨next, items, wrote, first, shows⟩ :=
        each x (List.mem_cons_self ..) d filling stack below shows
      obtain ⟨last, more, folded, rest, shows⟩ :=
        ih (fun y member => each y (List.mem_cons_of_mem _ member)) next _ shows
      refine ⟨last, more ++ items, ?_, ?_, ?_⟩
      · rw [List.foldlM_cons, wrote, ok_bind, folded]
      · rw [List.flatMap_cons]
        exact first.append rest
      · rwa [List.append_assoc]

/-- What is written above the name that it goes with. -/
theorem Writes.named {x : α} {name : Text} {v : Value} (writes : Writes known write x [v])
    {d : Draft} {filling : List (Nat × Item)} {stack : List Item} {below : List (List Item)}
    (shows : d.Shows known filling (.value (.text name) :: stack) below)
    : ∃ d' items, write d x = .ok d' ∧ Stacked items [.text name, v]
        ∧ d'.Shows known filling (items ++ stack) below := by
  obtain ⟨last, items, wrote, stacked, rest⟩ := writes _ _ _ _ shows
  have first : Stacked [.value (.text name)] [.text name] := stacked_singleton rfl
  refine ⟨last, items ++ [_], wrote, first.append stacked, ?_⟩
  rwa [List.append_assoc]

-----------------------------------------------------------------------------------------
-- Containers that are filled bit by bit
-----------------------------------------------------------------------------------------

/-- Whether items may be added to a container bit by bit: wherever their list is cut, what comes
next goes into the container of what is done. -/
def Fills (add : Value → List Value → Option Value) (values : α → List Value)
    (whole : List α → Value) (all : List α) : Prop :=
  ∀ done next rest, all = done ++ next ++ rest
    → add (whole done) (next.flatMap values) = some (whole (done ++ next))

variable {add : Value → List Value → Option Value} {whole : List α → Value} {d : Draft}
  {filling : List (Nat × Item)} {stack : List Item} {below : List (List Item)} {index : Nat}

section

variable {items : List Item} {vs : List Value} {container filled : Value} {memo : List Item}

theorem fill?_of_stacked (stacked : Stacked items vs) (added : add container vs = some filled)
    (held : memo[index]? = some (.container (some index) container))
    : Machine.fill? ⟨items, (.container (some index) container :: stack) :: below, memo⟩ add
      = some ⟨.container (some index) filled :: stack, below,
          memo.set index (.container (some index) filled)⟩ := by
  simp only [Machine.fill?, stacked.values?, Option.bind_eq_bind, Option.bind_some, added]
  exact Machine.replace?_of_isOpen held rfl _ _ _ _

theorem fillTop?_of_stacked (stacked : Stacked items vs) (added : add container vs = some filled)
    (held : memo[index]? = some (.container (some index) container))
    : Machine.fillTop? ⟨items ++ .container (some index) container :: stack, below, memo⟩
        vs.length add
      = some ⟨.container (some index) filled :: stack, below,
          memo.set index (.container (some index) filled)⟩ := by
  simp only [Machine.fillTop?, List.drop_left' stacked.length, List.take_left' stacked.length,
    stacked.values?, Option.bind_eq_bind, Option.bind_some, added]
  exact Machine.replace?_of_isOpen held rfl _ _ _ _

end

/-- Whether the machine has a container on top that is being filled, after the instructions of a
draft. -/
def Draft.IsFilling (known : Nat → Value) (filling : List (Nat × Item)) (d : Draft) (index : Nat)
    (v : Value) (stack : List Item) (below : List (List Item)) : Prop :=
  let item := Item.container (some index) v
  d.Shows known ((index, item) :: filling) (item :: stack) below

/-- A batch adds its items to the container below its mark. -/
theorem Draft.IsFilling.batch (ending : Opcode) (current : ending.IsCurrent)
    {container filled : Value} (fills : d.IsFilling known filling index container stack below)
    (fill : ∀ s, Machine.step? s ending = s.fill? add)
    (each : ∀ x ∈ xs, Writes known write x (values x))
    (added : add container (xs.flatMap values) = some filled)
    : ∃ d', Pickle.batch write ending d xs = .ok d'
        ∧ d'.IsFilling known filling index filled stack below := by
  have marked : (d.code .mark).Shows known
      ((index, .container (some index) container) :: filling) []
      ((.container (some index) container :: stack) :: below) := fills.code trivial fun _ => rfl
  obtain ⟨last, items, wrote, stacked, rest⟩ := Writes.foldlM each _ _ _ _ marked
  rw [List.append_nil] at rest
  refine ⟨last.code ending, ?_, rest.fill current (fun _ => fill _) ?_⟩
  · rw [Pickle.batch, wrote, map_ok]
  · intro memo held
    rw [fill]
    exact fill?_of_stacked stacked added held

/-- Batches in turn fill the container, by induction on the batches. -/
theorem Draft.IsFilling.batches (ending : Opcode) (current : ending.IsCurrent)
    (fill : ∀ s, Machine.step? s ending = s.fill? add)
    (each : ∀ x ∈ all, Writes known write x (values x)) (parts : Fills add values whole all)
    {groups : List (List α)} (done : List α) (split : all = done ++ groups.flatten)
    (fills : d.IsFilling known filling index (whole done) stack below)
    : ∃ d', groups.foldlM (Pickle.batch write ending) d = .ok d'
        ∧ d'.IsFilling known filling index (whole all) stack below := by
  induction groups generalizing done d with
  | nil =>
      rw [List.flatten_nil, List.append_nil] at split
      exact ⟨d, rfl, split ▸ fills⟩
  | cons group groups ih =>
      rw [List.flatten_cons, ← List.append_assoc] at split
      have members : ∀ x ∈ group, Writes known write x (values x) := by
        intro x member
        exact each x (by simp [split, member])
      obtain ⟨next, wrote, first⟩ := fills.batch ending current fill members (parts _ _ _ split)
      obtain ⟨last, folded, rest⟩ := ih (done ++ group) split first
      exact ⟨last, by rw [List.foldlM_cons, wrote, ok_bind, folded], rest⟩

/-- Items in turn, each with an instruction of its own, fill the container, by induction on the
items. -/
theorem Draft.IsFilling.oneByOne (ending : Opcode) (current : ending.IsCurrent)
    (fill : ∀ x s, Machine.step? s ending = s.fillTop? (values x).length add)
    (each : ∀ x ∈ all, Writes known write x (values x)) (parts : Fills add values whole all)
    (done : List α) (split : all = done ++ xs)
    (fills : d.IsFilling known filling index (whole done) stack below)
    : ∃ d', Pickle.oneByOne write ending d xs = .ok d'
        ∧ d'.IsFilling known filling index (whole all) stack below := by
  induction xs generalizing done d with
  | nil =>
      rw [List.append_nil] at split
      exact ⟨d, rfl, split ▸ fills⟩
  | cons x xs ih =>
      have apart : all = done ++ [x] ++ xs := by simpa using split
      have added : add (whole done) (values x) = some (whole (done ++ [x])) := by
        simpa using parts done [x] xs apart
      obtain ⟨next, items, wrote, stacked, first⟩ := each x (by simp [split]) d _ _ below fills
      have needs (memo : List Item) : Machine.step? ⟨[], [], memo⟩ ending = none := by
        simp [fill x, Machine.fillTop?]
      have set := first.fill current needs fun memo held =>
        (fill x _).trans (fillTop?_of_stacked stacked added held)
      obtain ⟨last, folded, rest⟩ := ih (done ++ [x]) apart set
      refine ⟨last, ?_, rest⟩
      rw [Pickle.oneByOne] at folded ⊢
      rw [List.foldlM_cons, wrote, map_ok, ok_bind, folded]

/-- A container starts empty, is filled, and may be fetched when it is complete. -/
theorem Draft.Shows.container {o : Opcode} {empty full : Value} {object : Option Nat}
    {fill : Draft → Except Error Draft} (shows : d.Shows known filling stack below)
    (current : o.IsCurrent)
    (step : ∀ s, Machine.step? s o = some (s.push (.container none empty)))
    (filled : ∀ {d' : Draft} {index : Nat}, d'.IsFilling known filling index empty stack below
      → ∃ last, fill d' = .ok last ∧ last.IsFilling known filling index full stack below)
    (same : ∀ n ∈ object, known n = full)
    : ∃ d' items, (d.object.code o).store.complete object fill = .ok d' ∧ Stacked items [full]
        ∧ d'.Shows known filling (items ++ stack) below := by
  have started : (d.object.code o).store.IsFilling known filling d.count empty stack below :=
    (shows.push o current step).start rfl
  obtain ⟨last, wrote, rest⟩ := filled started
  refine ⟨last.note object d.count, [.container (some d.count) full], ?_,
    stacked_singleton rfl, rest.note rfl same⟩
  rw [Draft.complete, wrote]
  rfl

/-- Batches one after the other are the items. -/
theorem flatten_batches (xs : List α) : (batches xs).flatten = xs := by
  have count (n : Nat)
      : ((List.range n).map fun i => (xs.drop (i * batchSize)).take batchSize).flatten
        = xs.take (n * batchSize) := by
    induction n with
    | zero => simp
    | succ n ih =>
        rw [List.range_succ, List.map_append, List.flatten_append, ih, Nat.succ_mul, List.take_add]
        simp
  have enough : xs.length ≤ (xs.length + batchSize - 1) / batchSize * batchSize := by
    rw [batchSize]
    omega
  rw [batches, count, List.take_of_length_le enough]

/-- An empty batch at the end, which is there after a full one, adds nothing. -/
theorem flatten_batches_append (xs : List α) (full : Prop) [Decidable full]
    : (batches xs ++ if full then [[]] else []).flatten = xs := by
  split <;> simp [flatten_batches]

end Pickle

end Dispatch
