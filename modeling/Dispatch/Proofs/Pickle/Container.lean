import Dispatch.Proofs.Pickle.Filling
import Dispatch.Proofs.Pickle.Sharing
import Dispatch.Proofs.Value

/-! Lists, sets, maps and tuples on the stack of the machine. A map comes back because no two of its
keys are the same, so each entry is a new one where it is set.
-/

namespace Dispatch.Pickle

open Dispatch.Result

/-- Keys that differ are set one after the other, by induction on the entries to come. -/
theorem setKeys?_of_areEntries {entries more : List (Value × Value)}
    (proper : Value.AreEntries (entries ++ more))
    : setKeys? entries (more.flatMap fun e => [e.1, e.2]) = some (entries ++ more) := by
  induction more generalizing entries with
  | nil => simp [setKeys?]
  | cons e more ih =>
      have key : e.1.isKey := proper.keys e (by simp)
      have new : ∀ f ∈ entries, Value.sameKey f.1 e.1 = false := by
        intro f member
        have differ := proper.differ
        rw [List.map_append, List.map_cons] at differ
        exact (List.pairwise_append.mp differ).2.2 f.1 (List.mem_map_of_mem member) e.1
          (List.mem_cons_self ..)
      have inserted : Value.insert entries e.1 e.2 = entries ++ [e] :=
        Value.insert_of_differ new e.2
      have shifted : entries ++ [e] ++ more = entries ++ e :: more := by simp
      rw [← shifted] at proper ⊢
      simp only [List.flatMap_cons, List.cons_append, List.nil_append, setKeys?, key, if_true,
        inserted]
      exact ih proper

/-- Items that differ are added one after the other, by induction on the items to come. -/
theorem addItems?_of_differ {items more : List Value} (keys : ∀ v ∈ more, v.isKey)
    (differ : Value.AllDiffer (items ++ more))
    : addItems? items more = some (items ++ more) := by
  induction more generalizing items with
  | nil => simp [addItems?]
  | cons v more ih =>
      have key : v.isKey := keys v (List.mem_cons_self ..)
      have new : items.any (Value.sameKey · v) = false := by
        simp only [List.any_eq_false, Bool.not_eq_true]
        intro w member
        exact (List.pairwise_append.mp differ).2.2 w member v (List.mem_cons_self ..)
      have shifted : items ++ [v] ++ more = items ++ v :: more := by simp
      rw [← shifted] at differ ⊢
      rw [addItems?, if_pos key, new]
      exact ih (fun w member => keys w (List.mem_cons_of_mem _ member)) differ

variable {α : Type} {known : Nat → Value} {filling : List (Nat × Item)} {d : Draft} {index : Nat}
  {stack : List Item} {below : List (List Item)}

-----------------------------------------------------------------------------------------
-- Lists and sets
-----------------------------------------------------------------------------------------

section

variable {value : α → Value} {write : Draft → α → Except Error Draft} {items : List α}

theorem fills_list (value : α → Value) (all : List α)
    : Fills Machine.append? (fun x => [value x]) (fun xs => .list (xs.map value)) all := by
  intro done next rest _
  rw [← List.map_eq_flatMap]
  simp [Machine.append?]

theorem fills_set {all : List α} (keys : ∀ x ∈ all, (value x).isKey)
    (differ : Value.AllDiffer (all.map value))
    : Fills Machine.includeItems? (fun x => [value x]) (fun xs => .set (xs.map value)) all := by
  intro done next rest split
  rw [split, List.map_append, List.map_append] at differ
  have nextKeys : ∀ v ∈ next.map value, v.isKey :=
    List.forall_mem_map.mpr fun x member => keys x (by simp [split, member])
  have added := addItems?_of_differ nextKeys (List.pairwise_append.mp differ).1
  rw [← List.map_eq_flatMap]
  simp [Machine.includeItems?, added]

/-- A list on the stack takes items one by one or in batches. -/
theorem Draft.IsFilling.fillList (each : ∀ x ∈ items, Writes known write x [value x])
    (fills : d.IsFilling known filling index (.list []) stack below)
    : ∃ d', Pickle.fillList write d items = .ok d'
        ∧ d'.IsFilling known filling index (.list (items.map value)) stack below := by
  rw [Pickle.fillList, fills.version]
  split
  · exact fills.oneByOne .append trivial (fun _ _ => rfl) each (fills_list value items) [] rfl
  · have whole : items = [] ++ (Pickle.batches items).flatten := (flatten_batches items).symm
    exact fills.batches .appends trivial (fun _ => rfl) each (fills_list value items) [] whole

end

/-- A list may be fetched under its number. -/
theorem Draft.Shows.list {write : Draft → Part → Except Error Draft} {s : Sharing}
    {vs : List Value} (shows : d.Shows known filling stack below)
    (each : ∀ p ∈ s.items vs, Writes known write p [p.value])
    (same : ∀ n ∈ s.object?, known n = .list vs)
    : ∃ d' items, (d.object.code .emptyList).store.complete s.object?
          (fun d => Pickle.fillList write d (s.items vs)) = .ok d'
        ∧ Stacked items [.list vs] ∧ d'.Shows known filling (items ++ stack) below := by
  refine shows.container trivial (fun _ => rfl) ?_ same
  intro d' index fills
  have filled := fills.fillList each
  rwa [map_value_items] at filled

/-- A set whose items differ may be fetched under its number. -/
theorem Draft.Shows.set {write : Draft → Part → Except Error Draft} {object : Option Nat}
    {items : List Part} (shows : d.Shows known filling stack below)
    (each : ∀ p ∈ items, Writes known write p [p.value]) (keys : ∀ p ∈ items, p.value.isKey)
    (differ : Value.AllDiffer (items.map Part.value))
    (same : ∀ n ∈ object, known n = .set (items.map Part.value))
    : ∃ d' more, setObject write d object items = .ok d'
        ∧ Stacked more [.set (items.map Part.value)]
        ∧ d'.Shows known filling (more ++ stack) below := by
  rw [setObject, if_pos (shows.le_version (Nat.le_refl 4))]
  refine shows.container trivial (fun _ => rfl) ?_ same
  intro d' index fills
  have whole : items = [] ++ (batches items).flatten := (flatten_batches items).symm
  exact fills.batches .addItems trivial (fun _ => rfl) each (fills_set keys differ) [] whole

-----------------------------------------------------------------------------------------
-- Maps
-----------------------------------------------------------------------------------------

/-- The key and the value of an entry. -/
def entryValues (e : Value × Value) : List Value :=
  [e.1, e.2]

section

variable {entry : α → Value × Value} {write : Draft → α → Except Error Draft} {xs : List α}

theorem fills_map {all : List α} (proper : Value.AreEntries (all.map entry))
    : Fills Machine.setItems? (fun x => entryValues (entry x))
        (fun xs => .map .plain (xs.map entry)) all := by
  intro done next rest split
  have part : Value.AreEntries (done.map entry ++ next.map entry) := by
    rw [split, List.map_append, List.map_append] at proper
    have differ := proper.differ
    rw [List.map_append] at differ
    exact ⟨fun e member => proper.keys e (List.mem_append_left _ member),
      (List.pairwise_append.mp differ).1⟩
  have values : next.flatMap (fun x => entryValues (entry x))
      = (next.map entry).flatMap fun e => [e.1, e.2] := by
    rw [List.flatMap_map]
    rfl
  simp [Machine.setItems?, values, setKeys?_of_areEntries part]

/-- A map on the stack takes entries one by one or in batches. -/
theorem Draft.IsFilling.fillMap (each : ∀ x ∈ xs, Writes known write x (entryValues (entry x)))
    (proper : Value.AreEntries (xs.map entry))
    (fills : d.IsFilling known filling index (.map .plain []) stack below)
    : ∃ d', Pickle.fillMap write d xs = .ok d'
        ∧ d'.IsFilling known filling index (.map .plain (xs.map entry)) stack below := by
  rw [Pickle.fillMap, fills.version]
  split
  · exact fills.oneByOne .setItem trivial (fun _ _ => rfl) each (fills_map proper) [] rfl
  · refine fills.batches .setItems trivial (fun _ => rfl) each (fills_map proper) [] ?_
    rw [flatten_batches_append, List.nil_append]

/-- A map may be fetched under its number. -/
theorem Draft.Shows.map {object : Option Nat} (shows : d.Shows known filling stack below)
    (each : ∀ x ∈ xs, Writes known write x (entryValues (entry x)))
    (proper : Value.AreEntries (xs.map entry))
    (same : ∀ n ∈ object, known n = .map .plain (xs.map entry))
    : ∃ d' items, (d.object.code .emptyDict).store.complete object
          (fun d => Pickle.fillMap write d xs) = .ok d'
        ∧ Stacked items [.map .plain (xs.map entry)]
        ∧ d'.Shows known filling (items ++ stack) below :=
  shows.container trivial (fun _ => rfl) (fun fills => fills.fillMap each proper) same

end

/-- Filling with items that stand for others is filling with the others. -/
theorem fillMap_map {β : Type} (f : β → α) (write : Draft → α → Except Error Draft) (d : Draft)
    (xs : List β)
    : fillMap write d (xs.map f) = fillMap (fun d x => write d (f x)) d xs := by
  have groups : batches (xs.map f) = (batches xs).map (List.map f) := by
    simp [batches]
  have ending (full : Prop) [Decidable full]
      : (if full then [[]] else [] : List (List α))
        = (if full then [[]] else [] : List (List β)).map (List.map f) := by
    split <;> rfl
  have one (ending : Opcode)
      : oneByOne write ending d (xs.map f) = oneByOne (fun d x => write d (f x)) ending d xs := by
    rw [oneByOne, oneByOne, List.foldlM_map]
  have group (d : Draft) (ending : Opcode) (xs : List β)
      : batch write ending d (xs.map f) = batch (fun d x => write d (f x)) ending d xs := by
    rw [batch, batch, List.foldlM_map]
  simp only [fillMap, List.length_map, one, groups, ending, ← List.map_append, List.foldlM_map,
    group]

/-- A field of a record with the value that is written for it. -/
structure Field where
  name : String
  write : Draft → Except Error Draft
  value : Value

namespace Field

/-- The field as the writer has it. -/
def written (f : Field) : String × (Draft → Except Error Draft) :=
  (f.name, f.write)

/-- The field as the record has it. -/
def entry (f : Field) : Value × Value :=
  (.text (text f.name), f.value)

/-- Whether the value is what the writing leaves. -/
def IsWritten (known : Nat → Value) (f : Field) : Prop :=
  Writes known (fun d (f : Field) => f.write d) f [f.value]

end Field

/-- A record is a map whose keys are the names of its fields. -/
theorem Draft.Shows.record {fields : List Field} (shows : d.Shows known filling stack below)
    (each : ∀ f ∈ fields, f.IsWritten known)
    (proper : Value.AreEntries (fields.map Field.entry))
    : ∃ d' items, Pickle.record d (fields.map Field.written) = .ok d'
        ∧ Stacked items [.map .plain (fields.map Field.entry)]
        ∧ d'.Shows known filling (items ++ stack) below := by
  have entries
      : ∀ f ∈ fields, Writes known (fun d f => saveField d f.written) f (entryValues f.entry) := by
    intro f member d filling stack below shows
    exact (each f member).named (shows.text _)
  rw [Pickle.record]
  simp only [fillMap_map]
  exact shows.map entries proper (by simp)

-----------------------------------------------------------------------------------------
-- Tuples
-----------------------------------------------------------------------------------------

theorem Draft.Shows.gathersByCount (shows : d.Shows known filling stack below) (count : Nat)
    : d.gathersByCount count = decide (count ≤ 3) := by
  simp [Draft.gathersByCount, shows.version]

section

variable {items : List Item} {vs : List Value}

theorem step?_smallTuple (stacked : Stacked items vs) (memo : List Item)
    : Machine.step? ⟨items ++ stack, below, memo⟩ (.smallTuple vs.length)
      = some ⟨.value (.tuple vs) :: stack, below, memo⟩ := by
  simp only [Machine.step?, List.length_append, stacked.length, Nat.le_add_right, if_true,
    List.take_left' stacked.length, List.drop_left' stacked.length, stacked.values?]
  rfl

theorem step?_tuple (stacked : Stacked items vs) (memo : List Item)
    : Machine.step? ⟨items, stack :: below, memo⟩ .tuple
      = some ⟨.value (.tuple vs) :: stack, below, memo⟩ := by
  simp only [Machine.step?, stacked.values?]
  rfl

end

/-- A tuple that is not empty gathers its items by their count or from a mark. -/
theorem Draft.Shows.tuple {write : Draft → Part → Except Error Draft} {s : Sharing}
    {vs : List Value} (shows : d.Shows known filling stack below) (some : vs ≠ [])
    (each : ∀ p ∈ s.items vs, Writes known write p [p.value])
    (same : ∀ n ∈ s.object?, known n = .tuple vs)
    : ∃ d', ((s.items vs).foldlM write (d.openTuple vs.length)).map
          (fun d => (d.closeTuple vs.length).noteLast s.object?) = .ok d'
        ∧ d'.Shows known filling (.value (.tuple vs) :: stack) below := by
  have least : 1 ≤ vs.length := List.length_pos_iff.mpr some
  have folded := Writes.foldlM each
  rw [← List.map_eq_flatMap, map_value_items] at folded
  rw [Draft.openTuple, shows.gathersByCount]
  by_cases most : vs.length ≤ 3
  · obtain ⟨last, items, wrote, stacked, rest⟩ := folded d filling stack below shows
    have gathered : (last.code (.smallTuple vs.length)).Shows known filling
        (.value (.tuple vs) :: stack) below := rest.code ⟨least, most⟩ (step?_smallTuple stacked)
    rw [if_pos (by simpa using most), wrote, map_ok]
    refine ⟨_, rfl, ?_⟩
    rw [Draft.closeTuple, rest.gathersByCount, if_pos (by simpa using most)]
    exact gathered.storeObject same
  · have marked : (d.code .mark).Shows known filling [] (stack :: below) :=
      shows.code trivial fun _ => rfl
    obtain ⟨last, items, wrote, stacked, rest⟩ := folded _ _ _ _ marked
    rw [List.append_nil] at rest
    have gathered : (last.code .tuple).Shows known filling (.value (.tuple vs) :: stack) below :=
      rest.code trivial (step?_tuple stacked)
    rw [if_neg (by simpa using most), wrote, map_ok]
    refine ⟨_, rfl, ?_⟩
    rw [Draft.closeTuple, rest.gathersByCount, if_neg (by simpa using most)]
    exact gathered.storeObject same

end Dispatch.Pickle
