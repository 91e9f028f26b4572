import Dispatch.Proofs.Pickle.Depth

/-! Pickles of data come back. What is written of data is well formed, and the machine makes the
same value from it, by induction on the data.
-/

namespace Dispatch

/-- Data: values made of nothing but numbers, texts, fixed bytes, lists, tuples and plain maps, with
containers nested at most as deeply as the first argument says. -/
inductive Value.IsData : Nat → Value → Prop
  | null (n : Nat) : IsData n .null
  | bool (n : Nat) (b : Bool) : IsData n (.bool b)
  | int (n : Nat) (i : Int) : IsData n (.int i)
  | float (n : Nat) (x : Binary64) : IsData n (.float x)
  | text (n : Nat) (t : Text) : IsData n (.text t)
  | bytes (n : Nat) (b : Bytes) : IsData n (.blob .fixed b)
  | list {n : Nat} {items : List Value} (each : ∀ v ∈ items, IsData n v)
    : IsData (n + 1) (.list items)
  | tuple {n : Nat} {items : List Value} (each : ∀ v ∈ items, IsData n v)
    : IsData (n + 1) (.tuple items)
  | map {n : Nat} {entries : List (Value × Value)} (proper : AreEntries entries)
    (keys : ∀ e ∈ entries, IsData n e.1) (values : ∀ e ∈ entries, IsData n e.2)
    : IsData (n + 1) (.map .plain entries)

namespace Pickle

open Dispatch.Result

variable {known : Nat → Value}

theorem writes_entry {save : Draft → Part → Except Error Draft} {e : Part × Part}
    (key : Writes known save e.1 [e.1.value]) (value : Writes known save e.2 [e.2.value])
    : Writes known (saveEntry save) e (entryValues (entryOf e)) := by
  intro d filling stack below shows
  obtain ⟨next, items, wrote, first, shows⟩ := key d filling stack below shows
  obtain ⟨last, more, rest, second, shows⟩ := value next filling _ below shows
  refine ⟨last, more ++ items, ?_, first.append second, ?_⟩
  · rw [saveEntry, wrote, ok_bind, rest]
  · rwa [List.append_assoc]

/-- An object that was written before is fetched with its value. -/
theorem writes_save_of_write {depth : Nat} {s : Sharing} {v w : Value}
    (same : ∀ n ∈ s.object?, known n = w)
    (wrote : Writes known (fun d v => write (save depth) d s v) v [w])
    : Writes known (save (depth + 1)) ⟨v, s⟩ [w] := by
  intro d filling stack below shows
  rw [save]
  cases found : s.object?.bind fun n => d.index? (.object n) with
  | none => exact wrote d filling stack below shows
  | some index =>
      obtain ⟨n, number, entry⟩ := Option.bind_eq_some_iff.mp found
      have fetched := shows.object.get entry
      rw [MemoKey.item, same n number] at fetched
      exact ⟨_, [_], rfl, stacked_singleton rfl, fetched⟩

section

variable {save : Draft → Part → Except Error Draft} {s : Sharing}

/-- What one instruction puts on the stack. -/
theorem writes_push {v : Value} (o : Opcode) (current : o.IsCurrent)
    (step : ∀ m, Machine.step? m o = some (m.push (.value v)))
    : Writes known (fun d (_ : Value) => .ok (d.object.code o)) v [v] :=
  fun _ _ _ _ shows => ⟨_, [_], rfl, stacked_singleton rfl, shows.push o current step⟩

theorem writes_tuple {items : List Value} (same : ∀ n ∈ s.object?, known n = .tuple items)
    (inner : ∀ p ∈ s.items items, Writes known save p [p.value])
    : Writes known (fun d v => write save d s v) (.tuple items) [.tuple items] := by
  intro d filling stack below shows
  cases items with
  | nil => exact ⟨_, [_], rfl, stacked_singleton rfl, shows.emptyTuple⟩
  | cons v items =>
      obtain ⟨last, wrote, rest⟩ := shows.object.tuple (List.cons_ne_nil v items) inner same
      exact ⟨last, [_], wrote, stacked_singleton rfl, rest⟩

theorem writes_map {entries : List (Value × Value)} (proper : Value.AreEntries entries)
    (same : ∀ n ∈ s.object?, known n = .map .plain entries)
    (each : ∀ e ∈ s.entries entries, Writes known (saveEntry save) e (entryValues (entryOf e)))
    : Writes known (fun d v => write save d s v) (.map .plain entries) [.map .plain entries] := by
  intro d filling stack below shows
  rw [← map_entryOf_entries s entries] at proper same
  have written := shows.map each proper same
  rwa [map_entryOf_entries] at written

end

/-- Data is written as programs that leave it on the stack, by induction on the data. -/
theorem writes_save {n depth : Nat} {v : Value} (data : v.IsData n) (deep : n ≤ depth)
    {s : Sharing} (agrees : Part.Agrees known ⟨v, s⟩)
    : Writes known (save (depth + 1)) ⟨v, s⟩ [v] := by
  induction data generalizing depth s with
  | null n => exact writes_save_of_write agrees.whole (writes_push .null trivial fun _ => rfl)
  | bool n b => exact writes_save_of_write agrees.whole (writes_push (.bool b) trivial fun _ => rfl)
  | int n i => exact writes_save_of_write agrees.whole (writes_push (.int i) trivial fun _ => rfl)
  | float n x =>
      exact writes_save_of_write agrees.whole (writes_push (.float x) trivial fun _ => rfl)
  | text n t =>
      refine writes_save_of_write agrees.whole ?_
      intro d filling stack below shows
      exact ⟨_, [_], rfl, stacked_singleton rfl, shows.sharedText agrees.whole⟩
  | bytes n b =>
      refine writes_save_of_write agrees.whole ?_
      intro d filling stack below shows
      exact ⟨_, [_], rfl, stacked_singleton rfl, shows.bytes agrees.whole⟩
  | @list n items each ih =>
      obtain ⟨depth, rfl⟩ := Nat.exists_eq_add_of_le' deep
      have inner : ∀ p ∈ s.items items, Writes known (save (depth + n + 1)) p [p.value] :=
        fun p member => ih p.value (value_mem_of_mem_items member) (Nat.le_add_left ..)
          (agrees.items (fun _ _ => rfl) p member)
      refine writes_save_of_write agrees.whole ?_
      intro d filling stack below shows
      exact shows.list inner agrees.whole
  | @tuple n items each ih =>
      obtain ⟨depth, rfl⟩ := Nat.exists_eq_add_of_le' deep
      have inner : ∀ p ∈ s.items items, Writes known (save (depth + n + 1)) p [p.value] :=
        fun p member => ih p.value (value_mem_of_mem_items member) (Nat.le_add_left ..)
          (agrees.items (fun _ _ => rfl) p member)
      exact writes_save_of_write agrees.whole (writes_tuple agrees.whole inner)
  | @map n entries proper keys values keyIh valueIh =>
      obtain ⟨depth, rfl⟩ := Nat.exists_eq_add_of_le' deep
      have inner : ∀ e ∈ s.entries entries,
          Writes known (saveEntry (save (depth + n + 1))) e (entryValues (entryOf e)) := by
        intro e member
        have entry := entryOf_mem_of_mem_entries member
        obtain ⟨key, value⟩ := agrees.entries e member
        exact writes_entry (keyIh _ entry (Nat.le_add_left ..) key)
          (valueIh _ entry (Nat.le_add_left ..) value)
      exact writes_save_of_write agrees.whole (writes_map proper agrees.whole inner)

/-- A message of data, but for the way in which its header names were given. -/
theorem writes_save_message {n depth : Nat} {m : Message} (payload : m.payload.IsData n)
    (headers : ∀ h ∈ m.headers, h.2.IsData n) (once : (m.headers.map (·.1)).Nodup)
    (deep : n ≤ depth) {s : Sharing} (agrees : Part.Agrees known ⟨m.toValue, s⟩)
    : Writes known (save (depth + 2)) ⟨m.toValue, s⟩ [m.toValue.restored] := by
  have texts (t : Text) : Writes known (save (depth + 1)) (.byContent (.text t)) [.text t] :=
    writes_save (.text 0 t) (Nat.zero_le depth) (agrees_byContent _)
  have each : AreWritten known (save (depth + 1)) ((s.part 1).headers m.headers) := by
    intro h member
    obtain ⟨name, value⟩ := agrees.headers h member
    exact ⟨name, writes_save (headers _ (headerOf_mem_of_mem_headers member)) deep value⟩
  refine writes_save_of_write agrees.whole ?_
  intro d filling stack below shows
  obtain ⟨last, wrote, rest⟩ :=
    shows.messageObject texts (writes_save payload deep agrees.payload) each once agrees.whole
  exact ⟨last, [_], wrote, stacked_singleton rfl, rest⟩

-----------------------------------------------------------------------------------------
-- Finished pickles
-----------------------------------------------------------------------------------------

theorem Draft.refusal?_eq_none {d : Draft}
    : d.refusal? = none ↔ ∀ o ∈ d.written, o.refusal? d.version = none := by
  simp only [refusal?, List.findSome?_eq_none_iff, written, List.mem_filterMap]
  constructor
  · rintro all o ⟨s, member, code⟩
    cases s with
    | object => contradiction
    | code p => exact Option.some.inj code ▸ all _ member
  · intro all s member
    cases s with
    | object => rfl
    | code o => exact all o ⟨_, member, rfl⟩

theorem Draft.finish_of_accepted {d : Draft} (version : d.version = 4)
    (accepted : d.refusal? = none)
    : d.finish
      = if (assemble 4 d.steps.reverse).length < maxLength then .ok (assemble 4 d.steps.reverse)
        else .error .memory := by
  rw [finish, accepted, version]

/-- What is written of a finished draft is read as its instructions, and the machine ends with the
value that the draft shows. -/
theorem load?_of_finish {d : Draft} {item : Item} {v : Value}
    (shows : d.Shows known [] [item] []) (value : item.value? = some v) {bytes : Bytes}
    (finished : d.finish = .ok bytes)
    : load? bytes = some v := by
  obtain ⟨version, current, _, memo, run, _⟩ := shows
  have unrefused : d.refusal? = none := by
    cases refusal : d.refusal? with
    | none => rfl
    | some e =>
        rw [Draft.finish, refusal] at finished
        contradiction
  have accepted := Draft.refusal?_eq_none.mp unrefused
  rw [version] at accepted
  rw [Draft.finish_of_accepted version unrefused] at finished
  by_cases room : (assemble 4 d.steps.reverse).length < maxLength
  · rw [if_pos room] at finished
    have read := read?_assemble room (fun o member => (current o member).1) accepted
    rw [← Except.ok.inj finished, load?, read]
    simp only [Option.bind_eq_bind, Option.bind_some]
    rw [← Draft.written, run]
    exact value
  · rw [if_neg room] at finished
    contradiction

theorem exists_shows_of_writes {depth : Nat} {p : Part} {v : Value}
    (writes : Writes known (save depth) p [v])
    : ∃ d item, save depth .start p = .ok d ∧ item.value? = some v
        ∧ d.Shows known [] [item] [] := by
  obtain ⟨d, items, wrote, stacked, shows⟩ := writes _ _ _ _ Draft.shows_start
  obtain ⟨item, rfl, value⟩ := stacked.eq_singleton
  exact ⟨d, item, wrote, value, shows⟩

variable [Platform]

theorem dump_eq (p : Part) : dump 4 p = (save Platform.pickledDepth .start p).bind Draft.finish :=
  rfl

/-- A pickle gives back what would be written with enough room, however much room there was. -/
theorem load?_of_dump {depth : Nat} {p : Part} {v : Value}
    (writes : Writes known (save depth) p [v]) {bytes : Bytes} (dumped : dump 4 p = .ok bytes)
    : load? bytes = some v := by
  obtain ⟨d, item, wrote, value, shows⟩ := exists_shows_of_writes writes
  obtain ⟨other, saved, finished⟩ := bind_eq_ok.mp dumped
  have most := covers_save (Nat.le_max_left depth Platform.pickledDepth) p .start d wrote
  have same := covers_save (Nat.le_max_right depth Platform.pickledDepth) p .start other saved
  obtain rfl := Except.ok.inj (most.symm.trans same)
  exact load?_of_finish shows value finished

end Pickle

end Dispatch
