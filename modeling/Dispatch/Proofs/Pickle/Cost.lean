import Dispatch.Proofs.Pickle.Growth
import Mathlib.Algebra.BigOperators.Group.List.Basic

/-! What writing costs. Data costs its extent at most, whatever is fetched from the memo and however
its containers are cut into batches, so data of a small extent always has a pickle.
-/

namespace Dispatch.Pickle

open Dispatch.Result

variable {α : Type}

/-- Whether writing something adds at most a given count of bytes wherever it goes well. -/
def Costs (write : Draft → α → Except Error Draft) (x : α) (count : Nat) : Prop :=
  ∀ d d', write d x = .ok d' → d.Grows d' count

variable {write : Draft → α → Except Error Draft} {cost : α → Nat} {ending : Opcode} {xs : List α}

theorem sum_map_add_const (xs : List α) (cost : α → Nat) (count : Nat)
    : (xs.map fun x => cost x + count).sum = (xs.map cost).sum + count * xs.length := by
  rw [List.sum_map_add, List.map_const', List.sum_replicate_nat, Nat.mul_comm]

/-- Items in turn cost what each of them costs, by induction on the items. -/
theorem costs_foldlM (each : ∀ x ∈ xs, Costs write x (cost x))
    : Costs (List.foldlM write) xs (xs.map cost).sum := by
  induction xs with
  | nil =>
      rintro d d' ⟨⟩
      exact .refl d
  | cons x xs ih =>
      intro d d' folded
      rw [List.foldlM_cons, bind_eq_ok] at folded
      obtain ⟨next, wrote, folded⟩ := folded
      have first := each x (List.mem_cons_self ..) d next wrote
      have rest := ih (fun y member => each y (List.mem_cons_of_mem _ member)) next d' folded
      rw [List.map_cons, List.sum_cons]
      exact first.trans rest

theorem costs_oneByOne (short : ending.extent ≤ 64) (each : ∀ x ∈ xs, Costs write x (cost x))
    : Costs (oneByOne write ending) xs ((xs.map cost).sum + 64 * xs.length) := by
  have ended : ∀ x ∈ xs,
      Costs (fun d x => (write d x).map (·.code ending)) x (cost x + 64) := by
    intro x member d d' wrote
    obtain ⟨next, first, rfl⟩ := map_eq_ok.mp wrote
    exact ((each x member d next first).trans (next.grows_code ending)).mono (by omega)
  have folded := costs_foldlM ended
  rw [sum_map_add_const] at folded
  exact folded

theorem costs_batch (short : ending.extent = 32) (each : ∀ x ∈ xs, Costs write x (cost x))
    : Costs (batch write ending) xs ((xs.map cost).sum + 64) := by
  intro d d' wrote
  obtain ⟨next, folded, rfl⟩ := map_eq_ok.mp wrote
  have items := costs_foldlM each _ next folded
  have mark : Opcode.mark.extent = 32 := rfl
  exact (((d.grows_code .mark).trans items).trans (next.grows_code ending)).mono (by omega)

/-- Batches cost what their items cost and a little for each batch. -/
theorem costs_batches (short : ending.extent = 32) {groups : List (List α)}
    (each : ∀ x ∈ groups.flatten, Costs write x (cost x))
    : Costs (List.foldlM (batch write ending)) groups
        ((groups.flatten.map cost).sum + 64 * groups.length) := by
  have members : ∀ group ∈ groups,
      Costs (batch write ending) group ((group.map cost).sum + 64) := by
    intro group listed
    exact costs_batch short fun x member =>
      each x (List.mem_flatten.mpr ⟨group, listed, member⟩)
  have folded := costs_foldlM members
  rw [sum_map_add_const] at folded
  rw [List.map_flatten, List.sum_flatten, List.map_map]
  exact folded

theorem length_batches_le (xs : List α) : (batches xs).length ≤ xs.length := by
  simp only [batches, List.length_map, List.length_range, batchSize]
  omega

theorem costs_fillList (each : ∀ x ∈ xs, Costs write x (cost x))
    : Costs (fillList write) xs ((xs.map cost).sum + 64 * xs.length) := by
  intro d d' wrote
  rw [fillList] at wrote
  split at wrote
  · exact costs_oneByOne (by simp [Opcode.extent]) each d d' wrote
  · have count := length_batches_le xs
    have groups := costs_batches rfl (by rwa [flatten_batches]) d d' wrote
    rw [flatten_batches] at groups
    exact groups.mono (by omega)

theorem costs_fillMap (each : ∀ x ∈ xs, Costs write x (cost x))
    : Costs (fillMap write) xs ((xs.map cost).sum + 64 * xs.length + 64) := by
  intro d d' wrote
  rw [fillMap] at wrote
  split at wrote
  · exact (costs_oneByOne (by simp [Opcode.extent]) each d d' wrote).mono (by omega)
  · have count := length_batches_le xs
    have groups := costs_batches rfl (by rwa [flatten_batches_append]) d d' wrote
    rw [flatten_batches_append, List.length_append] at groups
    refine groups.mono ?_
    split <;> simp only [List.length_singleton, List.length_nil] <;> omega

theorem extents_eq (items : List Value)
    : Value.extents items = (items.map Value.extent).sum + 64 * items.length := by
  induction items with
  | nil => rfl
  | cons v items ih =>
      simp only [Value.extents, ih, List.map_cons, List.sum_cons, List.length_cons]
      omega

theorem entryExtents_eq (entries : List (Value × Value))
    : Value.entryExtents entries
      = (entries.map fun e => e.1.extent + e.2.extent).sum + 64 * entries.length := by
  induction entries with
  | nil => rfl
  | cons e entries ih =>
      simp only [Value.entryExtents, ih, List.map_cons, List.sum_cons, List.length_cons]
      omega

theorem headerExtents_eq (headers : List (Text × Value))
    : Value.headerExtents headers
      = (headers.map fun h => (Value.text h.1).extent + h.2.extent).sum + 64 * headers.length := by
  induction headers with
  | nil => rfl
  | cons h headers ih =>
      simp only [Value.headerExtents, Value.extent, ih, List.map_cons, List.sum_cons,
        List.length_cons]
      omega

theorem grows_empty (d : Draft) {o : Opcode} (short : o.extent = 32)
    : d.Grows (d.object.code o).store 73 := by
  have grows := (d.grows_object.trans (Draft.grows_code _ o)).trans (Draft.grows_store _)
  exact grows.mono (by omega)

/-- What is written as one instruction. -/
theorem grows_scalar (d : Draft) {o : Opcode} {count : Nat} (fits : 9 + o.extent ≤ count)
    : d.Grows (d.object.code o) count :=
  (d.grows_object.trans (Draft.grows_code _ o)).mono fits

/-- A container costs what filling it costs and its start. -/
theorem grows_complete {d d' : Draft} {o : Opcode} (short : o.extent = 32) {object : Option Nat}
    {fill : Draft → Except Error Draft} {count : Nat}
    (filled : ∀ next last, fill next = .ok last → next.Grows last count)
    (wrote : (d.object.code o).store.complete object fill = .ok d')
    : d.Grows d' (count + 73) := by
  obtain ⟨last, first, rfl⟩ := map_eq_ok.mp wrote
  refine (((grows_empty d short).trans (filled _ last first)).trans
    (Draft.grows_note _ _ _)).mono ?_
  omega

theorem le_extent (v : Value) : 128 ≤ v.extent := by
  cases v <;> simp only [Value.extent] <;> omega

section

variable {save : Draft → Part → Except Error Draft} {s : Sharing}

theorem sum_extents_items (s : Sharing) (vs : List Value)
    : ((s.items vs).map fun p => p.value.extent).sum + 64 * (s.items vs).length
      = Value.extents vs := by
  have values := congrArg (fun vs => (vs.map Value.extent).sum) (map_value_items s vs)
  have length := congrArg List.length (map_value_items s vs)
  simp only [List.map_map, List.length_map, Function.comp_def] at values length
  rw [extents_eq, values, length]

theorem sum_extents_entries (s : Sharing) (es : List (Value × Value))
    : ((s.entries es).map fun e => e.1.value.extent + e.2.value.extent).sum
        + 64 * (s.entries es).length
      = Value.entryExtents es := by
  have values := congrArg (fun es => (es.map fun e => e.1.extent + e.2.extent).sum)
    (map_entryOf_entries s es)
  have length := congrArg List.length (map_entryOf_entries s es)
  simp only [List.map_map, List.length_map, Function.comp_def, entryOf] at values length
  rw [entryExtents_eq, values, length]

theorem sum_extents_headers (s : Sharing) (hs : List (Text × Value))
    : ((s.headers hs).map fun h => (Value.text h.1).extent + h.2.2.value.extent).sum
        + 64 * (s.headers hs).length
      = Value.headerExtents hs := by
  have values := congrArg (fun hs => (hs.map fun h => (Value.text h.1).extent + h.2.extent).sum)
    (map_headerOf_headers s hs)
  have length := congrArg List.length (map_headerOf_headers s hs)
  simp only [List.map_map, List.length_map, Function.comp_def, headerOf] at values length
  rw [headerExtents_eq, values, length]

/-- Fetching costs less than any value. -/
theorem costs_save_of_write {depth : Nat} {v : Value}
    (wrote : Costs (fun d v => Pickle.write (Pickle.save depth) d s v) v v.extent)
    : Costs (Pickle.save (depth + 1)) ⟨v, s⟩ v.extent := by
  intro d d' saved
  rw [Pickle.save] at saved
  split at saved
  · cases saved
    exact grows_scalar d (Nat.le_trans (by simp [Opcode.extent]) (le_extent v))
  · exact wrote d d' saved

section

variable {items : List Value} {entries : List (Value × Value)}

theorem costs_write_list (inner : ∀ p ∈ s.items items, Costs save p p.value.extent)
    : Costs (fun d v => Pickle.write save d s v) (.list items) (Value.list items).extent := by
  intro d d' wrote
  refine (grows_complete rfl (fun next last => costs_fillList inner next last) wrote).mono ?_
  rw [sum_extents_items, Value.extent]
  omega

theorem costs_write_tuple (inner : ∀ p ∈ s.items items, Costs save p p.value.extent)
    : Costs (fun d v => Pickle.write save d s v) (.tuple items) (Value.tuple items).extent := by
  intro d d' wrote
  cases items with
  | nil =>
      cases wrote
      exact d.grows_emptyTuple.mono (by decide)
  | cons v items =>
      obtain ⟨next, folded, rfl⟩ := map_eq_ok.mp wrote
      have opened := d.grows_object.trans (Draft.grows_openTuple _ (v :: items).length)
      have gathered := opened.trans (costs_foldlM inner _ next folded)
      have closed := gathered.trans (Draft.grows_closeTuple _ (v :: items).length)
      refine (closed.trans (Draft.grows_note _ _ _)).mono ?_
      have total := sum_extents_items s (v :: items)
      rw [Value.extent]
      omega

theorem costs_write_map (keys : ∀ e ∈ s.entries entries, Costs save e.1 e.1.value.extent)
    (values : ∀ e ∈ s.entries entries, Costs save e.2 e.2.value.extent)
    : Costs (fun d v => Pickle.write save d s v) (.map .plain entries)
        (Value.map .plain entries).extent := by
  have inner : ∀ e ∈ s.entries entries,
      Costs (saveEntry save) e (e.1.value.extent + e.2.value.extent) := by
    intro e member d d' wrote
    obtain ⟨next, first, second⟩ := bind_eq_ok.mp wrote
    exact (keys e member d next first).trans (values e member next d' second)
  intro d d' wrote
  refine (grows_complete rfl (fun next last => costs_fillMap inner next last) wrote).mono ?_
  have total := sum_extents_entries s entries
  rw [Value.extent]
  omega

end

end

/-- Data costs its extent at most, by induction on the data. -/
theorem costs_save {n depth : Nat} {v : Value} (data : v.IsData n) (deep : n ≤ depth) (s : Sharing)
    : Costs (save (depth + 1)) ⟨v, s⟩ v.extent := by
  induction data generalizing depth s with
  | null n =>
      refine costs_save_of_write ?_
      rintro d d' ⟨⟩
      exact grows_scalar d (by decide)
  | bool n b =>
      refine costs_save_of_write ?_
      rintro d d' ⟨⟩
      exact grows_scalar d (by simp [Opcode.extent, Value.extent])
  | int n i =>
      refine costs_save_of_write ?_
      rintro d d' ⟨⟩
      refine grows_scalar d ?_
      simp only [Opcode.extent, Value.extent]
      omega
  | float n x =>
      refine costs_save_of_write ?_
      rintro d d' ⟨⟩
      exact grows_scalar d (by simp [Opcode.extent, Value.extent])
  | text n t =>
      refine costs_save_of_write ?_
      rintro d d' ⟨⟩
      exact d.grows_sharedText s.object? t
  | bytes n b =>
      refine costs_save_of_write ?_
      rintro d d' ⟨⟩
      exact (d.grows_bytes _ b).mono (by simp [Value.extent])
  | list _ ih =>
      obtain ⟨depth, rfl⟩ := Nat.exists_eq_add_of_le' deep
      exact costs_save_of_write <| costs_write_list fun p member =>
        ih p.value (value_mem_of_mem_items member) (Nat.le_add_left ..) p.sharing
  | tuple _ ih =>
      obtain ⟨depth, rfl⟩ := Nat.exists_eq_add_of_le' deep
      exact costs_save_of_write <| costs_write_tuple fun p member =>
        ih p.value (value_mem_of_mem_items member) (Nat.le_add_left ..) p.sharing
  | map _ _ _ keyIh valueIh =>
      obtain ⟨depth, rfl⟩ := Nat.exists_eq_add_of_le' deep
      refine costs_save_of_write (costs_write_map ?_ ?_)
      · exact fun e member =>
          keyIh (entryOf e) (entryOf_mem_of_mem_entries member) (Nat.le_add_left ..) e.1.sharing
      · exact fun e member =>
          valueIh (entryOf e) (entryOf_mem_of_mem_entries member) (Nat.le_add_left ..) e.2.sharing

-----------------------------------------------------------------------------------------
-- Messages
-----------------------------------------------------------------------------------------

/-- Whether writing a field costs the extent of its value at most. -/
def Field.IsBounded (f : Field) : Prop :=
  Costs (fun d (f : Field) => f.write d) f f.value.extent

theorem grows_record {fields : List Field} (each : ∀ f ∈ fields, f.IsBounded) {d d' : Draft}
    (wrote : record d (fields.map Field.written) = .ok d')
    : d.Grows d' (Value.map .plain (fields.map Field.entry)).extent := by
  have named : ∀ f ∈ fields, Costs (fun d f => saveField d f.written) f
      ((Value.text (text f.name)).extent + f.value.extent) := by
    intro f member d d' wrote
    exact (d.grows_text (text f.name)).trans (each f member _ d' wrote)
  rw [record] at wrote
  simp only [fillMap_map] at wrote
  refine (grows_complete rfl (fun next last => costs_fillMap named next last) wrote).mono ?_
  rw [Value.extent, entryExtents_eq, List.map_map, List.length_map]
  simp only [Function.comp_def, Field.entry]
  omega

section

variable {save : Draft → Part → Except Error Draft} {sharing : Sharing} {payload : Value}
  {headers : List (Text × Value)} {given : Given}

theorem grows_setObject {object : Option Nat} {items : List Part}
    (each : ∀ p ∈ items, Costs save p p.value.extent) {d d' : Draft} (newest : d.version = 4)
    (wrote : setObject save d object items = .ok d')
    : d.Grows d' (Value.set (items.map Part.value)).extent := by
  rw [setObject, if_pos (Nat.le_of_eq newest.symm)] at wrote
  have count := length_batches_le items
  have filled (next last : Draft)
      (folded : (batches items).foldlM (batch save .addItems) next = .ok last)
      : next.Grows last
          ((items.map fun p => p.value.extent).sum + 64 * (batches items).length) := by
    have groups := costs_batches rfl (by rwa [flatten_batches]) next last
      folded
    rwa [flatten_batches] at groups
  refine (grows_complete rfl filled wrote).mono ?_
  rw [Value.extent, extents_eq, List.map_map, List.length_map]
  simp only [Function.comp_def]
  omega

theorem entryExtents_headers (headers : List (Text × Value))
    : Value.entryExtents (headers.map headerEntry) = Value.headerExtents headers := by
  rw [entryExtents_eq, headerExtents_eq, List.map_map, List.length_map]
  rfl

theorem isBounded_messageFields (byteNames : List Text)
    (first : Costs save ⟨payload, sharing.part 0⟩ payload.extent)
    (each : ∀ h ∈ (sharing.part 1).headers headers, Costs save h.2.2 h.2.2.value.extent)
    : ∀ f ∈ messageFields save sharing payload headers byteNames, f.IsBounded := by
  have named : ∀ h ∈ (sharing.part 1).headers headers, Costs (saveHeader save byteNames) h
      ((Value.text h.1).extent + h.2.2.value.extent) := by
    intro h member d d' wrote
    rw [saveHeader] at wrote
    split at wrote
    · exact (d.grows_byteName h.1).trans (each h member _ d' wrote)
    · exact (d.grows_sharedText h.2.1 h.1).trans (each h member _ d' wrote)
  simp only [messageFields, List.forall_mem_cons]
  refine ⟨first, ?_, by simp⟩
  intro d d' wrote
  refine (grows_complete rfl (fun next last => costs_fillMap named next last) wrote).mono ?_
  have total := sum_extents_headers (sharing.part 1) headers
  rw [Value.extent, entryExtents_headers]
  omega

theorem isBounded_messageState
    (texts : ∀ t, Costs save (.byContent (.text t)) (Value.text t).extent)
    (first : Costs save ⟨payload, sharing.part 0⟩ payload.extent)
    (each : ∀ h ∈ (sharing.part 1).headers headers, Costs save h.2.2 h.2.2.value.extent)
    : ∀ f ∈ messageState save sharing payload headers given, f.IsBounded := by
  have null : 9 + Opcode.null.extent ≤ Value.null.extent := by decide
  have nothing (name : String)
      : Field.IsBounded ⟨name, fun d => .ok (d.object.code .null), .null⟩ := by
    rintro d d' ⟨⟩
    exact grows_scalar d null
  have fields := isBounded_messageFields given.byteNames first each
  have names : ∀ p ∈ (givenNames given).map Part.byContent, Costs save p p.value.extent := by
    obtain ⟨names, list, _⟩ := exists_givenNames given
    rw [list, List.map_map]
    exact List.forall_mem_map.mpr fun t _ => texts t
  have values : ((givenNames given).map Part.byContent).map Part.value = givenNames given := by
    simp [Part.byContent, Function.comp_def]
  simp only [messageState, List.forall_mem_cons]
  refine ⟨fun _ _ wrote => grows_record fields wrote, nothing _, ?_, nothing _, by simp⟩
  intro d d' wrote newest
  have bound := grows_setObject names newest wrote
  rw [values] at bound
  exact bound newest

theorem extents_givenNames_le (given : Given) : Value.extents (givenNames given) ≤ 512 := by
  have first : (Value.text (text "payload")).extent = 135 := by decide
  have second : (Value.text (text "headers")).extent = 135 := by decide
  obtain ⟨payload, headers, byteNames⟩ := given
  cases payload <;> cases headers <;> simp [givenNames, Value.extents, first, second]

/-- The names of the fields, the class and the containers of a message take less than 4096 bytes. -/
theorem extent_messageState_le
    : (Value.map .plain
        ((messageState save sharing payload headers given).map Field.entry)).extent + 512
      ≤ (Value.message payload headers given).extent := by
  have dict : (Value.text (text "__dict__")).extent = 136 := by decide
  have extra : (Value.text (text "__pydantic_extra__")).extent = 146 := by decide
  have set : (Value.text (text "__pydantic_fields_set__")).extent = 151 := by decide
  have hidden : (Value.text (text "__pydantic_private__")).extent = 148 := by decide
  have first : (Value.text (text "payload")).extent = 135 := by decide
  have second : (Value.text (text "headers")).extent = 135 := by decide
  have null : Value.null.extent = 128 := by decide
  have names := extents_givenNames_le given
  have fields (entries : List (Value × Value))
      : (Value.map .plain entries).extent = 256 + Value.entryExtents entries := by
    rw [Value.extent]
  have items (values : List Value) : (Value.set values).extent = 256 + Value.extents values := by
    rw [Value.extent]
  have whole : (Value.message payload headers given).extent
      = 4096 + payload.extent + Value.headerExtents headers := by
    rw [Value.extent]
  simp only [messageState, messageFields, List.map_cons, List.map_nil, Field.entry, fields,
    Value.entryExtents, dict, extra, set, hidden, first, second, null, items, whole,
    entryExtents_headers]
  omega

theorem costs_messageObject
    (texts : ∀ t, Costs save (.byContent (.text t)) (Value.text t).extent)
    (first : Costs save ⟨payload, sharing.part 0⟩ payload.extent)
    (each : ∀ h ∈ (sharing.part 1).headers headers, Costs save h.2.2 h.2.2.value.extent)
    {d d' : Draft} (wrote : messageObject save d sharing payload headers given = .ok d')
    : d.Grows d' (Value.message payload headers given).extent := by
  rw [messageObject_eq] at wrote
  obtain ⟨last, completed, rfl⟩ := map_eq_ok.mp wrote
  obtain ⟨next, recorded, rfl⟩ := map_eq_ok.mp completed
  have made := d.grows_construct "outbound_http.models" "Message" "object"
  have state := grows_record (isBounded_messageState texts first each) recorded
  have module : (Value.text (text "outbound_http.models")).extent = 148 := by decide
  have name : (Value.text (text "Message")).extent = 135 := by decide
  have bound : (Value.map .plain
        ((messageState save sharing payload headers given).map Field.entry)).extent + 512
      ≤ (Value.message payload headers given).extent := extent_messageState_le
  have build : Opcode.build.extent = 32 := rfl
  have built := (made.trans state).trans (next.grows_code .build)
  exact (built.trans (Draft.grows_note _ _ _)).mono (by omega)

end

theorem costs_save_message {n depth : Nat} {m : Message} (payload : m.payload.IsData n)
    (headers : ∀ h ∈ m.headers, h.2.IsData n) (deep : n ≤ depth) (s : Sharing)
    : Costs (save (depth + 2)) ⟨m.toValue, s⟩ m.toValue.extent := by
  have texts (t : Text) : Costs (save (depth + 1)) (.byContent (.text t)) (Value.text t).extent :=
    costs_save (.text 0 t) (Nat.zero_le depth) _
  have each : ∀ h ∈ (s.part 1).headers m.headers,
      Costs (save (depth + 1)) h.2.2 h.2.2.value.extent := fun h member =>
    costs_save (headers _ (headerOf_mem_of_mem_headers member)) deep h.2.2.sharing
  rw [Message.toValue]
  refine costs_save_of_write ?_
  intro d d' wrote
  exact costs_messageObject texts (costs_save payload deep _) each wrote

-----------------------------------------------------------------------------------------
-- Values that come back
-----------------------------------------------------------------------------------------

variable [Platform]

/-- Whether one value comes back as another: each pickle of it gives the other, and it has a pickle
where there is room for its nesting, unless it is very large. -/
structure Restores (p : Part) (v : Value) : Prop where
  load : ∀ bytes, dump 4 p = .ok bytes → load? bytes = some v
  dump : 102 ≤ Platform.pickledDepth → p.value.extent < 0x80000000 → ∃ bytes, dump 4 p = .ok bytes

theorem restores_of_writes {depth : Nat} {known : Nat → Value} {p : Part} {v : Value}
    (enough : depth ≤ 102) (writes : Writes known (save depth) p [v])
    (costs : Costs (save depth) p p.value.extent)
    : Restores p v := by
  refine ⟨fun bytes dumped => load?_of_dump writes dumped, fun room small => ?_⟩
  obtain ⟨d, item, wrote, _, shows⟩ := exists_shows_of_writes writes
  have saved := covers_save (Nat.le_trans enough room) p .start d wrote
  have bound := (costs _ d wrote rfl).2
  have empty : Draft.extent .start = 0 := rfl
  rw [dump_eq, saved]
  exact shows.exists_finish (by omega)

variable {s : Sharing}

/-- Data comes back as it is, whatever it shares. -/
theorem restores_of_isData {v : Value} (data : v.IsData 100) (fits : s.Fits v)
    : Restores ⟨v, s⟩ v := by
  obtain ⟨known, agrees⟩ := fits.exists_agrees
  exact restores_of_writes (by decide) (writes_save data (Nat.le_refl _) agrees)
    (costs_save data (Nat.le_refl _) s)

/-- A message of data comes back, but for the way in which its header names were given. -/
theorem restores_message {m : Message} (payload : m.payload.IsData 100)
    (headers : ∀ h ∈ m.headers, h.2.IsData 100) (once : (m.headers.map (·.1)).Nodup)
    (fits : s.Fits m.toValue)
    : Restores ⟨m.toValue, s⟩ m.toValue.restored := by
  obtain ⟨known, agrees⟩ := fits.exists_agrees
  exact restores_of_writes (Nat.le_refl _)
    (writes_save_message payload headers once (Nat.le_refl _) agrees)
    (costs_save_message payload headers (Nat.le_refl _) s)

end Dispatch.Pickle
