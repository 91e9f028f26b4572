import Dispatch.Pickle.Machine
import Dispatch.Proofs.Pickle.Framing

/-! What the machine shows after the instructions of a draft. The numbers of memo entries are those
that the machine gives them, so what a draft fetches is what it stored under the same key. An entry
that is still being filled has no key yet.
-/

namespace Dispatch.Pickle

/-- What a fetched entry puts on the stack, if the values of objects are known by their numbers. -/
def MemoKey.item (known : Nat → Value) : MemoKey → Item
  | .text t => .value (.text t)
  | .byteName t => .value (.text t)
  | .bytes b => .value (.blob .fixed b)
  | .global module name => .named module name
  | .object n => .value (known n)

theorem MemoKey.stored?_item (known : Nat → Value) (key : MemoKey) (index : Nat)
    : (key.item known).stored? index = some (key.item known) := by
  cases key <;> rfl

theorem MemoKey.fetched?_item (known : Nat → Value) (key : MemoKey)
    : (key.item known).fetched? = some (key.item known) := by
  cases key <;> rfl

theorem MemoKey.item_ofObject {known : Nat → Value} {object : Option Nat} {key : MemoKey}
    {v : Value} (content : key.item known = .value v) (same : ∀ n ∈ object, known n = v)
    : (MemoKey.ofObject object key).item known = .value v := by
  cases object with
  | none => exact content
  | some n => exact congrArg Item.value (same n rfl)

namespace Machine

theorem run?_append (s : Machine) (first second : List Opcode)
    : s.run? (first ++ second) = (s.run? first).bind (·.run? second) :=
  List.foldlM_append

theorem run?_singleton (s : Machine) (o : Opcode) : s.run? [o] = s.step? o := by
  rw [run?, List.foldlM_cons]
  cases s.step? o <;> rfl

theorem step?_memoize {item entry : Item} {memo : List Item}
    (stored : item.stored? memo.length = some entry) (stack : List Item) (below : List (List Item))
    : step? ⟨item :: stack, below, memo⟩ .memoize
      = some ⟨entry :: stack, below, memo ++ [entry]⟩ := by
  simp only [step?, memoize?, stored]
  rfl

theorem step?_get {memo : List Item} {index : Nat} {item : Item}
    (held : memo[index]?.bind Item.fetched? = some item) (stack : List Item)
    (below : List (List Item))
    : step? ⟨stack, below, memo⟩ (.get index)
      = some ⟨item :: stack, below, memo.set index item⟩ := by
  simp only [step?, fetch?, held]
  rfl

/-- What needs something on the stack is no fetch. -/
theorem ne_get_of_empty {o : Opcode} (needs : ∀ memo, step? ⟨[], [], memo⟩ o = none) (index : Nat)
    : o ≠ .get index := by
  rintro rfl
  have fetched := needs (List.replicate (index + 1) (.value .null))
  simp [step?, fetch?, Item.fetched?] at fetched

theorem replace?_of_isOpen {memo : List Item} {index : Nat} {entry : Item}
    (held : memo[index]? = some entry) (isOpen : entry.isOpen) (item : Item)
    (stack rest : List Item) (below : List (List Item))
    : replace? ⟨stack, below, memo⟩ (some index) item rest
      = some ⟨item :: rest, below, memo.set index item⟩ := by
  simp only [replace?, held, Option.any_some, isOpen, if_true]

end Machine

namespace Draft

/-- The instructions of a draft, the first one in front. -/
def written (d : Draft) : List Opcode :=
  d.steps.reverse.filterMap Step.code?

@[simp] theorem written_code (d : Draft) (o : Opcode) : (d.code o).written = d.written ++ [o] := by
  simp [written, code, Step.code?]

@[simp] theorem written_object (d : Draft) : d.object.written = d.written := by
  simp [written, object, Step.code?]

/-- The instructions are those of version 4, and an instruction fetches only memo entries that have
an instruction before it. -/
def AreCurrent (os : List Opcode) : Prop :=
  ∀ o ∈ os, o.IsCurrent ∧ ∀ index, o = .get index → index < os.length

theorem AreCurrent.append {os : List Opcode} (before : AreCurrent os) {o : Opcode}
    (current : o.IsCurrent) (fetched : ∀ index, o = .get index → index < os.length)
    : AreCurrent (os ++ [o]) := by
  have longer : os.length < (os ++ [o]).length := by simp
  intro p member
  rcases List.mem_append.mp member with member | member
  · obtain ⟨known, earlier⟩ := before p member
    exact ⟨known, fun index get => Nat.lt_trans (earlier index get) longer⟩
  · obtain rfl := List.mem_singleton.mp member
    exact ⟨current, fun index get => Nat.lt_trans (fetched index get) longer⟩

/-- The memo of the machine holds the item of each key of a draft under the number of the key, and
what is being filled under numbers that have no key. -/
structure Holds (known : Nat → Value) (filling : List (Nat × Item)) (d : Draft)
    (memo : List Item) : Prop where
  count : memo.length = d.count
  keyed : ∀ e ∈ d.memo, memo[e.2]?.bind Item.fetched? = some (e.1.item known)
  unkeyed : ∀ c ∈ filling, memo[c.1]? = some c.2
  apart : ∀ e ∈ d.memo, ∀ c ∈ filling, e.2 ≠ c.1
  once : (filling.map (·.1)).Nodup

/-- After the instructions of a draft of version 4 the machine has a given stack, and its memo holds
what the draft may fetch. -/
structure Shows (known : Nat → Value) (filling : List (Nat × Item)) (d : Draft)
    (stack : List Item) (below : List (List Item)) : Prop where
  version : d.version = 4
  current : AreCurrent d.written
  stored : d.count ≤ d.written.length
  run : ∃ memo, Machine.start.run? d.written = some ⟨stack, below, memo⟩
    ∧ d.Holds known filling memo

variable {known : Nat → Value} {filling filling' : List (Nat × Item)} {d : Draft}
  {stack stack' : List Item} {below below' : List (List Item)} {memo : List Item}

-----------------------------------------------------------------------------------------
-- The memo
-----------------------------------------------------------------------------------------

theorem Holds.congr (holds : d.Holds known filling memo) {d' : Draft} (count : d'.count = d.count)
    (keys : d'.memo = d.memo)
    : d'.Holds known filling memo :=
  ⟨holds.count.trans count.symm, keys ▸ holds.keyed, holds.unkeyed, keys ▸ holds.apart, holds.once⟩

theorem Holds.lt_count (holds : d.Holds known filling memo) {e : MemoKey × Nat}
    (member : e ∈ d.memo)
    : e.2 < d.count := by
  obtain ⟨item, held, _⟩ := Option.bind_eq_some_iff.mp (holds.keyed e member)
  exact holds.count ▸ (List.getElem?_eq_some_iff.mp held).1

theorem Holds.lt_count_of_filling (holds : d.Holds known filling memo) {c : Nat × Item}
    (member : c ∈ filling)
    : c.1 < d.count :=
  holds.count ▸ (List.getElem?_eq_some_iff.mp (holds.unkeyed c member)).1

/-- A new entry comes last. It may be fetched under any key whose item it is. -/
theorem Holds.store (holds : d.Holds known filling memo) {item : Item} (keys : List MemoKey)
    (same : ∀ key ∈ keys, item.fetched? = some (key.item known))
    : Holds known filling { d.store with memo := keys.map (·, d.count) ++ d.memo }
        (memo ++ [item]) := by
  refine ⟨by simp [Draft.store, holds.count], ?_, ?_, ?_, holds.once⟩
  · intro e member
    rcases List.mem_append.mp member with member | member
    · obtain ⟨key, listed, rfl⟩ := List.mem_map.mp member
      rw [← holds.count, List.getElem?_concat_length]
      exact same key listed
    · rw [List.getElem?_append_left (holds.count ▸ holds.lt_count member)]
      exact holds.keyed e member
  · intro c member
    rw [List.getElem?_append_left (holds.count ▸ holds.lt_count_of_filling member)]
    exact holds.unkeyed c member
  · intro e member c listed
    have early := holds.lt_count_of_filling listed
    rcases List.mem_append.mp member with member | member
    · obtain ⟨key, _, rfl⟩ := List.mem_map.mp member
      exact Nat.ne_of_gt early
    · exact holds.apart e member c listed

/-- A new entry that is still to be filled. -/
theorem Holds.start (holds : d.Holds known filling memo) (item : Item)
    : d.store.Holds known ((d.count, item) :: filling) (memo ++ [item]) := by
  have stored : d.store.Holds known filling (memo ++ [item]) := holds.store [] (by simp)
  refine ⟨stored.count, stored.keyed, ?_, ?_, ?_⟩
  · refine List.forall_mem_cons.mpr ⟨?_, stored.unkeyed⟩
    rw [← holds.count, List.getElem?_concat_length]
  · intro e member
    refine List.forall_mem_cons.mpr ⟨?_, stored.apart e member⟩
    exact Nat.ne_of_lt (holds.lt_count member)
  · refine List.nodup_cons.mpr ⟨?_, holds.once⟩
    intro member
    obtain ⟨c, listed, same⟩ := List.mem_map.mp member
    exact Nat.ne_of_lt (holds.lt_count_of_filling listed) same

/-- Filling changes one entry, which no key has yet. -/
theorem Holds.fill {index : Nat} {item : Item}
    (holds : d.Holds known ((index, item) :: filling) memo) (filled : Item)
    : d.Holds known ((index, filled) :: filling) (memo.set index filled) := by
  obtain ⟨other, once⟩ := List.nodup_cons.mp holds.once
  have inside : index < memo.length := by
    have early := holds.lt_count_of_filling (List.mem_cons_self ..)
    exact holds.count ▸ early
  refine ⟨by simp [holds.count], ?_, ?_, ?_, holds.once⟩
  · intro e member
    have apart := holds.apart e member _ (List.mem_cons_self ..)
    rw [List.getElem?_set_ne (Ne.symm apart)]
    exact holds.keyed e member
  · refine List.forall_mem_cons.mpr ⟨List.getElem?_set_self inside, ?_⟩
    intro c member
    have apart : index ≠ c.1 := fun same => other (List.mem_map.mpr ⟨c, member, same.symm⟩)
    rw [List.getElem?_set_ne apart]
    exact holds.unkeyed c (List.mem_cons_of_mem _ member)
  · intro e member
    obtain ⟨first, rest⟩ := List.forall_mem_cons.mp (holds.apart e member)
    exact List.forall_mem_cons.mpr ⟨first, rest⟩

/-- What is filled may be fetched from then on. -/
theorem Holds.note {index : Nat} {item : Item}
    (holds : d.Holds known ((index, item) :: filling) memo) {object : Option Nat} {v : Value}
    (filled : item.fetched? = some (.value v)) (same : ∀ n ∈ object, known n = v)
    : (d.note object index).Holds known filling memo := by
  obtain ⟨other, once⟩ := List.nodup_cons.mp holds.once
  have held : memo[index]? = some item := holds.unkeyed _ (List.mem_cons_self ..)
  have listed : ∀ e ∈ (d.note object index).memo,
      (∃ n ∈ object, e = (.object n, index)) ∨ e ∈ d.memo := by
    intro e member
    rcases List.mem_append.mp member with member | member
    · cases object with
      | none => simp at member
      | some n => exact .inl ⟨n, rfl, by simpa using member⟩
    · exact .inr member
  refine ⟨holds.count, ?_, fun c member => holds.unkeyed c (List.mem_cons_of_mem _ member), ?_,
    once⟩
  · intro e member
    rcases listed e member with ⟨n, number, rfl⟩ | member
    · rw [held, Option.bind_some, filled, MemoKey.item, same n number]
    · exact holds.keyed e member
  · intro e member c unkeyed
    rcases listed e member with ⟨n, number, rfl⟩ | member
    · exact fun same => other (List.mem_map.mpr ⟨c, unkeyed, same.symm⟩)
    · exact holds.apart e member c (List.mem_cons_of_mem _ unkeyed)

/-- Fetching leaves the item of each key as it was. -/
theorem Holds.get (holds : d.Holds known filling memo) {e : MemoKey × Nat} (member : e ∈ d.memo)
    : d.Holds known filling (memo.set e.2 (e.1.item known)) := by
  have inside : e.2 < memo.length := holds.count ▸ holds.lt_count member
  refine ⟨by simp [holds.count], ?_, ?_, holds.apart, holds.once⟩
  · intro f listed
    by_cases same : e.2 = f.2
    · have item : some (e.1.item known) = some (f.1.item known) := by
        rw [← holds.keyed e member, ← holds.keyed f listed, same]
      rw [← same, List.getElem?_set_self inside, Option.bind_some, e.1.fetched?_item, item]
    · rw [List.getElem?_set_ne same]
      exact holds.keyed f listed
  · intro c listed
    rw [List.getElem?_set_ne (holds.apart e member c listed)]
    exact holds.unkeyed c listed

-----------------------------------------------------------------------------------------
-- Instructions
-----------------------------------------------------------------------------------------

/-- The draft before anything is written. -/
def start : Draft :=
  ⟨4, [], 0, []⟩

theorem shows_start : Shows known [] start [] [] := by
  refine ⟨rfl, by simp [written, AreCurrent, start], Nat.zero_le _, [], rfl, ?_⟩
  exact ⟨rfl, by simp [start], by simp, by simp, List.nodup_nil⟩

theorem Shows.le_version (shows : d.Shows known filling stack below) {version : Nat}
    (old : version ≤ 4)
    : version ≤ d.version :=
  Nat.le_trans old (Nat.le_of_eq shows.version.symm)

theorem Shows.object (shows : d.Shows known filling stack below)
    : d.object.Shows known filling stack below := by
  obtain ⟨version, current, stored, memo, run, holds⟩ := shows
  rw [← written_object] at current stored run
  exact ⟨version, current, stored, memo, run, holds.congr rfl rfl⟩

/-- One more instruction, which may fetch what the draft has an entry for and may store one. -/
theorem Shows.next (shows : d.Shows known filling stack below) {d' : Draft} {o : Opcode}
    (current : o.IsCurrent) (fetched : ∀ index, o = .get index → ∃ key, (key, index) ∈ d.memo)
    (version : d'.version = d.version) (written : d'.written = d.written ++ [o])
    (count : d'.count ≤ d.count + 1)
    (step : ∀ memo, d.Holds known filling memo
      → ∃ memo', Machine.step? ⟨stack, below, memo⟩ o = some ⟨stack', below', memo'⟩
        ∧ d'.Holds known filling' memo')
    : d'.Shows known filling' stack' below' := by
  obtain ⟨newest, before, stored, memo, run, holds⟩ := shows
  have earlier : ∀ index, o = .get index → index < d.written.length := by
    intro index get
    obtain ⟨key, member⟩ := fetched index get
    exact Nat.lt_of_lt_of_le (holds.lt_count member) stored
  obtain ⟨memo', stepped, holds'⟩ := step memo holds
  refine ⟨version.trans newest, written ▸ before.append current earlier, ?_, memo', ?_, holds'⟩
  · rw [written, List.length_append]
    exact Nat.le_trans count (Nat.succ_le_succ stored)
  · rw [written, Machine.run?_append, run, Option.bind_some, Machine.run?_singleton, stepped]

/-- An instruction that does the same whatever the memo holds. -/
theorem Shows.code (shows : d.Shows known filling stack below) {o : Opcode} (current : o.IsCurrent)
    (step : ∀ memo, Machine.step? ⟨stack, below, memo⟩ o = some ⟨stack', below', memo⟩)
    : (d.code o).Shows known filling stack' below' := by
  refine shows.next current ?_ rfl (written_code d o) (Nat.le_succ _) ?_
  · rintro index rfl
    -- Nothing is fetched from an empty memo.
    simpa [Machine.step?, Machine.fetch?] using step []
  · intro memo holds
    exact ⟨memo, step memo, holds.congr rfl rfl⟩

/-- An instruction that puts an item on the stack. -/
theorem Shows.push (shows : d.Shows known filling stack below) (o : Opcode) {item : Item}
    (current : o.IsCurrent) (step : ∀ s, Machine.step? s o = some (s.push item))
    : (d.object.code o).Shows known filling (item :: stack) below :=
  shows.object.code current fun memo => step ⟨stack, below, memo⟩

theorem Shows.written_store (shows : d.Shows known filling stack below)
    : d.store.written = d.written ++ [.memoize] := by
  simp [Draft.store, shows.le_version (Nat.le_refl 4), written, Draft.code, Step.code?]

/-- Storing what cannot change adds one memo entry. The draft may then fetch it under any key whose
item it is. -/
theorem Shows.storeUnder {item : Item} (shows : d.Shows known filling (item :: stack) below)
    (fixed : ∀ index, item.stored? index = some item) (keys : List MemoKey)
    (same : ∀ key ∈ keys, item.fetched? = some (key.item known))
    : Shows known filling { d.store with memo := keys.map (·, d.count) ++ d.memo }
        (item :: stack) below := by
  refine shows.next (o := .memoize) trivial (fun _ get => by cases get) rfl shows.written_store
    (Nat.le_refl _) ?_
  intro memo holds
  exact ⟨_, Machine.step?_memoize (fixed _) stack below, holds.store keys same⟩

theorem Shows.store {item : Item} (shows : d.Shows known filling (item :: stack) below)
    (fixed : ∀ index, item.stored? index = some item)
    : d.store.Shows known filling (item :: stack) below :=
  shows.storeUnder fixed [] (by simp)

theorem Shows.storeAs {key : MemoKey}
    (shows : d.Shows known filling (key.item known :: stack) below)
    : (d.storeAs key).Shows known filling (key.item known :: stack) below :=
  shows.storeUnder (key.stored?_item known) [key] (by simp [key.fetched?_item])

/-- A value that is stored may be fetched under its number. -/
theorem Shows.storeObject {v : Value} (shows : d.Shows known filling (.value v :: stack) below)
    {object : Option Nat} (same : ∀ n ∈ object, known n = v)
    : (d.store.noteLast object).Shows known filling (.value v :: stack) below := by
  have stored := shows.storeUnder (fun _ => rfl) (object.map .object).toList
  cases object with
  | none => exact stored (by simp)
  | some n => exact stored (by simp [Item.fetched?, MemoKey.item, same n rfl])

/-- Storing what can still change adds one memo entry that is to be filled. -/
theorem Shows.start {item entry : Item} (shows : d.Shows known filling (item :: stack) below)
    (stored : item.stored? d.count = some entry)
    : d.store.Shows known ((d.count, entry) :: filling) (entry :: stack) below := by
  refine shows.next (o := .memoize) trivial (fun _ get => by cases get) rfl shows.written_store
    (Nat.le_refl _) ?_
  intro memo holds
  exact ⟨_, Machine.step?_memoize (holds.count ▸ stored) stack below, holds.start entry⟩

/-- An instruction that changes what is being filled. -/
theorem Shows.fill {index : Nat} {item filled : Item}
    (shows : d.Shows known ((index, item) :: filling) stack below) {o : Opcode}
    (current : o.IsCurrent) (needs : ∀ memo, Machine.step? ⟨[], [], memo⟩ o = none)
    (step : ∀ memo, memo[index]? = some item
      → Machine.step? ⟨stack, below, memo⟩ o = some ⟨stack', below', memo.set index filled⟩)
    : (d.code o).Shows known ((index, filled) :: filling) stack' below' := by
  refine shows.next current (fun i get => absurd get (Machine.ne_get_of_empty needs i)) rfl
    (written_code d o) (Nat.le_succ _) ?_
  intro memo holds
  exact ⟨_, step memo (holds.unkeyed _ (List.mem_cons_self ..)),
    (holds.fill filled).congr rfl rfl⟩

/-- What is filled may be fetched from then on. -/
theorem Shows.note {index : Nat} {item : Item}
    (shows : d.Shows known ((index, item) :: filling) stack below) {object : Option Nat} {v : Value}
    (filled : item.fetched? = some (.value v)) (same : ∀ n ∈ object, known n = v)
    : (d.note object index).Shows known filling stack below := by
  obtain ⟨version, current, stored, memo, run, holds⟩ := shows
  exact ⟨version, current, stored, memo, run, holds.note filled same⟩

/-- An entry that is there is fetched with its item. -/
theorem Shows.get {key : MemoKey} {index : Nat} (shows : d.Shows known filling stack below)
    (found : d.index? key = some index)
    : (d.code (.get index)).Shows known filling (key.item known :: stack) below := by
  obtain ⟨e, search, rfl⟩ := Option.map_eq_some_iff.mp found
  have member := List.mem_of_find?_eq_some search
  have same : e.1 = key := by simpa using List.find?_some search
  subst same
  refine shows.next (o := .get e.2) trivial ?_ rfl (written_code d _) (Nat.le_succ _) ?_
  · intro other get
    exact ⟨e.1, Opcode.get.inj get ▸ member⟩
  · intro memo holds
    exact ⟨_, Machine.step?_get (holds.keyed e member) stack below,
      (holds.get member).congr rfl rfl⟩

theorem Shows.fetchOr (key : MemoKey) {write : Draft → Draft}
    (shows : d.Shows known filling stack below)
    (wrote : (write d).Shows known filling (key.item known :: stack) below)
    : (d.fetchOr key write).Shows known filling (key.item known :: stack) below := by
  rw [Draft.fetchOr]
  cases found : d.index? key with
  | none => exact wrote.storeAs
  | some index => exact shows.get found

-----------------------------------------------------------------------------------------
-- Texts, bytes and classes
-----------------------------------------------------------------------------------------

/-- A text, whatever its number, if it is the text that is known under the number. -/
theorem Shows.sharedText (shows : d.Shows known filling stack below) {object : Option Nat}
    {t : Text} (same : ∀ n ∈ object, known n = .text t)
    : (d.sharedText object t).Shows known filling (.value (.text t) :: stack) below := by
  have item : (MemoKey.ofObject object (.text t)).item known = .value (.text t) :=
    MemoKey.item_ofObject rfl same
  have wrote := shows.push (.text t) trivial fun _ => rfl
  rw [← item] at wrote ⊢
  exact shows.object.fetchOr _ wrote

theorem Shows.text (shows : d.Shows known filling stack below) (t : Text)
    : (d.text t).Shows known filling (.value (.text t) :: stack) below :=
  shows.sharedText (by simp)

theorem Shows.ownText (shows : d.Shows known filling stack below) (t : Text)
    : (d.ownText t).Shows known filling (.value (.text t) :: stack) below :=
  (shows.push (.text t) trivial fun _ => rfl).store fun _ => rfl

/-- A name that was given as bytes is a text like any other to the machine. -/
theorem Shows.byteName (shows : d.Shows known filling stack below) (t : Text)
    : (d.byteName t).Shows known filling (.value (.text t) :: stack) below := by
  rw [Draft.byteName]
  split
  · exact shows.text t
  · split
    · exact shows.object.fetchOr (.byteName t) (shows.object.code trivial fun _ => rfl)
    · exact shows.ownText t

theorem Shows.bytes (shows : d.Shows known filling stack below) {object : Option Nat} {b : Bytes}
    (same : ∀ n ∈ object, known n = .blob .fixed b)
    : (d.bytes (some (.ofObject object (.bytes b))) b).Shows known filling
        (.value (.blob .fixed b) :: stack) below := by
  have newer : 3 ≤ d.object.version := shows.object.le_version (by decide)
  have item : (MemoKey.ofObject object (.bytes b)).item known = .value (.blob .fixed b) :=
    MemoKey.item_ofObject rfl same
  have wrote := shows.push (.bytes b) trivial fun _ => rfl
  rw [← item] at wrote
  rw [← item, Draft.bytes]
  refine shows.object.fetchOr _ ?_
  rwa [if_pos newer]

theorem Shows.emptyTuple (shows : d.Shows known filling stack below)
    : d.emptyTuple.Shows known filling (.value (.tuple []) :: stack) below :=
  shows.push .emptyTuple trivial fun _ => rfl

theorem Shows.global (shows : d.Shows known filling stack below) (module name : String)
    (native : Bool)
    : (d.global module name native).Shows known filling
        (.named (Dispatch.text module) (Dispatch.text name) :: stack) below := by
  have newest : 4 ≤ d.object.version := shows.object.le_version (by decide)
  rw [Draft.global]
  refine shows.object.fetchOr (.global _ _) ?_
  rw [if_pos newest]
  cases native with
  | true => exact ((shows.object.text _).ownText _).code trivial fun _ => rfl
  | false => exact ((shows.object.text _).text _).code trivial fun _ => rfl

/-- An object of a class that is given no arguments, before it has a state. -/
theorem Shows.construct (shows : d.Shows known filling stack below) (module name holder : String)
    : ∃ index, (d.construct module name holder Draft.noArguments).count = index + 1
        ∧ let blank := Item.blank (some index) (Dispatch.text module) (Dispatch.text name)
          (d.construct module name holder Draft.noArguments).Shows known
            ((index, blank) :: filling) (blank :: stack) below := by
  have named := shows.object.global module name false
  have first : 2 ≤ d.version := shows.le_version (by decide)
  have second : 2 ≤ (d.object.global module name).version := named.le_version (by decide)
  rw [Draft.construct, if_pos first, Draft.noArguments, if_pos second]
  have made := named.emptyTuple.code (o := .newObject) trivial fun _ => rfl
  exact ⟨_, rfl, made.start rfl⟩

end Draft

end Dispatch.Pickle
