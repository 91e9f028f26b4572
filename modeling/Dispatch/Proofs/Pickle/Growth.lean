import Dispatch.Proofs.Pickle.Extent

/-! How much each step of writing adds to a draft. The extent of a value counts its parts and the
bytes of its numbers, texts and bytes; a text adds no more than its extent, fetched or written.
-/

namespace Dispatch

mutual

/-- At most as many bytes as a value takes in a pickle, if the value has one. -/
def Value.extent : Value → Nat
  | .int n => 128 + ((n.natAbs.log2 + 1) / 8 + 1)
  | .text t => 128 + (Utf8.encode t).length
  | .blob _ b => 128 + b.length
  | .list items => 256 + extents items
  | .tuple items => 256 + extents items
  | .set items => 256 + extents items
  | .map _ entries => 256 + entryExtents entries
  | .message payload headers _ => 4096 + payload.extent + headerExtents headers
  | _ => 128

def Value.extents : List Value → Nat
  | [] => 0
  | v :: rest => v.extent + 64 + extents rest

def Value.entryExtents : List (Value × Value) → Nat
  | [] => 0
  | (key, v) :: rest => key.extent + v.extent + 64 + entryExtents rest

def Value.headerExtents : List (Text × Value) → Nat
  | [] => 0
  | (name, v) :: rest => 128 + (Utf8.encode name).length + v.extent + 64 + headerExtents rest

end

namespace Pickle

namespace Draft

/-- One draft comes from another under version 4 with at most a given count of bytes added. -/
def Grows (d d' : Draft) (count : Nat) : Prop :=
  d.version = 4 → d'.version = 4 ∧ d'.extent ≤ d.extent + count

variable {d d' d'' : Draft} {m n : Nat}

theorem Grows.refl (d : Draft) : d.Grows d 0 :=
  fun newest => ⟨newest, Nat.le_refl _⟩

theorem Grows.trans (first : d.Grows d' m) (second : d'.Grows d'' n) : d.Grows d'' (m + n) := by
  intro newest
  obtain ⟨next, before⟩ := first newest
  obtain ⟨last, after⟩ := second next
  exact ⟨last, by omega⟩

theorem Grows.mono (grows : d.Grows d' m) (le : m ≤ n) : d.Grows d' n := by
  intro newest
  obtain ⟨last, bound⟩ := grows newest
  exact ⟨last, by omega⟩

theorem grows_code (d : Draft) (o : Opcode) : d.Grows (d.code o) o.extent := by
  intro newest
  refine ⟨newest, ?_⟩
  simp only [extent, code, List.map_cons, List.sum_cons, Step.extent]
  omega

theorem grows_object (d : Draft) : d.Grows d.object 9 := by
  intro newest
  refine ⟨newest, ?_⟩
  simp only [extent, object, List.map_cons, List.sum_cons, Step.extent]
  omega

theorem grows_store (d : Draft) : d.Grows d.store 32 := by
  intro newest
  have stored := d.grows_code .memoize newest
  have memoize : d.store.steps = (d.code .memoize).steps := by
    rw [store, if_pos (Nat.le_of_eq newest.symm)]
  refine ⟨newest, ?_⟩
  rw [extent, memoize]
  exact stored.2

theorem grows_note (d : Draft) (object : Option Nat) (index : Nat)
    : d.Grows (d.note object index) 0 :=
  fun newest => ⟨newest, Nat.le_refl _⟩

theorem grows_storeAs (d : Draft) (key : MemoKey) : d.Grows (d.storeAs key) 32 :=
  d.grows_store

theorem grows_fetchOr {key : MemoKey} {write : Draft → Draft} (count : Nat)
    (wrote : d.Grows (write d) count)
    : d.Grows (d.fetchOr key write) (count + 32) := by
  rw [fetchOr]
  split
  · exact (d.grows_code _).mono (Nat.le_add_left ..)
  · exact wrote.trans (grows_storeAs _ _)

/-- A text under any key, fetched or written. -/
theorem grows_fetchText (d : Draft) (key : MemoKey) (t : Text)
    : d.Grows (d.object.fetchOr key (·.code (.text t))) (Value.text t).extent := by
  have wrote : d.object.Grows (d.object.fetchOr key (·.code (.text t)))
      ((Opcode.text t).extent + 32) := grows_fetchOr _ (grows_code _ _)
  refine (d.grows_object.trans wrote).mono ?_
  simp only [Opcode.extent, Value.extent]
  omega

theorem grows_sharedText (d : Draft) (object : Option Nat) (t : Text)
    : d.Grows (d.sharedText object t) (Value.text t).extent :=
  d.grows_fetchText (.ofObject object (.text t)) t

theorem grows_text (d : Draft) (t : Text) : d.Grows (d.text t) (Value.text t).extent :=
  d.grows_sharedText none t

theorem grows_ownText (d : Draft) (t : Text) : d.Grows (d.ownText t) (Value.text t).extent := by
  refine ((d.grows_object.trans (grows_code _ (.text t))).trans (grows_store _)).mono ?_
  simp only [Opcode.extent, Value.extent]
  omega

theorem grows_byteName (d : Draft) (t : Text) : d.Grows (d.byteName t) (Value.text t).extent := by
  rw [byteName]
  split
  · exact d.grows_text t
  · split
    · exact d.grows_fetchText (.byteName t) t
    · exact d.grows_ownText t

theorem grows_bytes (d : Draft) (key : MemoKey) (b : Bytes)
    : d.Grows (d.bytes (some key) b) (128 + b.length) := by
  intro newest
  have newer : 3 ≤ d.object.version := Nat.le_trans (by decide) (Nat.le_of_eq newest.symm)
  rw [bytes]
  refine (d.grows_object.trans (grows_fetchOr (Opcode.bytes b).extent ?_)).mono ?_ newest
  · rw [if_pos newer]
    exact grows_code _ _
  · simp only [Opcode.extent]
    omega

theorem grows_emptyTuple (d : Draft) : d.Grows d.emptyTuple 41 :=
  d.grows_object.trans (grows_code _ .emptyTuple)

theorem grows_global (d : Draft) (module name : String) (native : Bool)
    : d.Grows (d.global module name native)
        ((Value.text (Dispatch.text module)).extent + (Value.text (Dispatch.text name)).extent
          + 73) := by
  intro newest
  have later : 4 ≤ d.object.version := Nat.le_of_eq newest.symm
  rw [global]
  refine (d.grows_object.trans (grows_fetchOr ((Value.text (Dispatch.text module)).extent
    + (Value.text (Dispatch.text name)).extent + 32) ?_)).mono ?_ newest
  · rw [if_pos later]
    cases native with
    | true => exact ((grows_text _ _).trans (grows_ownText _ _)).trans (grows_code _ .stackGlobal)
    | false => exact ((grows_text _ _).trans (grows_text _ _)).trans (grows_code _ .stackGlobal)
  · omega

theorem grows_construct (d : Draft) (module name holder : String)
    : d.Grows (d.construct module name holder noArguments)
        ((Value.text (Dispatch.text module)).extent + (Value.text (Dispatch.text name)).extent
          + 192) := by
  intro newest
  have named := d.grows_object.trans (d.object.grows_global module name false)
  have version := (named newest).1
  have made := ((named.trans (grows_emptyTuple _)).trans (grows_code _ .newObject)).trans
    (grows_store _)
  rw [construct, if_pos (Nat.le_trans (by decide) (Nat.le_of_eq newest.symm)), noArguments,
    if_pos (Nat.le_trans (by decide) (Nat.le_of_eq version.symm))]
  refine made.mono ?_ newest
  simp only [Opcode.extent]
  omega

theorem grows_openTuple (d : Draft) (count : Nat) : d.Grows (d.openTuple count) 32 := by
  rw [openTuple]
  split
  · exact (Grows.refl d).mono (Nat.zero_le _)
  · exact d.grows_code .mark

theorem grows_closeTuple (d : Draft) (count : Nat) : d.Grows (d.closeTuple count) 64 := by
  have gathered : d.Grows
      (d.code (if d.gathersByCount count then .smallTuple count else .tuple)) 32 := by
    split
    · exact d.grows_code (.smallTuple count)
    · exact d.grows_code .tuple
  exact gathered.trans (grows_store _)

end Draft

end Pickle

end Dispatch
