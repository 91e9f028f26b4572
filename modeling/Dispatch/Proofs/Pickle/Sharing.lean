import Dispatch.Pickle.Sharing

/-! Sharing that fits a value: what is one object has one value. The values of objects are then
known by their numbers, also within each part of the value.
-/

namespace Dispatch

/-- The part of a value at a place. -/
def Value.at? : Value → List Nat → Option Value
  | v, [] => some v
  | .list items, i :: place => items[i]?.bind (·.at? place)
  | .tuple items, i :: place => items[i]?.bind (·.at? place)
  | .set items, i :: place => items[i]?.bind (·.at? place)
  | .map _ entries, i :: 0 :: place => entries[i]?.bind (·.1.at? place)
  | .map _ entries, i :: 1 :: place => entries[i]?.bind (·.2.at? place)
  | .parts p, i :: place => p.toList[i]?.bind fun t => (Value.text t).at? place
  | .message payload _ _, 0 :: place => payload.at? place
  | .message _ headers _, 1 :: i :: 0 :: place =>
      headers[i]?.bind fun h => (Value.text h.1).at? place
  | .message _ headers _, 1 :: i :: 1 :: place => headers[i]?.bind (·.2.at? place)
  | _, _ => none

@[simp] theorem Value.at?_nil (v : Value) : v.at? [] = some v := by
  cases v <;> rfl

/-- What comes back of a value: not which header names were given as bytes. -/
def Value.restored : Value → Value
  | .message payload headers given => .message payload headers { given with byteNames := [] }
  | v => v

namespace Pickle

/-- Whether objects with one number are equal. -/
def Sharing.Fits (s : Sharing) (v : Value) : Prop :=
  ∀ n first second, s first = some n → s second = some n →
    ∀ a b, v.at? first = some a → v.at? second = some b → a = b

theorem fits_byContent (v : Value) : Sharing.byContent.Fits v :=
  nofun

/-- Whether the objects in a part have the values that are known by their numbers. -/
def Part.Agrees (known : Nat → Value) (p : Part) : Prop :=
  ∀ place n v, p.sharing place = some n → p.value.at? place = some v → known n = v.restored

variable {s : Sharing} {known : Nat → Value}

open Classical in
/-- If the sharing fits, the values of the objects can be known. -/
theorem Sharing.Fits.exists_agrees {v : Value} (fits : s.Fits v)
    : ∃ known, Part.Agrees known ⟨v, s⟩ := by
  let value (n : Nat) : Value :=
    if given : ∃ a place, s place = some n ∧ v.at? place = some a then given.choose.restored
    else .null
  refine ⟨value, ?_⟩
  intro place n a number held
  have given : ∃ a place, s place = some n ∧ v.at? place = some a := ⟨a, place, number, held⟩
  obtain ⟨other, otherNumber, otherHeld⟩ := given.choose_spec
  have same := fits n other place otherNumber number _ _ otherHeld held
  exact (dif_pos given).trans (congrArg Value.restored same)

theorem Part.Agrees.whole {p : Part} (agrees : p.Agrees known)
    : ∀ n ∈ p.sharing.object?, known n = p.value.restored :=
  fun n number => agrees [] n p.value number p.value.at?_nil

/-- Whatever is known agrees with what has no number. -/
theorem agrees_none (v : Value) : ∀ n ∈ (none : Option Nat), known n = v :=
  nofun

theorem agrees_byContent (v : Value) : (Part.byContent v).Agrees known :=
  nofun

-----------------------------------------------------------------------------------------
-- Parts of parts
-----------------------------------------------------------------------------------------

theorem map_value_items (s : Sharing) (vs : List Value) : (s.items vs).map Part.value = vs := by
  simp [Sharing.items, Function.comp_def]

theorem exists_of_mem_items {vs : List Value} {p : Part} (member : p ∈ s.items vs)
    : ∃ i, vs[i]? = some p.value ∧ p.sharing = s.part i := by
  obtain ⟨⟨v, i⟩, listed, rfl⟩ := List.mem_map.mp member
  exact ⟨i, List.mk_mem_zipIdx_iff_getElem?.mp listed, rfl⟩

theorem value_mem_of_mem_items {vs : List Value} {p : Part} (member : p ∈ s.items vs)
    : p.value ∈ vs :=
  let ⟨_, held, _⟩ := exists_of_mem_items member
  List.mem_of_getElem? held

theorem Part.Agrees.items {v : Value} {vs : List Value} (agrees : Agrees known ⟨v, s⟩)
    (inside : ∀ i place, v.at? (i :: place) = vs[i]?.bind (·.at? place))
    : ∀ p ∈ s.items vs, p.Agrees known := by
  intro p member place n a number held
  obtain ⟨i, item, sharing⟩ := exists_of_mem_items member
  rw [sharing] at number
  exact agrees (i :: place) n a number (by rw [inside, item, Option.bind_some, held])

/-- The key and the value of an entry. -/
def entryOf (e : Part × Part) : Value × Value :=
  (e.1.value, e.2.value)

theorem map_entryOf_entries (s : Sharing) (es : List (Value × Value))
    : (s.entries es).map entryOf = es := by
  simp [Sharing.entries, entryOf, Function.comp_def]

theorem entryOf_mem_of_mem_entries {es : List (Value × Value)} {e : Part × Part}
    (member : e ∈ s.entries es)
    : entryOf e ∈ es :=
  map_entryOf_entries s es ▸ List.mem_map_of_mem member

theorem Part.Agrees.entries {kind : MapKind} {es : List (Value × Value)}
    (agrees : Agrees known ⟨.map kind es, s⟩)
    : ∀ e ∈ s.entries es, e.1.Agrees known ∧ e.2.Agrees known := by
  intro e member
  obtain ⟨⟨f, i⟩, listed, rfl⟩ := List.mem_map.mp member
  have entry : es[i]? = some f := List.mk_mem_zipIdx_iff_getElem?.mp listed
  constructor
  · intro place n a number held
    exact agrees (i :: 0 :: place) n a number (by simpa [Value.at?, entry] using held)
  · intro place n a number held
    exact agrees (i :: 1 :: place) n a number (by simpa [Value.at?, entry] using held)

/-- The name and the value of a header. -/
def headerOf (h : Text × Option Nat × Part) : Text × Value :=
  (h.1, h.2.2.value)

theorem map_headerOf_headers (s : Sharing) (hs : List (Text × Value))
    : (s.headers hs).map headerOf = hs := by
  simp [Sharing.headers, headerOf, Function.comp_def]

variable {v : Value} {hs : List (Text × Value)} {given : Given}

theorem headerOf_mem_of_mem_headers {h : Text × Option Nat × Part} (member : h ∈ s.headers hs)
    : headerOf h ∈ hs :=
  map_headerOf_headers s hs ▸ List.mem_map_of_mem member

theorem Part.Agrees.payload (agrees : Agrees known ⟨.message v hs given, s⟩)
    : Agrees known ⟨v, s.part 0⟩ :=
  fun place n a number held => agrees (0 :: place) n a number held

theorem Part.Agrees.headers (agrees : Agrees known ⟨.message v hs given, s⟩)
    : ∀ h ∈ (s.part 1).headers hs,
        (∀ n ∈ h.2.1, known n = .text h.1) ∧ h.2.2.Agrees known := by
  intro h member
  obtain ⟨⟨f, i⟩, listed, rfl⟩ := List.mem_map.mp member
  have header : hs[i]? = some f := List.mk_mem_zipIdx_iff_getElem?.mp listed
  constructor
  · intro n number
    exact agrees [1, i, 0] n (.text f.1) number (by simp [Value.at?, header])
  · intro place n a number held
    exact agrees (1 :: i :: 1 :: place) n a number (by simpa [Value.at?, header] using held)

end Pickle

end Dispatch
