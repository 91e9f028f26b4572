import Dispatch.Mapper
import Dispatch.Proofs.Value

/-! Entries under names. Each name stands for one entry, so putting a value under a name changes one
entry, and merging changes gives each name the changed value or else the one from before.
-/

namespace Dispatch

-----------------------------------------------------------------------------------------
-- Entries under names
-----------------------------------------------------------------------------------------

namespace Entries

/-- Entries whose keys are names, each of them there once. -/
structure Named (entries : Entries) : Prop where
  texts : ∀ e ∈ entries, e.1.isText
  once : entries.Pairwise fun e f => e.1.asText? ≠ f.1.asText?

variable {entries changes : Entries} {key name : Text}

theorem sameKey_iff {e : Value × Value} (isText : e.1.isText)
    : Value.sameKey e.1 (.text key) ↔ e.1.asText? = some key := by
  obtain ⟨t, same⟩ := Value.eq_text_of_isText isText
  rw [same, Value.sameKey_text, Value.asText?, decide_eq_true_iff, Option.some.injEq]

theorem isSome_get?_iff : (entries.get? name).isSome ↔ ∃ e ∈ entries, e.1.asText? = some name := by
  simp only [get?, Option.isSome_map, List.find?_isSome, decide_eq_true_eq]

theorem hasKey_iff (texts : ∀ e ∈ entries, e.1.isText)
    : Value.hasKey entries (.text key) ↔ (entries.get? key).isSome := by
  rw [Value.hasKey, List.any_eq_true, isSome_get?_iff]
  exact exists_congr fun e => and_congr_right fun member => sameKey_iff (texts e member)

theorem get?_cons (e : Value × Value) (rest : Entries) (name : Text)
    : get? (e :: rest) name = if e.1.asText? = some name then some e.2 else get? rest name := by
  rw [get?, List.find?_cons]
  by_cases named : e.1.asText? = some name <;> simp [named, get?]

/-- A value that replaces another one is found under the name of that one only. -/
theorem get?_replace (texts : ∀ e ∈ entries, e.1.isText) (v : Value)
    : get? (entries.map fun e => if Value.sameKey e.1 (.text key) then (e.1, v) else e) name
      = if name = key then (entries.get? name).map fun _ => v else entries.get? name := by
  induction entries with
  | nil => simp [get?]
  | cons e rest ih =>
      have first : Value.sameKey e.1 (.text key) ↔ e.1.asText? = some key :=
        sameKey_iff (texts e (by simp))
      rw [List.map_cons, get?_cons, get?_cons, ih fun f member => texts f (by simp [member])]
      by_cases named : e.1.asText? = some name
      · by_cases same : name = key
        · subst same
          simp [first, named]
        · simp [first, named, same]
      · by_cases here : Value.sameKey e.1 (.text key) <;> simp [here, named]

/-- Putting a value under a name changes the entry of that name and no other. -/
theorem get?_insert (texts : ∀ e ∈ entries, e.1.isText) (v : Value)
    : get? (Value.insert entries (.text key) v) name
      = if name = key then some v else entries.get? name := by
  rw [Value.insert]
  cases there : Value.hasKey entries (.text key) with
  | true =>
      obtain ⟨before, found⟩ := Option.isSome_iff_exists.mp ((hasKey_iff texts).mp there)
      rw [if_pos rfl, get?_replace texts]
      by_cases same : name = key
      · subst same
        simp [found]
      · simp [same]
  | false =>
      have absent : entries.get? key = none := by
        rw [← Option.not_isSome_iff_eq_none, ← hasKey_iff texts, there]
        exact Bool.false_ne_true
      have appended : get? (entries ++ [(.text key, v)]) name
          = (entries.get? name).or (get? [(.text key, v)] name) := by
        simp only [get?, List.find?_append, Option.map_or]
      rw [if_neg Bool.false_ne_true, appended, get?_cons]
      by_cases same : name = key
      · subst same
        simp [absent, Value.asText?]
      · simp [same, Value.asText?, get?, Ne.symm same]

theorem Named.insert (named : entries.Named) (key : Text) (v : Value)
    : Named (Value.insert entries (.text key) v) := by
  rw [Value.insert]
  cases there : Value.hasKey entries (.text key) with
  | true =>
      have keys (e : Value × Value)
          : (if Value.sameKey e.1 (.text key) then (e.1, v) else e).1 = e.1 := by
        split <;> rfl
      rw [if_pos rfl]
      constructor
      · intro f member
        obtain ⟨e, listed, rfl⟩ := List.mem_map.mp member
        rw [keys]
        exact named.texts e listed
      · rw [List.pairwise_map]
        simp only [keys]
        exact named.once
  | false =>
      rw [if_neg Bool.false_ne_true]
      constructor
      · intro e member
        rcases List.mem_append.mp member with listed | last
        · exact named.texts e listed
        · rw [List.mem_singleton.mp last]
          rfl
      · refine List.pairwise_append.mpr ⟨named.once, List.pairwise_singleton _ _, ?_⟩
        intro e listed f last same
        rw [List.mem_singleton.mp last] at same
        have found := (hasKey_iff named.texts).mpr (isSome_get?_iff.mpr ⟨e, listed, same⟩)
        rw [there] at found
        contradiction

theorem named_singleton (name : Text) (v : Value) : Named [(.text name, v)] :=
  ⟨by simp [Value.isText], List.pairwise_singleton _ _⟩

/-- Named values are entries under names, however often a name comes. -/
theorem named_ofNamed (values : List (Text × Value)) : Named (ofNamed values) := by
  have grown (start : Entries) (named : start.Named)
      : Named ((values.map fun given => (Value.text given.1, given.2)).foldl
        (fun entries e => Value.insert entries e.1 e.2) start) := by
    induction values generalizing start with
    | nil => exact named
    | cons first rest ih => exact ih _ (named.insert first.1 first.2)
  exact grown [] ⟨by simp, .nil⟩

/-- A name has an entry exactly if a value is given for it. -/
theorem isSome_get?_ofNamed {values : List (Text × Value)}
    : ((ofNamed values).get? name).isSome ↔ ∃ v, (name, v) ∈ values := by
  have grown (start : Entries) (named : start.Named)
      : (get? ((values.map fun given => (Value.text given.1, given.2)).foldl
          (fun entries e => Value.insert entries e.1 e.2) start) name).isSome
        ↔ (start.get? name).isSome ∨ ∃ v, (name, v) ∈ values := by
    induction values generalizing start with
    | nil => simp
    | cons first rest ih =>
        rw [List.map_cons, List.foldl_cons, ih _ (named.insert first.1 first.2),
          get?_insert named.texts]
        obtain ⟨key, value⟩ := first
        by_cases same : name = key <;> simp [same]
  have none : (get? [] name).isSome = false := rfl
  have all := grown [] ⟨by simp, .nil⟩
  rw [none] at all
  simpa [ofNamed, Value.ofPairs] using all

end Entries

-----------------------------------------------------------------------------------------
-- Merging
-----------------------------------------------------------------------------------------

namespace Mapper

open Dispatch.Entries

variable {entries changes : Entries} {name : Text}

theorem named_merge (named : entries.Named) (texts : ∀ e ∈ changes, e.1.isText)
    : (merge entries changes).Named := by
  rw [merge]
  induction changes generalizing entries with
  | nil => exact named
  | cons first rest ih =>
      obtain ⟨key, same⟩ := Value.eq_text_of_isText (texts first (by simp))
      rw [List.foldl_cons, same]
      exact ih (named.insert key first.2) fun e member => texts e (by simp [member])

/-- Each name has the changed value if there is one, and else the value from before, by induction on
the changes: a name that was changed does not come again. -/
theorem get?_merge (named : entries.Named) (changed : changes.Named)
    : (merge entries changes).get? name = (changes.get? name).or (entries.get? name) := by
  rw [merge]
  induction changes generalizing entries with
  | nil => rfl
  | cons first rest ih =>
      obtain ⟨key, same⟩ := Value.eq_text_of_isText (changed.texts first (by simp))
      obtain ⟨fresh, once⟩ := List.pairwise_cons.mp changed.once
      have other : Named rest := ⟨fun e member => changed.texts e (by simp [member]), once⟩
      rw [List.foldl_cons, same, ih (named.insert key first.2) other, get?_insert named.texts,
        get?_cons, same, Value.asText?]
      by_cases here : name = key
      · subst here
        have absent : Entries.get? rest name = none := by
          rw [← Option.not_isSome_iff_eq_none, isSome_get?_iff]
          rintro ⟨e, listed, again⟩
          refine fresh e listed ?_
          rw [again, same, Value.asText?]
        simp [absent]
      · simp [here, Ne.symm here]

variable [Platform]

/-- Entries under names have nothing extra exactly if each of the names is known. -/
theorem extraErrors_eq_nil_iff (named : entries.Named) {known : List String}
    : Field.extraErrors known entries = []
      ↔ ∀ name, (entries.get? name).isSome → name ∈ known.map text := by
  rw [Field.extraErrors, List.filterMap_eq_nil_iff]
  constructor
  · intro fits name found
    obtain ⟨e, listed, same⟩ := isSome_get?_iff.mp found
    obtain ⟨t, key⟩ := Value.eq_text_of_isText (named.texts e listed)
    rw [key, Value.asText?, Option.some.injEq] at same
    have fit := fits e listed
    rw [key, same] at fit
    by_contra unknown
    simp [unknown] at fit
  · intro fits e listed
    obtain ⟨t, key⟩ := Value.eq_text_of_isText (named.texts e listed)
    have fit := fits t (isSome_get?_iff.mpr ⟨e, listed, by rw [key, Value.asText?]⟩)
    rw [key]
    simp [fit]

end Mapper

end Dispatch
