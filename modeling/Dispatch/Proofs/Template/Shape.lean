import Dispatch.Proofs.Template.Scanning

/-! What filling in changes in a value. The texts in its lists and maps are filled in one after the
other; keys, places and all other values stay, whatever the variables hold. A name whose variable is
not set ends it, and so do lists and maps of too many levels.
-/

namespace Dispatch.Template

open Dispatch.Result

variable {env : Environment}

/-- The first that parts give, one after the other, is the first that the wholes give. -/
theorem findSome?_parts {α β γ : Type} {xs : List α} {parts : α → List β} {f : α → Option γ}
    {g : β → Option γ} (each : ∀ x ∈ xs, f x = (parts x).findSome? g)
    : xs.findSome? f = (xs.flatMap parts).findSome? g := by
  induction xs with
  | nil => rfl
  | cons x xs ih =>
      have later := ih fun y member => each y (List.mem_cons_of_mem x member)
      rw [List.flatMap_cons, List.findSome?_append, ← each x List.mem_cons_self, ← later,
        List.findSome?_cons]
      cases f x <;> rfl

mutual

/-- The texts within a value that are filled in, in the order in which they come. -/
def texts : Value → List Text
  | .text t => [t]
  | .list items => itemTexts items
  | .map .readOnly _ => []
  | .map (.own _) _ => []
  | .map _ entries => entryTexts entries
  | _ => []

def itemTexts : List Value → List Text
  | [] => []
  | v :: rest => texts v ++ itemTexts rest

def entryTexts : List (Value × Value) → List Text
  | [] => []
  | (_, v) :: rest => texts v ++ entryTexts rest

end

mutual

/-- A value with each of these texts changed. Everything else is kept: keys and their order, the
items of lists in theirs, and other values. -/
def mapTexts (f : Text → Text) : Value → Value
  | .text t => .text (f t)
  | .list items => .list (mapItems f items)
  | v@(.map .readOnly _) => v
  | v@(.map (.own _) _) => v
  | .map _ entries => .map .plain (mapEntries f entries)
  | v => v

def mapItems (f : Text → Text) : List Value → List Value
  | [] => []
  | v :: rest => mapTexts f v :: mapItems f rest

def mapEntries (f : Text → Text) : List (Value × Value) → List (Value × Value)
  | [] => []
  | (key, v) :: rest => (key, mapTexts f v) :: mapEntries f rest

end

/-- A value without what its texts say. -/
def skeleton (v : Value) : Value :=
  mapTexts (fun _ => []) v

/-- A value whose lists and maps lie in each other at most so many levels deep. -/
inductive Nested : Nat → Value → Prop
  | text {depth : Nat} (t : Text) : Nested depth (.text t)
  | kept {depth : Nat} {v : Value} (kept : isKept v) : Nested depth v
  | list {depth : Nat} {items : List Value} (each : ∀ v ∈ items, Nested depth v)
    : Nested (depth + 1) (.list items)
  | map {depth : Nat} {kind : MapKind} {entries : List (Value × Value)}
    (writable : kind.isWritable) (each : ∀ e ∈ entries, Nested depth e.2)
    : Nested (depth + 1) (.map kind entries)

-----------------------------------------------------------------------------------------
-- One level at a time
-----------------------------------------------------------------------------------------

theorem texts_list (items : List Value) : texts (.list items) = items.flatMap texts := by
  rw [texts]
  induction items with
  | nil => rfl
  | cons v items ih => rw [itemTexts, ih, List.flatMap_cons]

theorem entryTexts_eq (entries : List (Value × Value))
    : entryTexts entries = entries.flatMap fun e => texts e.2 := by
  induction entries with
  | nil => rfl
  | cons e entries ih => rw [entryTexts, ih, List.flatMap_cons]

theorem texts_map {kind : MapKind} (writable : kind.isWritable) (entries : List (Value × Value))
    : texts (.map kind entries) = entries.flatMap fun e => texts e.2 := by
  rw [← entryTexts_eq]
  cases kind with
  | readOnly => contradiction
  | own o => contradiction
  | _ => rfl

theorem mapTexts_list (f : Text → Text) (items : List Value)
    : mapTexts f (.list items) = .list (items.map (mapTexts f)) := by
  have each : mapItems f items = items.map (mapTexts f) := by
    induction items with
    | nil => rfl
    | cons v items ih => rw [mapItems, ih, List.map_cons]
  rw [mapTexts, each]

theorem mapEntries_eq (f : Text → Text) (entries : List (Value × Value))
    : mapEntries f entries = entries.map fun e => (e.1, mapTexts f e.2) := by
  induction entries with
  | nil => rfl
  | cons e entries ih => rw [mapEntries, ih, List.map_cons]

theorem mapTexts_map (f : Text → Text) {kind : MapKind} (writable : kind.isWritable)
    (entries : List (Value × Value))
    : mapTexts f (.map kind entries)
      = .map .plain (entries.map fun e => (e.1, mapTexts f e.2)) := by
  rw [← mapEntries_eq]
  cases kind with
  | readOnly => contradiction
  | own o => contradiction
  | _ => rfl

theorem texts_of_isKept {v : Value} (kept : isKept v) : texts v = [] := by
  cases v with
  | text t => contradiction
  | list items => contradiction
  | map kind entries =>
      cases kind with
      | readOnly => rfl
      | own o => rfl
      | _ => contradiction
  | _ => rfl

theorem mapTexts_of_isKept (f : Text → Text) {v : Value} (kept : isKept v) : mapTexts f v = v := by
  cases v with
  | text t => contradiction
  | list items => contradiction
  | map kind entries =>
      cases kind with
      | readOnly => rfl
      | own o => rfl
      | _ => contradiction
  | _ => rfl

-----------------------------------------------------------------------------------------
-- What filling in gives, and where it stops
-----------------------------------------------------------------------------------------

/-- A value whose texts can all be filled in is kept but for them, by induction on its levels. -/
theorem Nested.fillWithin_eq_ok {depth : Nat} {v : Value} (nested : Nested depth v)
    {f : Text → Text} (filled : ∀ t ∈ texts v, fill env t = .ok (f t))
    : fillWithin env depth v = .ok (mapTexts f v) := by
  induction nested with
  | text t => rw [fillWithin_text, filled t (by simp [texts]), map_ok, mapTexts]
  | kept kept => rw [fillWithin_of_isKept _ kept, mapTexts_of_isKept f kept]
  | @list depth items each ih =>
      rw [texts_list] at filled
      have whole : items.mapM (fillWithin env depth) = .ok (items.map (mapTexts f)) :=
        mapM_eq_ok_map fun v member =>
          ih v member fun t within => filled t (List.mem_flatMap.mpr ⟨v, member, within⟩)
      rw [fillWithin_list, whole, mapTexts_list, map_ok]
  | @map depth kind entries writable each ih =>
      rw [texts_map writable] at filled
      have whole : entries.mapM (fun e => (fillWithin env depth e.2).map fun v => (e.1, v))
          = .ok (entries.map fun e => (e.1, mapTexts f e.2)) := by
        refine mapM_eq_ok_map fun e member => ?_
        rw [ih e member fun t within => filled t (List.mem_flatMap.mpr ⟨e, member, within⟩),
          map_ok]
      rw [fillWithin_map writable, whole, mapTexts_map f writable, map_ok]

/-- A value stops being filled in where the first of its texts does, by induction on its levels. -/
theorem Nested.errorOf?_eq {depth : Nat} {v : Value} (nested : Nested depth v)
    : errorOf? (fillWithin env depth v) = (texts v).findSome? fun t => errorOf? (fill env t) := by
  induction nested with
  | text t => rw [fillWithin_text, errorOf?_map, texts, List.findSome?_singleton]
  | kept kept =>
      rw [fillWithin_of_isKept _ kept, texts_of_isKept kept, errorOf?_ok, List.findSome?_nil]
  | @list depth items each ih =>
      rw [fillWithin_list, errorOf?_map, errorOf?_mapM, texts_list]
      exact findSome?_parts ih
  | @map depth kind entries writable each ih =>
      rw [fillWithin_map writable, errorOf?_map, errorOf?_mapM, texts_map writable]
      exact findSome?_parts fun e member => (errorOf?_map _ _).trans (ih e member)

/-- What is filled in is not nested too deeply, by induction on the levels that it may have. -/
theorem nested_of_fillWithin {depth : Nat} {v w : Value} (filled : fillWithin env depth v = .ok w)
    : Nested depth v := by
  induction depth using Nat.strongRecOn generalizing v w with
  | ind depth ih =>
      cases v using value_cases with
      | text t => exact .text t
      | cycle =>
          rw [fillWithin_cycle] at filled
          contradiction
      | kept v kept => exact .kept kept
      | list items =>
          cases depth with
          | zero => contradiction
          | succ depth =>
              rw [fillWithin_list, map_eq_ok] at filled
              obtain ⟨filled, whole, _⟩ := filled
              refine .list fun v member => ?_
              obtain ⟨x, done⟩ := exists_of_mapM_eq_ok whole member
              exact ih depth depth.lt_succ_self done
      | map kind entries writable =>
          cases depth with
          | zero =>
              rw [fillWithin_map_zero writable] at filled
              contradiction
          | succ depth =>
              rw [fillWithin_map writable, map_eq_ok] at filled
              obtain ⟨filled, whole, _⟩ := filled
              refine .map writable fun e member => ?_
              obtain ⟨_, done⟩ := exists_of_mapM_eq_ok whole member
              obtain ⟨x, done, _⟩ := map_eq_ok.mp done
              exact ih depth depth.lt_succ_self done

theorem Nested.skeleton_mapTexts {depth : Nat} {v : Value} (nested : Nested depth v)
    (f : Text → Text)
    : skeleton (mapTexts f v) = skeleton v := by
  induction nested with
  | text t => rfl
  | kept kept => rw [mapTexts_of_isKept f kept]
  | @list depth items each ih =>
      rw [skeleton, skeleton, mapTexts_list, mapTexts_list, mapTexts_list, List.map_map]
      exact congrArg Value.list (List.map_congr_left ih)
  | @map depth kind entries writable each ih =>
      have plain : MapKind.plain.isWritable := rfl
      rw [skeleton, skeleton, mapTexts_map f writable, mapTexts_map _ writable,
        mapTexts_map _ plain, List.map_map]
      exact congrArg (Value.map .plain)
        (List.map_congr_left fun e member => congrArg (Prod.mk e.1) (ih e member))

/-- A value that is filled in changes in what its texts say and in nothing else. -/
theorem fillWithin_eq_ok_iff {depth : Nat} {v w : Value}
    : fillWithin env depth v = .ok w
      ↔ Nested depth v
        ∧ ∃ f : Text → Text, (∀ t ∈ texts v, Expands env t (f t)) ∧ w = mapTexts f v := by
  constructor
  · intro filled
    have nested := nested_of_fillWithin filled
    have each : ∀ t ∈ texts v, fill env t = .ok (((fill env t).toOption).getD []) := by
      have noError : errorOf? (fillWithin env depth v) = _ := nested.errorOf?_eq
      rw [filled, errorOf?_ok, eq_comm, List.findSome?_eq_none_iff] at noError
      intro t member
      obtain ⟨s, done⟩ := errorOf?_eq_none.mp (noError t member)
      rw [done]
      rfl
    refine ⟨nested, _, fun t member => fill_eq_ok.mp (each t member), ?_⟩
    exact Except.ok.inj (filled.symm.trans (nested.fillWithin_eq_ok each))
  · rintro ⟨nested, f, expands, rfl⟩
    exact nested.fillWithin_eq_ok fun t member => fill_eq_ok.mpr (expands t member)

/-- Where a value stops there are too many levels, or one of its texts cannot be filled in. -/
theorem Stops.cases_texts {depth : Nat} {v : Value} {e : Failure} (stops : Stops env depth v e)
    : e = .fault .depth ∨ ∃ t ∈ texts v, fill env t = .error e := by
  induction stops with
  | @name _ t _ _ _ _ split filled unfilled =>
      exact Or.inr ⟨t, by simp [texts], fill_eq_error.mpr ⟨_, _, _, split, filled, unfilled⟩⟩
  | cycle => exact Or.inl rfl
  | deepList => exact Or.inl rfl
  | deepMap _ => exact Or.inl rfl
  | @item _ _ _ v _ _ _ ih =>
      rw [texts_list]
      exact ih.imp_right fun ⟨t, within, failed⟩ =>
        ⟨t, List.mem_flatMap.mpr ⟨v, by simp, within⟩, failed⟩
  | @entry _ _ _ _ key v _ writable _ _ ih =>
      rw [texts_map writable]
      exact ih.imp_right fun ⟨t, within, failed⟩ =>
        ⟨t, List.mem_flatMap.mpr ⟨(key, v), by simp, within⟩, failed⟩

/-- A name that can be looked up. -/
def IsReadable (name : Text) : Prop :=
  ∃ bytes, Environment.nameBytes name = .ok bytes

/-- A name that can be looked up stays empty only if its variable is not set. -/
theorem lookUp_eq_error {name : Text} (readable : IsReadable name) {e : Failure}
    : lookUp env name = .error e
      ↔ env.get? name = .ok none ∧ e = .ofProblem (.unsetVariable name) := by
  rw [lookUp, fillPiece_eq_error]
  constructor
  · rintro ⟨_, ⟨_⟩, unfilled⟩
    cases unfilled with
    | unset absent => exact ⟨absent, rfl⟩
    | unreadable noBytes =>
        obtain ⟨bytes, read⟩ := readable
        rw [read] at noBytes
        contradiction
  · rintro ⟨absent, rfl⟩
    exact ⟨name, rfl, .unset absent⟩

section

variable [Platform]

theorem skeleton_of_fillValue {v w : Value} (filled : fillValue env v = .ok w)
    : skeleton w = skeleton v := by
  obtain ⟨nested, f, _, rfl⟩ := fillWithin_eq_ok_iff.mp filled
  exact nested.skeleton_mapTexts f

/-- A value stops being filled in where the first of its names does. -/
theorem Nested.errorOf?_fillValue {v : Value} (shallow : Nested Platform.filledDepth v)
    {names : List Text} (asks : Asks (texts v) names)
    : errorOf? (fillValue env v) = names.findSome? fun name => errorOf? (lookUp env name) := by
  rw [fillValue, shallow.errorOf?_eq, asks.errorOf?_eq]

/-- A value of few levels stops at the first of its names whose variable is not set, those before it
being set. -/
theorem Nested.fillValue_eq_error {v : Value} (shallow : Nested Platform.filledDepth v)
    {names : List Text} (asks : Asks (texts v) names)
    (readable : ∀ name ∈ names, IsReadable name) {e : Failure}
    : fillValue env v = .error e
      ↔ ∃ before name after,
          names = before ++ name :: after
            ∧ (∀ n ∈ before, ∃ value, env.get? n = .ok (some value))
            ∧ env.get? name = .ok none ∧ e = .ofProblem (.unsetVariable name) := by
  rw [← errorOf?_eq_some, shallow.errorOf?_fillValue asks, List.findSome?_eq_some_iff]
  constructor
  · rintro ⟨before, name, after, rfl, failed, filled⟩
    refine ⟨before, name, after, rfl, fun n member => ?_, ?_⟩
    · obtain ⟨value, found⟩ := errorOf?_eq_none.mp (filled n member)
      exact ⟨value, lookUp_eq_ok.mp found⟩
    · exact (lookUp_eq_error (readable name (by simp))).mp (errorOf?_eq_some.mp failed)
  · rintro ⟨before, name, after, rfl, set, unset⟩
    refine ⟨before, name, after, rfl, ?_, fun n member => ?_⟩
    · exact errorOf?_eq_some.mpr ((lookUp_eq_error (readable name (by simp))).mpr unset)
    · obtain ⟨value, found⟩ := set n member
      exact errorOf?_eq_none.mpr ⟨value, lookUp_eq_ok.mpr found⟩

theorem Nested.fillValue_fails_iff {v : Value} (shallow : Nested Platform.filledDepth v)
    {names : List Text} (asks : Asks (texts v) names) (readable : ∀ name ∈ names, IsReadable name)
    : (∃ e, fillValue env v = .error e) ↔ ∃ name ∈ names, env.get? name = .ok none := by
  constructor
  · rintro ⟨e, failed⟩
    obtain ⟨before, name, after, rfl, _, unset, _⟩ :=
      (shallow.fillValue_eq_error asks readable).mp failed
    exact ⟨name, by simp, unset⟩
  · rintro ⟨name, member, unset⟩
    have failed := (lookUp_eq_error (readable name member)).mpr ⟨unset, rfl⟩
    cases outcome : fillValue env v with
    | error e => exact ⟨e, rfl⟩
    | ok w =>
        -- A value that is filled in has no name that stays empty.
        have filled : errorOf? (fillValue env v) = _ := shallow.errorOf?_fillValue asks
        rw [outcome, errorOf?_ok, eq_comm, List.findSome?_eq_none_iff] at filled
        have found := filled name member
        rw [failed, errorOf?_error] at found
        contradiction

/-- A value of too many levels is never filled in. It stops for its levels, or for a variable that
one of its texts asks for and that is not set. -/
theorem fillValue_of_not_nested {v : Value} (deep : ¬Nested Platform.filledDepth v)
    {names : List Text} (asks : Asks (texts v) names) (readable : ∀ name ∈ names, IsReadable name)
    : ∃ e, fillValue env v = .error e
        ∧ (e = .fault .depth
          ∨ ∃ name ∈ names, env.get? name = .ok none ∧ e = .ofProblem (.unsetVariable name)) := by
  cases outcome : fillValue env v with
  | ok w => exact absurd (nested_of_fillWithin outcome) deep
  | error e =>
      refine ⟨e, rfl, (stops_of_fillWithin outcome).cases_texts.imp_right ?_⟩
      rintro ⟨t, within, failed⟩
      obtain ⟨name, member, unfilled⟩ := asks.exists_lookUp_eq_error within failed
      exact ⟨name, member, (lookUp_eq_error (readable name member)).mp unfilled⟩

/-- A value is filled in text by text, unless a variable that it asks for is not set: then the first
such name is reported. Whatever the variables hold, nothing changes but what the texts say. This
takes a level for each list and map, and where they run out the value is not filled in. -/
theorem fillValue_outcome (env : Environment) (v : Value)
    : (∃ names, Asks (texts v) names)
      ∧ ∀ names, Asks (texts v) names → (∀ name ∈ names, IsReadable name)
        → (Nested Platform.filledDepth v →
            (∀ w, fillValue env v = .ok w
              ↔ ∃ f : Text → Text, (∀ t ∈ texts v, Expands env t (f t)) ∧ w = mapTexts f v)
            ∧ (∀ e, fillValue env v = .error e
              ↔ ∃ before name after,
                  names = before ++ name :: after
                    ∧ (∀ n ∈ before, ∃ value, env.get? n = .ok (some value))
                    ∧ env.get? name = .ok none ∧ e = .ofProblem (.unsetVariable name))
            ∧ ((∃ e, fillValue env v = .error e) ↔ ∃ name ∈ names, env.get? name = .ok none))
          ∧ (¬Nested Platform.filledDepth v →
            ∃ e, fillValue env v = .error e
              ∧ (e = .fault .depth
                ∨ ∃ name ∈ names, env.get? name = .ok none
                  ∧ e = .ofProblem (.unsetVariable name)))
          ∧ ∀ other w, fillValue other v = .ok w → skeleton w = skeleton v := by
  refine ⟨exists_asks _, fun names asks readable => ⟨fun shallow => ⟨fun w => ?_, fun e => ?_, ?_⟩,
    fun deep => ?_, ?_⟩⟩
  · rw [fillValue, fillWithin_eq_ok_iff]
    exact and_iff_right shallow
  · exact shallow.fillValue_eq_error asks readable
  · exact shallow.fillValue_fails_iff asks readable
  · exact fillValue_of_not_nested deep asks readable
  · exact fun other w => skeleton_of_fillValue

end

/-- A list under a key that looks like a placeholder. The name in its text holds an opening brace,
and a dollar sign that starts no placeholder follows. -/
def bracedSettings : Value :=
  .map .plain [(.text (text "$\x7bA\x7d"), .list [.text (text "$\x7bA$\x7b\x7d$"), .int 1])]

theorem plain_of_not_mem {t : Text} (absent : CodePoint.ofChar '\x7d' ∉ t) : Plain t := by
  rintro before name after ⟨rfl, _, _⟩
  simp at absent

theorem leftmost_bracedSettings
    : Leftmost (text "$\x7bA$\x7b\x7d$") [] (text "A$\x7b") (text "$") :=
  leftmost_of_occurs_nil ⟨rfl, by decide, by decide⟩

theorem asks_bracedSettings : Asks (texts bracedSettings) [text "A$\x7b"] :=
  .next leftmost_bracedSettings (.plain (plain_of_not_mem (by decide)) .nil)

/-- The value of a variable is not searched for placeholders. -/
theorem fillValue_bracedSettings
    : fillValue [(text "A$\x7b", text "$\x7bA\x7d")] bracedSettings
        = .ok (.map .plain
            [(.text (text "$\x7bA\x7d"), .list [.text (text "$\x7bA\x7d$"), .int 1])])
      ∧ fillValue [] bracedSettings = .error (.ofProblem (.unsetVariable (text "A$\x7b"))) := by
  have shallow : Nested Platform.filledDepth bracedSettings := by
    refine .map rfl fun e member => ?_
    obtain rfl := List.mem_singleton.mp member
    refine .list fun v member => ?_
    rcases List.mem_pair.mp member with rfl | rfl
    · exact .text _
    · exact .kept rfl
  have readable : ∀ name ∈ [text "A$\x7b"], IsReadable name := by
    intro name member
    obtain rfl := List.mem_singleton.mp member
    exact ⟨_, rfl⟩
  have set : Environment.get? [(text "A$\x7b", text "$\x7bA\x7d")] (text "A$\x7b")
      = .ok (some (text "$\x7bA\x7d")) := rfl
  constructor
  · obtain ⟨filled, _⟩ := ((fillValue_outcome [(text "A$\x7b", text "$\x7bA\x7d")] _).2 _
      asks_bracedSettings readable).1 shallow
    refine (filled _).mpr ⟨fun _ => text "$\x7bA\x7d$", fun t member => ?_, rfl⟩
    obtain rfl := List.mem_singleton.mp member
    exact .next leftmost_bracedSettings set (.plain (plain_of_not_mem (by decide)))
  · obtain ⟨_, failed, _⟩ :=
      ((fillValue_outcome [] _).2 _ asks_bracedSettings readable).1 shallow
    exact (failed _).mpr ⟨[], text "A$\x7b", [], rfl, nofun, rfl, rfl⟩

-----------------------------------------------------------------------------------------
-- Where the levels run out
-----------------------------------------------------------------------------------------

/-- The empty list within so many lists. -/
def listWithin : Nat → Value
  | 0 => .list []
  | n + 1 => .list [listWithin n]

theorem texts_listWithin (n : Nat) : texts (listWithin n) = [] := by
  induction n with
  | zero => rfl
  | succ n ih => rw [listWithin, texts_list, List.flatMap_singleton, ih]

theorem fillWithin_listWithin {depth n : Nat} (deep : depth ≤ n)
    : fillWithin env depth (listWithin n) = .error (.fault .depth) := by
  induction depth generalizing n with
  | zero => cases n <;> rfl
  | succ depth ih =>
      obtain ⟨n, rfl⟩ : ∃ m, n = m + 1 := ⟨n - 1, by omega⟩
      rw [listWithin, fillWithin_list, List.mapM_cons, ih (Nat.le_of_succ_le_succ deep), error_bind,
        map_error]

/-- There are always too many levels for some list, though no text asks for a variable. -/
theorem fillValue_listWithin [Platform] {n : Nat} (deep : Platform.filledDepth ≤ n)
    : Asks (texts (listWithin n)) [] ∧ fillValue env (listWithin n) = .error (.fault .depth) := by
  constructor
  · rw [texts_listWithin]
    exact .nil
  · rw [fillValue]
    exact fillWithin_listWithin deep

end Dispatch.Template
