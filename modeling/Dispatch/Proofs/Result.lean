import Mathlib.Data.List.Basic
import Mathlib.Data.List.Forall2

/-! Taking results apart. A computation that ends well has gone well in each of its parts, and a
list that is read item by item fails at the first item that does.
-/

namespace Dispatch.Result

variable {ε δ α β : Type}

@[simp] theorem ok_bind (a : α) (f : α → Except ε β) : (Except.ok a >>= f) = f a := rfl

@[simp] theorem error_bind (e : ε) (f : α → Except ε β) : (Except.error e >>= f) = .error e := rfl

@[simp] theorem pure_eq (a : α) : (pure a : Except ε α) = .ok a := rfl

@[simp] theorem throw_eq (e : ε) : (throw e : Except ε α) = .error e := rfl

@[simp] theorem map_ok (f : α → β) (a : α) : (Except.ok a : Except ε α).map f = .ok (f a) := rfl

@[simp] theorem map_error (f : α → β) (e : ε) : (Except.error e).map f = .error e := rfl

@[simp] theorem mapError_ok (f : ε → δ) (a : α) : (Except.ok a).mapError f = .ok a := rfl

@[simp] theorem mapError_error (f : ε → δ) (e : ε)
    : (Except.error e : Except ε α).mapError f = .error (f e) := rfl

theorem bind_eq_ok {x : Except ε α} {f : α → Except ε β} {b : β}
    : (x >>= f) = .ok b ↔ ∃ a, x = .ok a ∧ f a = .ok b := by
  cases x <;> simp

theorem bind_eq_error {x : Except ε α} {f : α → Except ε β} {e : ε}
    : (x >>= f) = .error e ↔ x = .error e ∨ ∃ a, x = .ok a ∧ f a = .error e := by
  cases x <;> simp

theorem map_eq_ok {x : Except ε α} {f : α → β} {b : β}
    : x.map f = .ok b ↔ ∃ a, x = .ok a ∧ f a = b := by
  cases x <;> simp

theorem map_eq_error {x : Except ε α} {f : α → β} {e : ε}
    : x.map f = .error e ↔ x = .error e := by
  cases x <;> simp

theorem mapError_eq_ok {x : Except ε α} {f : ε → δ} {a : α}
    : x.mapError f = .ok a ↔ x = .ok a := by
  cases x <;> simp

theorem mapError_eq_error {x : Except ε α} {f : ε → δ} {d : δ}
    : x.mapError f = .error d ↔ ∃ e, x = .error e ∧ f e = d := by
  cases x <;> simp

theorem eq_ok_of_toOption {x : Except ε α} {a : α} (given : x.toOption = some a) : x = .ok a := by
  cases x with
  | ok b => exact congrArg Except.ok (Option.some.inj given)
  | error e => simp [Except.toOption] at given

/-- The error that a computation ends with. -/
def errorOf? : Except ε α → Option ε
  | .ok _ => none
  | .error e => some e

@[simp] theorem errorOf?_ok (a : α) : errorOf? (.ok a : Except ε α) = none := rfl

@[simp] theorem errorOf?_error (e : ε) : errorOf? (.error e : Except ε α) = some e := rfl

theorem errorOf?_eq_some {x : Except ε α} {e : ε} : errorOf? x = some e ↔ x = .error e := by
  cases x <;> simp

theorem errorOf?_eq_none {x : Except ε α} : errorOf? x = none ↔ ∃ a, x = .ok a := by
  cases x <;> simp

theorem errorOf?_map (f : α → β) (x : Except ε α) : errorOf? (x.map f) = errorOf? x := by
  cases x <;> rfl

theorem isOk_eq_true {x : Except ε α} : x.isOk = true ↔ ∃ a, x = .ok a := by
  cases x <;> simp [Except.isOk, Except.toBool]

theorem isOk_eq_false {x : Except ε α} : x.isOk = false ↔ ∃ e, x = .error e := by
  cases x <;> simp [Except.isOk, Except.toBool]

/-- A list that is read item by item fails as the first item that does. -/
theorem errorOf?_mapM (f : α → Except ε β) (xs : List α)
    : errorOf? (xs.mapM f) = xs.findSome? fun x => errorOf? (f x) := by
  induction xs with
  | nil => rfl
  | cons x xs ih =>
      rw [List.mapM_cons, List.findSome?_cons, ← ih]
      cases f x with
      | error e => rfl
      | ok b => cases xs.mapM f <;> rfl

/-- A list is not read exactly when an item is not, all items before it being read. -/
theorem mapM_eq_error {f : α → Except ε β} {xs : List α} {e : ε}
    : xs.mapM f = .error e
      ↔ ∃ before x after,
          xs = before ++ x :: after ∧ (∀ y ∈ before, ∃ b, f y = .ok b) ∧ f x = .error e := by
  rw [← errorOf?_eq_some, errorOf?_mapM, List.findSome?_eq_some_iff]
  simp only [errorOf?_eq_some, errorOf?_eq_none, and_comm]

/-- A list is read exactly if each item is, by induction on the items. -/
theorem mapM_eq_ok_iff {f : α → Except ε β} {xs : List α} {ys : List β}
    : xs.mapM f = .ok ys ↔ List.Forall₂ (fun x y => f x = .ok y) xs ys := by
  induction xs generalizing ys with
  | nil => simp [List.forall₂_nil_left_iff, eq_comm]
  | cons x xs ih =>
      simp only [List.mapM_cons, bind_eq_ok, pure_eq, Except.ok.injEq, List.forall₂_cons_left_iff,
        ih, exists_and_left, @eq_comm _ _ ys]

/-- A list whose items can all be read is read item by item. -/
theorem mapM_eq_ok_map {f : α → Except ε β} {g : α → β} {xs : List α}
    (read : ∀ x ∈ xs, f x = .ok (g x))
    : xs.mapM f = .ok (xs.map g) := by
  rw [mapM_eq_ok_iff, List.forall₂_map_right_iff, List.forall₂_same]
  exact read

/-- An item has a counterpart in a list that is related item by item. -/
theorem exists_mem_of_forall₂ {r : α → β → Prop} {xs : List α} {ys : List β}
    (each : List.Forall₂ r xs ys) {x : α} (member : x ∈ xs)
    : ∃ y ∈ ys, r x y := by
  induction each with
  | nil => contradiction
  | @cons z w _ ws related _ ih =>
      rcases List.mem_cons.mp member with rfl | later
      · exact ⟨w, List.mem_cons_self, related⟩
      · obtain ⟨y, listed, found⟩ := ih later
        exact ⟨y, List.mem_cons_of_mem w listed, found⟩

/-- What is read of a list is read of one of its items. -/
theorem exists_mem_of_mapM_eq_ok {f : α → Except ε β} {xs : List α} {ys : List β}
    (read : xs.mapM f = .ok ys) {y : β} (member : y ∈ ys)
    : ∃ x ∈ xs, f x = .ok y :=
  exists_mem_of_forall₂ (mapM_eq_ok_iff.mp read).flip member

/-- A list that is read has no item that cannot be. -/
theorem exists_of_mapM_eq_ok {f : α → Except ε β} {xs : List α} {ys : List β}
    (read : xs.mapM f = .ok ys) {x : α} (member : x ∈ xs)
    : ∃ y, f x = .ok y := by
  obtain ⟨y, _, given⟩ := exists_mem_of_forall₂ (mapM_eq_ok_iff.mp read) member
  exact ⟨y, given⟩

theorem filterAuxM_eq_ok {f : α → Except ε Bool} {p : α → Bool} {xs done : List α}
    (read : ∀ x ∈ xs, f x = .ok (p x))
    : xs.filterAuxM f done = .ok ((xs.filter p).reverse ++ done) := by
  induction xs generalizing done with
  | nil => rfl
  | cons x xs ih =>
      rw [List.filterAuxM, read x (by simp), ok_bind,
        ih fun y member => read y (List.mem_cons_of_mem x member)]
      cases kept : p x <;> simp [kept]

/-- A list is filtered by a check that always gives an answer. -/
theorem filterM_eq_ok_filter {f : α → Except ε Bool} {p : α → Bool} {xs : List α}
    (read : ∀ x ∈ xs, f x = .ok (p x))
    : xs.filterM f = .ok (xs.filter p) := by
  rw [List.filterM, filterAuxM_eq_ok read, ok_bind, pure_eq, List.append_nil, List.reverse_reverse]

-----------------------------------------------------------------------------------------
-- Computations whose errors all satisfy a property
-----------------------------------------------------------------------------------------

/-- Whatever error a computation ends with, it satisfies a property. -/
def FailsWith (p : ε → Prop) (x : Except ε α) : Prop :=
  ∀ e, x = .error e → p e

variable {p : ε → Prop}

theorem FailsWith.ok (a : α) : FailsWith p (.ok a : Except ε α) :=
  nofun

theorem FailsWith.error {e : ε} (holds : p e) : FailsWith p (.error e : Except ε α) :=
  fun _ same => Except.error.inj same ▸ holds

theorem FailsWith.mono {q : ε → Prop} {x : Except ε α} (fails : FailsWith p x)
    (implies : ∀ e, p e → q e)
    : FailsWith q x :=
  fun e failed => implies e (fails e failed)

theorem FailsWith.bind {x : Except ε α} {f : α → Except ε β} (first : FailsWith p x)
    (next : ∀ a, x = .ok a → FailsWith p (f a))
    : FailsWith p (x >>= f) := by
  intro e failed
  rcases bind_eq_error.mp failed with failed | ⟨a, done, failed⟩
  · exact first e failed
  · exact next a done e failed

theorem FailsWith.ite {c : Prop} [Decidable c] {x y : Except ε α} (yes : FailsWith p x)
    (no : FailsWith p y)
    : FailsWith p (if c then x else y) := by
  split
  · exact yes
  · exact no

theorem FailsWith.map {x : Except ε α} (fails : FailsWith p x) (f : α → β)
    : FailsWith p (x.map f) :=
  fun e failed => fails e (map_eq_error.mp failed)

theorem FailsWith.mapM {f : α → Except ε β} {xs : List α} (each : ∀ x ∈ xs, FailsWith p (f x))
    : FailsWith p (xs.mapM f) := by
  intro e failed
  obtain ⟨before, x, after, rfl, _, failed⟩ := mapM_eq_error.mp failed
  exact each x (by simp) e failed

theorem FailsWith.forM {f : α → Except ε PUnit} {xs : List α}
    (each : ∀ x ∈ xs, FailsWith p (f x))
    : FailsWith p (xs.forM f) := by
  induction xs with
  | nil => exact .ok _
  | cons x xs ih =>
      exact (each x List.mem_cons_self).bind fun _ _ =>
        ih fun y member => each y (List.mem_cons_of_mem x member)

end Dispatch.Result
