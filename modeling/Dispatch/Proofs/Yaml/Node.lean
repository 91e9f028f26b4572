import Dispatch.Yaml.Content
import Mathlib.Logic.Relation

/-! Nodes inside a node: its items, keys and values, and what is inside these. What is inside is
lower, so going inside ends.
-/

namespace Dispatch.Yaml.Node

/-- An item of a sequence, and a key and a value of a map. -/
inductive Part : Node → Node → Prop
  | item {tag : Tag} {items : List Node} {n : Node} (member : n ∈ items)
    : Part n (.sequence tag items)
  | key {tag : Tag} {entries : List (Node × Node)} {e : Node × Node} (member : e ∈ entries)
    : Part e.1 (.map tag entries)
  | value {tag : Tag} {entries : List (Node × Node)} {e : Node × Node} (member : e ∈ entries)
    : Part e.2 (.map tag entries)

/-- A node itself, or a part of a part of it. -/
def Within : Node → Node → Prop :=
  Relation.ReflTransGen Part

/-- A node that is within a part of another. -/
def Inside (m n : Node) : Prop :=
  ∃ part, Within m part ∧ Part part n

theorem Inside.within {m n : Node} (inside : Inside m n) : Within m n := by
  obtain ⟨part, within, isPart⟩ := inside
  exact Relation.ReflTransGen.tail within isPart

/-- What is inside one node is inside another that has the parts of the first. -/
theorem Inside.of_parts {m n k : Node} (inside : Inside m n) (parts : ∀ p, Part p n → Part p k)
    : Inside m k := by
  obtain ⟨part, within, isPart⟩ := inside
  exact ⟨part, within, parts part isPart⟩

theorem Inside.of_part {m n k : Node} (inside : Inside m n) (part : Part n k) : Inside m k :=
  ⟨n, inside.within, part⟩

theorem height_le_itemsHeight {n : Node} {items : List Node} (member : n ∈ items)
    : n.height ≤ itemsHeight items := by
  induction items with
  | nil => contradiction
  | cons first rest ih =>
      rw [itemsHeight]
      rcases List.mem_cons.mp member with rfl | later
      · exact Nat.le_max_left _ _
      · exact Nat.le_trans (ih later) (Nat.le_max_right _ _)

theorem height_le_entriesHeight {e : Node × Node} {entries : List (Node × Node)}
    (member : e ∈ entries)
    : e.1.height ≤ entriesHeight entries ∧ e.2.height ≤ entriesHeight entries := by
  induction entries with
  | nil => contradiction
  | cons first rest ih =>
      obtain ⟨key, value⟩ := first
      rw [entriesHeight]
      rcases List.mem_cons.mp member with rfl | later
      · dsimp only
        omega
      · have low := ih later
        omega

theorem Part.height_lt {m n : Node} (part : Part m n) : m.height < n.height := by
  cases part with
  | item member =>
      rw [height]
      exact Nat.lt_succ_of_le (height_le_itemsHeight member)
  | key member =>
      rw [height]
      exact Nat.lt_succ_of_le (height_le_entriesHeight member).1
  | value member =>
      rw [height]
      exact Nat.lt_succ_of_le (height_le_entriesHeight member).2

theorem Within.height_le {m n : Node} (within : Within m n) : m.height ≤ n.height := by
  induction within with
  | refl => exact Nat.le_refl _
  | tail _ part ih => exact Nat.le_trans ih (Nat.le_of_lt part.height_lt)

theorem Inside.height_lt {m n : Node} (inside : Inside m n) : m.height < n.height := by
  obtain ⟨part, within, isPart⟩ := inside
  exact Nat.lt_of_le_of_lt within.height_le isPart.height_lt

theorem height_pos (n : Node) : 0 < n.height := by
  cases n <;> simp [height]

end Dispatch.Yaml.Node
