import Dispatch.Value.Basic
import Mathlib.Data.List.Pairwise

/-! Keys of maps. Texts are the same key if they are equal; the texts of two string literals are
equal if the literals are.
-/

namespace Dispatch

theorem CodePoint.ofChar_inj {c e : Char} : CodePoint.ofChar c = CodePoint.ofChar e ↔ c = e := by
  simp [CodePoint.ofChar, ← Char.toNat_inj]

theorem text_inj {s t : String} : text s = text t ↔ s = t := by
  constructor
  · intro same
    have chars : s.toList = t.toList :=
      (List.map_inj_right fun _ _ => CodePoint.ofChar_inj.mp).mp same
    exact String.toList_inj.mp chars
  · exact congrArg text

namespace Value

theorem sameKey_text (s t : Text) : sameKey (.text s) (.text t) = decide (s = t) := by
  simp [sameKey, asKeyText?]

theorem eq_text_of_isText {v : Value} (isText : v.isText) : ∃ t, v = .text t := by
  cases v with
  | text t => exact ⟨t, rfl⟩
  | _ => contradiction

/-- Values of which no two are the same key. -/
def AllDiffer (keys : List Value) : Prop :=
  keys.Pairwise fun v w => sameKey v w = false

theorem allDiffer_text {names : List Text} (once : names.Nodup)
    : AllDiffer (names.map Value.text) := by
  refine List.pairwise_map.mpr (once.imp ?_)
  intro s t other
  rw [sameKey_text, decide_eq_false other]

/-- Entries of a map: their keys can be keys, and no two of them are the same. -/
structure AreEntries (entries : List (Value × Value)) : Prop where
  keys : ∀ e ∈ entries, e.1.isKey
  differ : AllDiffer (entries.map (·.1))

/-- Entries under names are entries of a map if no name is there twice. -/
theorem areEntries_of_names {α : Type} {name : α → Text} {value : α → Value} {xs : List α}
    (once : (xs.map name).Nodup)
    : AreEntries (xs.map fun x => (.text (name x), value x)) := by
  constructor
  · intro e member
    obtain ⟨x, _, rfl⟩ := List.mem_map.mp member
    rfl
  · have differ := allDiffer_text once
    rw [List.map_map] at differ ⊢
    exact differ

theorem insert_of_differ {entries : List (Value × Value)} {key : Value}
    (new : ∀ e ∈ entries, sameKey e.1 key = false) (value : Value)
    : insert entries key value = entries ++ [(key, value)] := by
  have absent : hasKey entries key = false := by
    simpa [hasKey] using new
  simp [insert, absent]

end Value

end Dispatch
