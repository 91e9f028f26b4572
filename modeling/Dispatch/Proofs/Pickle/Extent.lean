import Dispatch.Proofs.Pickle.RoundTrip
import Mathlib.Algebra.GroupWithZero.Nat

/-! How long pickles get. What is written of data grows with its numbers, texts and bytes and with
the count of its parts, so that nothing but very large data is refused.
-/

namespace Dispatch.Pickle

open Dispatch.Result

/-- At most as many bytes as an instruction takes, with the length of a frame that ends before it.
-/
def Opcode.extent : Opcode → Nat
  | .int n => 32 + ((n.natAbs.log2 + 1) / 8 + 1)
  | .text t => 32 + (Utf8.encode t).length
  | .bytes b => 32 + b.length
  | _ => 32

theorem length_sized (code : UInt8) (width : Nat) (content : Bytes)
    : (sized code width content).length = 1 + width + content.length := by
  simp [sized]
  omega

namespace Opcode

theorem length_intBytes_le (n : Int)
    : (intBytes 4 n).length ≤ 5 + ((n.natAbs.log2 + 1) / 8 + 1) := by
  have width := signedWidth_le n
  have length : (signedBytes (signedWidth n) n).length = signedWidth n := length_littleEndian ..
  have four : (signedBytes 4 n).length = 4 := length_littleEndian ..
  simp only [intBytes]
  split
  · rw [if_neg (by decide)]
    split
    · simp only [List.length_cons, length_littleEndian]
      omega
    · split
      · simp only [List.length_cons, length_littleEndian]
        omega
      · simp only [List.length_cons, four]
        omega
  · rw [if_neg (by decide)]
    split <;> simp only [length_sized, length] <;> omega

theorem length_textBytes_le (t : Text) : (textBytes 4 t).length ≤ 9 + (Utf8.encode t).length := by
  simp only [textBytes, Nat.reduceEqDiff, if_false]
  split
  · simp [length_sized]
  · split <;> simp [length_sized]

theorem length_fixedBytes_le (b : Bytes) : (fixedBytes 4 b).length ≤ 9 + b.length := by
  rw [fixedBytes]
  split
  · simp [length_sized]
  · split <;> simp [length_sized]

theorem length_encode_le {o : Opcode} (current : o.IsCurrent)
    : (o.encode 4).length + 9 ≤ o.extent := by
  cases o with
  | int n =>
      have bound := length_intBytes_le n
      simp only [encode, extent]
      omega
  | text t =>
      have bound := length_textBytes_le t
      simp only [encode, extent]
      omega
  | bytes b =>
      have bound := length_fixedBytes_le b
      simp only [encode, extent]
      omega
  | get index =>
      simp only [encode, memoBytes, extent]
      split
      · contradiction
      · split <;> simp
  | float x => simp [encode, extent, Binary64.toBytes]
  | bool b => simp [encode, extent]
  | put _ => exact current.elim
  | global _ _ => exact current.elim
  | editable _ => exact current.elim
  | _ => simp [encode, extent, emptyBytes]

theorem le_extent (o : Opcode) : 32 ≤ o.extent := by
  cases o <;> simp [extent]

end Opcode

/-- At most as many bytes as a step adds. -/
def Step.extent : Step → Nat
  | .object => 9
  | .code o => o.extent

namespace Framing

theorem size_commit_le (f : Framing) : f.commit.size ≤ f.size + 9 := by
  rw [commit]
  split <;> simp [size] <;> omega

theorem size_step_le (f : Framing) {s : Step} (current : ∀ o ∈ s.code?, o.IsCurrent)
    : (f.step 4 s).size ≤ f.size + s.extent := by
  have committed := f.size_commit_le
  cases s with
  | object =>
      rw [step, Step.extent]
      split
      · exact committed
      · exact Nat.le_add_right ..
  | code o =>
      have bound := Opcode.length_encode_le (current o rfl)
      rw [size, frame_commit] at committed
      simp only [step, Nat.lt_irrefl, if_false, Step.extent, size]
      split
      · simp only [size, List.length_append, List.length_reverse, frame_commit, List.length_nil]
          at committed ⊢
        omega
      · simp only [List.length_append, List.length_reverse]
        omega

theorem size_foldl_le {steps : List Step} (f : Framing)
    (current : ∀ o ∈ steps.filterMap Step.code?, o.IsCurrent)
    : (steps.foldl (step 4) f).size ≤ f.size + (steps.map Step.extent).sum := by
  induction steps generalizing f with
  | nil => exact Nat.le_refl _
  | cons s steps ih =>
      have first := f.size_step_le (s := s) fun o code =>
        current o (List.mem_filterMap.mpr ⟨s, List.mem_cons_self .., code⟩)
      have rest := ih (f.step 4 s) fun o member => by
        obtain ⟨p, listed, code⟩ := List.mem_filterMap.mp member
        exact current o (List.mem_filterMap.mpr ⟨p, List.mem_cons_of_mem _ listed, code⟩)
      simp only [List.foldl_cons, List.map_cons, List.sum_cons]
      omega

end Framing

theorem length_assemble_le {steps : List Step}
    (current : ∀ o ∈ steps.filterMap Step.code?, o.IsCurrent)
    : (assemble 4 steps).length ≤ (steps.map Step.extent).sum + 64 := by
  let start : Framing := ⟨[0x04, 0x80], []⟩
  let stopped := (steps.foldl (Framing.step 4) start).step 4 (.code .stop)
  have written := start.size_foldl_le current
  have stop : stopped.size ≤ (steps.foldl (Framing.step 4) start).size + 32 :=
    Framing.size_step_le _ (by simp [Step.code?, Opcode.IsCurrent])
  have ended := stopped.size_commit_le
  have first : start.size = 2 := rfl
  have bytes : (assemble 4 steps).length = stopped.commit.size := by
    rw [Framing.size, Framing.frame_commit, List.length_nil, Nat.add_zero]
    exact List.length_reverse
  omega

theorem length_codes_le (steps : List Step)
    : (steps.filterMap Step.code?).length ≤ (steps.map Step.extent).sum := by
  induction steps with
  | nil => exact Nat.le_refl _
  | cons s steps ih =>
      cases s with
      | object =>
          simp only [List.filterMap_cons, Step.code?, List.map_cons, List.sum_cons]
          omega
      | code o =>
          have least := o.le_extent
          simp only [List.filterMap_cons, Step.code?, List.map_cons, List.sum_cons,
            List.length_cons, Step.extent]
          omega

theorem extent_le_of_mem {steps : List Step} {s : Step} (member : s ∈ steps)
    : s.extent ≤ (steps.map Step.extent).sum := by
  obtain ⟨before, after, rfl⟩ := List.append_of_mem member
  simp only [List.map_append, List.map_cons, List.sum_append, List.sum_cons]
  omega

namespace Draft

/-- At most as many bytes as a draft takes. -/
def extent (d : Draft) : Nat :=
  (d.steps.map Step.extent).sum

theorem sum_reverse_steps (d : Draft) : (d.steps.reverse.map Step.extent).sum = d.extent := by
  rw [List.map_reverse, List.sum_reverse, extent]

theorem length_written_le (d : Draft) : d.written.length ≤ d.extent :=
  d.sum_reverse_steps ▸ length_codes_le d.steps.reverse

theorem extent_le_of_mem_written {d : Draft} {o : Opcode} (member : o ∈ d.written)
    : o.extent ≤ d.extent := by
  obtain ⟨s, listed, code⟩ := List.mem_filterMap.mp member
  have bound := extent_le_of_mem listed
  rw [d.sum_reverse_steps] at bound
  cases s with
  | object => contradiction
  | code p => exact Option.some.inj code ▸ bound

variable {known : Nat → Value} {filling : List (Nat × Item)} {d : Draft} {stack : List Item}
  {below : List (List Item)}

/-- An instruction of a draft is refused only if the draft is very large. -/
theorem Shows.accepted (shows : d.Shows known filling stack below) (small : d.extent < 0x80000000)
    : d.refusal? = none := by
  rw [refusal?_eq_none, shows.version]
  intro o member
  obtain ⟨current, earlier⟩ := shows.current o member
  have bound := extent_le_of_mem_written member
  cases o with
  | int n =>
      rw [Opcode.extent] at bound
      rw [Opcode.refusal?, if_neg (by decide), if_neg (by omega)]
  | get index =>
      have early : index < d.written.length := earlier index rfl
      have count := d.length_written_le
      simp only [Opcode.refusal?, Bool.and_eq_true, decide_eq_true_eq]
      exact if_neg (by omega)
  | put _ => exact current.elim
  | _ => rfl

/-- A finished draft is written unless it is very large. -/
theorem Shows.exists_finish (shows : d.Shows known filling stack below)
    (small : d.extent < 0x80000000)
    : ∃ bytes, d.finish = .ok bytes := by
  have bound : (assemble 4 d.steps.reverse).length ≤ d.extent + 64 := by
    rw [← d.sum_reverse_steps]
    exact length_assemble_le fun o member => (shows.current o member).1
  refine ⟨_, (finish_of_accepted shows.version (shows.accepted small)).trans (if_pos ?_)⟩
  rw [maxLength]
  omega

end Draft

end Dispatch.Pickle
