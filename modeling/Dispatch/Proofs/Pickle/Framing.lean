import Dispatch.Pickle.Frame
import Dispatch.Proofs.Pickle.Instruction

/-! Frames do not show in what is read: the instructions of an assembled pickle are those that were
written, in their order, wherever its frames begin and end.
-/

namespace Dispatch.Pickle

/-- The instruction of a step, if it is one. -/
def Step.code? : Step → Option Opcode
  | .object => none
  | .code o => some o

/-- The bytes of instructions without frames. -/
def encodeAll (os : List Opcode) : Bytes :=
  os.flatMap (Opcode.encode 4)

/-- Bytes that are read as instructions, whatever follows them. -/
def IsProgram (bytes : Bytes) (os : List Opcode) : Prop :=
  ∀ rest, program? (bytes ++ rest) = (program? rest).map (os ++ ·)

variable {bytes more : Bytes} {os others : List Opcode}

theorem IsProgram.nil : IsProgram [] [] := by
  intro rest
  cases read : Pickle.program? rest <;> simp [read]

theorem IsProgram.append (first : IsProgram bytes os) (second : IsProgram more others)
    : IsProgram (bytes ++ more) (os ++ others) := by
  intro rest
  rw [List.append_assoc, first, second, Option.map_map]
  simp [Function.comp_def]

theorem IsProgram.program? (whole : IsProgram bytes os) : Pickle.program? bytes = some os := by
  have read := whole []
  rw [Pickle.program?] at read
  simpa using read

theorem isProgram_encode {o : Opcode} (returns : o.Returns) : IsProgram (o.encode 4) [o] := by
  obtain ⟨code, operand, encoded, other, read⟩ := returns
  intro rest
  rw [encoded, List.cons_append, Pickle.program?, if_neg other, read]
  simp only [List.drop_left, List.singleton_append]

/-- Instructions outside frames, by induction on them. -/
theorem isProgram_encodeAll (each : ∀ o ∈ os, o.Returns) : IsProgram (encodeAll os) os := by
  induction os with
  | nil => exact .nil
  | cons o os ih =>
      have first := isProgram_encode (each o (List.mem_cons_self ..))
      exact first.append (ih fun p member => each p (List.mem_cons_of_mem _ member))

/-- Instructions in a frame, by induction on them. -/
theorem instructions?_encodeAll (each : ∀ o ∈ os, o.Returns)
    : instructions? (encodeAll os) = some os := by
  induction os with
  | nil => rw [encodeAll, List.flatMap_nil, instructions?]
  | cons o os ih =>
      obtain ⟨code, operand, encoded, _, read⟩ := each o (List.mem_cons_self ..)
      have rest := ih fun p member => each p (List.mem_cons_of_mem _ member)
      rw [encodeAll] at rest
      rw [encodeAll, List.flatMap_cons, encoded, List.cons_append, instructions?, read]
      simp only [List.drop_left, rest]
      rfl

theorem isProgram_frame (each : ∀ o ∈ os, o.Returns)
    (room : (encodeAll os).length < 0x4000000000000000)
    : IsProgram (frameCode :: littleEndian 8 (encodeAll os).length ++ encodeAll os) os := by
  intro rest
  have content
      : sized? 8 (littleEndian 8 (encodeAll os).length ++ encodeAll os ++ rest)
        = some (encodeAll os, 8 + (encodeAll os).length) := sized?_append (by omega) rest
  have length : 8 + (encodeAll os).length
      = (littleEndian 8 (encodeAll os).length ++ encodeAll os).length := by simp
  rw [List.cons_append, List.cons_append, Pickle.program?, if_pos rfl, content]
  simp only [instructions?_encodeAll each, length, List.drop_left]
  cases Pickle.program? rest <;> rfl

namespace Framing

/-- The count of all bytes. -/
def size (f : Framing) : Nat :=
  f.done.length + f.frame.length

/-- What is written so far: the finished bytes are the version and a program, and the open frame
holds the instructions after it. -/
structure Holds (f : Framing) (os : List Opcode) : Prop where
  parts : ∃ body finished pending,
    os = finished ++ pending ∧ f.done.reverse = 0x80 :: 0x04 :: body ∧ IsProgram body finished
      ∧ f.frame.reverse = encodeAll pending ∧ ∀ o ∈ pending, o.Returns

variable {f : Framing}

theorem size_le_commit (f : Framing) : f.size ≤ f.commit.size := by
  rw [commit]
  split <;> simp [size] <;> omega

theorem size_add_le_step (f : Framing) (o : Opcode)
    : f.size + (o.encode 4).length ≤ (f.step 4 (.code o)).size := by
  have kept := f.size_le_commit
  simp only [size] at kept
  simp only [step, Nat.lt_irrefl, if_false, size]
  split <;> simp <;> omega

theorem size_le_step (f : Framing) (s : Step) : f.size ≤ (f.step 4 s).size := by
  cases s with
  | code o => exact Nat.le_trans (Nat.le_add_right ..) (f.size_add_le_step o)
  | object =>
      rw [step]
      split
      · exact f.size_le_commit
      · exact Nat.le_refl _

theorem size_le_foldl (f : Framing) (steps : List Step)
    : f.size ≤ (steps.foldl (step 4) f).size := by
  induction steps generalizing f with
  | nil => exact Nat.le_refl _
  | cons s steps ih => exact Nat.le_trans (f.size_le_step s) (ih _)

theorem frame_commit (f : Framing) : f.commit.frame = [] := by
  rw [commit]
  split <;> rfl

/-- Ending a frame finishes what it holds, whether its length is written or not. -/
theorem Holds.done_commit (holds : f.Holds os) (room : f.size < 0x4000000000000000)
    : ∃ body, f.commit.done.reverse = 0x80 :: 0x04 :: body ∧ IsProgram body os := by
  obtain ⟨body, finished, pending, rfl, done, program, frame, each⟩ := holds.parts
  have length : f.frame.length = (encodeAll pending).length := by
    rw [← frame, List.length_reverse]
  rw [size, length] at room
  rw [commit, length]
  split
  · refine ⟨body ++ encodeAll pending, ?_, program.append (isProgram_encodeAll each)⟩
    simp [done, frame]
  · refine ⟨body ++ (frameCode :: littleEndian 8 (encodeAll pending).length ++ encodeAll pending),
      ?_, program.append (isProgram_frame each (by omega))⟩
    simp [done, frame, frameCode]

theorem Holds.commit (holds : f.Holds os) (room : f.size < 0x4000000000000000)
    : f.commit.Holds os := by
  obtain ⟨body, done, program⟩ := holds.done_commit room
  refine ⟨body, os, [], (List.append_nil os).symm, done, program, ?_, by simp⟩
  rw [frame_commit]
  rfl

/-- One step adds its instruction, in the frame or outside it. -/
theorem Holds.step (holds : f.Holds os) {s : Step} (room : (f.step 4 s).size < 0x4000000000000000)
    (current : ∀ o ∈ s.code?, o.IsCurrent) (accepted : ∀ o ∈ s.code?, o.refusal? 4 = none)
    : (f.step 4 s).Holds (os ++ s.code?.toList) := by
  have before : f.size < 0x4000000000000000 := Nat.lt_of_le_of_lt (f.size_le_step s) room
  cases s with
  | object =>
      simp only [Step.code?, Option.toList_none, List.append_nil, Framing.step]
      split
      · exact holds.commit before
      · exact holds
  | code o =>
      have short : (o.encode 4).length < 0x4000000000000000 := by
        have added := f.size_add_le_step o
        omega
      have returns := Opcode.returns_of_isCurrent (current o rfl) (accepted o rfl) short
      simp only [Step.code?, Option.toList_some, Framing.step, Nat.lt_irrefl, if_false]
      split
      · obtain ⟨body, done, program⟩ := holds.done_commit before
        refine ⟨body ++ o.encode 4, os ++ [o], [], (List.append_nil _).symm, ?_,
          program.append (isProgram_encode returns), ?_, by simp⟩
        · simp [done]
        · simp [frame_commit, encodeAll]
      · obtain ⟨body, finished, pending, rfl, done, program, frame, each⟩ := holds.parts
        refine ⟨body, finished, pending ++ [o], List.append_assoc .., done, program, ?_, ?_⟩
        · simp [frame, encodeAll]
        · intro p member
          rcases List.mem_append.mp member with member | member
          · exact each p member
          · exact List.mem_singleton.mp member ▸ returns

/-- Many steps add their instructions, by induction on the steps. -/
theorem Holds.foldl {steps : List Step} (holds : f.Holds os)
    (room : (steps.foldl (Framing.step 4) f).size < 0x4000000000000000)
    (current : ∀ o ∈ steps.filterMap Step.code?, o.IsCurrent)
    (accepted : ∀ o ∈ steps.filterMap Step.code?, o.refusal? 4 = none)
    : (steps.foldl (Framing.step 4) f).Holds (os ++ steps.filterMap Step.code?) := by
  induction steps generalizing f os with
  | nil => simpa using holds
  | cons s steps ih =>
      have codes : (s :: steps).filterMap Step.code?
          = s.code?.toList ++ steps.filterMap Step.code? := by
        cases s <;> rfl
      rw [codes] at current accepted
      have first : (f.step 4 s).size < 0x4000000000000000 :=
        Nat.lt_of_le_of_lt (size_le_foldl _ steps) room
      have next := holds.step first
        (fun o member => current o (by simp [Option.mem_def.mp member]))
        (fun o member => accepted o (by simp [Option.mem_def.mp member]))
      rw [codes, ← List.append_assoc]
      exact ih next room (fun o member => current o (List.mem_append_right _ member))
        (fun o member => accepted o (List.mem_append_right _ member))

end Framing

/-- An assembled pickle is read as the instructions that it was assembled from. -/
theorem read?_assemble {steps : List Step} (room : (assemble 4 steps).length < 0x4000000000000000)
    (current : ∀ o ∈ steps.filterMap Step.code?, o.IsCurrent)
    (accepted : ∀ o ∈ steps.filterMap Step.code?, o.refusal? 4 = none)
    : read? (assemble 4 steps) = some (steps.filterMap Step.code?) := by
  have start : Framing.Holds ⟨[0x04, 0x80], []⟩ [] :=
    ⟨[], [], [], rfl, rfl, .nil, rfl, by simp⟩
  let written := steps.foldl (Framing.step 4) ⟨[0x04, 0x80], []⟩
  let stopped := written.step 4 (.code .stop)
  have bytes : assemble 4 steps = stopped.commit.done.reverse := rfl
  have total : stopped.size < 0x4000000000000000 := by
    have committed := stopped.size_le_commit
    rw [Framing.size, Framing.size, Framing.frame_commit] at committed
    rw [bytes, List.length_reverse] at room
    exact Nat.lt_of_le_of_lt committed room
  have holds : written.Holds (steps.filterMap Step.code?) :=
    start.foldl (Nat.lt_of_le_of_lt (written.size_le_step _) total) current accepted
  have ended := holds.step total (s := .code .stop) (by simp [Step.code?, Opcode.IsCurrent])
    (by simp [Step.code?, Opcode.refusal?])
  obtain ⟨body, done, program⟩ := ended.done_commit total
  rw [bytes, done, read?, program.program?]
  simp [Step.code?]

end Dispatch.Pickle
