import Dispatch.Pickle.Opcode

/-! Frames: runs of instructions with their length in front. A frame ends before the first object
that starts when it is full, and before content that is too large for frames; a very short one is
written without its length.
-/

namespace Dispatch.Pickle

/-- What a writer emits: the starts of objects and instructions. -/
inductive Step where
  | object
  | code (o : Opcode)

/-- The least length of a frame. -/
def frameMinimum : Nat := 4

/-- What is written so far, the last byte first: finished bytes and the open frame. -/
structure Framing where
  done : Bytes
  frame : Bytes

namespace Framing

/-- Ends the open frame. -/
def commit (f : Framing) : Framing :=
  let size := f.frame.length
  if size < frameMinimum then ⟨f.frame ++ f.done, []⟩
  else ⟨f.frame ++ (0x95 :: littleEndian 8 size).reverse ++ f.done, []⟩

/-- Writes one step. Before version 4 there are no frames. -/
def step (version : Nat) (f : Framing) : Step → Framing
  | .object => if frameTarget ≤ f.frame.length then f.commit else f
  | .code o =>
      let bytes := (o.encode version).reverse
      if version < 4 then { f with done := bytes ++ f.done }
      else if o.isLarge then { f.commit with done := bytes ++ f.commit.done }
      else { f with frame := bytes ++ f.frame }

end Framing

/-- The bytes of a whole pickle. From version 2 on it starts with the version. -/
def assemble (version : Nat) (steps : List Step) : Bytes :=
  let start : Framing := ⟨if version < 2 then [] else [UInt8.ofNat version, 0x80], []⟩
  ((steps.foldl (Framing.step version) start).step version (.code .stop)).commit.done.reverse

end Dispatch.Pickle
