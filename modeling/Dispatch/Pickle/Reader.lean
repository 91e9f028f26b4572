import Dispatch.Pickle.Opcode

/-! Reading pickles of version 4. An instruction is a byte and its operand. A frame holds whole
instructions, as many bytes of them as its length says.
-/

namespace Dispatch.Pickle

attribute [local instance (1100)] instPowNat

/-- A number from its bytes, the lowest first. -/
def ofLittleEndian (bytes : Bytes) : Nat :=
  bytes.foldr (fun b n => b.toNat + 256 * n) 0

/-- An integer from its bytes in two's complement, the lowest first. -/
def ofSigned (bytes : Bytes) : Int :=
  let n := ofLittleEndian bytes
  let count := 256 ^ bytes.length
  if 2 * n < count then n else (n : Int) - count

/-- The first bytes, if there are as many as asked for. -/
def first? (count : Nat) (bytes : Bytes) : Option Bytes :=
  let taken := bytes.take count
  if taken.length = count then some taken else none

/-- Content with its length in front, and how many bytes the two have. -/
def sized? (width : Nat) (bytes : Bytes) : Option (Bytes × Nat) := do
  let size := ofLittleEndian (← first? width bytes)
  let content ← first? size (bytes.drop width)
  return (content, width + size)

/-- An integer with its length in front. A length that has a sign may not be negative. -/
def sizedInt? (width : Nat) (signed : Bool) (bytes : Bytes) : Option (Opcode × Nat) := do
  let (content, size) ← sized? width bytes
  if signed && 0x80000000 ≤ content.length then none else return (.int (ofSigned content), size)

/-- Text with its length in front. -/
def sizedText? (width : Nat) (bytes : Bytes) : Option (Opcode × Nat) := do
  let (content, size) ← sized? width bytes
  return (.text (← Utf8.decodeGeneral? content), size)

/-- An instruction whose operand has a given number of bytes. -/
def plain? (width : Nat) (make : Bytes → Opcode) (bytes : Bytes) : Option (Opcode × Nat) := do
  return (make (← first? width bytes), width)

/-- The instruction that starts with a byte, and how many of the bytes after it are its operand. -/
def Opcode.read? (code : UInt8) (rest : Bytes) : Option (Opcode × Nat) :=
  match code with
  | 0x2e => some (.stop, 0)
  | 0x28 => some (.mark, 0)
  | 0x4e => some (.null, 0)
  | 0x88 => some (.bool true, 0)
  | 0x89 => some (.bool false, 0)
  | 0x4b => plain? 1 (fun b => .int (ofLittleEndian b)) rest
  | 0x4d => plain? 2 (fun b => .int (ofLittleEndian b)) rest
  | 0x4a => plain? 4 (fun b => .int (ofSigned b)) rest
  | 0x8a => sizedInt? 1 false rest
  | 0x8b => sizedInt? 4 true rest
  | 0x47 => plain? 8 (fun b => .float (Binary64.ofBytes b)) rest
  | 0x8c => sizedText? 1 rest
  | 0x58 => sizedText? 4 rest
  | 0x8d => sizedText? 8 rest
  | 0x43 => (sized? 1 rest).map fun (content, size) => (.bytes content, size)
  | 0x42 => (sized? 4 rest).map fun (content, size) => (.bytes content, size)
  | 0x8e => (sized? 8 rest).map fun (content, size) => (.bytes content, size)
  | 0x5d => some (.emptyList, 0)
  | 0x61 => some (.append, 0)
  | 0x65 => some (.appends, 0)
  | 0x29 => some (.emptyTuple, 0)
  | 0x85 => some (.smallTuple 1, 0)
  | 0x86 => some (.smallTuple 2, 0)
  | 0x87 => some (.smallTuple 3, 0)
  | 0x74 => some (.tuple, 0)
  | 0x7d => some (.emptyDict, 0)
  | 0x73 => some (.setItem, 0)
  | 0x75 => some (.setItems, 0)
  | 0x8f => some (.emptySet, 0)
  | 0x90 => some (.addItems, 0)
  | 0x94 => some (.memoize, 0)
  | 0x68 => plain? 1 (fun b => .get (ofLittleEndian b)) rest
  | 0x6a => plain? 4 (fun b => .get (ofLittleEndian b)) rest
  | 0x93 => some (.stackGlobal, 0)
  | 0x52 => some (.reduce, 0)
  | 0x81 => some (.newObject, 0)
  | 0x62 => some (.build, 0)
  | _ => none

/-- The byte in front of a frame. -/
def frameCode : UInt8 := 0x95

/-- The instructions of bytes without frames. -/
def instructions? (bytes : Bytes) : Option (List Opcode) :=
  match bytes with
  | [] => some []
  | code :: rest =>
      match Opcode.read? code rest with
      | some (o, size) => (instructions? (rest.drop size)).map (o :: ·)
      | none => none
termination_by bytes.length
decreasing_by simp only [List.length_drop, List.length_cons]; omega

/-- The instructions of bytes with frames. -/
def program? (bytes : Bytes) : Option (List Opcode) :=
  match bytes with
  | [] => some []
  | code :: rest =>
      if code = frameCode then
        match sized? 8 rest with
        | some (frame, size) => do
            let framed ← instructions? frame
            return framed ++ (← program? (rest.drop size))
        | none => none
      else
        match Opcode.read? code rest with
        | some (o, size) => (program? (rest.drop size)).map (o :: ·)
        | none => none
termination_by bytes.length
decreasing_by all_goals simp only [List.length_drop, List.length_cons]; omega

/-- The instructions of a pickle of version 4. The version stands in front, and the instruction to
stop, which is left out, stands at the end. -/
def read? : Bytes → Option (List Opcode)
  | 0x80 :: 0x04 :: rest => do
      let os ← program? rest
      match os.getLast? with
      | some .stop => return os.dropLast
      | _ => none
  | _ => none

end Dispatch.Pickle
