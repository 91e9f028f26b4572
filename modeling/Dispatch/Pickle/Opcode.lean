import Dispatch.Number.Shortest
import Dispatch.Text.Utf8

/-! Instructions of the pickle machine and their bytes. The machine has a stack with marks and a
numbered memo; numbers are written with their lowest byte first.
-/

namespace Dispatch.Pickle

attribute [local instance (1100)] instPowNat

inductive Opcode where
  | stop
  | mark
  | null
  | bool (b : Bool)
  | int (n : Int)
  | float (x : Binary64)
  | text (t : Text)
  | bytes (b : Bytes)
  | editable (b : Bytes)
  | emptyList
  | append
  | appends
  | emptyTuple
  /-- Gathers one, two or three items, by count. -/
  | smallTuple (count : Nat)
  /-- Gathers the items down to the mark. -/
  | tuple
  | emptyDict
  | setItem
  | setItems
  | emptySet
  | addItems
  /-- Stores the top under the next number. -/
  | memoize
  /-- Stores the top under a given number. -/
  | put (index : Nat)
  | get (index : Nat)
  /-- A class or function by two texts on the stack. -/
  | stackGlobal
  /-- A class or function by two lines. -/
  | global (module name : Text)
  | reduce
  | newObject
  | build

/-- A number in a given count of bytes, the lowest first. -/
def littleEndian (width n : Nat) : Bytes :=
  (List.range width).map fun i => UInt8.ofNat (n / 256 ^ i)

/-- The least count of bytes that holds an integer with its sign. -/
def signedWidth (n : Int) : Nat :=
  let magnitude := if n < 0 then (-n - 1).toNat else n.toNat
  if magnitude = 0 then 1 else magnitude.log2 / 8 + (if magnitude.log2 % 8 = 7 then 2 else 1)

/-- An integer in two's complement, the lowest byte first. -/
def signedBytes (width : Nat) (n : Int) : Bytes :=
  littleEndian width (n % (256 ^ width : Nat)).toNat

/-- A byte with a length of its own width before the content. -/
def sized (code : UInt8) (width : Nat) (content : Bytes) : Bytes :=
  code :: littleEndian width content.length ++ content

/-- A letter and a line of text. -/
def line (code : UInt8) (t : Text) : Bytes :=
  code :: Utf8.encode t ++ [0x0a]

/-- An integer in as few bytes as its size allows, or as a line. -/
def intBytes (version : Nat) (n : Int) : Bytes :=
  if -0x80000000 ≤ n && n < 0x80000000 then
    if version = 0 then line 0x49 (Text.ofInt n)
    else if 0 ≤ n && n < 0x100 then 0x4b :: littleEndian 1 n.toNat
    else if 0 ≤ n && n < 0x10000 then 0x4d :: littleEndian 2 n.toNat
    else 0x4a :: signedBytes 4 n
  else if version < 2 then line 0x4c (Text.ofInt n ++ Dispatch.text "L")
  else
    let width := signedWidth n
    if width < 0x100 then sized 0x8a 1 (signedBytes width n) else sized 0x8b 4 (signedBytes width n)

/-- A code point on a line of text: a byte, or an escape if it has none or would end the line. -/
def lineCodePoint (c : CodePoint) : Bytes :=
  if 0x10000 ≤ c.val then Utf8.encode (text "\\U" ++ Text.ofHex 8 c.val)
  else if 0x100 ≤ c.val || [0x00, 0x0a, 0x0d, 0x1a, 0x5c].contains c.val then
    Utf8.encode (text "\\u" ++ Text.ofHex 4 c.val)
  else [UInt8.ofNat c.val]

def textBytes (version : Nat) (t : Text) : Bytes :=
  if version = 0 then 0x56 :: t.flatMap lineCodePoint ++ [0x0a]
  else
    let content := Utf8.encode t
    if 4 ≤ version && content.length < 0x100 then sized 0x8c 1 content
    else if 4 ≤ version && 0x100000000 ≤ content.length then sized 0x8d 8 content
    else sized 0x58 4 content

def fixedBytes (version : Nat) (b : Bytes) : Bytes :=
  if b.length < 0x100 then sized 0x43 1 b
  else if 4 ≤ version && 0x100000000 ≤ b.length then sized 0x8e 8 b
  else sized 0x42 4 b

/-- An instruction with the number of a memo entry: a line, or one of two widths. -/
def memoBytes (version : Nat) (lineCode short long : UInt8) (index : Nat) : Bytes :=
  if version = 0 then line lineCode (Text.ofNat index)
  else if index < 0x100 then short :: littleEndian 1 index
  else long :: littleEndian 4 index

/-- An instruction for an empty container. Version 0 gathers nothing after a mark. -/
def emptyBytes (version : Nat) (gather code : UInt8) : Bytes :=
  if version = 0 then [0x28, gather] else [code]

/-- The bytes of an instruction under a version of the format. -/
def Opcode.encode (version : Nat) : Opcode → Bytes
  | .stop => [0x2e]
  | .mark => [0x28]
  | .null => [0x4e]
  | .bool b =>
      if version < 2 then line 0x49 (Dispatch.text (if b then "01" else "00"))
      else [if b then 0x88 else 0x89]
  | .int n => intBytes version n
  | .float x => if version = 0 then line 0x46 (Text.ofBinary64 x) else 0x47 :: x.toBytes
  | .text t => textBytes version t
  | .bytes b => fixedBytes version b
  | .editable b => sized 0x96 8 b
  | .emptyList => emptyBytes version 0x6c 0x5d
  | .append => [0x61]
  | .appends => [0x65]
  | .emptyTuple => emptyBytes version 0x74 0x29
  | .smallTuple count => [UInt8.ofNat (0x84 + count)]
  | .tuple => [0x74]
  | .emptyDict => emptyBytes version 0x64 0x7d
  | .setItem => [0x73]
  | .setItems => [0x75]
  | .emptySet => [0x8f]
  | .addItems => [0x90]
  | .memoize => [0x94]
  | .put index => memoBytes version 0x70 0x71 0x72 index
  | .get index => memoBytes version 0x67 0x68 0x6a index
  | .stackGlobal => [0x93]
  | .global module name => line 0x63 module ++ Utf8.encode name ++ [0x0a]
  | .reduce => [0x52]
  | .newObject => [0x81]
  | .build => [0x62]

/-- The length at which content is too large for a frame. -/
def frameTarget : Nat := 65536

/-- Whether an instruction is written outside frames. -/
def Opcode.isLarge : Opcode → Bool
  | .text t => frameTarget ≤ (Utf8.encode t).length
  | .bytes b => frameTarget ≤ b.length
  | .editable b => frameTarget ≤ b.length
  | _ => false

end Dispatch.Pickle
