import Dispatch.Text.Utf8

/-! What the library takes from the machine that it runs on: the tables of the multi-byte charsets,
and how deeply calls may be nested. The machine is a parameter, so whatever is proved holds on all
of them.
-/

namespace Dispatch

/-- The part of a text that a charset has no bytes for: the places where it starts and ends, and the
code point at its start. -/
structure Misfit where
  first : Nat
  last : Nat
  culprit : CodePoint
  reason : String

/-- A charset by what it writes and reads. -/
structure MultiByte where
  encode : Text → Except Misfit Bytes
  decode? : Bytes → Option Text

class Platform where
  /-- The multi-byte charset of a label. -/
  multiByte : Text → MultiByte
  /-- How deeply a value may be nested to have a written form. -/
  shownDepth : Nat
  /-- How deeply lists and maps may be nested for their texts to be filled in. A map of texts may
  always be. -/
  filledDepth : Nat
  filled_pos : 0 < filledDepth
  /-- How deeply the nodes of a document may be nested. A map of scalars may always be. -/
  documentDepth : Nat
  two_le_documentDepth : 2 ≤ documentDepth
  /-- How deeply a value may be nested to be pickled. -/
  pickledDepth : Nat
  /-- How deeply a value may be nested to have JSON text. -/
  jsonDepth : Nat

namespace MultiByte

/-- The bytes of an ASCII character, some of which have bytes of their own. -/
def asciiForm? (special : List (Nat × Bytes)) (c : CodePoint) : Option Bytes :=
  match special.find? (·.1 = c.val) with
  | some (_, bytes) => some bytes
  | none => if c.isAscii then some [UInt8.ofNat c.val] else none

/-- Reads the bytes of ASCII characters. -/
def readAscii? (special : List (Nat × Bytes)) : Nat → Bytes → Text → Option Text
  | _, [], done => some done.reverse
  | 0, _ :: _, _ => none
  | fuel + 1, bytes@(b :: rest), done =>
      match special.find? fun e => e.2.isPrefixOf bytes with
      | some (n, form) =>
          readAscii? special fuel (bytes.drop form.length) (CodePoint.ofNat n :: done)
      | none =>
          if b.toNat < 0x80 then readAscii? special fuel rest (CodePoint.ofNat b.toNat :: done)
          else none

/-- The ASCII part of a charset. -/
def ofAscii (special : List (Nat × Bytes)) : MultiByte where
  encode t :=
    match t.findIdx? fun c => (asciiForm? special c).isNone with
    | none => .ok (t.flatMap fun c => (asciiForm? special c).getD [])
    | some place => .error ⟨place, place, t.getD place default, "illegal multibyte sequence"⟩
  decode? bytes := readAscii? special bytes.length bytes []

/-- The bytes of ASCII characters in the charsets that do not write all of them as ASCII does. -/
def specialForms : List (String × List (Nat × Bytes)) := [
  ("hz", [(0x7e, [0x7e, 0x7e])]),
  ("shift_jis_2004", [(0x5c, [0x81, 0x5f]), (0x7e, [0x81, 0xb0])]),
  ("shift_jisx0213", [(0x5c, [0x81, 0x5f]), (0x7e, [0x81, 0xb0])])]

end MultiByte

/-- A machine with the ASCII part of the multi-byte charsets and the usual room for nested calls.
It is the one that definitions are evaluated on where no other is given. -/
instance (priority := low) Platform.usual : Platform where
  multiByte label :=
    .ofAscii
      (((MultiByte.specialForms.find? fun e => Dispatch.text e.1 = label).map (·.2)).getD [])
  shownDepth := 1000
  filledDepth := 495
  filled_pos := by decide
  documentDepth := 480
  two_le_documentDepth := by decide
  pickledDepth := 1000
  jsonDepth := 1000

end Dispatch
