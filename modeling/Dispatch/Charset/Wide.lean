import Dispatch.Charset.Basic

/-! The wide charsets: units of two or four bytes. Two-byte units write a code point beyond the
first 65,536 as a pair; the marked forms are little-endian and start with a mark.
-/

namespace Dispatch.Charset.Wide

/-- The byte order mark. -/
def mark : Nat := 0xfeff

/-- The units of a code point. -/
def unitsOf : UnitSize → CodePoint → List Nat
  | .quadruple, c => [c.val]
  | .double, c =>
      if c.val < 0x10000 then [c.val]
      else [0xd800 + (c.val - 0x10000) / 0x400, 0xdc00 + (c.val - 0x10000) % 0x400]

/-- The bytes of a unit, the lowest first. -/
def littleBytes : UnitSize → Nat → Bytes
  | .double, n => [UInt8.ofNat n, UInt8.ofNat (n / 0x100)]
  | .quadruple, n =>
      [UInt8.ofNat n, UInt8.ofNat (n / 0x100), UInt8.ofNat (n / 0x10000),
        UInt8.ofNat (n / 0x1000000)]

def unitBytes (unit : UnitSize) (order : ByteOrder) (n : Nat) : Bytes :=
  if order = .big then (littleBytes unit n).reverse else littleBytes unit n

def charBytes (unit : UnitSize) (order : ByteOrder) (c : CodePoint) : Bytes :=
  (unitsOf unit c).flatMap (unitBytes unit order)

/-- What a text starts with. -/
def start (unit : UnitSize) (order : ByteOrder) : Bytes :=
  if order = .marked then unitBytes unit .little mark else []

/-- Groups bytes into units of two, in the given order. -/
def doubles (big : Bool) : Bytes → List Nat → Option (List Nat)
  | [], done => some done.reverse
  | a :: b :: rest, done =>
      let unit := if big then 0x100 * a.toNat + b.toNat else a.toNat + 0x100 * b.toNat
      doubles big rest (unit :: done)
  | _, _ => none

/-- Groups bytes into units of four, in the given order. -/
def quadruples (big : Bool) : Bytes → List Nat → Option (List Nat)
  | [], done => some done.reverse
  | a :: b :: c :: d :: rest, done =>
      let low := fun (a b c d : UInt8) =>
        a.toNat + 0x100 * b.toNat + 0x10000 * c.toNat + 0x1000000 * d.toNat
      quadruples big rest ((if big then low d c b a else low a b c d) :: done)
  | _, _ => none

def unitsOfBytes (unit : UnitSize) (big : Bool) (bytes : Bytes) : Option (List Nat) :=
  match unit with
  | .double => doubles big bytes []
  | .quadruple => quadruples big bytes []

/-- Reads units of two bytes as code points; a surrogate that is not part of a pair is refused. -/
def ofDoubles : List Nat → Text → Option Text
  | [], done => some done.reverse
  | [n], done =>
      if 0xd800 ≤ n && n < 0xe000 then none else some (CodePoint.ofNat n :: done).reverse
  | n :: m :: rest, done =>
      if 0xd800 ≤ n && n < 0xdc00 && 0xdc00 ≤ m && m < 0xe000 then
        ofDoubles rest (CodePoint.ofNat (0x10000 + 0x400 * (n - 0xd800) + (m - 0xdc00)) :: done)
      else if 0xd800 ≤ n && n < 0xe000 then none
      else ofDoubles (m :: rest) (CodePoint.ofNat n :: done)

/-- Reads units of four bytes as code points; surrogates are refused. -/
def ofQuadruples (units : List Nat) : Option Text :=
  units.mapM fun n => (CodePoint.ofNat? n).filter fun c => !c.isSurrogate

/-- Takes the mark off a text; without one the order is little-endian. -/
def readMark (unit : UnitSize) (bytes : Bytes) : Bool × Bytes :=
  let size := if unit = .double then 2 else 4
  if bytes.take size = unitBytes unit .little mark then (false, bytes.drop size)
  else if bytes.take size = unitBytes unit .big mark then (true, bytes.drop size)
  else (false, bytes)

def decode? (unit : UnitSize) (order : ByteOrder) (bytes : Bytes) : Option Text := do
  let (big, bytes) :=
    match order with
    | .marked => readMark unit bytes
    | .little => (false, bytes)
    | .big => (true, bytes)
  let units ← unitsOfBytes unit big bytes
  match unit with
  | .double => ofDoubles units []
  | .quadruple => ofQuadruples units

end Dispatch.Charset.Wide
