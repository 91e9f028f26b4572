import Dispatch.Text.Basic

/-! Code points as UTF-8 byte sequences. The general form writes any code point, surrogates
included; the strict reader refuses surrogates, overlong forms and numbers out of range.
-/

namespace Dispatch

/-- A sequence of bytes. -/
abbrev Bytes := List UInt8

namespace Utf8

/-- The bytes of a code point in the general form of UTF-8. -/
def encodeChar (c : CodePoint) : Bytes :=
  if c.val < 0x80 then [UInt8.ofNat c.val]
  else if c.val < 0x800 then
    [UInt8.ofNat (0xc0 + c.val / 0x40), UInt8.ofNat (0x80 + c.val % 0x40)]
  else if c.val < 0x10000 then
    [UInt8.ofNat (0xe0 + c.val / 0x1000), UInt8.ofNat (0x80 + c.val / 0x40 % 0x40),
      UInt8.ofNat (0x80 + c.val % 0x40)]
  else
    [UInt8.ofNat (0xf0 + c.val / 0x40000), UInt8.ofNat (0x80 + c.val / 0x1000 % 0x40),
      UInt8.ofNat (0x80 + c.val / 0x40 % 0x40), UInt8.ofNat (0x80 + c.val % 0x40)]

/-- The bytes of a text in the general form of UTF-8. -/
def encode (t : Text) : Bytes :=
  t.flatMap encodeChar

/-- The six bits of a continuation byte. -/
def tail? (b : UInt8) : Option Nat :=
  if 0x80 ≤ b.toNat && b.toNat < 0xc0 then some (b.toNat - 0x80) else none

/-- Reads one code point in the general form; what is left is returned beside it. -/
def decodeChar? : Bytes → Option (CodePoint × Bytes)
  | [] => none
  | b :: rest =>
      if b.toNat < 0x80 then
        (CodePoint.ofNat? b.toNat).map (·, rest)
      else if b.toNat < 0xc2 then none
      else if b.toNat < 0xe0 then
        match rest with
        | b₁ :: rest => do
            let n := 0x40 * (b.toNat - 0xc0) + (← tail? b₁)
            return (← CodePoint.ofNat? n, rest)
        | _ => none
      else if b.toNat < 0xf0 then
        match rest with
        | b₁ :: b₂ :: rest => do
            let n := 0x1000 * (b.toNat - 0xe0) + 0x40 * (← tail? b₁) + (← tail? b₂)
            if n < 0x800 then none else return (← CodePoint.ofNat? n, rest)
        | _ => none
      else if b.toNat < 0xf5 then
        match rest with
        | b₁ :: b₂ :: b₃ :: rest => do
            let n := 0x40000 * (b.toNat - 0xf0) + 0x1000 * (← tail? b₁) + 0x40 * (← tail? b₂)
              + (← tail? b₃)
            if n < 0x10000 then none else return (← CodePoint.ofNat? n, rest)
        | _ => none
      else none

/-- Reads code points while there are bytes, at most as many as the fuel. -/
def decodeWithin : Nat → Bytes → Text → Option Text
  | _, [], done => some done.reverse
  | 0, _ :: _, _ => none
  | fuel + 1, bytes@(_ :: _), done =>
      match decodeChar? bytes with
      | some (c, rest) => decodeWithin fuel rest (c :: done)
      | none => none

/-- Reads the general form. -/
def decodeGeneral? (bytes : Bytes) : Option Text :=
  decodeWithin bytes.length bytes []

/-- Reads UTF-8; surrogates are refused. -/
def decode? (bytes : Bytes) : Option Text :=
  match decodeGeneral? bytes with
  | some t => if t.any CodePoint.isSurrogate then none else some t
  | none => none

end Utf8

end Dispatch
