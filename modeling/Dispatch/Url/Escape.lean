import Dispatch.Text.Utf8

/-! Percent escapes in the components of a URL. A code point that a component does not allow is
written as the escapes of its UTF-8 bytes; a percent sign is always allowed, so an escape that is
there already is kept.
-/

namespace Dispatch.Escape

/-- The upper case hexadecimal digit of a value below 16. -/
def hexDigit (n : Nat) : CodePoint :=
  CodePoint.ofNat (if n < 10 then 0x30 + n else 0x37 + n)

/-- A byte as a percent sign and two upper case hexadecimal digits. -/
def byte (b : UInt8) : Text :=
  [CodePoint.ofChar '%', hexDigit (b.toNat / 16), hexDigit (b.toNat % 16)]

/-- The escapes of a code point. -/
def codePoint (c : CodePoint) : Text :=
  (Utf8.encodeChar c).flatMap byte

/-- Whether a code point is one of the characters of a string. -/
def among (s : String) (c : CodePoint) : Bool :=
  (text s).contains c

/-- Allowed in a fragment. -/
def inFragment (c : CodePoint) : Bool :=
  0x20 < c.val && c.val < 0x7f && !among "\"<>\x60" c

/-- Allowed in a query. -/
def inQuery (c : CodePoint) : Bool :=
  0x20 < c.val && c.val < 0x7f && !among "\"#<>" c

/-- Allowed in a path. -/
def inPath (c : CodePoint) : Bool :=
  inQuery c && !among "?\x60\x7b\x7d" c

/-- Allowed before the at sign of an authority. -/
def inUserinfo (c : CodePoint) : Bool :=
  inPath c && !among "/;=@[\\]^|" c

/-- Allowed in a host name. -/
def inHost (c : CodePoint) : Bool :=
  c.isAlnum || among "-._~!$&'()*+,;=\"\x60\x7b\x7d%|\\" c

/-- Escapes the code points that are not allowed. -/
def escape (allowed : CodePoint → Bool) (t : Text) : Text :=
  t.flatMap fun c => if allowed c then [c] else codePoint c

/-- Escapes a component; a surrogate has no bytes and is the error. -/
def quote (allowed : CodePoint → Bool) (t : Text) : Except CodePoint Text :=
  match t.find? CodePoint.isSurrogate with
  | some c => .error c
  | none => .ok (escape allowed t)

end Dispatch.Escape
