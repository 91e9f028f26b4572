import Dispatch.Text.Blank

/-! Decimal digits of every script. Each block of ten starts at its zero, so the value of a digit
is its distance from the zero. Integers are read with a sign, with blanks around them and with
single underscores between digits.
-/

namespace Dispatch

/-- The zeros of the blocks of decimal digits in Unicode 14. -/
def digitZeros : List Nat := [
  0x30, 0x660, 0x6f0, 0x7c0, 0x966, 0x9e6, 0xa66, 0xae6, 0xb66, 0xbe6, 0xc66,
  0xce6, 0xd66, 0xde6, 0xe50, 0xed0, 0xf20, 0x1040, 0x1090, 0x17e0, 0x1810, 0x1946,
  0x19d0, 0x1a80, 0x1a90, 0x1b50, 0x1bb0, 0x1c40, 0x1c50, 0xa620, 0xa8d0, 0xa900, 0xa9d0,
  0xa9f0, 0xaa50, 0xabf0, 0xff10, 0x104a0, 0x10d30, 0x11066, 0x110f0, 0x11136, 0x111d0, 0x112f0,
  0x11450, 0x114d0, 0x11650, 0x116c0, 0x11730, 0x118e0, 0x11950, 0x11c50, 0x11d50, 0x11da0, 0x16a60,
  0x16ac0, 0x16b50, 0x1d7ce, 0x1d7d8, 0x1d7e2, 0x1d7ec, 0x1d7f6, 0x1e140, 0x1e2f0, 0x1e950, 0x1fbf0]

/-- The value of a decimal digit of any script. -/
def CodePoint.decimal? (c : CodePoint) : Option Nat :=
  if c.isDigit then some (c.val - 0x30)
  else if c.isAscii then none
  else (digitZeros.find? fun start => start ≤ c.val && c.val < start + 10).map (c.val - ·)

namespace Text

/-- The most digits an integer may have when it is read from or shown as decimal text. -/
def maxDigits : Nat := 4300

/-- Digits with single underscores between them, as their values; the flag says that the last
code point was a digit. -/
def digitValues : Bool → Text → Option (List Nat)
  | afterDigit, [] => if afterDigit then some [] else none
  | afterDigit, c :: rest =>
      if c = CodePoint.ofChar '_' then
        if afterDigit then digitValues false rest else none
      else
        match c.decimal? with
        | some d => (digitValues true rest).map (d :: ·)
        | none => none

/-- Reads a decimal integer: blanks around it and one sign are allowed. -/
def toInt? (t : Text) : Option Int :=
  let body := t.strip
  let (negative, digits) :=
    match body with
    | c :: rest =>
        if c = CodePoint.ofChar '-' then (true, rest)
        else if c = CodePoint.ofChar '+' then (false, rest)
        else (false, body)
    | [] => (false, [])
  match digitValues false digits with
  | some values =>
      if values.length ≤ maxDigits then
        let n : Nat := values.foldl (fun n d => 10 * n + d) 0
        some (if negative then -(n : Int) else (n : Int))
      else none
  | none => none

end Text

end Dispatch
