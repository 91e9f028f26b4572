import Dispatch.Text.Printable
import Dispatch.Text.Utf8

/-! Quoted forms of texts and bytes, as they appear in messages. Single quotes are used unless the
content holds a single quote and no double quote; what is not printable is written as an escape.
-/

namespace Dispatch

/-- The quote mark for a content, told whether it holds single and double quotes. -/
def quoteMark (hasSingle hasDouble : Bool) : CodePoint :=
  if hasSingle && !hasDouble then '"' else '\''

/-- The form of one code point between quote marks. -/
def CodePoint.escaped (mark c : CodePoint) : Text :=
  if c = mark || c = CodePoint.ofChar '\\' then [CodePoint.ofChar '\\', c]
  else if c.val = 0x09 then text "\\t"
  else if c.val = 0x0a then text "\\n"
  else if c.val = 0x0d then text "\\r"
  else if c.isPrintable then [c]
  else if c.val < 0x100 then text "\\x" ++ Text.ofHex 2 c.val
  else if c.val < 0x10000 then text "\\u" ++ Text.ofHex 4 c.val
  else text "\\U" ++ Text.ofHex 8 c.val

/-- A text between quote marks. -/
def Text.quoted (t : Text) : Text :=
  let mark := quoteMark (t.contains (CodePoint.ofChar '\'')) (t.contains (CodePoint.ofChar '"'))
  mark :: t.flatMap (CodePoint.escaped mark) ++ [mark]

/-- The form of one byte between quote marks. -/
def escapedByte (mark : CodePoint) (b : UInt8) : Text :=
  let c := CodePoint.ofNat b.toNat
  if c.val < 0x7f then CodePoint.escaped mark c
  else text "\\x" ++ Text.ofHex 2 c.val

/-- Bytes between quote marks, after the letter `b`. -/
def Bytes.quoted (bytes : Bytes) : Text :=
  let mark := quoteMark (bytes.contains 0x27) (bytes.contains 0x22)
  CodePoint.ofChar 'b' :: mark :: bytes.flatMap (escapedByte mark) ++ [mark]

/-- Bytes between quote marks in which a single quote is an escape whatever the marks are. -/
def Bytes.quotedStrictly (bytes : Bytes) : Text :=
  let mark := quoteMark (bytes.contains 0x27) (bytes.contains 0x22)
  CodePoint.ofChar 'b' :: mark :: bytes.flatMap (escapedByte (CodePoint.ofChar '\'')) ++ [mark]

end Dispatch
