import Dispatch.Text.Basic

/-! A place in the text of a document. Lines end at line feeds and at three further code points; the
column counts the code points of a line, byte order marks left out.
-/

namespace Dispatch.Yaml

/-! ### Classes of code points -/

/-- Whether a code point ends a line. -/
def isBreak (c : CodePoint) : Bool :=
  c.val = 0x0a || c.val = 0x85 || c.val = 0x2028 || c.val = 0x2029

def isSpace (c : CodePoint) : Bool :=
  c.val = 0x20

def isWhite (c : CodePoint) : Bool :=
  c.val = 0x20 || c.val = 0x09

/-- Whether a code point is one of an ASCII string. -/
def among (s : String) (c : CodePoint) : Bool :=
  s.toList.any fun a => c = CodePoint.ofChar a

/-- Letters, digits, hyphen and underscore: the characters of names. -/
def isNameCharacter (c : CodePoint) : Bool :=
  c.isAlnum || among "-_" c

/-- Whether a line or the text ends here. -/
def endsLine : Option CodePoint → Bool
  | none => true
  | some c => isBreak c

/-- Whether a line or the text ends here, or a space follows. -/
def endsField : Option CodePoint → Bool
  | none => true
  | some c => isBreak c || isSpace c

/-- Whether a line or the text ends here, or a space or tab follows. -/
def endsWord : Option CodePoint → Bool
  | none => true
  | some c => isBreak c || isWhite c

/-- Whether a code point may stand in a document. -/
def isAllowed (c : CodePoint) : Bool :=
  c.val = 0x09 || c.val = 0x0a || c.val = 0x0d || (0x20 ≤ c.val && c.val ≤ 0x7e) || c.val = 0x85
    || (0xa0 ≤ c.val && c.val ≤ 0xd7ff) || (0xe000 ≤ c.val && c.val ≤ 0xfffd) || 0x10000 ≤ c.val

/-! ### Places -/

structure Cursor where
  rest : Text
  index : Nat
  line : Nat
  column : Nat

namespace Cursor

def ofText (t : Text) : Cursor :=
  { rest := t, index := 0, line := 0, column := 0 }

/-- The code point at the place, if the text does not end there. -/
def head? (c : Cursor) : Option CodePoint :=
  c.rest.head?

/-- The code point at some distance. -/
def at? (c : Cursor) (n : Nat) : Option CodePoint :=
  (c.rest.drop n).head?

/-- Whether the code point at the place is the given one. -/
def isAt (c : Cursor) (a : Char) : Bool :=
  c.head? = some (CodePoint.ofChar a)

/-- Whether there is a code point at the place and it satisfies a test. -/
def meets (c : Cursor) (p : CodePoint → Bool) : Bool :=
  c.head?.any p

/-- The place after a code point. -/
def step (c : Cursor) (a : CodePoint) : Cursor :=
  { c with
    index := c.index + 1
    line := if isBreak a then c.line + 1 else c.line
    column := if isBreak a then 0 else if a.val = 0xfeff then c.column else c.column + 1 }

/-- The place some code points further on. -/
def advance (c : Cursor) (n : Nat) : Cursor :=
  { (c.rest.take n).foldl step c with rest := c.rest.drop n }

/-- The next place. -/
def next (c : Cursor) : Cursor :=
  c.advance 1

/-- The code points from here on that satisfy a test, and the place after them. -/
def takeWhile (c : Cursor) (p : CodePoint → Bool) : Text × Cursor :=
  let taken : Text := c.rest.takeWhile p
  (taken, c.advance taken.length)

/-- The place after the code points that satisfy a test. -/
def skipWhile (c : Cursor) (p : CodePoint → Bool) : Cursor :=
  (c.takeWhile p).2

/-- The end of a line, as a line feed or as the code point that it is, and the place after it. -/
def lineBreak? (c : Cursor) : Option (CodePoint × Cursor) :=
  match c.head? with
  | some a =>
      if isBreak a then
        some (if a.val = 0x85 then CodePoint.ofChar '\n' else a, c.next)
      else none
  | none => none

/-- The place after the end of a line, or the same place if no line ends there. -/
def skipBreak (c : Cursor) : Cursor :=
  ((c.lineBreak?).map (·.2)).getD c

/-- Whether a line that starts here separates documents: three hyphens or three points. -/
def isSeparator (c : Cursor) : Bool :=
  (c.rest.startsWith (text "---") || c.rest.startsWith (text "...")) && endsWord (c.at? 3)

/-- The place after spaces and a comment. -/
def skipComment (c : Cursor) : Cursor :=
  let c := c.skipWhile isSpace
  if c.isAt '#' then c.skipWhile (!isBreak ·) else c

end Cursor

end Dispatch.Yaml
