/-! Text as a list of Unicode code points. Surrogates may stand alone, so a text need not
have a UTF-8 form. The cuts and joins used by every grammar of the library are here.
-/

namespace Dispatch

/-- A Unicode code point, surrogates included. -/
structure CodePoint where
  val : Nat
  isLt : val < 0x110000
deriving DecidableEq

namespace CodePoint

def ofChar (c : Char) : CodePoint :=
  ⟨c.toNat, by
    rcases c.valid with h | h
    · exact Nat.lt_trans h (by decide)
    · exact h.2⟩

instance : Coe Char CodePoint := ⟨ofChar⟩

instance : Inhabited CodePoint := ⟨⟨0, by decide⟩⟩

/-- The code point of a number, where there is one. -/
def ofNat? (n : Nat) : Option CodePoint :=
  if h : n < 0x110000 then some ⟨n, h⟩ else none

/-- The code point of a number; a number out of range gives the replacement character. -/
def ofNat (n : Nat) : CodePoint :=
  if h : n < 0x110000 then ⟨n, h⟩ else ⟨0xfffd, by decide⟩

def isSurrogate (c : CodePoint) : Bool :=
  0xd800 ≤ c.val && c.val < 0xe000

def isAscii (c : CodePoint) : Bool :=
  c.val < 0x80

def isDigit (c : CodePoint) : Bool :=
  0x30 ≤ c.val && c.val ≤ 0x39

def isLowerAscii (c : CodePoint) : Bool :=
  0x61 ≤ c.val && c.val ≤ 0x7a

def isUpperAscii (c : CodePoint) : Bool :=
  0x41 ≤ c.val && c.val ≤ 0x5a

def isLetter (c : CodePoint) : Bool :=
  c.isLowerAscii || c.isUpperAscii

def isAlnum (c : CodePoint) : Bool :=
  c.isLetter || c.isDigit

def isHexDigit (c : CodePoint) : Bool :=
  c.isDigit || (0x61 ≤ c.val && c.val ≤ 0x66) || (0x41 ≤ c.val && c.val ≤ 0x46)

/-- The value of a hexadecimal digit; zero for any other code point. -/
def hexValue (c : CodePoint) : Nat :=
  if c.isDigit then c.val - 0x30
  else if c.isLowerAscii then c.val - 0x57
  else if c.isUpperAscii then c.val - 0x37
  else 0

/-- Lower case of the ASCII letters; every other code point is kept. -/
def toLowerAscii (c : CodePoint) : CodePoint :=
  if h : c.isUpperAscii then
    ⟨c.val + 0x20, by simp [isUpperAscii] at h; omega⟩
  else c

end CodePoint

/-- A sequence of code points. -/
abbrev Text := List CodePoint

/-- The text of a string literal. -/
def text (s : String) : Text :=
  s.toList.map CodePoint.ofChar

namespace Text

/-- The string of a text that holds no surrogate. -/
def toString? (t : Text) : Option String :=
  if t.any CodePoint.isSurrogate then none
  else some (String.ofList (t.map fun c => Char.ofNat c.val))

def isAscii (t : Text) : Bool :=
  t.all CodePoint.isAscii

def lowerAscii (t : Text) : Text :=
  t.map CodePoint.toLowerAscii

/-- The part before the first occurrence of a code point, and the part after it if there is one. -/
def cut (c : CodePoint) (t : Text) : Text × Option Text :=
  (t.takeWhile (· != c), (t.dropWhile (· != c)).tail?)

/-- The part before the last occurrence of a code point, and the part after it; without an
occurrence the whole text is the second part. -/
def cutLast (c : CodePoint) (t : Text) : Option Text × Text :=
  let back := t.reverse
  ((back.dropWhile (· != c)).tail?.map List.reverse, (back.takeWhile (· != c)).reverse)

/-- The pieces between the code points that satisfy a test; there is always at least one. -/
def splitWhere (p : CodePoint → Bool) (t : Text) : List Text :=
  let (piece, pieces) :=
    t.foldr (fun c (piece, pieces) => if p c then ([], piece :: pieces) else (c :: piece, pieces))
      (([] : Text), ([] : List Text))
  piece :: pieces

def splitOn (c : CodePoint) (t : Text) : List Text :=
  splitWhere (· == c) t

def joinWith (separator : Text) (pieces : List Text) : Text :=
  separator.intercalate pieces

/-- Drops the code points that satisfy a test from both ends. -/
def stripWhere (p : CodePoint → Bool) (t : Text) : Text :=
  ((t.dropWhile p).reverse.dropWhile p).reverse

def startsWith (t start : Text) : Bool :=
  start.isPrefixOf t

/-- The decimal digits of a natural number. -/
def ofNat (n : Nat) : Text :=
  (Nat.toDigits 10 n).map CodePoint.ofChar

/-- Decimal digits with a leading minus for negative numbers. -/
def ofInt : Int → Text
  | .ofNat n => ofNat n
  | .negSucc n => CodePoint.ofChar '-' :: ofNat (n + 1)

/-- Decimal digits, padded with zeros to a width. -/
def ofNatPadded (width n : Nat) : Text :=
  let digits := ofNat n
  List.replicate (width - digits.length) (CodePoint.ofChar '0') ++ digits

/-- Hexadecimal digits, lower case, padded with zeros to a width. -/
def ofHex (width n : Nat) : Text :=
  let digits := (Nat.toDigits 16 n).map CodePoint.ofChar
  List.replicate (width - digits.length) (CodePoint.ofChar '0') ++ digits

/-- Reads decimal ASCII digits; none of them or anything else is refused. -/
def toNat? (t : Text) : Option Nat :=
  if t.isEmpty || !t.all CodePoint.isDigit then none
  else some (t.foldl (fun n c => 10 * n + (c.val - 0x30)) 0)

end Text

end Dispatch
