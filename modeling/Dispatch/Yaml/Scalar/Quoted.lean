import Dispatch.Yaml.Cursor
import Dispatch.Yaml.Error

/-! Scalars between quotes. Line ends inside fold to a space, further ones stay. Between single
quotes a quote is written twice; between double quotes there are escapes.
-/

namespace Dispatch.Yaml.Quoted

/-- What a letter stands for after a backslash. -/
def escapes : List (Char × Nat) := [
  ('0', 0x0), ('a', 0x7), ('b', 0x8), ('t', 0x9), ('\t', 0x9), ('n', 0xa), ('v', 0xb), ('f', 0xc),
  ('r', 0xd), ('e', 0x1b), (' ', 0x20), ('"', 0x22), ('\\', 0x5c), ('/', 0x2f), ('N', 0x85),
  ('_', 0xa0), ('L', 0x2028), ('P', 0x2029)]

/-- How many hexadecimal digits follow a letter after a backslash. -/
def digitCounts : List (Char × Nat) := [('x', 2), ('u', 4), ('U', 8)]

def lookup (table : List (Char × Nat)) (c : CodePoint) : Option Nat :=
  (table.find? fun e => c = CodePoint.ofChar e.1).map (·.2)

/-- The code point of a number in hexadecimal digits. -/
def codePoint (digits : Text) : Except Error CodePoint :=
  let n := digits.foldl (fun n c => 16 * n + c.hexValue) 0
  match CodePoint.ofNat? n with
  | some c => .ok c
  | none => .error (.scalar (if n < 0x80000000 then .codePoint else .codePointRange))

/-- Blank lines: their ends, and the place after them and the blanks of the next line. A separator
of documents must not occur. -/
def breaks : Nat → Cursor → Text → Except Error (Text × Cursor)
  | 0, _, _ => .error .grammar
  | fuel + 1, c, done =>
      if c.isSeparator then .error .grammar
      else
        let c := c.skipWhile isWhite
        match c.lineBreak? with
        | some (b, next) => breaks fuel next (b :: done)
        | none => .ok (done.reverse, c)

/-- Blank lines from here on. -/
def blankLines (c : Cursor) : Except Error (Text × Cursor) :=
  breaks (c.rest.length + 1) c []

/-- A line end with the blank lines after it: alone it becomes a space, a plain line feed before
blank lines vanishes. -/
def folded (b : CodePoint) (blank : Text) : Text :=
  if b.val != 0x0a then b :: blank
  else if blank.isEmpty then [CodePoint.ofChar ' ']
  else blank

/-- An escape, from the code point after the backslash on. -/
def escape (c : Cursor) : Except Error (Text × Cursor) :=
  match c.head? with
  | none => .error .grammar
  | some a =>
      match lookup escapes a, lookup digitCounts a with
      | some n, _ => .ok ([CodePoint.ofNat n], c.next)
      | none, some count =>
          let digits : Text := c.next.rest.take count
          if digits.length = count && digits.all CodePoint.isHexDigit then
            (codePoint digits).map fun found => ([found], c.next.advance count)
          else .error .grammar
      | none, none =>
          match c.lineBreak? with
          | some (_, next) => blankLines next
          | none => .error .grammar

/-- Whether a code point between quotes always stands for itself. -/
def isOrdinary (c : CodePoint) : Bool :=
  !(among "'\"\\ \t" c || isBreak c)

/-- Blanks and line ends between quotes. -/
def gap (c : Cursor) : Except Error (Text × Cursor) :=
  let (blanks, c) := c.takeWhile isWhite
  match c.lineBreak? with
  | some (b, next) => (blankLines next).map fun (blank, after) => (folded b blank, after)
  | none => if c.rest.isEmpty then .error .grammar else .ok (blanks, c)

/-- One piece between quotes. -/
def piece (double : Bool) (a : CodePoint) (c : Cursor) : Except Error (Text × Cursor) :=
  if isOrdinary a then .ok (c.takeWhile isOrdinary)
  else if isWhite a || isBreak a then gap c
  else if double && c.isAt '\\' then escape c.next
  else if !double && c.isAt '\'' then .ok ([a], c.advance 2)
  else .ok ([a], c.next)

/-- Whether the scalar ends here: at its quote, which between single quotes is not written twice. -/
def isEnd (double : Bool) (c : Cursor) : Bool :=
  if double then c.isAt '"' else c.isAt '\'' && c.at? 1 != some (CodePoint.ofChar '\'')

/-- The pieces up to the closing quote, after those that are read already, last first. -/
def pieces (double : Bool) : Nat → Cursor → List Text → Except Error (Text × Cursor)
  | 0, _, _ => .error .grammar
  | fuel + 1, c, done =>
      if isEnd double c then .ok (done.reverse.flatten, c.next)
      else
        match c.head? with
        | none => .error .grammar
        | some a => do
            let (found, c) ← piece double a c
            pieces double fuel c (found :: done)

/-- A quoted scalar, from its opening quote on. -/
def scan (double : Bool) (c : Cursor) : Except Error (Text × Cursor) :=
  pieces double (c.rest.length + 1) c.next []

end Dispatch.Yaml.Quoted
