import Dispatch.Yaml.Cursor
import Dispatch.Yaml.Error

/-! Block scalars: indented lines, kept as they are or folded into one. A header says how many line
ends stay at the end and may give the indentation.
-/

namespace Dispatch.Yaml.Block

/-- Which line ends stay at the end: none, one, or all. -/
inductive Chomping where
  | strip | clip | keep
deriving DecidableEq

/-- What the header says. -/
structure Header where
  chomping : Chomping
  indentation : Option Nat

def chompingOf? (c : Cursor) : Option Chomping :=
  if c.isAt '+' then some .keep else if c.isAt '-' then some .strip else none

/-- The indentation that the header gives; zero is refused. -/
def indentationOf (c : Cursor) : Except Error (Option Nat) :=
  match c.head? with
  | some a =>
      if !a.isDigit then .ok none
      else if a.val = 0x30 then .error .grammar
      else .ok (some (a.val - 0x30))
  | none => .ok none

/-- The header, from the place after the indicator on: two signs in either order. -/
def header (c : Cursor) : Except Error (Header × Cursor) := do
  let (chomping, c) := ((chompingOf? c).map fun found => (some found, c.next)).getD (none, c)
  let indentation ← indentationOf c
  let c := if indentation.isSome then c.next else c
  let (chomping, c) :=
    match chomping, indentation, chompingOf? c with
    | none, some _, some found => (some found, c.next)
    | _, _, _ => (chomping, c)
  if !endsField c.head? then throw .grammar
  let c := c.skipComment
  if !endsLine c.head? then throw .grammar
  return ({ chomping := chomping.getD .clip, indentation }, c.skipBreak)

/-- The blank lines at the start: their ends, the widest of their indentations, and the place of the
first other line. -/
def leading : Nat → Cursor → Text → Nat → Text × Nat × Cursor
  | 0, c, done, widest => (done.reverse, widest, c)
  | fuel + 1, c, done, widest =>
      match c.lineBreak? with
      | some (b, next) => leading fuel next (b :: done) widest
      | none =>
          if c.isAt ' ' then leading fuel c.next done (max widest (c.column + 1))
          else (done.reverse, widest, c)

/-- Spaces up to an indentation. -/
def indented (indentation : Nat) (c : Cursor) : Cursor :=
  let spaces : Text := (c.rest.take (indentation - c.column)).takeWhile isSpace
  c.advance spaces.length

/-- Blank lines between other lines: their ends, and the place after them. -/
def breaks (indentation : Nat) : Nat → Cursor → Text → Text × Cursor
  | 0, c, done => (done.reverse, c)
  | fuel + 1, c, done =>
      match c.lineBreak? with
      | some (b, next) => breaks indentation fuel (indented indentation next) (b :: done)
      | none => (done.reverse, c)

/-- What stands between two lines. Folding makes a line feed between two lines that do not start
with a blank into a space, or drops it before blank lines. -/
def joint (folded : Bool) (line : Text) (lineEnd : Text) (blank : Text) (c : Cursor) : Text :=
  let startsWhite := (line.head?.map isWhite).getD false || c.meets isWhite
  if folded && lineEnd = text "\n" && !startsWhite then
    if blank.isEmpty then text " " else []
  else lineEnd

/-- The end of the scalar: the end of its last line and the blank lines after it. -/
def tail (chomping : Chomping) (lineEnd blank : Text) : Text :=
  match chomping with
  | .strip => []
  | .clip => lineEnd
  | .keep => lineEnd ++ blank

/-- The lines with the given indentation. -/
def lines (folded : Bool) (chomping : Chomping) (indentation : Nat) :
    Nat → Cursor → Text → List Text → Text × Cursor
  | 0, c, _, done => (done.reverse.flatten, c)
  | fuel + 1, c, blank, done =>
      let (line, c) := c.takeWhile (!isBreak ·)
      let (lineEnd, c) : Text × Cursor :=
        match c.lineBreak? with
        | some (b, next) => ([b], next)
        | none => ([], c)
      let (nextBlank, c) := breaks indentation (c.rest.length + 1) (indented indentation c) []
      let done := line :: blank :: done
      if c.column = indentation && !c.rest.isEmpty then
        lines folded chomping indentation fuel c nextBlank
          (joint folded line lineEnd nextBlank c :: done)
      else ((tail chomping lineEnd nextBlank :: done).reverse.flatten, c)

/-- A block scalar, from its indicator on, inside a block with the given indentation. -/
def scan (folded : Bool) (parent : Int) (c : Cursor) : Except Error (Text × Cursor) := do
  let (head, c) ← header c.next
  let least := (max (parent + 1) 1).toNat
  let (blank, indentation, c) :=
    match head.indentation with
    | some n =>
        let indentation := least + n - 1
        let (blank, c) := breaks indentation (c.rest.length + 1) (indented indentation c) []
        (blank, indentation, c)
    | none =>
        let (blank, widest, c) := leading (c.rest.length + 1) c [] 0
        (blank, max least widest, c)
  if c.column = indentation && !c.rest.isEmpty then
    return lines folded head.chomping indentation (c.rest.length + 1) c blank []
  else return (tail head.chomping [] blank, c)

end Dispatch.Yaml.Block
