import Dispatch.Yaml.Cursor

/-! Plain scalars: words without quotes. Blanks between words stay, and line ends fold as between
quotes. A plain scalar goes on in the next line if that line is indented further than the block.
-/

namespace Dispatch.Yaml.Plain

/-- Whether a word starts here. -/
def isStart (inFlow : Bool) (c : Cursor) : Bool :=
  match c.head? with
  | none => false
  | some a =>
      !(isWhite a || isBreak a || among "-?:,[]\x7b\x7d#&*!|>'\"%@`" a)
        || (!endsWord (c.at? 1) && (among "-" a || (!inFlow && among "?:" a)))

/-- Whether a colon before this ends a word. -/
def endsKey (inFlow : Bool) (next : Option CodePoint) : Bool :=
  endsWord next || (inFlow && next.any (among ",[]\x7b\x7d"))

/-- The length of the word at the start of a text. -/
def wordLength (inFlow : Bool) : Text → Nat → Nat
  | [], n => n
  | a :: rest, n =>
      if isWhite a || isBreak a then n
      else if a = CodePoint.ofChar ':' && endsKey inFlow rest.head? then n
      else if inFlow && among ",?[]\x7b\x7d" a then n
      else wordLength inFlow rest (n + 1)

/-- The spaces and ends of blank lines from here on. A separator of documents after a line end stops
them at once. -/
def breaks : Nat → Cursor → Text → Option Text × Cursor
  | 0, c, done => (some done.reverse, c)
  | fuel + 1, c, done =>
      match c.lineBreak? with
      | some (b, next) =>
          if next.isSeparator then (none, next) else breaks fuel next (b :: done)
      | none => if c.isAt ' ' then breaks fuel c.next done else (some done.reverse, c)

/-- What follows a word: the text that joins it with a next word, if one may follow, whether a line
ended, and the place after it. -/
structure Gap where
  joint : Text
  lineEnded : Bool
  after : Cursor

/-- The gap after a word. -/
def gap (c : Cursor) : Gap :=
  let (spaces, c) := c.takeWhile isSpace
  match c.lineBreak? with
  | none => { joint := spaces, lineEnded := false, after := c }
  | some (b, next) =>
      if next.isSeparator then { joint := [], lineEnded := true, after := next }
      else
        match breaks (next.rest.length + 1) next [] with
        | (none, after) => { joint := [], lineEnded := true, after }
        | (some blank, after) =>
            let joint :=
              if b.val != 0x0a then b :: blank
              else if blank.isEmpty then [CodePoint.ofChar ' ']
              else blank
            { joint, lineEnded := true, after }

/-- A plain scalar: its content, whether a line ended after its last word, and the place after it.
-/
structure Scan where
  content : Text
  lineEnded : Bool
  after : Cursor

/-- The words from here on, after those that are read already, last first. -/
def words (inFlow : Bool) (indentation : Int) : Nat → Cursor → Text → Bool → List Text → Scan
  | 0, c, _, lineEnded, done => { content := done.reverse.flatten, lineEnded, after := c }
  | fuel + 1, c, joint, lineEnded, done =>
      let length := if c.isAt '#' then 0 else wordLength inFlow c.rest 0
      if length = 0 then { content := done.reverse.flatten, lineEnded, after := c }
      else
        let word : Text := c.rest.take length
        let done := word :: joint :: done
        let found := gap (c.advance length)
        if found.joint.isEmpty || found.after.isAt '#'
            || (!inFlow && (found.after.column : Int) < indentation) then
          { content := done.reverse.flatten, lineEnded := found.lineEnded, after := found.after }
        else words inFlow indentation fuel found.after found.joint found.lineEnded done

/-- A plain scalar in a block whose entries are indented as far as given. -/
def scan (inFlow : Bool) (parent : Int) (c : Cursor) : Scan :=
  words inFlow (parent + 1) (c.rest.length + 1) c [] false []

end Dispatch.Yaml.Plain
