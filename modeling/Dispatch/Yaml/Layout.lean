import Dispatch.Yaml.Property
import Dispatch.Yaml.Scalar.Block
import Dispatch.Yaml.Scalar.Plain
import Dispatch.Yaml.Scalar.Quoted

/-! The layout of a document as tokens. Blocks open and close with the indentation. A node may turn
out to be a key when a colon follows it on the same line; its key token is then inserted before it.
-/

namespace Dispatch.Yaml

/-- A place where a node starts that may be a key. A required one starts its line at the indentation
of the block, so that nothing but a key can stand there. -/
structure PendingKey where
  number : Nat
  required : Bool
  index : Nat
  line : Nat
  column : Nat

/-- The state of reading: the tokens so far, last first, the indentations of the open blocks, and
for each open bracket, innermost first, the node that may be a key. -/
structure Layout where
  cursor : Cursor
  done : List Token
  count : Nat
  indentation : Int
  outer : List Int
  keys : List (Option PendingKey)
  keyAllowed : Bool

namespace Layout

def ofText (t : Text) : Layout :=
  let start := Cursor.ofText t
  let cursor := if start.meets (·.val = 0xfeff) then start.next else start
  { cursor, done := [], count := 0, indentation := -1, outer := [], keys := [none]
    keyAllowed := true }

/-- Whether a bracket is open. -/
def inFlow (l : Layout) : Bool :=
  1 < l.keys.length

def emit (l : Layout) (t : Token) : Layout :=
  { l with done := t :: l.done, count := l.count + 1 }

/-- Inserts a token in front of the token with a number. -/
def insert (l : Layout) (number : Nat) (t : Token) : Layout :=
  let later := l.count - number
  { l with done := l.done.take later ++ t :: l.done.drop later, count := l.count + 1 }

/-! ### Keys -/

/-- The node that may be a key inside the innermost bracket. -/
def key? (l : Layout) : Option PendingKey :=
  l.keys.head?.join

def setKey (l : Layout) (key : Option PendingKey) : Layout :=
  { l with keys := key :: l.keys.tail }

/-- Gives up the key of the innermost bracket. -/
def dropKey (l : Layout) : Except Error Layout :=
  if l.key?.any (·.required) then .error .grammar else .ok (l.setKey none)

/-- Notes that the node that starts here may be a key. -/
def saveKey (l : Layout) : Except Error Layout :=
  if l.keyAllowed then do
    let l ← l.dropKey
    let c := l.cursor
    let required := !l.inFlow && l.indentation = c.column
    return l.setKey (some ⟨l.count, required, c.index, c.line, c.column⟩)
  else .ok l

/-- Whether a key can no longer be one: its line has ended, or it is too long. -/
def isStale (c : Cursor) (key : PendingKey) : Bool :=
  key.line != c.line || key.index + 1024 < c.index

/-- Gives up the keys that can no longer be ones. -/
def dropStale (l : Layout) : Except Error Layout := do
  if l.keys.any fun key => key.any fun k => isStale l.cursor k && k.required then throw .grammar
  return { l with keys := l.keys.map fun key => key.filter (!isStale l.cursor ·) }

/-! ### Indentation -/

/-- Closes the blocks that are indented further than a column. -/
def closeBlocks (column : Int) : List Int → Int → List Token → Int × List Int × List Token
  | [], indentation, ends => (indentation, [], ends)
  | next :: outer, indentation, ends =>
      if column < indentation then closeBlocks column outer next (.blockEnd :: ends)
      else (indentation, next :: outer, ends)

def closeTo (l : Layout) (column : Int) : Layout :=
  if l.inFlow then l
  else
    let (indentation, outer, ends) := closeBlocks column l.outer l.indentation []
    { l with indentation, outer, done := ends ++ l.done, count := l.count + ends.length }

/-- Whether a block opens at a column. -/
def opensAt (l : Layout) (column : Nat) : Bool :=
  l.indentation < column

def openAt (l : Layout) (column : Nat) : Layout :=
  { l with indentation := column, outer := l.indentation :: l.outer }

/-- Opens a block here, if none is open at this column. Outside of brackets this needs a place where
a key may start. -/
def openBlock (l : Layout) (t : Token) : Except Error Layout :=
  if l.inFlow then .ok l
  else if !l.keyAllowed then .error .grammar
  else if l.opensAt l.cursor.column then .ok ((l.openAt l.cursor.column).emit t)
  else .ok l

/-! ### Tokens -/

/-- Goes on to the next token: over spaces, comments and line ends. The flag says whether a line
ended. -/
def skipBlank : Nat → Cursor → Bool → Cursor × Bool
  | 0, c, ended => (c, ended)
  | fuel + 1, c, ended =>
      let c := c.skipComment
      match c.lineBreak? with
      | some (_, next) => skipBlank fuel next true
      | none => (c, ended)

/-- Goes on to the next token and closes the blocks that end before it. -/
def toToken (l : Layout) : Except Error Layout := do
  let (cursor, ended) := skipBlank (l.cursor.rest.length + 1) l.cursor false
  let l := { l with cursor, keyAllowed := l.keyAllowed || (ended && !l.inFlow) }
  let l ← l.dropStale
  return l.closeTo cursor.column

def forward (l : Layout) (n : Nat) : Layout :=
  { l with cursor := l.cursor.advance n }

/-- The end of the document: all blocks close. -/
def finish (l : Layout) : Except Error Layout := do
  let l ← (l.closeTo (-1)).dropKey
  return l.emit .streamEnd

def directive (l : Layout) : Except Error Layout := do
  let l ← (l.closeTo (-1)).dropKey
  let (found, cursor) ← Property.directive l.cursor
  return { l with cursor, keyAllowed := false }.emit (.directive found)

/-- Three hyphens or points between documents. -/
def separator (l : Layout) (t : Token) : Except Error Layout := do
  let l ← (l.closeTo (-1)).dropKey
  return ({ l with keyAllowed := false }.forward 3).emit t

def openBracket (l : Layout) (t : Token) : Except Error Layout := do
  let l ← l.saveKey
  return ({ l with keys := none :: l.keys, keyAllowed := true }.forward 1).emit t

def closeBracket (l : Layout) (t : Token) : Except Error Layout := do
  let l ← l.dropKey
  let keys := if l.inFlow then l.keys.tail else l.keys
  return ({ l with keys, keyAllowed := false }.forward 1).emit t

def flowEntry (l : Layout) : Except Error Layout := do
  let l ← { l with keyAllowed := true }.dropKey
  return (l.forward 1).emit .flowEntry

/-- An entry of a block sequence. -/
def blockEntry (l : Layout) : Except Error Layout := do
  let l ← l.openBlock .sequenceStart
  let l ← { l with keyAllowed := true }.dropKey
  return (l.forward 1).emit .entry

/-- A key that is marked as one. -/
def markedKey (l : Layout) : Except Error Layout := do
  let l ← l.openBlock .mapStart
  let l ← { l with keyAllowed := !l.inFlow }.dropKey
  return (l.forward 1).emit .key

/-- A value. The node that may be a key is one, and may open a map. -/
def value (l : Layout) : Except Error Layout := do
  match l.key? with
  | some key =>
      let l := (l.setKey none).insert key.number .key
      let l :=
        if !l.inFlow && l.opensAt key.column then
          (l.openAt key.column).insert key.number .mapStart
        else l
      return ({ l with keyAllowed := false }.forward 1).emit .value
  | none =>
      let l ← l.openBlock .mapStart
      let l ← { l with keyAllowed := !l.inFlow }.dropKey
      return (l.forward 1).emit .value

/-- A token that may start a key. -/
def startingKey (l : Layout) (scan : Cursor → Except Error (Token × Cursor)) :
    Except Error Layout := do
  let l ← l.saveKey
  let (t, cursor) ← scan l.cursor
  return { l with cursor, keyAllowed := false }.emit t

def blockScalar (l : Layout) (folded : Bool) : Except Error Layout := do
  let l ← { l with keyAllowed := true }.dropKey
  let (content, cursor) ← Block.scan folded l.indentation l.cursor
  return { l with cursor }.emit (.scalar content false)

def plainScalar (l : Layout) : Except Error Layout := do
  let l ← l.saveKey
  let found := Plain.scan l.inFlow l.indentation l.cursor
  return { l with cursor := found.after, keyAllowed := found.lineEnded }.emit
    (.scalar found.content true)

def nameToken (make : Text → Token) (c : Cursor) : Except Error (Token × Cursor) :=
  (Property.anchorName c).map fun (name, c) => (make name, c)

def quotedToken (double : Bool) (c : Cursor) : Except Error (Token × Cursor) :=
  (Quoted.scan double c).map fun (content, c) => (.scalar content false, c)

/-- Reads the token that starts with the given code point. -/
def token (l : Layout) (a : CodePoint) : Except Error Layout :=
  let c := l.cursor
  let is := fun (b : Char) => a = CodePoint.ofChar b
  let alone := l.inFlow || endsWord (c.at? 1)
  if is '%' && c.column = 0 then l.directive
  else if is '-' && c.column = 0 && c.isSeparator then l.separator .documentStart
  else if is '.' && c.column = 0 && c.isSeparator then l.separator .documentEnd
  else if is '[' then l.openBracket .flowSequenceStart
  else if is '\x7b' then l.openBracket .flowMapStart
  else if is ']' then l.closeBracket .flowSequenceEnd
  else if is '\x7d' then l.closeBracket .flowMapEnd
  else if is ',' then l.flowEntry
  else if is '-' && endsWord (c.at? 1) then l.blockEntry
  else if is '?' && alone then l.markedKey
  else if is ':' && alone then l.value
  else if is '*' then l.startingKey (nameToken .alias)
  else if is '&' then l.startingKey (nameToken .anchor)
  else if is '!' then l.startingKey Property.tag
  else if is '|' && !l.inFlow then l.blockScalar false
  else if is '>' && !l.inFlow then l.blockScalar true
  else if is '\'' then l.startingKey (quotedToken false)
  else if is '"' then l.startingKey (quotedToken true)
  else if Plain.isStart l.inFlow c then l.plainScalar
  else .error .grammar

/-- The tokens up to a failure. It shows as soon as a token is looked at that may still become a
key. -/
def failed (l : Layout) (e : Error) : List Token :=
  let pending := match l.dropStale with
    | .ok l => l.keys.filterMap id
    | .error _ => []
  let certain := pending.foldl (fun n key => min n key.number) l.count
  l.done.reverse.take certain ++ [.failure e]

/-- Reads tokens to the end. -/
def run : Nat → Layout → List Token
  | 0, l => l.failed .grammar
  | fuel + 1, l =>
      let next := do
        let l ← l.toToken
        match l.cursor.head? with
        | none => return (← l.finish, true)
        | some a => return (← l.token a, false)
      match next with
      | .error e => l.failed e
      | .ok (l, true) => l.done.reverse
      | .ok (l, false) => run fuel l

end Layout

/-- The tokens of a document. -/
def Token.ofText (t : Text) : List Token :=
  let l := Layout.ofText t
  l.run (t.length + 1)

end Dispatch.Yaml
