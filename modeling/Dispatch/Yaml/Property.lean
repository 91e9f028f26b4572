import Dispatch.Text.Digits
import Dispatch.Text.Utf8
import Dispatch.Yaml.Cursor
import Dispatch.Yaml.Token

/-! What stands beside the nodes of a document: anchors and aliases, tags, and directives.
-/

namespace Dispatch.Yaml.Property

/-! ### Names -/

/-- The name of an anchor, from its indicator on. -/
def anchorName (c : Cursor) : Except Error (Text × Cursor) :=
  let (name, c) := c.next.takeWhile isNameCharacter
  let ends := endsWord c.head? || c.meets (among "?:,]\x7d%@`")
  if name.isEmpty || !ends then .error .grammar else .ok (name, c)

/-! ### Tags -/

/-- Whether a code point may stand in a tag. -/
def isTagCharacter (c : CodePoint) : Bool :=
  c.isAlnum || among "-;/?:@&=+$,_.!~*'()[]%" c

/-- Escaped bytes from here on: each is a percent sign and two hexadecimal digits. -/
def escapedBytes : Nat → Cursor → Bytes → Except Error (Bytes × Cursor)
  | 0, _, _ => .error .grammar
  | fuel + 1, c, done =>
      if !c.isAt '%' then .ok (done.reverse, c)
      else
        match c.at? 1, c.at? 2 with
        | some a, some b =>
            if a.isHexDigit && b.isHexDigit then
              escapedBytes fuel (c.advance 3) (UInt8.ofNat (16 * a.hexValue + b.hexValue) :: done)
            else .error .grammar
        | _, _ => .error .grammar

/-- The text of a tag from here on, with its escapes resolved. -/
def tagText : Nat → Cursor → Text → Except Error (Text × Cursor)
  | 0, _, _ => .error .grammar
  | fuel + 1, c, done =>
      if c.isAt '%' then do
        let (bytes, c) ← escapedBytes (c.rest.length + 1) c []
        match Utf8.decode? bytes with
        | some t => tagText fuel c (done ++ t)
        | none => throw .grammar
      else if c.meets isTagCharacter then
        let (t, c) := c.takeWhile fun a => isTagCharacter a && a != CodePoint.ofChar '%'
        tagText fuel c (done ++ t)
      else .ok (done, c)

/-- The text of a tag, which holds something. -/
def tagSuffix (c : Cursor) : Except Error (Text × Cursor) :=
  if c.meets isTagCharacter then tagText (c.rest.length + 1) c [] else .error .grammar

/-- The handle of a tag: one exclamation mark, or a name between two. -/
def tagHandle (c : Cursor) : Except Error (Text × Cursor) :=
  if !c.isAt '!' then .error .grammar
  else if c.next.isAt ' ' then .ok (text "!", c.next)
  else
    let (name, after) := c.next.takeWhile isNameCharacter
    if after.isAt '!' then .ok (text "!" ++ name ++ text "!", after.next) else .error .grammar

/-- Whether a second exclamation mark follows in the same word. -/
def hasHandle (c : Cursor) : Bool :=
  (c.next.takeWhile fun a => !(isSpace a || isBreak a)).1.contains (CodePoint.ofChar '!')

/-- A tag, from its exclamation mark on. -/
def tag (c : Cursor) : Except Error (Token × Cursor) := do
  let (found, c) ←
    if c.next.isAt '<' then do
      let (suffix, c) ← tagSuffix (c.advance 2)
      if c.isAt '>' then pure (Token.tag none suffix, c.next) else throw .grammar
    else if endsWord (c.at? 1) then pure (Token.tag none (text "!"), c.next)
    else if hasHandle c then do
      let (handle, c) ← tagHandle c
      let (suffix, c) ← tagSuffix c
      pure (Token.tag (some handle) suffix, c)
    else do
      let (suffix, c) ← tagSuffix c.next
      pure (Token.tag (some (text "!")) suffix, c)
  if endsField c.head? then return (found, c) else throw .grammar

/-! ### Directives -/

/-- A run of digits, of a limited length. -/
def number (c : Cursor) : Except Error (Nat × Cursor) :=
  let (digits, c) := c.takeWhile CodePoint.isDigit
  match digits.toNat? with
  | some n =>
      if Text.maxDigits < digits.length then .error (.scalar (.integerDigits digits.length))
      else .ok (n, c)
  | none => .error .grammar

/-- The version that a directive asks for; only its first number counts. -/
def versionDirective (c : Cursor) : Except Error (Directive × Cursor) := do
  let (major, c) ← number (c.skipWhile isSpace)
  if !c.isAt '.' then throw .grammar
  let (_, c) ← number c.next
  if endsField c.head? then return (.version major, c) else throw .grammar

/-- A handle and what it stands for. -/
def handleDirective (c : Cursor) : Except Error (Directive × Cursor) := do
  let (handle, c) ← tagHandle (c.skipWhile isSpace)
  if !c.isAt ' ' then throw .grammar
  let (start, c) ← tagSuffix (c.skipWhile isSpace)
  if endsField c.head? then return (.tagHandle handle start, c) else throw .grammar

/-- A directive, from its percent sign on. -/
def directive (c : Cursor) : Except Error (Directive × Cursor) := do
  let (name, c) := c.next.takeWhile isNameCharacter
  if name.isEmpty || !endsField c.head? then throw .grammar
  let (found, c) ←
    if name = text "YAML" then versionDirective c
    else if name = text "TAG" then handleDirective c
    else pure (Directive.other, c.skipWhile (!isBreak ·))
  let c := c.skipComment
  if endsLine c.head? then return (found, c.skipBreak) else throw .grammar

end Dispatch.Yaml.Property
