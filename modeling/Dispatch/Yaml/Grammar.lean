import Dispatch.Platform
import Dispatch.Yaml.Schema
import Dispatch.Yaml.Token

/-! The grammar of documents: tokens become nodes. Block nodes may hold flow nodes and not the other
way round; where a node is left out there is an empty one. An alias is the node of its anchor.
-/

namespace Dispatch.Yaml

/-- What an anchor stands for: a node that is still being read, with the room for nesting in it, or
a node. -/
inductive Anchored where
  | started (room : Nat)
  | finished (n : Node)

/-- The state of reading nodes: the tokens that are left, the tag handles of the document, and the
anchors so far. -/
structure Parse where
  tokens : List Token
  handles : List (Text × Text)
  anchors : List (Text × Anchored)

abbrev Reader := StateT Parse (Except Error)

namespace Reader

/-- The next token. Nothing can be read beyond a failure. -/
def peek : Reader Token := do
  match (← get).tokens with
  | .failure e :: _ => throw e
  | t :: _ => return t
  | [] => throw .grammar

def advance : Reader Unit :=
  modify fun s => { s with tokens := s.tokens.tail }

/-- Reads the given token. -/
def expect (t : Token) : Reader Unit := do
  if (← peek) = t then advance else throw .grammar

/-- How many tokens are left. -/
def left : Reader Nat := do
  return (← get).tokens.length

/-! ### Anchors and tags -/

def anchor? : Reader (Option Text) := do
  match ← peek with
  | .anchor name => do
      advance
      return some name
  | _ => return none

/-- The full name of a tag. -/
def tagName (handle : Option Text) (suffix : Text) : Reader Text := do
  match handle with
  | none => return suffix
  | some handle =>
      match (← get).handles.find? (·.1 = handle) with
      | some (_, start) => return start ++ suffix
      | none => throw .grammar

/-- A tag as it stands. -/
def rawTag? : Reader (Option (Option Text × Text)) := do
  match ← peek with
  | .tag handle suffix => do
      advance
      return some (handle, suffix)
  | _ => return none

/-- An anchor and a tag in either order, both optional. -/
def properties : Reader (Option Text × Option Text) := do
  let first ← anchor?
  let raw ← rawTag?
  let anchor ← if first.isNone && raw.isSome then anchor? else pure first
  match raw with
  | some (handle, suffix) => return (anchor, some (← tagName handle suffix))
  | none => return (anchor, none)

/-- Whether a tag leaves open what the node stands for. -/
def isOpen (tag : Option Text) : Bool :=
  tag.all (· = text "!")

/-- Starts a node under an anchor, which must be new. -/
def startAnchor (room : Nat) (name : Option Text) : Reader Unit := do
  match name with
  | none => return
  | some name =>
      if (← get).anchors.any (·.1 = name) then throw .grammar
      modify fun s => { s with anchors := (name, .started room) :: s.anchors }

/-- Sets the node of an anchor. -/
def finishAnchor (name : Option Text) (n : Node) : Reader Unit := do
  match name with
  | none => return
  | some name => modify fun s => { s with anchors := (name, .finished n) :: s.anchors }

/-- The node of an alias, where there is less room than in the nodes around it. -/
def aliased (room : Nat) (name : Text) : Reader Node := do
  match (← get).anchors.find? (·.1 = name) with
  | some (_, .finished n) => return n
  | some (_, .started outer) => return .cycle (outer - room - 1)
  | none => throw .grammar

/-! ### Collections -/

/-- Reads a node, or an empty one in front of a token that ends it. -/
def nodeUnless (ends : List Token) (node : Reader Node) : Reader Node := do
  if ends.contains (← peek) then return .empty else node

/-- Reads a value after its token; without the token it is empty. -/
def valueNode (ends : List Token) (node : Reader Node) : Reader Node := do
  if (← peek) = .value then do
    advance
    nodeUnless ends node
  else return .empty

/-- The entries of a block sequence, up to its end. -/
def blockItems (node : Reader Node) : Nat → List Node → Reader (List Node)
  | 0, _ => throw .grammar
  | fuel + 1, done => do
      match ← peek with
      | .entry => do
          advance
          let n ← nodeUnless [.entry, .blockEnd] node
          blockItems node fuel (n :: done)
      | .blockEnd => do
          advance
          return done.reverse
      | _ => throw .grammar

/-- The entries of a sequence that is not indented. It ends without a token of its own. -/
def flushItems (node : Reader Node) : Nat → List Node → Reader (List Node)
  | 0, _ => throw .grammar
  | fuel + 1, done => do
      if (← peek) = .entry then do
        advance
        let n ← nodeUnless [.entry, .key, .value, .blockEnd] node
        flushItems node fuel (n :: done)
      else return done.reverse

/-- The entries of a block map, up to its end. -/
def blockPairs (node : Reader Node) : Nat → List (Node × Node) → Reader (List (Node × Node))
  | 0, _ => throw .grammar
  | fuel + 1, done => do
      match ← peek with
      | .key => do
          advance
          let key ← nodeUnless [.key, .value, .blockEnd] node
          let value ← valueNode [.key, .value, .blockEnd] node
          blockPairs node fuel ((key, value) :: done)
      | .blockEnd => do
          advance
          return done.reverse
      | _ => throw .grammar

/-- A marked key and its value between brackets. -/
def flowPair (last : Token) (node : Reader Node) : Reader (Node × Node) := do
  advance
  let key ← nodeUnless [.value, .flowEntry, last] node
  let value ← valueNode [.flowEntry, last] node
  return (key, value)

/-- The entries between brackets, up to the last one. A comma stands between two of them, and may
stand after the last. -/
def flowItems {α : Type} (last : Token) (item : Token → Reader α) :
    Nat → List α → Reader (List α)
  | 0, _ => throw .grammar
  | fuel + 1, done => do
      if (← peek) = last then do
        advance
        return done.reverse
      else do
        if !done.isEmpty then expect .flowEntry
        let t ← peek
        if t = last then do
          advance
          return done.reverse
        else do
          let found ← item t
          flowItems last item fuel (found :: done)

/-- An entry of a flow sequence: a node, or a marked pair, which is a map of its own. -/
def flowItem (node : Reader Node) (t : Token) : Reader Node := do
  if t = .key then return .map .map [← flowPair .flowSequenceEnd node] else node

/-- An entry of a flow map: a marked pair, or a key without a value. -/
def flowMapItem (node : Reader Node) (t : Token) : Reader (Node × Node) := do
  if t = .key then flowPair .flowMapEnd node else return (← node, .empty)

/-! ### Nodes -/

/-- Where a node stands: inside brackets, in a block, or as a key or value in a block, where a
sequence need not be indented. -/
inductive Place where
  | flow | block | pair
deriving DecidableEq

/-- The tag of a collection. -/
def collectionTag (tag : Option Text) (standard : Tag) : Tag :=
  if isOpen tag then standard else Tag.ofText (tag.getD [])

/-- The tag of a scalar. -/
def scalarTag (tag : Option Text) (content : Text) (plain : Bool) : Tag :=
  if tag = some (text "!") || (plain && tag.isNone) then Schema.tagOf content
  else if tag.isNone then .text
  else Tag.ofText (tag.getD [])

/-- What a node holds, after its anchor and its tag. -/
def contentNode (room : Nat) (node : Place → Reader Node) (place : Place)
    (anchor tag : Option Text) : Reader Node := do
  let fuel := (← left) + 1
  let start := startAnchor room anchor
  match ← peek with
  | .scalar content plain => do
      advance
      start
      return .scalar (scalarTag tag content plain) content
  | .flowSequenceStart => do
      start
      advance
      return .sequence (collectionTag tag .sequence)
        (← flowItems .flowSequenceEnd (flowItem (node .flow)) fuel [])
  | .flowMapStart => do
      start
      advance
      return .map (collectionTag tag .map)
        (← flowItems .flowMapEnd (flowMapItem (node .flow)) fuel [])
  | t =>
      if t = .entry && place = .pair then do
        start
        return .sequence (collectionTag tag .sequence) (← flushItems (node .block) fuel [])
      else if t = .sequenceStart && place != .flow then do
        start
        advance
        return .sequence (collectionTag tag .sequence) (← blockItems (node .block) fuel [])
      else if t = .mapStart && place != .flow then do
        start
        advance
        return .map (collectionTag tag .map) (← blockPairs (node .pair) fuel [])
      else if anchor.isSome || tag.isSome then do
        start
        return .scalar (scalarTag tag [] true) []
      else throw .grammar

/-- Reads a node that is nested at most as deeply as the first argument says. -/
def node : Nat → Place → Reader Node
  | 0, _ => throw .depth
  | depth + 1, place => do
      match ← peek with
      | .alias name => do
          advance
          aliased depth name
      | _ => do
          let (anchor, tag) ← properties
          let n ← contentNode depth (node depth) place anchor tag
          finishAnchor anchor n
          return n

/-! ### Documents -/

def standardHandles : List (Text × Text) :=
  [(text "!", text "!"), (text "!!", Tag.commonStart)]

/-- Reads directives: the version at most once, and each handle at most once. -/
def directives : Nat → Bool → List (Text × Text) → Reader (List (Text × Text))
  | 0, _, _ => throw .grammar
  | fuel + 1, hasVersion, handles => do
      match ← peek with
      | .directive d => do
          advance
          match d with
          | .version major =>
              if hasVersion || major != 1 then throw .grammar
              else directives fuel true handles
          | .tagHandle handle start =>
              if handles.any (·.1 = handle) then throw .grammar
              else directives fuel hasVersion (handles ++ [(handle, start)])
          | .other => directives fuel hasVersion handles
      | _ => return handles

/-- Whether a token ends a document or stands before the start of one. -/
def isOutside : Token → Bool
  | .directive _ => true
  | .documentStart => true
  | .documentEnd => true
  | .streamEnd => true
  | _ => false

variable [Platform]

/-- A document with a mark at its start. -/
def markedDocument : Reader Node := do
  let handles ← directives ((← left) + 1) false []
  expect .documentStart
  modify fun s => { s with handles := handles ++ standardHandles }
  if isOutside (← peek) then return .empty else node Platform.documentDepth .block

/-- Skips the marks at the end of a document. -/
def skipEnds : Nat → Reader Unit
  | 0 => return
  | fuel + 1 => do
      if (← peek) = .documentEnd then do
        advance
        skipEnds fuel

/-- Reads the only document of a text, if there is one. -/
def document : Reader (Option Node) := do
  let t ← peek
  if t = .streamEnd then return none
  let n ←
    if isOutside t && t != .documentEnd then markedDocument
    else node Platform.documentDepth .block
  skipEnds ((← left) + 1)
  expect .streamEnd
  return some n

end Reader

/-- The node of the only document among tokens, if there is one. -/
def Node.ofTokens [Platform] (tokens : List Token) : Except Error (Option Node) :=
  (Reader.document.run { tokens, handles := Reader.standardHandles, anchors := [] }).map (·.1)

end Dispatch.Yaml
