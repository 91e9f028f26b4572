import Dispatch.Yaml.Literal

/-! Nodes as values. Collections are filled level by level, so of several faults the one on the
outermost level shows, and on one level the first. A merge key stands for the entries of other maps,
which come before those of its own map; a later entry of the same key wins.
-/

namespace Dispatch.Yaml.Node

/-! ### Merging -/

/-- The sign for the value of a map is an ordinary key. -/
def asKey : Node → Node
  | .scalar .value content => .scalar .text content
  | n => n

mutual

/-- Takes entries apart into those that are merged in and those of the map itself. -/
def sortEntries : List (Node × Node) → Except Error (List (Node × Node) × List (Node × Node))
  | [] => .ok ([], [])
  | (key, value) :: rest => do
      if key.tag? = some .merge then
        let found ← mergedEntries value
        let (merged, own) ← sortEntries rest
        return (found ++ merged, own)
      else
        let (merged, own) ← sortEntries rest
        return (merged, (asKey key, value) :: own)

/-- The entries that a merge key stands for: those of a map, or of maps in a sequence, the last map
first. -/
def mergedEntries : Node → Except Error (List (Node × Node))
  | .map _ entries => do
      let (merged, own) ← sortEntries entries
      return merged ++ own
  | .sequence _ items => do return (← mergedItems items).reverse.flatten
  | .cycle _ => .ok []
  | .scalar .. => .error .grammar

def mergedItems : List Node → Except Error (List (List (Node × Node)))
  | [] => .ok []
  | .map _ entries :: rest => do
      let (merged, own) ← sortEntries entries
      return (merged ++ own) :: (← mergedItems rest)
  | .cycle _ :: rest => do return [] :: (← mergedItems rest)
  | _ :: _ => .error .grammar

end

/-- The entries of a map with all that is merged in. -/
def allEntries (entries : List (Node × Node)) : Except Error (List (Node × Node)) := do
  let (merged, own) ← sortEntries entries
  return merged ++ own

/-! ### Scalars -/

mutual

/-- The content of a scalar. A map has the content of what stands with its value sign. The count is
of the maps so far; the content of a map that leads back to one of them is never found. -/
def contentFrom (count : Nat) : Node → Except Error Text
  | .scalar _ content => .ok content
  | .map _ entries => contentIn (count + 1) entries
  | .sequence .. => .error .grammar
  | .cycle between => if between < count then .error .depth else .error .grammar

def contentIn (count : Nat) : List (Node × Node) → Except Error Text
  | [] => .error .grammar
  | (key, value) :: rest =>
      if key.tag? = some .value then contentFrom count value else contentIn count rest

end

/-- What a tag for scalars stands on. -/
def content (n : Node) : Except Error Text :=
  contentFrom 0 n

def isMap : Node → Bool
  | .map .. => true
  | _ => false

/-- The value of a node whose collections are not filled yet. -/
def shallow (n : Node) : Except Error Value :=
  match n.tag? with
  | none => .ok (.handle .cycle)
  | some .sequence => .ok (.list [])
  | some .omap => .ok (.list [])
  | some .pairs => .ok (.list [])
  | some .set => .ok (.set [])
  | some .map => .ok (.map .plain [])
  | some tag => do
      let content ← n.content
      if tag = .timestamp && n.isMap then .error (.scalar .timestampMap)
      else Literal.value tag content

/-! ### Collections -/

/-- The single entry of each map in a sequence. -/
def singleEntries (items : List Node) : Except Error (List (Node × Node)) :=
  items.mapM fun n => match n with
    | .map _ [e] => .ok e
    | _ => .error .grammar

/-- Checks the key of a map. -/
def checkKey (key : Node) : Except Error Unit := do
  if (← key.shallow).isKey then return else throw .grammar

/-- Checks that what a collection holds has values, and gives the nodes that it holds, in order. -/
def fill (n : Node) : Except Error (List Node) :=
  match n.tag?, n with
  | some .sequence, .sequence _ items => do
      items.forM fun n => do let _ ← n.shallow
      return items
  | some .omap, .sequence _ items => fillPairs items
  | some .pairs, .sequence _ items => fillPairs items
  | some .map, .map _ entries => fillMap entries
  | some .set, .map _ entries => fillMap entries
  | some tag, _ => if tag.isCollection then .error .grammar else .ok []
  | none, _ => .ok []
where
  fillMap (entries : List (Node × Node)) : Except Error (List Node) := do
    let entries ← allEntries entries
    entries.forM fun e => do
      checkKey e.1
      let _ ← e.2.shallow
    return entries.map (·.2)
  fillPairs (items : List Node) : Except Error (List Node) := do
    let held ← items.mapM fun n => do
      match n with
      | .map _ [(key, value)] => do
          let _ ← key.shallow
          let _ ← value.shallow
          return [key, value]
      | _ => throw .grammar
    return held.flatten

/-- Fills collections level by level. -/
def fillLevels : Nat → List Node → Except Error Unit
  | 0, _ => .error .depth
  | fuel + 1, level => do
      if level.isEmpty then return
      fillLevels fuel (← level.mapM fill).flatten

mutual

/-- How deeply a node is nested. -/
def height : Node → Nat
  | .scalar .. => 1
  | .cycle _ => 1
  | .sequence _ items => itemsHeight items + 1
  | .map _ entries => entriesHeight entries + 1

def itemsHeight : List Node → Nat
  | [] => 0
  | n :: rest => max n.height (itemsHeight rest)

def entriesHeight : List (Node × Node) → Nat
  | [] => 0
  | (key, value) :: rest => max (max key.height value.height) (entriesHeight rest)

end

/-- The value of a node that is nested at most as deeply as the first argument says. -/
def valueWithin : Nat → Node → Except Error Value
  | 0, _ => .error .depth
  | height + 1, n =>
      match n.tag?, n with
      | some .sequence, .sequence _ items => (items.mapM (valueWithin height)).map .list
      | some .omap, .sequence _ items => pairs height items
      | some .pairs, .sequence _ items => pairs height items
      | some .map, .map _ entries => do
          let found ← entryValues height (← allEntries entries)
          return .map .plain (Value.ofPairs found)
      | some .set, .map _ entries => do
          let found ← entryValues height (← allEntries entries)
          return .set ((Value.ofPairs found).map (·.1))
      | _, _ => n.shallow
where
  entryValues (height : Nat) (entries : List (Node × Node)) : Except Error (List (Value × Value)) :=
    entries.mapM fun e => do return (← valueWithin height e.1, ← valueWithin height e.2)
  pairs (height : Nat) (items : List Node) : Except Error Value := do
    let found ← entryValues height (← singleEntries items)
    return .list (found.map fun e => .tuple [e.1, e.2])

/-- The value of a node. -/
def toValue (n : Node) : Except Error Value := do
  fillLevels (n.height + 2) [n]
  valueWithin (n.height + 1) n

end Dispatch.Yaml.Node
