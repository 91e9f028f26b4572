import Dispatch.Text.Basic

/-! The nodes of a document: scalars, sequences and maps, each with a tag that says what it stands
for.
-/

namespace Dispatch.Yaml

/-- What a node stands for. An unknown tag stands for nothing. -/
inductive Tag where
  | null | bool | int | float | binary | timestamp | omap | pairs | set | text | sequence | map
  | merge | value | unknown
deriving DecidableEq

namespace Tag

def isCollection : Tag → Bool
  | .omap | .pairs | .set | .sequence | .map => true
  | _ => false

/-- The start that all known tags share. -/
def commonStart : Text := Dispatch.text "tag:yaml.org,2002:"

/-- The known tags by what follows the common start. -/
def byName : List (String × Tag) := [
  ("null", .null), ("bool", .bool), ("int", .int), ("float", .float), ("binary", .binary),
  ("timestamp", .timestamp), ("omap", .omap), ("pairs", .pairs), ("set", .set), ("str", .text),
  ("seq", .sequence), ("map", .map), ("merge", .merge), ("value", .value)]

/-- The tag of a full name. -/
def ofText (t : Text) : Tag :=
  ((byName.find? fun e => t = commonStart ++ Dispatch.text e.1).map (·.2)).getD .unknown

end Tag

/-- A node. An alias of a node around it is a cycle, with the count of the nodes between the two. -/
inductive Node where
  | scalar (tag : Tag) (content : Text)
  | sequence (tag : Tag) (items : List Node)
  | map (tag : Tag) (entries : List (Node × Node))
  | cycle (between : Nat)

namespace Node

/-- The node that stands where nothing is written. -/
def empty : Node := .scalar .null []

instance : Inhabited Node := ⟨.empty⟩

def tag? : Node → Option Tag
  | .scalar tag _ => some tag
  | .sequence tag _ => some tag
  | .map tag _ => some tag
  | .cycle _ => none

end Node

end Dispatch.Yaml
