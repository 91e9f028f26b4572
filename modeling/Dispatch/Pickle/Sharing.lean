import Dispatch.Value.Basic

/-! Which parts of a value are one object. A value is a tree; that two of its parts are the same
object, and not only equal to each other, is told beside it.
-/

namespace Dispatch.Pickle

/-- The numbers of the objects in a value, by their places: the ways to them from the outside in. A
text or fixed bytes without a number are the one object with their content; anything else without a
number is an object that occurs once. -/
def Sharing : Type :=
  List Nat → Option Nat

/-- A value with the sharing in it. -/
structure Part where
  value : Value
  sharing : Sharing

namespace Sharing

/-- Nothing has a number. -/
def byContent : Sharing :=
  fun _ => none

/-- The number of the whole. -/
def object? (s : Sharing) : Option Nat :=
  s []

/-- The sharing in a part. -/
def part (s : Sharing) (i : Nat) : Sharing :=
  fun place => s (i :: place)

def items (s : Sharing) (values : List Value) : List Part :=
  values.zipIdx.map fun (v, i) => ⟨v, s.part i⟩

/-- The keys and the values of entries, as the two parts of each. -/
def entries (s : Sharing) (es : List (Value × Value)) : List (Part × Part) :=
  es.zipIdx.map fun ((key, v), i) => (⟨key, (s.part i).part 0⟩, ⟨v, (s.part i).part 1⟩)

/-- The names of headers, each with its number, and their values, as the two parts of each. -/
def headers (s : Sharing) (hs : List (Text × Value)) : List (Text × Option Nat × Part) :=
  hs.zipIdx.map fun ((name, v), i) => (name, ((s.part i).part 0).object?, ⟨v, (s.part i).part 1⟩)

end Sharing

/-- A value in which nothing has a number. -/
def Part.byContent (v : Value) : Part :=
  ⟨v, .byContent⟩

end Dispatch.Pickle
