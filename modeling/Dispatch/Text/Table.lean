/-! Tables written as text: entries stand apart by blanks, the hexadecimal fields of an entry by
points. Large tables of a standard are kept in this form and read once.
-/

namespace Dispatch

namespace Table

/-- The value of a lower case hexadecimal digit. -/
def digit (c : Char) : Nat :=
  if c.isDigit then c.toNat - 0x30 else c.toNat - 0x57

/-- Adds one character to the entries read so far: the finished entries, the finished fields of
the current one, and the current field. -/
def step : List (List Nat) × List Nat × Nat → Char → List (List Nat) × List Nat × Nat
  | (entries, fields, n), c =>
      if c = ' ' then ((n :: fields).reverse :: entries, [], 0)
      else if c = '.' then (entries, n :: fields, 0)
      else (entries, fields, 16 * n + digit c)

/-- The entries of one line of a table, each as the list of its fields. -/
def readLine (line : String) : List (List Nat) :=
  let (entries, fields, n) := line.toList.foldl step ([], [], 0)
  ((n :: fields).reverse :: entries).reverse

/-- The entries of a table. -/
def read (lines : List String) : List (List Nat) :=
  lines.flatMap readLine

/-- A table of ranges; entries that are not pairs are skipped. -/
def readRanges (lines : List String) : List (Nat × Nat) :=
  (read lines).filterMap fun
    | [low, high] => some (low, high)
    | _ => none

/-- A table of ranges with a class each. -/
def readClasses (lines : List String) : List (Nat × Nat × Nat) :=
  (read lines).filterMap fun
    | [low, high, value] => some (low, high, value)
    | _ => none

/-- The class of a number under sorted ranges. -/
def classOf? : List (Nat × Nat × Nat) → Nat → Option Nat
  | [], _ => none
  | (low, high, value) :: rest, n =>
      if n < low then none
      else if n ≤ high then some value
      else classOf? rest n

end Table

end Dispatch
