/-! Sets of numbers given as sorted, disjoint, closed ranges. Membership walks the ranges and stops
at the first range that starts beyond the number, so small numbers are decided at once.
-/

namespace Dispatch

/-- Closed ranges, in ascending order. -/
abbrev Ranges := List (Nat × Nat)

/-- Membership in a sorted list of closed ranges. -/
def Ranges.holds : Ranges → Nat → Bool
  | [], _ => false
  | (low, high) :: rest, n =>
      if n < low then false
      else if n ≤ high then true
      else Ranges.holds rest n

end Dispatch
