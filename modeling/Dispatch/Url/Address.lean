import Dispatch.Text.Basic

/-! Numeric host addresses: four decimal octets, or eight groups of hexadecimal digits of which one
run of zeros may be left out.
-/

namespace Dispatch.Address

/-- One to three digits without a leading zero, at most 255. -/
def isOctet (t : Text) : Bool :=
  match t.toNat? with
  | none => false
  | some n => t.length ≤ 3 && n ≤ 255 && (t.length = 1 || t.head? != some (CodePoint.ofChar '0'))

def isV4 (t : Text) : Bool :=
  let octets := t.splitOn '.'
  octets.length = 4 && octets.all isOctet

/-- One to four hexadecimal digits. -/
def isGroup (t : Text) : Bool :=
  !t.isEmpty && t.length ≤ 4 && t.all CodePoint.isHexDigit

/-- The places of the empty groups that are neither first nor last. -/
def innerGaps (groups : List Text) : List Nat :=
  (List.range groups.length).filter fun i =>
    0 < i && i + 1 < groups.length && (groups[i]?.any List.isEmpty)

/-- Eight groups, or fewer around one gap. An empty group at an end must belong to the gap. -/
def areGroups (groups : List Text) : Bool :=
  match innerGaps groups with
  | [] => groups.length = 8 && groups.all isGroup
  | [gap] =>
      let before := groups.take gap
      let after := groups.drop (gap + 1)
      let before := if before = [[]] then [] else before
      let after := if after = [[]] then [] else after
      before.all isGroup && after.all isGroup && before.length + after.length < 8
  | _ => false

/-- Writes a dotted last group as two groups. -/
def expandDotted? (groups : List Text) : Option (List Text) :=
  match groups.getLast? with
  | some last =>
      if last.contains (CodePoint.ofChar '.') then
        if isV4 last then some (groups.dropLast ++ [text "0", text "0"]) else none
      else some groups
  | none => some groups

/-- Whether a text is an address of eight groups, with a scope after a percent sign if it has one.
-/
def isV6 (t : Text) : Bool :=
  let (address, scope) := t.cut '%'
  let scopeFits := scope.all fun s => !s.isEmpty && !s.contains (CodePoint.ofChar '%')
  let groups := address.splitOn ':'
  scopeFits && 3 ≤ groups.length
    && ((expandDotted? groups).any fun groups => groups.length ≤ 9 && areGroups groups)

end Dispatch.Address
