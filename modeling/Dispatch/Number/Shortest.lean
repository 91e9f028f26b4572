import Dispatch.Number.Binary64

/-! The shortest decimal text of a binary number: the fewest digits that read back as the number,
and of those the nearest. Powers of ten from -4 to 15 are written with a point, all others with an
exponent of two digits or more.
-/

namespace Dispatch

attribute [local instance (1100)] instPowNat

/-- How many decimal digits a natural number has; zero has one. -/
def digitCount (n : Nat) : Nat :=
  (Nat.toDigits 10 n).length

/-- The power of ten of the first digit of a quotient that is not zero. -/
def leadingPower (numerator denominator : Nat) : Int :=
  if denominator ≤ numerator then (digitCount (numerator / denominator) : Int) - 1
  else
    let places := digitCount (denominator / numerator)
    if denominator ≤ numerator * 10 ^ (places - 1) then -((places : Int) - 1) else -(places : Int)

namespace Binary64

/-- Whether a whole number of a decimal unit lies between the bounds `n - below` and `n + above`,
all over one denominator and times four; the bounds count if `closed` holds. -/
def between (closed : Bool) (low high candidate : Nat) : Bool :=
  if closed then low ≤ candidate && candidate ≤ high else low < candidate && candidate < high

/-- The digits on one decimal grid that read back as the number, if there are any. The number is
`n / d`, and `low / d` to `high / d` are the quotients that round to it, all scaled to the grid. -/
def onGrid? (closed : Bool) (low n high d : Nat) : Option Nat :=
  let floor := n / d
  let fits := fun k => between closed low high (k * d)
  let rest := n % d
  match fits floor, fits (floor + 1) with
  | true, false => some floor
  | false, true => some (floor + 1)
  | true, true =>
      if 2 * rest < d then some floor
      else if d < 2 * rest then some (floor + 1)
      else some (if floor % 2 = 0 then floor else floor + 1)
  | false, false => none

/-- The shortest digits of a positive number `m · 2 ^ e`, as a whole number and the power of ten of
its last digit. Seventeen digits always suffice. -/
def shortestDigits (m : Nat) (e : Int) : Nat × Int :=
  let narrow := m = 0x10000000000000 && -1074 < e
  let (n, d) := scale (4 * m) 1 (e - 2)
  let (low, _) := scale (4 * m - (if narrow then 1 else 2)) 1 (e - 2)
  let (high, _) := scale (4 * m + 2) 1 (e - 2)
  let power := leadingPower n d
  let found :=
    (List.range 17).findSome? fun (i : Nat) =>
      let unit : Int := power - (i : Int)
      let up := 10 ^ (-unit).toNat
      let down := 10 ^ unit.toNat
      (onGrid? (m % 2 = 0) (low * up) (n * up) (high * up) (d * down)).map fun k => (k, unit)
  found.getD (0, 0)

end Binary64

namespace Text

/-- Digits with a point after the power of ten `power` of the first one. -/
def positional (digits : Text) (power : Int) : Text :=
  if power < 0 then
    text "0." ++ List.replicate ((-power).toNat - 1) (CodePoint.ofChar '0') ++ digits
  else
    let whole := power.toNat + 1
    let padded := digits ++ List.replicate (whole - digits.length) (CodePoint.ofChar '0')
    let fraction := padded.drop whole
    padded.take whole ++ text "." ++ (if fraction.isEmpty then text "0" else fraction)

/-- Digits with a point after the first one and an exponent. -/
def exponential (digits : Text) (power : Int) : Text :=
  let point := if digits.length ≤ 1 then digits else digits.take 1 ++ text "." ++ digits.drop 1
  let size := ofNat power.natAbs
  point ++ text "e" ++ text (if power < 0 then "-" else "+")
    ++ (if size.length < 2 then text "0" else []) ++ size

/-- The shortest text of a number that reads back as the number. -/
def ofBinary64 (x : Binary64) : Text :=
  match x.form with
  | .notANumber => text "nan"
  | .infinite negative => text (if negative then "-inf" else "inf")
  | .finite negative m e =>
      let sign := text (if negative then "-" else "")
      if m = 0 then sign ++ text "0.0"
      else
        let (n, unit) := Binary64.shortestDigits m e
        let power := unit + (digitCount n : Int) - 1
        let digits := (ofNat n).reverse.dropWhile (· == CodePoint.ofChar '0') |>.reverse
        sign ++ (if -4 ≤ power && power < 16 then positional digits power
          else exponential digits power)

end Text

end Dispatch
