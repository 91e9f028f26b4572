import Dispatch.Text.Digits

/-! Binary numbers of 64 bits: a sign, eleven bits of exponent and 52 bits of fraction. A finite one
is a whole number times a power of two; arithmetic is done on exact quotients and rounded once, to
the nearest number and to the even one of two.
-/

namespace Dispatch

-- A power of a number is the built-in one also where an algebraic one is in sight.
attribute [local instance (1100)] instPowNat

/-- A binary number of 64 bits. -/
structure Binary64 where
  bits : UInt64
deriving DecidableEq

namespace Binary64

/-- What the bits stand for: nothing, an infinity, or a sign with a whole number times a power
of two. -/
inductive Form where
  | notANumber
  | infinite (negative : Bool)
  | finite (negative : Bool) (coefficient : Nat) (exponent : Int)
deriving DecidableEq

def form (x : Binary64) : Form :=
  let n := x.bits.toNat
  let negative : Bool := 0x8000000000000000 ≤ n
  let exponent : Nat := n / 0x10000000000000 % 0x800
  let fraction := n % 0x10000000000000
  if exponent = 2047 then
    if fraction = 0 then .infinite negative else .notANumber
  else if exponent = 0 then .finite negative fraction (-1074)
  else .finite negative (0x10000000000000 + fraction) ((exponent : Int) - 1075)

/-- The number with a sign and a magnitude, given as the lower 63 bits. -/
def ofMagnitude (negative : Bool) (magnitude : Nat) : Binary64 :=
  ⟨UInt64.ofNat ((if negative then 0x8000000000000000 else 0) + magnitude)⟩

def zero : Binary64 := ⟨0⟩

def infinity (negative : Bool) : Binary64 := ofMagnitude negative (2047 * 0x10000000000000)

def nan : Binary64 := ofMagnitude false (2047 * 0x10000000000000 + 0x8000000000000)

/-- The other sign. -/
def negate (x : Binary64) : Binary64 :=
  ⟨x.bits ^^^ 0x8000000000000000⟩

/-- The whole number nearest to a quotient, the even one of two. -/
def roundQuotient (numerator denominator : Nat) : Nat :=
  let q := numerator / denominator
  let twice := 2 * (numerator % denominator)
  if twice < denominator then q
  else if denominator < twice then q + 1
  else if q % 2 = 0 then q
  else q + 1

/-- A quotient times two to a power, as numerator and denominator. -/
def scale (numerator denominator : Nat) (power : Int) : Nat × Nat :=
  (numerator * 2 ^ power.toNat, denominator * 2 ^ (-power).toNat)

/-- The number nearest to a quotient. Its unit in the last place is chosen so that the quotient
has 53 bits before the point, or is the least unit there is. -/
def ofRatio (negative : Bool) (numerator denominator : Nat) : Binary64 :=
  if numerator = 0 then ofMagnitude negative 0
  else
    let low : Int := (numerator.log2 : Int) - (denominator.log2 : Int) - 53
    let (n, d) := scale numerator denominator (-low)
    let unit := if 0x20000000000000 * d ≤ n then low + 1 else low
    let unit := max unit (-1074)
    let (n, d) := scale numerator denominator (-unit)
    let q := roundQuotient n d
    let magnitude :=
      if unit = -1074 then q else (unit + 1074).toNat * 0x10000000000000 + q
    if 2047 * 0x10000000000000 ≤ magnitude then infinity negative
    else ofMagnitude negative magnitude

def ofInt (n : Int) : Binary64 :=
  ofRatio (n < 0) n.natAbs 1

/-- Whether a number is neither an infinity nor undefined. -/
def isFinite (x : Binary64) : Bool :=
  match x.form with
  | .finite .. => true
  | _ => false

/-- Whether a number is zero, of either sign. -/
def isZero (x : Binary64) : Bool :=
  match x.form with
  | .finite _ 0 _ => true
  | _ => false

/-- The integer that a number is equal to, if there is one. -/
def toInt? (x : Binary64) : Option Int :=
  match x.form with
  | .finite negative m e =>
      let (n, d) := scale m 1 e
      if n % d = 0 then
        some (if negative then -((n / d : Nat) : Int) else ((n / d : Nat) : Int))
      else none
  | _ => none

/-- A signed numerator times a power of two, rounded; `negativeZero` is the sign of an exact zero.
-/
def ofScaled (negativeZero : Bool) (numerator : Int) (exponent : Int) : Binary64 :=
  let (n, d) := scale numerator.natAbs 1 exponent
  ofRatio (if numerator = 0 then negativeZero else numerator < 0) n d

def isNegative (x : Binary64) : Bool :=
  0x8000000000000000 ≤ x.bits.toNat

def add (x y : Binary64) : Binary64 :=
  match x.form, y.form with
  | .notANumber, _ => nan
  | _, .notANumber => nan
  | .infinite a, .infinite b => if a = b then x else nan
  | .infinite _, _ => x
  | _, .infinite _ => y
  | .finite a m e, .finite b n f =>
      let signed := fun (negative : Bool) (k : Nat) => if negative then -(k : Int) else (k : Int)
      let low := min e f
      let total := signed a m * 2 ^ (e - low).toNat + signed b n * 2 ^ (f - low).toNat
      ofScaled (a && b) total low

def mul (x y : Binary64) : Binary64 :=
  let negative := x.isNegative != y.isNegative
  match x.form, y.form with
  | .notANumber, _ => nan
  | _, .notANumber => nan
  | .infinite _, .infinite _ => infinity negative
  | .infinite _, .finite _ n _ => if n = 0 then nan else infinity negative
  | .finite _ m _, .infinite _ => if m = 0 then nan else infinity negative
  | .finite _ m e, .finite _ n f =>
      let (n, d) := scale (m * n) 1 (e + f)
      ofRatio negative n d

/-- Compares the exact values of an integer times a power of two each. -/
def compareScaled (x y : Int × Int) : Ordering :=
  let low := min x.2 y.2
  compare (x.1 * 2 ^ (x.2 - low).toNat) (y.1 * 2 ^ (y.2 - low).toNat)

/-- Whether one number is below another; never so when one is undefined. -/
def lt (x y : Binary64) : Bool :=
  match x.form, y.form with
  | .notANumber, _ => false
  | _, .notANumber => false
  | .infinite a, .infinite b => a && !b
  | .infinite a, .finite .. => a
  | .finite .., .infinite b => !b
  | .finite a m e, .finite b n f =>
      let signed := fun (negative : Bool) (k : Nat) => if negative then -(k : Int) else (k : Int)
      compareScaled (signed a m, e) (signed b n, f) == .lt

/-- Whether an integer is below a number. -/
def intLt (n : Int) (x : Binary64) : Bool :=
  match x.form with
  | .notANumber => false
  | .infinite negative => !negative
  | .finite negative m e =>
      compareScaled (n, 0) (if negative then -(m : Int) else (m : Int), e) == .lt

/-- Whether a number is below an integer. -/
def ltInt (x : Binary64) (n : Int) : Bool :=
  match x.form with
  | .notANumber => false
  | .infinite negative => negative
  | .finite negative m e =>
      compareScaled (if negative then -(m : Int) else (m : Int), e) (n, 0) == .lt

/-- Whether two numbers are equal: an undefined one is equal to none, and the zeros are equal. -/
def eqv (x y : Binary64) : Bool :=
  match x.form with
  | .notANumber => false
  | _ => x = y || (x.isZero && y.isZero)

/-- The eight bytes of a number, the highest first. -/
def toBytes (x : Binary64) : List UInt8 :=
  (List.range 8).map fun i => UInt8.ofNat (x.bits.toNat / 2 ^ (8 * (7 - i)))

/-- Eight bytes as a number. -/
def ofBytes (bytes : List UInt8) : Binary64 :=
  ⟨UInt64.ofNat (bytes.foldl (fun n b => 256 * n + b.toNat) 0)⟩

end Binary64

/-! ### Reading decimal text -/

namespace Text

/-- Drops underscores that stand between two digits; any other underscore refuses the text. -/
def dropUnderscores? : Bool → Text → Option Text
  | _, [] => some []
  | afterDigit, c :: rest =>
      if c = CodePoint.ofChar '_' then
        match rest with
        | next :: _ => if afterDigit && next.isDigit then dropUnderscores? false rest else none
        | [] => none
      else (dropUnderscores? c.isDigit rest).map (c :: ·)

/-- The number of a run of ASCII digits. -/
def digitsValue (digits : Text) : Nat :=
  digits.foldl (fun n c => 10 * n + (c.val - 0x30)) 0

/-- A signed run of ASCII digits, at least one. -/
def exponentValue? (t : Text) : Option Int :=
  let (negative, digits) :=
    match t with
    | c :: rest =>
        if c = CodePoint.ofChar '-' then (true, rest)
        else if c = CodePoint.ofChar '+' then (false, rest)
        else (false, t)
    | [] => (false, [])
  (toNat? digits).map fun n => if negative then -(n : Int) else (n : Int)

/-- The number of a coefficient with a decimal exponent. Far beyond the range nothing is computed.
-/
def scaledNumber (negative : Bool) (coefficient : Nat) (digits : Nat) (exponent : Int) : Binary64 :=
  if coefficient = 0 then Binary64.ofMagnitude negative 0
  else if 310 < exponent + digits then Binary64.infinity negative
  else if exponent + digits < -330 then Binary64.ofMagnitude negative 0
  else
    Binary64.ofRatio negative (coefficient * 10 ^ exponent.toNat) (10 ^ (-exponent).toNat)

/-- Reads a number without sign: digits with a point and an exponent, or a word. -/
def magnitude? (negative : Bool) (t : Text) : Option Binary64 :=
  let word := t.lowerAscii
  if word = text "inf" || word = text "infinity" then some (Binary64.infinity negative)
  else if word = text "nan" then some (if negative then Binary64.nan.negate else Binary64.nan)
  else
    let whole := t.takeWhile CodePoint.isDigit
    let afterWhole := t.dropWhile CodePoint.isDigit
    let (fraction, rest) :=
      match afterWhole with
      | c :: more =>
          if c = CodePoint.ofChar '.' then
            (more.takeWhile CodePoint.isDigit, more.dropWhile CodePoint.isDigit)
          else ([], afterWhole)
      | [] => ([], [])
    if whole.isEmpty && fraction.isEmpty then none
    else
      let digits := whole ++ fraction
      let number := fun (e : Int) =>
        scaledNumber negative (digitsValue digits) digits.length (e - fraction.length)
      match rest with
      | [] => some (number 0)
      | c :: more =>
          if c.toLowerAscii = CodePoint.ofChar 'e' then (exponentValue? more).map number else none

/-- The ASCII digit of a decimal digit of any script; other code points are kept. -/
def asciiDigit (c : CodePoint) : CodePoint :=
  match c.decimal? with
  | some d => CodePoint.ofNat (0x30 + d)
  | none => c

/-- Reads a number: blanks around it, one sign and single underscores between digits are allowed. -/
def toBinary64? (t : Text) : Option Binary64 := do
  let body ← dropUnderscores? false (t.strip.map asciiDigit)
  match body with
  | [] => none
  | c :: rest =>
      if c = CodePoint.ofChar '-' then magnitude? true rest
      else if c = CodePoint.ofChar '+' then magnitude? false rest
      else magnitude? false body

end Text

end Dispatch
