import Dispatch.Number.Binary64
import Dispatch.Text.Digits
import Dispatch.Text.Lower
import Dispatch.Value.Basic
import Dispatch.Yaml.Base64
import Dispatch.Yaml.Error
import Dispatch.Yaml.Schema

/-! What a scalar with a tag stands for. A tag may be written on any content, so that content may
turn out to stand for nothing.
-/

namespace Dispatch.Yaml.Literal

/-- A text without its sign, and whether the sign is a minus. -/
def signed (t : Text) : Bool × Text :=
  match t with
  | c :: rest =>
      if c = CodePoint.ofChar '-' then (true, rest)
      else if c = CodePoint.ofChar '+' then (false, rest)
      else (false, t)
  | [] => (false, [])

/-- Underscores only group digits. -/
def ungrouped (t : Text) : Text :=
  t.filter (!among "_" ·)

/-! ### Integers -/

/-- The value of a digit in a base. -/
def digit? (base : Nat) (c : CodePoint) : Option Nat :=
  let value? := c.decimal?.orElse fun _ => if c.isHexDigit then some c.hexValue else none
  value?.filter (· < base)

/-- The letters after a zero that name a base. -/
def baseLetters : List (Nat × String) := [(2, "bB"), (8, "oO"), (16, "xX")]

/-- Digits without the zero and letter of their base. -/
def dropBase (base : Nat) (t : Text) : Text :=
  match t with
  | zero :: letter :: rest =>
      if zero = CodePoint.ofChar '0' && baseLetters.any fun e => e.1 = base && among e.2 letter then
        rest
      else t
  | t => t

/-- An integer in a base, with blanks around it and a sign. Decimal ones have a limited length. -/
def integer (base : Nat) (t : Text) : Except ScalarError Int :=
  let (negative, body) := signed t.strip
  let digits := dropBase base body
  match digits.mapM (digit? base) with
  | none => .error (.integer t base)
  | some [] => .error (.integer t base)
  | some values =>
      if base = 10 && Text.maxDigits < values.length then .error (.integerDigits values.length)
      else
        let n : Nat := values.foldl (fun n d => base * n + d) 0
        .ok (if negative then -(n : Int) else n)

/-- An integer in parts of base sixty. -/
def sexagesimal (t : Text) : Except ScalarError Int := do
  let parts ← (t.splitOn ':').mapM (integer 10)
  return parts.foldl (fun n part => 60 * n + part) 0

/-- An integer in one of the notations of documents. -/
def documentInteger (content : Text) : Except ScalarError Int := do
  let (negative, t) := signed (ungrouped content)
  if (ungrouped content).isEmpty then throw .emptyInteger
  let n ←
    if t = text "0" then pure 0
    else if t.startsWith (text "0b") then integer 2 (t.drop 2)
    else if t.startsWith (text "0x") then integer 16 (t.drop 2)
    else if t.isEmpty then throw .emptyInteger
    else if t.startsWith (text "0") then integer 8 t
    else if t.contains (CodePoint.ofChar ':') then sexagesimal t
    else integer 10 t
  return if negative then -n else n

/-! ### Floats -/

def float (t : Text) : Except ScalarError Binary64 :=
  match t.toBinary64? with
  | some x => .ok x
  | none => .error (.float t)

/-- Adds parts of base sixty, the last one first. The weight of a part must fit a float. -/
def addParts : List Binary64 → Nat → Binary64 → Except ScalarError Binary64
  | [], _, sum => .ok sum
  | part :: rest, weight, sum =>
      let scale := Binary64.ofInt weight
      if scale.isFinite then addParts rest (60 * weight) (sum.add (part.mul scale))
      else .error .floatRange

/-- A float in one of the notations of documents. -/
def documentFloat (content : Text) : Except ScalarError Binary64 := do
  let body := (ungrouped content).lower
  let (negative, t) := signed body
  if body.isEmpty then throw .emptyInteger
  let x ←
    if t = text ".inf" then pure (Binary64.infinity false)
    else if t = text ".nan" then pure Binary64.nan
    else if t.contains (CodePoint.ofChar ':') then do
      let parts ← (t.splitOn ':').mapM float
      addParts parts.reverse 1 Binary64.zero
    else float t
  return if negative then x.negate else x

/-! ### Words, moments and bytes -/

def truth (content : Text) : Except ScalarError Bool :=
  let word := content.lower
  if Schema.isWord ["yes", "true", "on"] word then .ok true
  else if Schema.isWord ["no", "false", "off"] word then .ok false
  else .error (.truthWord word)

def natural (t : Text) : Nat :=
  (t.toNat?).getD 0

/-- A fraction of a second in microseconds; further digits are dropped. -/
def micro (fraction : Text) : Nat :=
  let digits : Text := (fraction ++ List.replicate 6 (CodePoint.ofChar '0')).take 6
  natural digits

/-- The distance of a zone from universal time in microseconds, which is less than a day. -/
def offset (zone : Option (CodePoint × Text × Text)) : Except ScalarError Int :=
  match zone with
  | none => .ok 0
  | some (sign, hours, minutes) =>
      let span : Int := (natural hours * 3600 + natural minutes * 60 : Nat) * 1000000
      let span := if sign = CodePoint.ofChar '-' then -span else span
      if span.natAbs < 86400000000 then .ok span
      else .error (.moment (.offset (Moment.showSpan span)))

def moment (content : Text) : Except ScalarError Moment := do
  match Schema.timestamp? content with
  | none => throw .timestamp
  | some t =>
      let date := (Moment.date (natural t.year) (natural t.month) (natural t.day)).mapError
        ScalarError.moment
      match t.time with
      | none => date
      | some (hour, minute, second) =>
          let offset ← t.zone.mapM offset
          let clock : Clock := {
            hour := natural hour, minute := natural minute, second := natural second
            micro := micro t.fraction, offset }
          ((← date).withClock clock).mapError ScalarError.moment

/-- Bytes in base 64; content that is none breaks the grammar. -/
def bytes (content : Text) : Except Error Bytes :=
  if !content.isAscii then .error .grammar
  else
    match Base64.decode? content with
    | some b => .ok b
    | none => .error .grammar

/-- The value that a reading gives. -/
def made {α : Type} (make : α → Value) (x : Except ScalarError α) : Except Error Value :=
  (x.mapError Error.scalar).map make

/-- The value of a scalar. -/
def value (tag : Tag) (content : Text) : Except Error Value :=
  match tag with
  | .null => .ok .null
  | .text => .ok (.text content)
  | .bool => made .bool (truth content)
  | .int => made .int (documentInteger content)
  | .float => made .float (documentFloat content)
  | .timestamp => made .moment (moment content)
  | .binary => (bytes content).map (.blob .fixed)
  | _ => .error .grammar

end Dispatch.Yaml.Literal
