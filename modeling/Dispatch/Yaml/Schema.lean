import Dispatch.Yaml.Cursor
import Dispatch.Yaml.Node

/-! What plain scalars stand for: words for null and truth values, numbers in several notations,
timestamps, and otherwise text. A line feed at the very end is overlooked.
-/

namespace Dispatch.Yaml.Schema

def isWord (words : List String) (t : Text) : Bool :=
  words.any fun w => t = text w

def truthWords : List String := [
  "yes", "Yes", "YES", "no", "No", "NO", "true", "True", "TRUE", "false", "False", "FALSE",
  "on", "On", "ON", "off", "Off", "OFF"]

def nullWords : List String := ["", "~", "null", "Null", "NULL"]

/-- A text without the line feed at its end. -/
def dropFinalBreak (t : Text) : Text :=
  if t.getLast? = some (CodePoint.ofChar '\n') then t.dropLast else t

/-- A text without a sign at its start. -/
def dropSign (t : Text) : Text :=
  match t with
  | c :: rest => if among "+-" c then rest else t
  | [] => []

/-! ### Numbers -/

/-- Digits and underscores. -/
def isGrouped (t : Text) : Bool :=
  t.all fun c => c.isDigit || among "_" c

/-- A digit, then digits and underscores. -/
def startsGrouped (t : Text) : Bool :=
  (t.head?.map CodePoint.isDigit).getD false && isGrouped t

/-- Whether a text is one of the digits 1 to 9, then digits and underscores. -/
def isPositive (t : Text) : Bool :=
  startsGrouped t && !(t.startsWith (text "0"))

/-- Whether a text is a number below sixty, in one or two digits. -/
def isSixtieth (t : Text) : Bool :=
  match t with
  | [d] => d.isDigit
  | [d, e] => d.isDigit && d.val ≤ 0x35 && e.isDigit
  | _ => false

/-- Whether a text is parts between colons, at least two, of which all but the first are below
sixty. -/
def isSexagesimal (first : Text → Bool) (t : Text) : Bool :=
  match t.splitOn ':' with
  | start :: part :: parts => first start && (part :: parts).all isSixtieth
  | _ => false

/-- Whether a text is more than a start, and all after it satisfies a test. -/
def isPrefixed (start : String) (p : CodePoint → Bool) (t : Text) : Bool :=
  t.startsWith (text start) && (start.length < t.length) && (t.drop start.length).all p

def isInt (t : Text) : Bool :=
  let body := dropSign t
  isPrefixed "0b" (among "01_") body || isPrefixed "0" (among "01234567_") body || body = text "0"
    || isPositive body || isPrefixed "0x" (fun c => c.isHexDigit || among "_" c) body
    || isSexagesimal isPositive body

/-- Whether a text is nothing or an exponent with its sign. -/
def isExponent (t : Text) : Bool :=
  match t with
  | [] => true
  | e :: sign :: digits =>
      among "eE" e && among "+-" sign && !digits.isEmpty && digits.all CodePoint.isDigit
  | _ => false

/-- Whether a text is digits and underscores with perhaps an exponent. -/
def isFraction (t : Text) : Bool :=
  isExponent (t.dropWhile fun c => c.isDigit || among "_" c)

def isFloat (t : Text) : Bool :=
  let body := dropSign t
  let isSpecial := isWord [".nan", ".NaN", ".NAN"] t || isWord [".inf", ".Inf", ".INF"] body
  match body.cut '.' with
  | (whole, some fraction) =>
      isSpecial || (startsGrouped whole && isFraction fraction)
        || (t.startsWith (text ".") && (fraction.head?.map CodePoint.isDigit).getD false
          && isFraction fraction)
        || (isSexagesimal startsGrouped whole && isGrouped fraction)
  | (_, none) => false

/-! ### Timestamps -/

/-- The parts of a timestamp as digits. The time of day may be missing, and of it the fraction and
the zone. -/
structure Timestamp where
  year : Text
  month : Text
  day : Text
  time : Option (Text × Text × Text)
  fraction : Text
  /-- The zone: the letter `Z` alone, or a sign, hours, and minutes. -/
  zone : Option (Option (CodePoint × Text × Text))

/-- Digits at the start of a text, at least and at most as many as given. -/
def digits? (least most : Nat) (t : Text) : Option (Text × Text) :=
  let found : Text := (t.take most).takeWhile CodePoint.isDigit
  if least ≤ found.length then some (found, t.drop found.length) else none

/-- What follows a character at the start of a text. -/
def after? (a : Char) (t : Text) : Option Text :=
  match t with
  | c :: rest => if c = CodePoint.ofChar a then some rest else none
  | [] => none

/-- What follows the gap between date and time: a letter, or blanks. -/
def afterGap? (t : Text) : Option Text :=
  match t with
  | c :: rest =>
      if among "Tt" c then some rest
      else if isWhite c then some (rest.dropWhile isWhite)
      else none
  | [] => none

/-- The zone that a text is, after blanks; nothing is no zone. -/
def zone? (t : Text) : Option (Option (Option (CodePoint × Text × Text))) :=
  match t with
  | [] => some none
  | _ =>
      match t.dropWhile isWhite with
      | [c] => if c = CodePoint.ofChar 'Z' then some (some none) else none
      | sign :: rest =>
          if among "+-" sign then do
            let (hours, rest) ← digits? 1 2 rest
            match rest with
            | [] => return some (some (sign, hours, []))
            | _ =>
                let (minutes, rest) ← digits? 2 2 (← after? ':' rest)
                if rest.isEmpty then return some (some (sign, hours, minutes)) else none
          else none
      | [] => none

/-- The parts of a timestamp. -/
def timestamp? (t : Text) : Option Timestamp := do
  let (year, rest) ← digits? 4 4 (dropFinalBreak t)
  let (month, rest) ← digits? 1 2 (← after? '-' rest)
  let (day, rest) ← digits? 1 2 (← after? '-' rest)
  if rest.isEmpty then return { year, month, day, time := none, fraction := [], zone := none }
  let (hour, rest) ← digits? 1 2 (← afterGap? rest)
  let (minute, rest) ← digits? 2 2 (← after? ':' rest)
  let (second, rest) ← digits? 2 2 (← after? ':' rest)
  let (fraction, rest) := match after? '.' rest with
    | some rest => (rest.takeWhile CodePoint.isDigit, rest.dropWhile CodePoint.isDigit)
    | none => ([], rest)
  let zone ← zone? rest
  return { year, month, day, time := some (hour, minute, second), fraction, zone }

/-- Whether a plain scalar is a timestamp. A date alone needs two digits for month and day. -/
def isTimestamp (t : Text) : Bool :=
  match timestamp? t with
  | some found => found.time.isSome || (found.month.length = 2 && found.day.length = 2)
  | none => false

/-! ### Tags -/

/-- The tag of a plain scalar. -/
def tagOf (content : Text) : Tag :=
  let t := dropFinalBreak content
  if content.isEmpty then .null
  else if isWord truthWords t then .bool
  else if isFloat t then .float
  else if isInt t then .int
  else if t = text "<<" then .merge
  else if !t.isEmpty && isWord nullWords t then .null
  else if isTimestamp t then .timestamp
  else if t = text "=" then .value
  else if isWord ["!", "&", "*"] t then .unknown
  else .text

end Dispatch.Yaml.Schema
