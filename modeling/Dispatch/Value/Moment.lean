import Dispatch.Text.Basic

/-! Calendar dates, with or without a time of day and a distance from universal time.
-/

namespace Dispatch

/-- A time of day. The offset is in microseconds, or missing for a time without a zone. -/
structure Clock where
  hour : Nat
  minute : Nat
  second : Nat
  micro : Nat
  offset : Option Int
deriving DecidableEq

/-- A date, with a time of day or without. -/
structure Moment where
  year : Nat
  month : Nat
  day : Nat
  clock : Option Clock
deriving DecidableEq

namespace Moment

def isLeapYear (year : Nat) : Bool :=
  year % 4 = 0 && (year % 100 != 0 || year % 400 = 0)

def daysInMonth (year month : Nat) : Nat :=
  if month = 2 then (if isLeapYear year then 29 else 28)
  else if month = 4 || month = 6 || month = 9 || month = 11 then 30
  else 31

/-- What of a moment is out of range. -/
inductive Error where
  | year (n : Int)
  | month
  | day
  | hour
  | minute
  | second
  | offset (given : Text)
  | overflow
deriving DecidableEq

def Error.message : Error → Text
  | .year n => text "year " ++ Text.ofInt n ++ text " is out of range"
  | .month => text "month must be in 1..12"
  | .day => text "day is out of range for month"
  | .hour => text "hour must be in 0..23"
  | .minute => text "minute must be in 0..59"
  | .second => text "second must be in 0..59"
  | .offset given =>
      text "offset must be a timedelta strictly between -timedelta(hours=24) and "
        ++ text "timedelta(hours=24), not " ++ given ++ text "."
  | .overflow => text "date value out of range"

/-- The count of days up to a date from the first day of all. -/
def ordinal (m : Moment) : Nat :=
  let years := m.year - 1
  let before := years * 365 + years / 4 - years / 100 + years / 400
  (List.range (m.month - 1)).foldl (fun days i => days + daysInMonth m.year (i + 1)) before + m.day

/-- The microseconds in universal time of a moment whose distance from it is known. -/
def universal? (m : Moment) : Option Int :=
  m.clock.bind fun c => c.offset.map fun span =>
    (((m.ordinal * 24 + c.hour) * 60 + c.minute) * 60 + c.second) * 1000000 + c.micro - span

/-- Whether two moments are one and the same. -/
def same (x y : Moment) : Bool :=
  match x.universal?, y.universal? with
  | some s, some t => s = t
  | none, none => x = y
  | _, _ => false

/-- A span of time in whole microseconds, as days, seconds and microseconds of which only the days
may be negative. -/
def spanParts (span : Int) : List (Text × Int) :=
  let days := span.fdiv 86400000000
  let rest := span.fmod 86400000000
  [(text "days", days), (text "seconds", rest.fdiv 1000000),
    (text "microseconds", rest.fmod 1000000)]

/-- A span of time with its parts that are not zero. -/
def showSpan (span : Int) : Text :=
  let parts := (spanParts span).filter (·.2 != 0)
  text "datetime.timedelta("
    ++ (if parts.isEmpty then text "0"
      else Text.joinWith (text ", ") (parts.map fun (name, n) => name ++ text "=" ++ Text.ofInt n))
    ++ text ")"

/-- Checks the numbers of a date. -/
def date (year month day : Nat) : Except Error Moment :=
  if year < 1 || 9999 < year then .error (.year year)
  else if month < 1 || 12 < month then .error .month
  else if day < 1 || daysInMonth year month < day then .error .day
  else .ok { year, month, day, clock := none }

/-- Checks the numbers of a time of day and puts it on a date. -/
def withClock (m : Moment) (clock : Clock) : Except Error Moment :=
  if 23 < clock.hour then .error .hour
  else if 59 < clock.minute then .error .minute
  else if 59 < clock.second then .error .second
  else .ok { m with clock := some clock }

/-- The parts of a time of day that are shown: seconds only if they or the microseconds are not
zero. -/
def showClock (c : Clock) : List Text :=
  [Text.ofNat c.hour, Text.ofNat c.minute]
    ++ (if c.second = 0 && c.micro = 0 then [] else [Text.ofNat c.second])
    ++ (if c.micro = 0 then [] else [Text.ofNat c.micro])
    ++ (match c.offset with
      | none => []
      | some 0 => [text "tzinfo=datetime.timezone.utc"]
      | some span => [text "tzinfo=datetime.timezone(" ++ showSpan span ++ text ")"])

def shown (m : Moment) : Text :=
  let date := [m.year, m.month, m.day].map Text.ofNat
  match m.clock with
  | none => text "datetime.date(" ++ Text.joinWith (text ", ") date ++ text ")"
  | some clock =>
      text "datetime.datetime(" ++ Text.joinWith (text ", ") (date ++ showClock clock) ++ text ")"

/-- A distance from universal time with its sign: hours and minutes, seconds only if they or the
microseconds are not zero. -/
def plainOffset (span : Int) : Text :=
  let size := span.natAbs
  let seconds := size / 1000000
  let clock := [seconds / 3600, seconds / 60 % 60]
    ++ (if size % 60000000 = 0 then [] else [seconds % 60])
  text (if span < 0 then "-" else "+")
    ++ Text.joinWith (text ":") (clock.map (Text.ofNatPadded 2))
    ++ (if size % 1000000 = 0 then [] else text "." ++ Text.ofNatPadded 6 (size % 1000000))

/-- A time of day in digits. -/
def plainClock (c : Clock) : Text :=
  Text.joinWith (text ":") ([c.hour, c.minute, c.second].map (Text.ofNatPadded 2))
    ++ (if c.micro = 0 then [] else text "." ++ Text.ofNatPadded 6 c.micro)
    ++ (match c.offset with
      | none => []
      | some span => plainOffset span)

/-- A moment in digits, with a blank before the time of day. -/
def plain (m : Moment) : Text :=
  Text.ofNatPadded 4 m.year ++ text "-" ++ Text.ofNatPadded 2 m.month ++ text "-"
    ++ Text.ofNatPadded 2 m.day
    ++ (match m.clock with
      | none => []
      | some clock => text " " ++ plainClock clock)

end Moment

end Dispatch
