import Dispatch.Text.Basic

/-! Punycode: a text as ASCII letters and digits. The ASCII code points come first; each other one
is a distance from the one before it, in digits of base 36 whose thresholds follow the distances.
-/

namespace Dispatch.Punycode

/-- The letter or digit of a value below 36. -/
def digit (n : Nat) : CodePoint :=
  CodePoint.ofNat (if n < 26 then 0x61 + n else 0x16 + n)

/-- The value of a letter or digit. -/
def digitValue? (c : CodePoint) : Option Nat :=
  if c.isLowerAscii then some (c.val - 0x61)
  else if c.isUpperAscii then some (c.val - 0x41)
  else if c.isDigit then some (c.val - 0x16)
  else none

/-- The threshold of the digit at a place, between 1 and 26. -/
def threshold (place bias : Nat) : Nat :=
  max 1 (min 26 (36 * (place + 1) - bias))

theorem threshold_pos (place bias : Nat) : 1 ≤ threshold place bias := by
  unfold threshold; omega

theorem threshold_le (place bias : Nat) : threshold place bias ≤ 26 := by
  unfold threshold; omega

/-- Divides a distance by 35 until it is at most 455; the count of divisions times 36 is returned.
-/
def divideDown (delta divisions : Nat) : Nat × Nat :=
  if 455 < delta then divideDown (delta / 35) (divisions + 36) else (delta, divisions)
termination_by delta
decreasing_by exact Nat.div_lt_self (by omega) (by omega)

/-- The bias after a distance, told whether it was the first one and how many code points there
are by now. -/
def adapt (delta : Nat) (first : Bool) (count : Nat) : Nat :=
  let delta := if first then delta / 700 else delta / 2
  let (rest, divisions) := divideDown (delta + delta / count) 0
  divisions + 36 * rest / (rest + 38)

/-- The digits of a distance. -/
def encodeNumber (bias place n : Nat) : Text :=
  let t := threshold place bias
  if n < t then [digit n]
  else digit (t + (n - t) % (36 - t)) :: encodeNumber bias (place + 1) ((n - t) / (36 - t))
termination_by n
decreasing_by
  have := threshold_pos place bias
  have := threshold_le place bias
  calc (n - threshold place bias) / (36 - threshold place bias)
      ≤ n - threshold place bias := Nat.div_le_self _ _
    _ < n := by omega

/-- What is known while the distances are written: the digits so far, the running distance, the
bias and how many code points are done. -/
structure Writer where
  out : Text
  delta : Nat
  bias : Nat
  done : Nat

/-- Passes one code point of the text while all those equal to `target` are written. -/
def Writer.pass (basic : Nat) (target : Nat) (w : Writer) (c : CodePoint) : Writer :=
  if c.val < target then { w with delta := w.delta + 1 }
  else if c.val = target then
    { out := w.out ++ encodeNumber w.bias 0 w.delta
      delta := 0
      bias := adapt w.delta (w.done = basic) (w.done + 1)
      done := w.done + 1 }
  else w

/-- Inserts a number into an ascending list without repeats. -/
def insertAscending (n : Nat) : List Nat → List Nat
  | [] => [n]
  | m :: rest =>
      if n < m then n :: m :: rest
      else if n = m then m :: rest
      else m :: insertAscending n rest

/-- Writes the code points of each target in turn; `before` is one more than the last target. -/
def writeTargets (t : Text) (basic : Nat) : List Nat → Nat → Writer → Writer
  | [], _, w => w
  | target :: rest, before, w =>
      let w := { w with delta := w.delta + (target - before) * (w.done + 1) }
      let w := t.foldl (Writer.pass basic target) w
      writeTargets t basic rest (target + 1) { w with delta := w.delta + 1 }

def encode (t : Text) : Text :=
  let basic := t.filter CodePoint.isAscii
  let targets := (t.filter (!·.isAscii)).foldl (fun ns c => insertAscending c.val ns) []
  let w := writeTargets t basic.length targets 0x80
    { out := [], delta := 0, bias := 72, done := basic.length }
  (if basic.isEmpty then [] else basic ++ [CodePoint.ofChar '-']) ++ w.out

/-- Reads the digits of one distance: the distance and what is left. -/
def decodeNumber (bias : Nat) : Nat → Nat → Nat → Text → Option (Nat × Text)
  | _, _, _, [] => none
  | place, weight, sum, c :: rest =>
      match digitValue? c with
      | none => none
      | some d =>
          let t := threshold place bias
          let sum := sum + d * weight
          if d < t then some (sum, rest)
          else decodeNumber bias (place + 1) (weight * (36 - t)) sum rest

/-- Inserts the code points of the distances into a text. `position` is one more than the place of
the last insertion; the fuel bounds the number of distances. -/
def insertAll : Nat → Text → Nat → Nat → Nat → Bool → Text → Option Text
  | _, [], _, _, _, _, t => some t
  | 0, _ :: _, _, _, _, _, _ => none
  | fuel + 1, digits@(_ :: _), bias, code, position, first, t =>
      match decodeNumber bias 0 1 0 digits with
      | none => none
      | some (delta, rest) =>
          let place := position + delta
          let code := code + place / (t.length + 1)
          let place := place % (t.length + 1)
          match CodePoint.ofNat? code with
          | none => none
          | some c =>
              let t := t.take place ++ c :: t.drop place
              insertAll fuel rest (adapt delta first t.length) code (place + 1) false t

def decode? (t : Text) : Option Text :=
  match t.cutLast (CodePoint.ofChar '-') with
  | (basic, digits) => insertAll digits.length digits 72 0x80 0 true (basic.getD [])

end Dispatch.Punycode
