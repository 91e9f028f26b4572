import Dispatch.Text.Utf8
import Dispatch.Text.Basic

/-! Bytes in base 64. Characters that are no digits are passed over; a padding that completes a
group of four ends the text.
-/

namespace Dispatch.Yaml.Base64

/-- The value of a digit. -/
def digit? (c : CodePoint) : Option Nat :=
  if c.isUpperAscii then some (c.val - 0x41)
  else if c.isLowerAscii then some (c.val - 0x61 + 26)
  else if c.isDigit then some (c.val - 0x30 + 52)
  else if c.val = 0x2b then some 62
  else if c.val = 0x2f then some 63
  else none

/-- The digits of a group so far, and how much padding has followed them. -/
structure Group where
  digits : List Nat
  padding : Nat

/-- The bytes of the digits of a group: each one after the first completes a byte. -/
def Group.bytes (g : Group) : Bytes :=
  let n := (g.digits ++ List.replicate (4 - g.digits.length) 0).foldl (fun n d => 64 * n + d) 0
  ([n / 65536, n / 256, n].map fun (b : Nat) => UInt8.ofNat (b % 256)).take (g.digits.length - 1)

/-- Reads on behind the groups that are complete. A group that the text leaves incomplete is
refused. -/
def readGroups : Text → Group → List Bytes → Option Bytes
  | [], g, done => if g.digits.isEmpty then some done.reverse.flatten else none
  | c :: rest, g, done =>
      if c = CodePoint.ofChar '=' then
        if 2 ≤ g.digits.length && 4 ≤ g.digits.length + g.padding + 1 then
          some (g.bytes :: done).reverse.flatten
        else readGroups rest (if 2 ≤ g.digits.length then ⟨g.digits, g.padding + 1⟩ else g) done
      else
        match digit? c with
        | none => readGroups rest g done
        | some d =>
            let g : Group := { digits := g.digits ++ [d], padding := 0 }
            if g.digits.length = 4 then readGroups rest ⟨[], 0⟩ (g.bytes :: done)
            else readGroups rest g done

/-- The bytes of a text. -/
def decode? (t : Text) : Option Bytes :=
  readGroups t ⟨[], 0⟩ []

end Dispatch.Yaml.Base64
