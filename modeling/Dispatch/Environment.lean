import Dispatch.Charset.Encode
import Dispatch.Fault

/-! Environments: variables by name. Names are compared as bytes; a byte that belongs to no UTF-8
sequence is written in a name as a surrogate of its own.
-/

namespace Dispatch

/-- Variables in the order in which they were set. -/
abbrev Environment := List (Text × Text)

namespace Environment

/-- The byte that a surrogate of a name stands for. -/
def loneByte? (c : CodePoint) : Option UInt8 :=
  if 0xdc80 ≤ c.val && c.val ≤ 0xdcff then some (UInt8.ofNat (c.val - 0xdc00)) else none

def nameCode? (c : CodePoint) : Option Bytes :=
  match loneByte? c with
  | some b => some [b]
  | none => Charset.utf8Code? c

/-- The bytes of a name. The surrogates after one that stands for no byte are reported with it, be
they lone bytes or not. -/
def nameBytes (name : Text) : Except Charset.Error Bytes :=
  let good := name.takeWhile fun c => (nameCode? c).isSome
  match name.drop good.length with
  | [] => .ok (name.flatMap fun c => (nameCode? c).getD [])
  | culprit :: rest =>
      let run := rest.takeWhile CodePoint.isSurrogate
      .error (.unencodable (text "utf-8") good.length (good.length + run.length) culprit
        "surrogates not allowed")

/-- The value of a variable: the one that was set last. -/
def get? (env : Environment) (name : Text) : Except Fault (Option Text) := do
  let wanted ← (nameBytes name).mapError Fault.charset
  return (env.reverse.find? fun e => (nameBytes e.1).toOption = some wanted).map (·.2)

end Environment

end Dispatch
