import Dispatch.Charset.HostName.Label
import Dispatch.Charset.Name
import Dispatch.Charset.Utf7
import Dispatch.Platform

/-! Writing text in a charset. A charset that writes each code point on its own fails at the first
one outside its repertoire; most of them then report the whole run of such code points.
-/

namespace Dispatch.Charset

/-- How a charset that writes each code point on its own reports one that it cannot write: its
name in the report, the reason, and whether a run is reported as one. -/
structure Report where
  label : Text
  reason : String
  grouped : Bool

/-- Writes each code point on its own. -/
def encodeEach (code? : CodePoint → Option Bytes) (report : Report) (t : Text) :
    Except Error Bytes :=
  let good := t.takeWhile fun c => (code? c).isSome
  match t.drop good.length with
  | [] => .ok (t.flatMap fun c => (code? c).getD [])
  | culprit :: rest =>
      let more := if report.grouped then (rest.takeWhile fun c => (code? c).isNone).length else 0
      .error (.unencodable report.label good.length (good.length + more) culprit report.reason)

def utf8Code? (c : CodePoint) : Option Bytes :=
  if c.isSurrogate then none else some (Utf8.encodeChar c)

def utf8Report : Report := ⟨text "utf-8", "surrogates not allowed", true⟩

/-- The bytes of a text in UTF-8. -/
def encodeUtf8 (t : Text) : Except Error Bytes :=
  encodeEach utf8Code? utf8Report t

def signature : Bytes := [0xef, 0xbb, 0xbf]

/-- The name of a wide charset. -/
def wideLabel (unit : UnitSize) (order : ByteOrder) : Text :=
  text (if unit = .double then "utf-16" else "utf-32")
    ++ (match order with
      | .marked => []
      | .little => text "-le"
      | .big => text "-be")

/-- The byte of a code point below a limit. -/
def lowCode? (limit : Nat) (c : CodePoint) : Option Bytes :=
  if c.val < limit then some [UInt8.ofNat c.val] else none

/-- The escape of a code point in a program. -/
def escapeCode (raw : Bool) (c : CodePoint) : Bytes :=
  let bytesOf := fun (t : Text) => t.map fun d => UInt8.ofNat d.val
  if raw then
    if c.val < 0x100 then [UInt8.ofNat c.val] else bytesOf (escaped c)
  else if c.val = 0x5c then bytesOf (text "\\\\")
  else if c.val = 0x09 then bytesOf (text "\\t")
  else if c.val = 0x0a then bytesOf (text "\\n")
  else if c.val = 0x0d then bytesOf (text "\\r")
  else if 0x20 ≤ c.val && c.val < 0x7f then [UInt8.ofNat c.val]
  else bytesOf (escaped c)

/-- The bytes of ASCII text. -/
def asciiBytes (t : Text) : Bytes :=
  t.map fun c => UInt8.ofNat c.val

variable [Platform]

/-- Writes a text in a charset of the machine. -/
def encodeMultiByte (label t : Text) : Except Error Bytes :=
  ((Platform.multiByte label).encode t).mapError fun misfit =>
    .unencodable label misfit.first misfit.last misfit.culprit misfit.reason

/-- Writes a text; `name` is the name under which the coding was asked for. -/
def Codec.encode (codec : Codec) (name : Text) (t : Text) : Except Error Bytes :=
  match codec with
  | .utf8 marked => (encodeUtf8 t).map fun bytes => if marked then signature ++ bytes else bytes
  | .utf7 => .ok (Utf7.encode t)
  | .wide unit order =>
      (encodeEach (fun c => if c.isSurrogate then none else some (Wide.charBytes unit order c))
        ⟨wideLabel unit order, "surrogates not allowed", false⟩ t).map (Wide.start unit order ++ ·)
  | .ascii => encodeEach (lowCode? 0x80) ⟨text "ascii", "ordinal not in range(128)", true⟩ t
  | .latin1 => encodeEach (lowCode? 0x100) ⟨text "latin-1", "ordinal not in range(256)", true⟩ t
  | .page p =>
      encodeEach (fun c => (p.byte? c).map ([·]))
        ⟨text "charmap", "character maps to <undefined>", true⟩ t
  | .multiByte label => encodeMultiByte label t
  | .hostName => ((HostName.toAscii t).mapError (.labelRefused name)).map asciiBytes
  | .punycode => .ok (asciiBytes (Punycode.encode t))
  | .escapes raw => .ok (t.flatMap (escapeCode raw))
  | .undefined => .error (.undefined name)
  | .transform => .error (.transform name)

/-- Writes a text in the charset of a name. -/
def encode (name : Text) (t : Text) : Except Error Bytes := do
  let _ ← encodeUtf8 name
  if name.any fun c => c.val = 0 then throw .nul
  match find? name with
  | none => throw (.unknown name)
  | some codec => codec.encode name t

end Dispatch.Charset
