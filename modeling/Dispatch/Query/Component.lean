import Dispatch.Charset.Encode
import Dispatch.Fault
import Dispatch.Url.Escape

/-! Names and values of parameters in form encoding: letters, digits and four signs stand for
themselves, a blank becomes a plus sign, and every other byte is escaped.
-/

namespace Dispatch.Query

variable [Platform]

/-- The bytes that stand for themselves. -/
def isPlainByte (b : UInt8) : Bool :=
  let c := CodePoint.ofNat b.toNat
  c.isAlnum || c.val = 0x5f || c.val = 0x2e || c.val = 0x2d || c.val = 0x7e

/-- One byte in form encoding. The flag says whether the byte of a blank becomes a plus sign. -/
def formByte (plus : Bool) (b : UInt8) : Text :=
  if isPlainByte b then [CodePoint.ofNat b.toNat]
  else if plus && b = 0x20 then [CodePoint.ofChar '+']
  else Escape.byte b

/-- Bytes in form encoding. -/
def formBytes (plus : Bool) (bytes : Bytes) : Text :=
  bytes.flatMap (formByte plus)

/-- A text in form encoding. Whether plus signs are used is decided on the text: one without blanks
has none, even if its bytes hold that of a blank. -/
def formText (charset : Text) (t : Text) : Except Charset.Error Text :=
  if t.isEmpty then .ok []
  else (Charset.encode charset t).map (formBytes (t.contains (CodePoint.ofChar ' ')))

/-- A name or value of any kind in form encoding. Bytes are taken as they are, without a charset. -/
def component (value charset : Value) : Except Fault Text :=
  match value, charset with
  | .text [], _ => .ok []
  | .text t, .text name => (formText name t).mapError .charset
  | .text t, .null => (formText (text "utf-8") t).mapError .charset
  | .text _, other => .error (.charsetKind other.typeName)
  | .blob .fixed bytes, .null => .ok (formBytes true bytes)
  | .blob .editable bytes, .null => .ok (formBytes true bytes)
  | _, .null => .error .component
  | _, _ => .error .charsetForBytes

end Dispatch.Query
