import Dispatch.Charset.Encode
import Dispatch.Text.Blank

/-! Reading text in a charset, and which charsets may be configured: those that give a plain ASCII
sample back, labels and escapes aside.
-/

namespace Dispatch.Charset

/-- Reads each byte on its own. -/
def decodeEach (codePoint? : UInt8 → Option CodePoint) (bytes : Bytes) : Option Text :=
  bytes.mapM codePoint?

variable [Platform]

/-- Reads bytes. The codings that are no charsets are not read. -/
def Codec.decode? (codec : Codec) (bytes : Bytes) : Option Text :=
  match codec with
  | .utf8 marked =>
      Utf8.decode? (if marked && signature.isPrefixOf bytes then bytes.drop 3 else bytes)
  | .utf7 => Utf7.decode? bytes
  | .wide unit order => Wide.decode? unit order bytes
  | .ascii =>
      decodeEach (fun b => if b.toNat < 0x80 then CodePoint.ofNat? b.toNat else none) bytes
  | .latin1 => decodeEach (fun b => CodePoint.ofNat? b.toNat) bytes
  | .page p => decodeEach p.codePoint? bytes
  | .multiByte label => (Platform.multiByte label).decode? bytes
  | _ => none

/-- Reads bytes in the charset of a name. -/
def decode? (name : Text) (bytes : Bytes) : Option Text :=
  (find? name).bind (·.decode? bytes)

/-- A text with the punctuation that headers and queries need. -/
def sample : Text := text "Az09 a..b-_~!*'()&=+%#"

/-- Whether a name is that of a charset that gives the sample back. -/
def isSupported (name : Text) : Bool :=
  !name.strip.isEmpty
    && (match encode name sample with
      | .ok bytes => decode? name bytes = some sample
      | .error _ => false)

end Dispatch.Charset
