import Dispatch.Charset.Page.Basic
import Dispatch.Text.Quoted

/-! Charsets: ways to write text as bytes. Beside the charsets proper there are codings with a name
that are none: they write labels or escapes, or change bytes into bytes.
-/

namespace Dispatch.Charset

/-- How many bytes a unit of a wide charset has. -/
inductive UnitSize where
  | double | quadruple
deriving DecidableEq

/-- The order of the bytes of a unit; a marked text starts with a mark that shows it. -/
inductive ByteOrder where
  | marked | little | big
deriving DecidableEq

inductive Codec where
  | utf8 (signature : Bool)
  | utf7
  | wide (unit : UnitSize) (order : ByteOrder)
  | ascii
  | latin1
  | page (p : CodePage)
  /-- A charset whose tables the machine has, by its label. -/
  | multiByte (label : Text)
  | hostName
  | punycode
  /-- Escapes of programs; the raw form keeps what Latin-1 can hold. -/
  | escapes (raw : Bool)
  | undefined
  | transform

/-- Why a label of a host name has no ASCII form. -/
inductive LabelError where
  | emptyOrLong
  | long
  | acePrefix
  | character (c : CodePoint)
  | direction (rule : Nat)
deriving DecidableEq

def LabelError.message : LabelError → Text
  | .emptyOrLong => text "label empty or too long"
  | .long => text "label too long"
  | .acePrefix => text "Label starts with ACE prefix"
  | .character c => text "Invalid character " ++ Text.quoted [c]
  | .direction rule => text "Violation of BIDI requirement " ++ Text.ofNat rule

/-- Why a text cannot be written in a charset. -/
inductive Error where
  /-- The code points from one place to another are not in the repertoire. -/
  | unencodable (label : Text) (first last : Nat) (culprit : CodePoint) (reason : String)
  | labelRefused (name : Text) (reason : LabelError)
  | undefined (name : Text)
  | unknown (name : Text)
  | transform (name : Text)
  | nul

/-- A code point as an escape. -/
def escaped (c : CodePoint) : Text :=
  if c.val < 0x100 then text "\\x" ++ Text.ofHex 2 c.val
  else if c.val < 0x10000 then text "\\u" ++ Text.ofHex 4 c.val
  else text "\\U" ++ Text.ofHex 8 c.val

def Error.message : Error → Text
  | .unencodable label first last culprit reason =>
      text "'" ++ label ++ text "' codec can't encode "
        ++ (if first = last then
          text "character '" ++ escaped culprit ++ text "' in position " ++ Text.ofNat first
        else
          text "characters in position " ++ Text.ofNat first ++ text "-" ++ Text.ofNat last)
        ++ text ": " ++ text reason
  | .labelRefused name reason =>
      text "encoding with '" ++ name ++ text "' codec failed (UnicodeError: " ++ reason.message
        ++ text ")"
  | .undefined name =>
      text "encoding with '" ++ name ++ text "' codec failed (UnicodeError: undefined encoding)"
  | .unknown name => text "unknown encoding: " ++ name
  | .transform name =>
      text "'" ++ name ++ text "' is not a text encoding; "
        ++ text "use codecs.encode() to handle arbitrary codecs"
  | .nul => text "embedded null character"

end Dispatch.Charset
