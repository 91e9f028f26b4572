import Dispatch.Text.Quoted
import Dispatch.Value.Moment

/-! Why a document has no value: it breaks the grammar, is nested too deeply, or holds a scalar that
fits the grammar and stands for nothing.
-/

namespace Dispatch.Yaml

/-- Why a scalar stands for no value. -/
inductive ScalarError where
  | moment (e : Moment.Error)
  /-- No timestamp, though it is tagged as one. -/
  | timestamp
  /-- A map that is tagged as a timestamp. -/
  | timestampMap
  | integer (literal : Text) (base : Nat)
  | emptyInteger
  | integerDigits (count : Nat)
  | float (literal : Text)
  | floatRange
  | truthWord (word : Text)
  | codePoint
  | codePointRange
deriving DecidableEq

def ScalarError.message : ScalarError → Text
  | .moment e => e.message
  | .timestamp => text "'NoneType' object has no attribute 'groupdict'"
  | .timestampMap => text "expected string or bytes-like object, got 'list'"
  | .integer literal base =>
      text "invalid literal for int() with base " ++ Text.ofNat base ++ text ": " ++ literal.quoted
  | .emptyInteger => text "string index out of range"
  | .integerDigits count =>
      text "Exceeds the limit (4300 digits) for integer string conversion: value has "
        ++ Text.ofNat count
        ++ text " digits; use sys.set_int_max_str_digits() to increase the limit"
  | .float literal => text "could not convert string to float: " ++ literal.quoted
  | .floatRange => text "int too large to convert to float"
  | .truthWord word => word.quoted
  | .codePoint => text "chr() arg not in range(0x110000)"
  | .codePointRange => text "Python int too large to convert to C int"

inductive Error where
  | grammar
  | depth
  | scalar (e : ScalarError)
deriving DecidableEq

end Dispatch.Yaml
