import Dispatch.Charset.Basic
import Dispatch.Json
import Dispatch.Pickle.Writer
import Dispatch.Url.Idna.Label
import Dispatch.Value.Show
import Dispatch.Yaml.Error

/-! Faults of the services that a mapping rests on: charsets, URLs, formats, written forms. A fault
becomes the cause of a mapping error where the mapping expects it, and else ends the call.
-/

namespace Dispatch

inductive Fault where
  | charset (e : Charset.Error)
  | url (e : Url.Error)
  | parts (e : UriParts.Error)
  | hostName (e : Idna.Error)
  | shown (e : Value.ShowError)
  | pickle (e : Pickle.Error)
  | json (e : Json.Error)
  | scalar (e : Yaml.ScalarError)
  /-- A format's own reason to refuse a value. -/
  | format (reason : Text)
  /-- A format's own error whose text is asked for in vain, for it raises an error itself. -/
  | muteFormat (raised : Text)
  /-- An error that an object raises for itself. -/
  | own (reason : Text)
  /-- A view that was released is asked for its bytes. -/
  | released
  /-- A format gave nothing. -/
  | noContent
  | noMessage
  /-- A value is nested too deeply to be walked. -/
  | depth
  /-- A charset that is no text. -/
  | charsetKind (typeName : Text)
  /-- Bytes to be form-encoded in a charset. -/
  | charsetForBytes
  /-- Neither text nor bytes to be form-encoded. -/
  | component
  | unhashable (typeName : Text)
  | notIterable (typeName : Text)
  /-- A header name that is neither text nor bytes. -/
  | headerName (typeName : Text)
  | headerValue (typeName : Text)
  | levelKind (typeName : Text)
  | levelBytes (typeName : Text)
  | level (name : Text)
  /-- A level that is a table. -/
  | levelTable (content : Text)
  /-- A change under the name by which a call takes the mapper itself. -/
  | receiverName

/-- The families of faults. -/
inductive Fault.Kind where
  | encoding | text | lookup | type | value | attribute | key | index | overflow | runtime
  | recursion | assertion | memory | format | pickling | url | hostName | hostCodePoint
  | hostContext | hostDirection
deriving DecidableEq

namespace Fault

def charsetKindOf : Charset.Error → Kind
  | .unencodable .. => .encoding
  | .labelRefused .. => .text
  | .undefined _ => .text
  | .unknown _ => .lookup
  | .transform _ => .lookup
  | .nul => .value

def hostNameKindOf : Idna.Error → Kind
  | .codePoint .. => .hostCodePoint
  | .joiner .. => .hostContext
  | .context .. => .hostContext
  | .unknownDirection .. => .hostDirection
  | .firstDirection _ => .hostDirection
  | .directionInRightToLeft _ => .hostDirection
  | .directionInLeftToRight _ => .hostDirection
  | .mixedNumerals => .hostDirection
  | .lastDirection => .hostDirection
  | _ => .hostName

def scalarKindOf : Yaml.ScalarError → Kind
  | .timestamp => .attribute
  | .timestampMap => .type
  | .emptyInteger => .index
  | .truthWord _ => .key
  | .floatRange => .overflow
  | .codePointRange => .overflow
  | .moment .overflow => .overflow
  | _ => .value

def kind : Fault → Kind
  | .charset e => charsetKindOf e
  | .url (.surrogate _) => .encoding
  | .url _ => .url
  | .parts _ => .value
  | .hostName e => hostNameKindOf e
  | .shown .digits => .value
  | .shown .depth => .recursion
  | .shown (.own _) => .runtime
  | .pickle .version => .value
  | .pickle .depth => .recursion
  | .pickle (.kind _) => .type
  | .pickle (.refused _) => .runtime
  | .pickle (.mute _) => .runtime
  | .pickle .digits => .value
  | .pickle .integer => .overflow
  | .pickle (.content _) => .overflow
  | .pickle (.index _) => .pickling
  | .pickle .memory => .memory
  | .pickle (.hidden ..) => .pickling
  | .json .digits => .value
  | .json .depth => .recursion
  | .json _ => .type
  | .scalar e => scalarKindOf e
  | .format _ => .format
  | .muteFormat _ => .format
  | .own _ => .runtime
  | .released => .value
  | .noContent => .assertion
  | .noMessage => .value
  | .depth => .recursion
  | .charsetKind _ => .type
  | .charsetForBytes => .type
  | .component => .type
  | .unhashable _ => .type
  | .notIterable _ => .type
  | .headerName _ => .attribute
  | .headerValue _ => .type
  | .levelKind _ => .attribute
  | .levelBytes _ => .type
  | .level _ => .value
  | .levelTable _ => .type
  | .receiverName => .type

def message : Fault → Text
  | .charset e => e.message
  | .url e => e.message
  | .parts e => e.message
  | .hostName e => e.message
  | .shown e => e.message
  | .pickle e => e.message
  | .json e => e.message
  | .scalar e => e.message
  | .format reason => reason
  | .muteFormat _ => []
  | .own reason => reason
  | .released => Dispatch.text "operation forbidden on released memoryview object"
  | .noContent => []
  | .noMessage => Dispatch.text "message must not be None"
  | .depth => Dispatch.text "maximum recursion depth exceeded"
  | .charsetKind typeName =>
      Dispatch.text "encode() argument 'encoding' must be str, not "
        ++ (if typeName = Dispatch.text "NoneType" then Dispatch.text "None" else typeName)
  | .charsetForBytes => Dispatch.text "quote() doesn't support 'encoding' for bytes"
  | .component => Dispatch.text "quote_from_bytes() expected bytes"
  | .unhashable typeName => Dispatch.text "unhashable type: '" ++ typeName ++ Dispatch.text "'"
  | .notIterable typeName =>
      Dispatch.text "'" ++ typeName ++ Dispatch.text "' object is not iterable"
  | .headerName typeName =>
      Dispatch.text "'" ++ typeName ++ Dispatch.text "' object has no attribute 'lower'"
  | .headerValue className =>
      Dispatch.text "Header value must be str or bytes, not <class '" ++ className
        ++ Dispatch.text "'>"
  | .levelKind typeName =>
      Dispatch.text "'" ++ typeName ++ Dispatch.text "' object has no attribute 'upper'"
  | .levelBytes typeName =>
      Dispatch.text "attribute name must be string, not '" ++ typeName ++ Dispatch.text "'"
  | .levelTable content =>
      Dispatch.text "Level not an integer or a valid string: " ++ content
  | .level name => Dispatch.text "Unknown level: " ++ name
  | .receiverName =>
      Dispatch.text "OutboundRequestMapper.update_config() got multiple values for argument 'self'"

/-- A text that cannot be had is an error of its own, which hides the one whose text it is. -/
def raisedByMessage? : Fault → Option Fault
  | .muteFormat raised => some (.own raised)
  | .pickle (.mute raised) => some (.own raised)
  | _ => none

/-- Whether a fault is a charset's refusal of a text. -/
def refusesText (f : Fault) : Bool :=
  match f.kind with
  | .encoding | .text | .hostName | .hostCodePoint | .hostContext | .hostDirection => true
  | _ => false

end Fault

/-- Whether a value counts as true. An object answers for itself, and a released view does not
answer. -/
def Value.truth : Value → Except Fault Bool
  | .handle (.object o) => o.truth.mapError .own
  | .map (.own o) _ => o.truth.mapError .own
  | v => if v.isReleased then .error .released else .ok v.truthy

end Dispatch
