import Dispatch.Fault

/-! Failures. A mapping error says what is wrong with a message, a payload or a setting, and carries
its cause and the message. Fields that do not fit a record are listed one by one; a fault that
nobody expects ends the call as it is.
-/

namespace Dispatch

/-! ### Fields -/

/-- A step on the way to a field: a name or a number. -/
inductive FieldStep where
  | name (t : Text)
  | index (n : Int)
deriving DecidableEq

/-- What is wrong with a field. -/
inductive FieldProblem where
  | missing
  | extra
  | text
  | textBytes
  | bytes
  | truthWord
  | truth
  | map
  | key
  | frozen
  | refused (reason : Text)
deriving DecidableEq

/-- The short name of a problem. -/
def FieldProblem.code : FieldProblem → Text
  | .missing => Dispatch.text "missing"
  | .extra => Dispatch.text "extra_forbidden"
  | .text => Dispatch.text "string_type"
  | .textBytes => Dispatch.text "string_unicode"
  | .bytes => Dispatch.text "bytes_type"
  | .truthWord => Dispatch.text "bool_parsing"
  | .truth => Dispatch.text "bool_type"
  | .map => Dispatch.text "dict_type"
  | .key => Dispatch.text "invalid_key"
  | .frozen => Dispatch.text "frozen_instance"
  | .refused _ => Dispatch.text "value_error"

/-- A text with the bytes of each surrogate replaced. -/
def replaceSurrogates (t : Text) : Text :=
  t.flatMap fun c => if c.isSurrogate then List.replicate 3 (CodePoint.ofNat 0xfffd) else [c]

def FieldProblem.message : FieldProblem → Text
  | .missing => Dispatch.text "Field required"
  | .extra => Dispatch.text "Extra inputs are not permitted"
  | .text => Dispatch.text "Input should be a valid string"
  | .textBytes =>
      Dispatch.text "Input should be a valid string, unable to parse raw data as a unicode string"
  | .bytes => Dispatch.text "Input should be a valid bytes"
  | .truthWord => Dispatch.text "Input should be a valid boolean, unable to interpret input"
  | .truth => Dispatch.text "Input should be a valid boolean"
  | .map => Dispatch.text "Input should be a valid dictionary"
  | .key => Dispatch.text "Keys should be strings"
  | .frozen => Dispatch.text "Instance is frozen"
  | .refused reason => Dispatch.text "Value error, " ++ replaceSurrogates reason

/-- A field that does not fit, and the way to it. -/
structure FieldError where
  problem : FieldProblem
  place : List FieldStep
deriving DecidableEq

/-! ### Mappings -/

/-- What is wrong with a mapping. -/
inductive Problem where
  | noTarget
  | unreadableTarget (target : Text) (e : Url.Error)
  | relativeTarget (target : Text)
  | headerKind (value : Value)
  | noPayload (method : Text)
  | notMap (method typeName : Text)
  | keyNotText (method key : Text)
  | valueNotTexts (method key typeName : Text)
  | parameterNotEncodable (key charset : Text) (fault : Fault)
  | unreadableQuery (e : Url.Error)
  | relativeQuery (target : Text)
  | textNotEncodable (charset : Text) (fault : Fault)
  | notSerializable (format typeName : Text) (fault : Option Fault)
  | methodWithoutBody (method : Text)
  | unknownCharset (charset : Text)
  | relativeDefault (target : Text)
  | settings (errors : List FieldError)
  | noDocument (path : Text)
  | documentGrammar
  | documentNotMap
  | sectionNotMap
  | documentFields (errors : List FieldError)
  | unsetVariable (name : Text)

/-- The families of mapping errors. -/
inductive Problem.Kind where
  | mapping | unresolvedTarget | malformedTarget | headerType | missingPayload | payloadShape
  | payloadType | method | charset | configuration
deriving DecidableEq

/-- What a mapping error rests on. -/
inductive Cause where
  | fault (f : Fault)
  | fields (errors : List FieldError)
  | grammar

namespace Problem

def kind : Problem → Kind
  | .noTarget => .unresolvedTarget
  | .unreadableTarget .. => .malformedTarget
  | .relativeTarget _ => .malformedTarget
  | .headerKind _ => .headerType
  | .noPayload _ => .missingPayload
  | .notMap .. => .payloadShape
  | .keyNotText .. => .payloadShape
  | .valueNotTexts .. => .payloadShape
  | .parameterNotEncodable .. => .payloadShape
  | .unreadableQuery _ => .malformedTarget
  | .relativeQuery _ => .malformedTarget
  | .textNotEncodable .. => .payloadType
  | .notSerializable .. => .payloadType
  | .methodWithoutBody _ => .method
  | .unknownCharset _ => .charset
  | .relativeDefault _ => .malformedTarget
  | .settings _ => .mapping
  | .noDocument _ => .configuration
  | .documentGrammar => .configuration
  | .documentNotMap => .configuration
  | .sectionNotMap => .configuration
  | .documentFields _ => .configuration
  | .unsetVariable _ => .configuration

def cause? : Problem → Option Cause
  | .unreadableTarget _ e => some (.fault (.url e))
  | .parameterNotEncodable _ _ f => some (.fault f)
  | .unreadableQuery e => some (.fault (.url e))
  | .textNotEncodable _ f => some (.fault f)
  | .notSerializable _ _ f => f.map .fault
  | .settings errors => some (.fields errors)
  | .documentGrammar => some .grammar
  | .documentFields errors => some (.fields errors)
  | _ => none

/-- The shape that a payload must have, and what is wrong with it. -/
def shapeMessage (method detail : Text) : Text :=
  text "Payload must be a Map with str keys and str or str sequence values for a '" ++ method
    ++ text "' request (" ++ detail ++ text ")"

def message : Problem → Text
  | .noTarget => text "failed to determine a target URL for message"
  | .unreadableTarget target e =>
      text "Invalid target URL " ++ target.quoted ++ text ": " ++ e.message
  | .relativeTarget target =>
      text "Target URL " ++ target.quoted ++ text " is not an absolute URL"
  | .headerKind value =>
      text "Target URL in message header must be an httpx.URL, a parsed URI, or a str, got "
        ++ value.typeName
  | .noPayload method => text "payload must not be None for a '" ++ method ++ text "' request"
  | .notMap method typeName =>
      text "Message payload must be a Map for a '" ++ method ++ text "' request, got " ++ typeName
  | .keyNotText method key => shapeMessage method (text "key " ++ key ++ text " is not a str")
  | .valueNotTexts method key typeName =>
      shapeMessage method (text "value for " ++ key ++ text " is a " ++ typeName)
  | .parameterNotEncodable key charset f =>
      text "Query parameter " ++ key ++ text " cannot be encoded as " ++ charset ++ text ": "
        ++ f.message
  | .unreadableQuery e => text "Failed to build URL with query parameters: " ++ e.message
  | .relativeQuery target =>
      text "URL with query parameters is not absolute: " ++ target.quoted
  | .textNotEncodable charset f =>
      text "Text payload cannot be encoded as " ++ charset ++ text ": " ++ f.message
  | .notSerializable format typeName f =>
      text "payload must be bytes, str, or a value serializable as '" ++ format
        ++ text "' for a 'POST' or 'PUT' request, got " ++ typeName
        ++ (match f with
          | some f => text ": " ++ f.message
          | none => [])
  | .methodWithoutBody method =>
      text "POST or PUT request method is required when payload extraction is disabled, got '"
        ++ method ++ text "'"
  | .unknownCharset charset => text "unsupported charset '" ++ charset ++ text "'"
  | .relativeDefault target => text "Default URL " ++ target ++ text " is not an absolute URL"
  | .settings _ => text "Invalid mapper configuration"
  | .noDocument path => text "Config file not found: " ++ path
  | .documentGrammar => text "Invalid YAML in config file"
  | .documentNotMap => text "Config file must be a YAML mapping"
  | .sectionNotMap => text "'mapper' section must be a YAML mapping"
  | .documentFields _ => text "Invalid config structure"
  | .unsetVariable name => text "Environment variable '" ++ name ++ text "' is not set"

end Problem

/-- A problem with the message that was being mapped, if there was one. -/
structure MappingError where
  problem : Problem
  message : Option Message

inductive Failure where
  | mapping (e : MappingError)
  | fields (errors : List FieldError)
  | fault (f : Fault)

namespace Failure

/-- A problem outside of a mapping. -/
def ofProblem (p : Problem) : Failure :=
  .mapping ⟨p, none⟩

/-- Adds the message to a mapping error that carries none. -/
def withMessage (m : Message) : Failure → Failure
  | .mapping ⟨p, none⟩ => .mapping ⟨p, some m⟩
  | other => other

end Failure

end Dispatch
