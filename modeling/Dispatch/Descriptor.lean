import Dispatch.Fields
import Dispatch.Text.Upper
import Dispatch.Url.Parser

/-! Request descriptors: the target, the method, the content type and the body of one request. The
target is an absolute URL and the method is its own upper case.
-/

namespace Dispatch

structure Descriptor where
  target : Text
  method : Text
  contentType : Option Text
  body : Bytes
deriving DecidableEq

namespace Descriptor

variable [Platform]

/-- The names of the fields. -/
def fieldNames : List String := ["target_url", "method", "content_type", "body"]

/-- Refuses a value with a reason that shows it. -/
def refuse (reason : String) (t : Text) : FieldProblem :=
  .refused (text reason ++ t.quoted)

/-- Reads a target. -/
def readTarget (v : Value) : Except FieldProblem Text := do
  let t ← Field.toText v
  match Url.isAbsoluteText t with
  | .ok true => return t
  | .ok false => throw (refuse "target_url must be an absolute URL, got " t)
  | .error e => throw (.refused e.message)

/-- Reads a method. -/
def readMethod (v : Value) : Except FieldProblem Text := do
  let t ← Field.toText v
  if t.isEmpty || t != t.upper then
    throw (refuse "method must be a non-empty uppercase string, got " t)
  else return t

/-- Reads a content type. -/
def readContentType (v : Value) : Except FieldProblem (Option Text) :=
  match v with
  | .null => .ok none
  | v => (Field.toText v).map some

/-- A descriptor from entries. Only the target has no default. -/
def ofEntries (entries : Entries) : Except (List FieldError) Descriptor :=
  let target :=
    match entries.get? (text "target_url") with
    | some v => readTarget v
    | none => .error .missing
  let method :=
    match entries.get? (text "method") with
    | some v => readMethod v
    | none => .ok (text "POST")
  let contentType :=
    match entries.get? (text "content_type") with
    | some v => readContentType v
    | none => .ok none
  let body :=
    match entries.get? (text "body") with
    | some v => Field.toBytes v
    | none => .ok []
  match target, method, contentType, body, Field.extraErrors fieldNames entries with
  | .ok target, .ok method, .ok contentType, .ok body, [] =>
      .ok { target, method, contentType, body }
  | _, _, _, _, extra =>
      .error (Field.errors (Field.name "target_url") target
        ++ Field.errors (Field.name "method") method
        ++ Field.errors (Field.name "content_type") contentType
        ++ Field.errors (Field.name "body") body ++ extra)

/-- The length of the body. -/
def contentLength (d : Descriptor) : Nat :=
  d.body.length

/-- The headers that describe the content. -/
def headers (d : Descriptor) : List (Text × Text) :=
  (match d.contentType with
    | some t => [(text "Content-Type", t)]
    | none => [])
    ++ (if d.body.isEmpty then [] else [(text "Content-Length", Text.ofNat d.contentLength)])

end Descriptor

/-- Records do not change: setting a field of one is refused. Names with a leading underscore are no
fields. -/
def setField (name : Text) : Except (List FieldError) Unit :=
  if name.startsWith (text "_") then .ok () else .error [⟨.frozen, [.name name]⟩]

end Dispatch
