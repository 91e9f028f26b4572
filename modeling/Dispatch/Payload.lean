import Dispatch.Charset.Encode
import Dispatch.Failure
import Dispatch.Format

/-! Payloads as content. Bytes are passed on, text is written in the charset, and any other value
goes through an object format; what the format refuses has no content.
-/

namespace Dispatch

/-- A payload with the way it becomes content. -/
inductive Payload where
  | bytes (b : Bytes)
  | text (t : Text)
  | structured (encoded : Value)
  | unsupported (reason : Option Fault)

/-- Content with its type. -/
structure Content where
  contentType : Text
  value : Value

namespace Payload

variable [Platform]

/-- Decides how a value becomes content. The missing payload is not offered to the format. -/
def ofValue (format : ObjectFormat) : Value → Payload
  | .null => .unsupported none
  | .blob _ b => .bytes b
  | .text t => .text t
  | v =>
      match format.encode v with
      | .ok encoded => .structured encoded
      | .error f => .unsupported (some f)

/-- The content of text in a charset. -/
def textContent (charset : Value) (t : Text) : Except Failure Content :=
  match charset with
  | .text name =>
      match Charset.encode name t with
      | .ok b => .ok ⟨Dispatch.text "text/plain; charset=" ++ name, .blob .fixed b⟩
      | .error e =>
          let f := Fault.charset e
          .error (if f.refusesText then .ofProblem (.textNotEncodable name f) else .fault f)
  | other => .error (.fault (.charsetKind other.typeName))

/-- The content of a value. -/
def content (format : ObjectFormat) (charset : Value) (v : Value) : Except Failure Content :=
  match ofValue format v with
  | .bytes b =>
      if v.isReleased then .error (.fault .released)
      else .ok ⟨Dispatch.text "application/octet-stream", .blob .fixed b⟩
  | .text t => textContent charset t
  | .structured .null => .error (.fault .noContent)
  | .structured encoded => .ok ⟨format.contentType, encoded⟩
  | .unsupported reason =>
      match reason.bind Fault.raisedByMessage? with
      | some raised => .error (.fault raised)
      | none => .error (.ofProblem (.notSerializable format.name v.typeName reason))

end Payload

end Dispatch
