import Dispatch.Failure
import Dispatch.Text.Blank
import Dispatch.Text.Upper

/-! The method of a message: the text of a header without the blanks around it, in upper case.
-/

namespace Dispatch.Method

variable [Platform]

/-- The header that gives the method. -/
def header : Text := text "http_requestMethod"

/-- The method of a message that gives none. -/
def standard : Text := text "POST"

/-- The methods whose requests have a body. -/
def withBody : List Text := [text "POST", text "PUT"]

def hasBody (method : Text) : Bool :=
  withBody.contains method

/-- The method of a header text. -/
def ofText (t : Text) : Text :=
  let method := Text.upper t.strip
  if method.isEmpty then standard else method

/-- The method of a message. A header value with no plain form is a fault. -/
def ofMessage (m : Message) : Except Fault Text :=
  match m.header? header with
  | none => .ok standard
  | some .null => .ok standard
  | some v => (v.plain.mapError Fault.shown).map ofText

end Dispatch.Method
