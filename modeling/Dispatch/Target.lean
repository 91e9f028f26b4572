import Dispatch.Failure
import Dispatch.Url.Parser

/-! The target of a message. A header gives it as a URL, as a URI taken apart or as a text; without
the header the URL of the settings is used. A target is an absolute URL.
-/

namespace Dispatch

/-- The header that gives the target. -/
def targetHeader : Text := text "http_requestUrl"

/-- The shapes in which a header gives a target. -/
inductive Target where
  | url (u : Url)
  | parts (p : UriParts)
  | text (t : Text)

namespace Target

/-- The name of a shape. -/
def shape : Target → Text
  | .url _ => Dispatch.text "url"
  | .parts _ => Dispatch.text "uri"
  | .text _ => Dispatch.text "string"

def toValue : Target → Value
  | .url u => .url u
  | .parts p => .parts p
  | .text t => .text t

/-- The target that a header value gives. -/
def ofValue : Value → Except Problem Target
  | .url u => .ok (.url u)
  | .parts p => .ok (.parts p)
  | .text t => .ok (.text t)
  | v => .error (.headerKind v)

/-- Checks that a text is an absolute URL; the text itself is kept. -/
def checkText (t : Text) : Except Failure Text :=
  match Url.parse t with
  | .ok u => if u.isAbsolute then .ok t else .error (.ofProblem (.relativeTarget t))
  | .error (.surrogate c) => .error (.fault (.url (.surrogate c)))
  | .error e => .error (.ofProblem (.unreadableTarget t e))

/-- The text of a target. -/
def toText : Target → Except Failure Text
  | .url u =>
      if u.isAbsolute then .ok u.render else .error (.ofProblem (.relativeTarget u.render))
  | .parts p => checkText p.join
  | .text t => checkText t

/-- The header that gives the target of a message, unless it is missing or null. -/
def header? (m : Message) : Option Value :=
  match m.header? targetHeader with
  | some .null => none
  | found => found

/-- The text of the target that a header gives, if one does. -/
def ofHeader (m : Message) : Except Failure (Option Text) :=
  match header? m with
  | none => .ok none
  | some v =>
      match ofValue v with
      | .ok target => (target.toText.map some).mapError (.withMessage m)
      | .error p => .error (.mapping ⟨p, some m⟩)

/-- The target of a message, or the fallback as it is. -/
def resolveOr {α : Type} (ofText : Text → α) (m : Message) (fallback : Option α) :
    Except Failure α := do
  match ← ofHeader m, fallback with
  | some t, _ => return ofText t
  | none, some v => return v
  | none, none => throw (.mapping ⟨.noTarget, some m⟩)

/-- The text of the target of a message. -/
def resolve (m : Message) (fallback : Option Text) : Except Failure Text :=
  resolveOr id m fallback

/-- What the notes say of a target that was found. -/
def note (m : Message) (target : Text) : Text :=
  match header? m with
  | none =>
      Dispatch.text "No " ++ targetHeader ++ Dispatch.text " header, using default URL " ++ target
  | some v =>
      let shape := match ofValue v with
        | .ok found => found.shape
        | .error _ => []
      Dispatch.text "Resolved target URL " ++ target ++ Dispatch.text " from " ++ shape
        ++ Dispatch.text " header"

end Target

end Dispatch
