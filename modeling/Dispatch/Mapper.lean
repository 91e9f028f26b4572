import Dispatch.Descriptor
import Dispatch.Method
import Dispatch.Payload
import Dispatch.Query.Assembly
import Dispatch.Settings.Basic
import Dispatch.Target

/-! Mappers: a message becomes the descriptor of one request under the settings of the mapper. The
payload goes into the body or, as parameters, into the query; with extraction off the whole message
goes into the body. A change of settings is checked as a whole before it takes effect.
-/

namespace Dispatch

/-- A mapper. The revision counts the changes of its settings. -/
structure Mapper where
  settings : Settings
  format : ObjectFormat
  revision : Nat

namespace Mapper

variable [Platform]

/-! ### Settings -/

/-- Checks that a value is the name of a charset that may be configured. -/
def checkCharset (v : Value) : Except Failure Unit :=
  let refused : Except Failure Unit :=
    match v.plain with
    | .ok shown => .error (.ofProblem (.unknownCharset shown))
    | .error e => .error (.fault (.shown e))
  match v with
  | .text name => if Charset.isSupported name then .ok () else refused
  | _ => refused

/-- Checks that a value is an absolute URL, or null. -/
def checkDefaultUrl (v : Value) : Except Failure Unit :=
  let refused : Except Failure Unit :=
    match v.shown with
    | .ok shown => .error (.ofProblem (.relativeDefault shown))
    | .error e => .error (.fault (.shown e))
  match v with
  | .null => .ok ()
  | v =>
      match Settings.urlText? v with
      | none => refused
      | some t =>
          match Url.isAbsoluteText t with
          | .ok true => .ok ()
          | .ok false => refused
          | .error e => .error (.fault (.url e))

/-- A mapper with the given settings. -/
def create (defaultUrl extractPayload charset : Value) (format : ObjectFormat) :
    Except Failure Mapper := do
  checkCharset charset
  checkDefaultUrl defaultUrl
  let settings ← Settings.ofEntries [
    (.text (text "default_url"), defaultUrl),
    (.text (text "extract_payload"), extractPayload),
    (.text (text "charset"), charset)]
  return { settings, format, revision := 0 }

/-- A mapper with settings that are checked already. -/
def ofSettings (s : Settings) (format : ObjectFormat) : Except Failure Mapper :=
  let defaultUrl := match s.defaultUrl with
    | some t => Value.text t
    | none => .null
  create defaultUrl (.bool s.extractPayload) (.text s.charset) format

/-- A new mapper with the settings of another one. It holds settings of its own, which counts as a
change. -/
def rebuild (mapper : Mapper) : Except Failure Mapper := do
  return { ← ofSettings mapper.settings .standard with revision := mapper.revision + 1 }

/-- Checks the value of a name among changes, if it is there. -/
def checkChange (changes : Entries) (name : String) (check : Value → Except Failure Unit) :
    Except Failure Unit :=
  match changes.get? (text name) with
  | some v => check v
  | none => .ok ()

/-- Entries with changes made to them. -/
def merge (entries changes : Entries) : Entries :=
  changes.foldl (fun entries e => Value.insert entries e.1 e.2) entries

/-- Changes several settings at once. -/
def update (mapper : Mapper) (changes : Entries) : Except Failure Mapper := do
  checkChange changes "charset" checkCharset
  checkChange changes "default_url" checkDefaultUrl
  match Settings.ofEntries (merge mapper.settings.toEntries changes) with
  | .ok settings => return { mapper with settings, revision := mapper.revision + 1 }
  | .error (.fields errors) => throw (.ofProblem (.settings errors))
  | .error e => throw e

def setDefaultUrl (mapper : Mapper) (v : Value) : Except Failure Mapper := do
  checkDefaultUrl v
  mapper.update [(.text (text "default_url"), v)]

/-- Any value may be given that counts as true or false. -/
def setExtractPayload (mapper : Mapper) (v : Value) : Except Failure Mapper := do
  let on ← v.truth.mapError .fault
  mapper.update [(.text (text "extract_payload"), .bool on)]

def setCharset (mapper : Mapper) (v : Value) : Except Failure Mapper := do
  checkCharset v
  mapper.update [(.text (text "charset"), v)]

/-! ### Mapping -/

/-- A descriptor from its parts. -/
def describe (target method : Text) (content : Option Content) : Except Failure Descriptor :=
  let entries : Entries := [(.text (text "target_url"), .text target),
    (.text (text "method"), .text method)]
  let entries := match content with
    | some c => entries ++ [(.text (text "content_type"), .text c.contentType),
        (.text (text "body"), c.value)]
    | none => entries
  (Descriptor.ofEntries entries).mapError .fields

/-- Puts a value into the body. -/
def mapBody (mapper : Mapper) (v : Value) (target method : Text) : Except Failure Descriptor := do
  let content ← Payload.content mapper.format (.text mapper.settings.charset) v
  describe target method (some content)

/-- Puts the payload into the query. -/
def mapQuery (mapper : Mapper) (m : Message) (target method : Text) :
    Except Failure Descriptor := do
  let parameters ← Parameters.ofPayload m.payload method
  let target ← Query.add target parameters mapper.settings.charset
  describe target method none

/-- The ways of a message into a request, or what bars the way. -/
inductive Route where
  | body
  | query
  | envelope
  | barred (p : Problem)

/-- The way of a message with the given method. -/
def route (mapper : Mapper) (m : Message) (method : Text) : Route :=
  match mapper.settings.extractPayload, Method.hasBody method, m.payload with
  | true, true, .null => .barred (.noPayload method)
  | true, true, _ => .body
  | true, false, _ => .query
  | false, true, _ => .envelope
  | false, false, _ => .barred (.methodWithoutBody method)

/-- The descriptor of a message whose target and method are known. -/
def assemble (mapper : Mapper) (m : Message) (target method : Text) :
    Except Failure Descriptor :=
  match mapper.route m method with
  | .body => mapper.mapBody m.payload target method
  | .query => mapper.mapQuery m target method
  | .envelope => mapper.mapBody m.toValue target method
  | .barred p => .error (.ofProblem p)

/-- Maps a message to the descriptor of its request. -/
def map (mapper : Mapper) (m : Message) : Except Failure Descriptor := do
  let target ← Target.resolve m mapper.settings.defaultUrl
  let method ← (Method.ofMessage m).mapError .fault
  (mapper.assemble m target method).mapError (.withMessage m)

/-! ### Notes -/

/-- What the notes say of the way of a message. -/
def routeNote (m : Message) (method : Text) : Route → List Text
  | .body => [text "Body path: serializing " ++ m.payload.typeName ++ text " payload"]
  | .query => [text "Query path: encoding payload as query parameters for " ++ method]
  | .envelope => [text "Envelope path: serializing whole message for " ++ method]
  | .barred _ => []

/-- What the notes say of a finished descriptor. -/
def descriptorNote (d : Descriptor) : Text :=
  text "Mapped message to " ++ d.method ++ text " " ++ d.target ++ text " (content_type="
    ++ d.contentType.getD (text "None") ++ text ", content_length=" ++ Text.ofNat d.contentLength
    ++ text ")"

/-- The notes that mapping a message leaves, as far as the mapping gets. -/
def notes (mapper : Mapper) (m : Message) : List Text :=
  match Target.resolve m mapper.settings.defaultUrl with
  | .error _ => []
  | .ok target =>
      Target.note m target ::
        match Method.ofMessage m with
        | .error _ => []
        | .ok method =>
            routeNote m method (mapper.route m method)
              ++ (match mapper.map m with
                | .ok d => [descriptorNote d]
                | .error _ => [])

/-- The note that a change of settings leaves. -/
def settingsNote (s : Settings) : Text :=
  text "Mapper configuration updated: " ++ s.summary

end Mapper

end Dispatch
