import Dispatch.Charset.Decode
import Dispatch.Fields
import Dispatch.Url.Parser

/-! Settings of a mapper: the URL to fall back on, whether the payload alone is mapped, and the
charset. They are read from entries and checked field by field.
-/

namespace Dispatch

structure Settings where
  defaultUrl : Option Text
  extractPayload : Bool
  charset : Text
deriving DecidableEq

namespace Settings

variable [Platform]

def standardCharset : Text := text "UTF-8"

def standard : Settings :=
  { defaultUrl := none, extractPayload := true, charset := standardCharset }

/-- The names of the fields. -/
def fieldNames : List String := ["default_url", "extract_payload", "charset"]

/-- The text of a URL, given as a URL or as a text; a value of another kind gives none. -/
def urlText? : Value → Option Text
  | .url u => some u.render
  | .text t => some t
  | _ => none

/-- Reads the URL to fall back on. A value that cannot be written down ends the reading, unless it
is for the digits of an integer. -/
def readDefaultUrl (v : Value) : Except Fault (Except FieldProblem (Option Text)) :=
  let refused : Value → Except Fault (Except FieldProblem (Option Text)) := fun v =>
    match v.shown with
    | .ok shown =>
        .ok (.error (.refused (text "default_url must be an absolute URL, got " ++ shown)))
    | .error .digits => .ok (.error (.refused Value.ShowError.digits.message))
    | .error e => .error (.shown e)
  match v with
  | .null => .ok (.ok none)
  | v =>
      match urlText? v with
      | none => refused v
      | some t =>
          match Url.isAbsoluteText t with
          | .ok true => .ok (.ok (some t))
          | .ok false => refused (.text t)
          | .error e => .ok (.error (.refused e.message))

/-- Reads a charset. -/
def readCharset (v : Value) : Except FieldProblem Text := do
  let name ← Field.toText v
  if Charset.isSupported name then return name
  else throw (.refused (text "unsupported charset '" ++ name ++ text "'"))

/-- Settings from entries; a field that is not given has its default. -/
def ofEntries (entries : Entries) : Except Failure Settings := do
  let defaultUrl ←
    (match entries.get? (text "default_url") with
    | some v => readDefaultUrl v
    | none => .ok (.ok none)).mapError Failure.fault
  let extractPayload :=
    match entries.get? (text "extract_payload") with
    | some v => Field.toTruth v
    | none => .ok true
  let charset :=
    match entries.get? (text "charset") with
    | some v => readCharset v
    | none => .ok standardCharset
  match defaultUrl, extractPayload, charset, Field.extraErrors fieldNames entries with
  | .ok defaultUrl, .ok extractPayload, .ok charset, [] =>
      return { defaultUrl, extractPayload, charset }
  | _, _, _, extra =>
      throw (.fields (Field.errors (Field.name "default_url") defaultUrl
        ++ Field.errors (Field.name "extract_payload") extractPayload
        ++ Field.errors (Field.name "charset") charset ++ extra))

/-- Settings as entries. -/
def toEntries (s : Settings) : Entries := [
  (.text (text "default_url"), match s.defaultUrl with
    | some t => .text t
    | none => .null),
  (.text (text "extract_payload"), .bool s.extractPayload),
  (.text (text "charset"), .text s.charset)]

/-- Settings in words, as the notes of a mapper show them. -/
def summary (s : Settings) : Text :=
  text "default_url="
    ++ (match s.defaultUrl with
      | some t => t.quoted
      | none => text "None")
    ++ text " extract_payload=" ++ text (if s.extractPayload then "True" else "False")
    ++ text " charset=" ++ s.charset.quoted

end Settings

end Dispatch
