import Dispatch.Failure

/-! Reading records from entries. A field takes values of some other kinds that stand for its own:
text also as bytes in UTF-8, bytes also as text, a truth value also as a word or number. Every field
that does not fit is reported.
-/

namespace Dispatch

variable [Platform]

/-- Entries by key; the keys should be texts. -/
abbrev Entries := List (Value × Value)

namespace Entries

/-- The entry of a name. -/
def get? (entries : Entries) (name : Text) : Option Value :=
  (entries.find? fun e => e.1.asText? = some name).map (·.2)

/-- Named values, in which a repeated name keeps its place and takes the later value. -/
def ofNamed (named : List (Text × Value)) : Entries :=
  Value.ofPairs (named.map fun (name, v) => (.text name, v))

end Entries

namespace Field

def name (s : String) : FieldStep :=
  .name (text s)

/-- A key as a step on the way to a field. -/
def keyStep (key : Value) : FieldStep :=
  match key with
  | .text t => .name t
  | .bool b => .index (if b then 1 else 0)
  | v =>
      let shown := FieldStep.name (v.shown.toOption.getD [])
      match v with
      | .int n => if -0x8000000000000000 ≤ n && n < 0x8000000000000000 then .index n else shown
      | _ => shown

/-- A text, or bytes that are one. -/
def toText : Value → Except FieldProblem Text
  | .text t => .ok t
  | .blob (.view ..) _ => .error .text
  | .blob _ bytes =>
      match Utf8.decode? bytes with
      | some t => .ok t
      | none => .error .textBytes
  | _ => .error .text

/-- Bytes, or a text as its bytes. -/
def toBytes : Value → Except FieldProblem Bytes
  | .blob (.view ..) _ => .error .bytes
  | .blob _ bytes => .ok bytes
  | .text t => if t.any CodePoint.isSurrogate then .error .textBytes else .ok (Utf8.encode t)
  | _ => .error .bytes

def trueWords : List Text := ["1", "on", "t", "true", "y", "yes"].map text

def falseWords : List Text := ["0", "off", "f", "false", "n", "no"].map text

/-- The truth value of a word, in any case of letters. -/
def wordTruth (word : Text) : Except FieldProblem Bool :=
  if trueWords.contains word.lowerAscii then .ok true
  else if falseWords.contains word.lowerAscii then .ok false
  else .error .truthWord

/-- The truth value of an integer; numbers beyond 64 bits are not even tried. -/
def integerTruth (n : Int) : Except FieldProblem Bool :=
  if n = 1 then .ok true
  else if n = 0 then .ok false
  else if -0x8000000000000000 ≤ n && n < 0x8000000000000000 then .error .truthWord
  else .error .truth

/-- A truth value, or what stands for one. -/
def toTruth : Value → Except FieldProblem Bool
  | .bool b => .ok b
  | .text t => if t.any CodePoint.isSurrogate then .error .textBytes else wordTruth t
  | .blob .fixed bytes =>
      match Utf8.decode? bytes with
      | some t => wordTruth t
      | none => .error .truthWord
  | .int n => integerTruth n
  | .float x =>
      match x.toInt? with
      | some n => integerTruth n
      | none => .error .truth
  | _ => .error .truth

/-- The error of a field, if there is one. -/
def errors {α : Type} (field : FieldStep) (result : Except FieldProblem α) : List FieldError :=
  match result with
  | .ok _ => []
  | .error p => [⟨p, [field]⟩]

/-- The errors of entries that are none of the known fields: their keys are no texts or no names of
fields. -/
def extraErrors (known : List String) (entries : Entries) : List FieldError :=
  entries.filterMap fun e =>
    match e.1 with
    | .text t =>
        if (known.map text).contains t then none else some ⟨.extra, [.name t]⟩
    | key => some ⟨.key, [keyStep key]⟩

end Field

/-! ### Messages -/

namespace Message

/-- Adds a header under a name that is a text or stands for one. -/
def addHeader (read : List (Text × Value) × List FieldError) (e : Value × Value) :
    List (Text × Value) × List FieldError :=
  match Field.toText e.1 with
  | .ok name =>
      let (headers, errors) := read
      if headers.any (·.1 = name) then
        (headers.map fun h => if h.1 = name then (name, e.2) else h, errors)
      else ((name, e.2) :: headers, errors)
  | .error p =>
      (read.1, ⟨p, [Field.name "headers", Field.keyStep e.1, Field.name "[key]"]⟩ :: read.2)

/-- Reads headers from a map. -/
def readHeaders (v : Value) : Except (List FieldError) (List (Text × Value)) :=
  match v.entries? with
  | none => .error [⟨.map, [Field.name "headers"]⟩]
  | some entries =>
      let (headers, errors) := entries.foldl addHeader ([], [])
      if errors.isEmpty then .ok headers.reverse else .error errors.reverse

/-- The header names that were first given as bytes. -/
def byteNames (entries : Entries) : List Text :=
  let named := entries.filterMap fun e => (Field.toText e.1).toOption.map fun t => (t, e.1.isText)
  (named.filter fun (t, isText) => !isText && (named.find? (·.1 = t)).any (!·.2)).map (·.1)

/-- A message with the given fields; a field that is not given has its default. -/
def make (payload headers : Option Value) : Except (List FieldError) Message := do
  let read ←
    match headers with
    | some v => readHeaders v
    | none => pure []
  let entries := (headers.bind Value.entries?).getD []
  return {
    payload := payload.getD .null, headers := read
    given := ⟨payload.isSome, headers.isSome, byteNames entries⟩ }

end Message

end Dispatch
