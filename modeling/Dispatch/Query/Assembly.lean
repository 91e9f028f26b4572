import Dispatch.Query.Component
import Dispatch.Query.Parameters
import Dispatch.Url.Parser

/-! Adding parameters to a URL. They go to the end of the query, before the fragment. A separator is
written before each of them unless the text so far ends in one.
-/

namespace Dispatch

/-- The items that a value gives one by one. -/
def Value.each? : Value → Option (List Value)
  | .text t => some (t.map fun c => .text [c])
  | .blob _ bytes => some (bytes.map fun b => .int b.toNat)
  | .set items => some items
  | .map _ entries => some (entries.map (·.1))
  | .handle (.generator ..) => some []
  | .message payload headers _ =>
      some [.tuple [.text (Dispatch.text "payload"), payload],
        .tuple [.text (Dispatch.text "headers"),
          .map .plain (headers.map fun h => (.text h.1, h.2))]]
  | v => v.sequence?

namespace Query

variable [Platform]

/-- A fault under a parameter: a charset's refusal is a problem of the payload. -/
def parameterFailure (key charset : Value) (f : Fault) : Failure :=
  if f.refusesText then
    match key.shown, charset.plain with
    | .ok name, .ok shown => .ofProblem (.parameterNotEncodable name shown f)
    | .error e, _ => .fault (.shown e)
    | _, .error e => .fault (.shown e)
  else .fault f

/-- A name and a value with the sign between them. -/
def pair (charset key value : Value) : Except Failure Text :=
  ((do
    let name ← component key charset
    let content ← component value charset
    return name ++ text "=" ++ content) : Except Fault Text).mapError (parameterFailure key charset)

/-- The pairs of one entry. -/
def entryPairs (charset : Value) (entry : Value × Value) : Except Failure (List Text) :=
  if entry.2.isReleased then .error (.fault .released)
  else
    match entry.2.each? with
    | none => .error (.fault (.notIterable (Json.orderName entry.2)))
    | some values => values.mapM (pair charset entry.1)

/-- The pairs of all entries, in order. -/
def pairs (charset : Value) (entries : List (Value × Value)) : Except Failure (List Text) :=
  (entries.mapM (entryPairs charset)).map List.flatten

/-- Whether a parameter may follow at once. -/
def isOpen (last : Option CodePoint) : Bool :=
  last = some (CodePoint.ofChar '?') || last = some (CodePoint.ofChar '&')

/-- Pairs after a text with the given last code point, with separators where they are needed. -/
def separated : Option CodePoint → List Text → List Text
  | _, [] => []
  | last, pair :: rest =>
      (if isOpen last then pair else text "&" ++ pair) :: separated pair.getLast? rest

/-- A URL with pairs at the end of its query. -/
def assemble (url : Text) (pairs : List Text) : Text :=
  let (base, fragment) := url.cut '#'
  let start := if base.contains (CodePoint.ofChar '?') then base else base ++ text "?"
  start ++ (separated start.getLast? pairs).flatten
    ++ (match fragment with
      | some f => text "#" ++ f
      | none => [])

/-- Checks that a text with parameters is an absolute URL. -/
def checkAbsolute (url : Text) : Except Failure Unit :=
  match Url.parse url with
  | .ok u => if u.isAbsolute then .ok () else .error (.ofProblem (.relativeQuery url))
  | .error (.surrogate c) => .error (.fault (.url (.surrogate c)))
  | .error e => .error (.ofProblem (.unreadableQuery e))

/-- Adds entries of any kind to a URL. Without entries the URL is not even read. -/
def addEntries (url : Text) (entries : List (Value × Value)) (charset : Value) :
    Except Failure Text :=
  if entries.isEmpty then .ok url
  else do
    let result := assemble url (← pairs charset entries)
    checkAbsolute result
    return result

/-- Adds parameters to a URL. -/
def add (url : Text) (parameters : Parameters) (charset : Text) : Except Failure Text :=
  addEntries url parameters.toEntries (.text charset)

end Query

end Dispatch
