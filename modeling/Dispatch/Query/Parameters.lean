import Dispatch.Failure

/-! Query parameters: texts by name, each name with the list of its values. A payload gives
parameters if it is a map of any kind from texts to texts or to sequences of texts.
-/

namespace Dispatch

/-- Names with their values, in the order of the payload. -/
abbrev Parameters := List (Text × List Text)

namespace Value

/-- The items of a list or a tuple; the parts of a URI are a tuple. -/
def sequence? : Value → Option (List Value)
  | .list items => some items
  | .tuple items => some items
  | .parts p => some (p.toList.map .text)
  | _ => none

/-- The values of one parameter: a text alone, or a sequence of texts. -/
def parameterValues? : Value → Option (List Text)
  | .text t => some [t]
  | v => v.sequence?.bind fun items => items.mapM asText?

end Value

namespace Parameters

variable [Platform]

/-- The written form of a key. -/
def showKey (key : Value) : Except Failure Text :=
  key.shown.mapError fun e => .fault (.shown e)

/-- One entry of a payload as a parameter. -/
def ofEntry (method : Text) (entry : Value × Value) : Except Failure (Text × List Text) := do
  match entry.1.asText? with
  | none => throw (.ofProblem (.keyNotText method (← showKey entry.1)))
  | some name =>
      match entry.2.parameterValues? with
      | some values => return (name, values)
      | none =>
          throw (.ofProblem (.valueNotTexts method name.quoted entry.2.typeName))

/-- The parameters of a payload, for a request with the given method. -/
def ofPayload (payload : Value) (method : Text) : Except Failure Parameters :=
  match payload.entries? with
  | none => .error (.ofProblem (.notMap method payload.typeName))
  | some entries => entries.mapM (ofEntry method)

/-- Parameters as a map of lists. -/
def toEntries (parameters : Parameters) : List (Value × Value) :=
  parameters.map fun (name, values) => (.text name, .list (values.map .text))

end Parameters

end Dispatch
