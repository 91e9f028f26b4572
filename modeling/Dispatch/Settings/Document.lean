import Dispatch.Settings.Basic
import Dispatch.Template
import Dispatch.Yaml.Document

/-! Settings from a document. They are the section `mapper` if the document has it, and else the
whole document. Variables are filled in before the settings are checked.
-/

namespace Dispatch.Settings

variable [Platform]

/-- The key of the section. -/
def sectionKey : Value := .text (text "mapper")

def documentFailure : Yaml.Error → Failure
  | .grammar => .ofProblem .documentGrammar
  | .depth => .fault .depth
  | .scalar e => .fault (.scalar e)

/-- The entries of a map, or a problem. An empty document or section has none. -/
def entriesOf (v : Value) (isNothing : Value → Bool) (otherwise : Problem) :
    Except Failure Entries :=
  if isNothing v then .ok []
  else
    match v with
    | .map _ entries => .ok entries
    | _ => .error (.ofProblem otherwise)

/-- The part of a document that holds the settings. -/
def selected (document : Value) : Except Failure Entries := do
  let entries ← entriesOf document Value.isNull .documentNotMap
  match Value.lookup? entries sectionKey with
  | some v => entriesOf v (!·.truthy) .sectionNotMap
  | none => return entries

/-- Settings from the value of a document. -/
def ofDocumentValue (env : Environment) (document : Value) : Except Failure Settings := do
  let filled ← Template.fillValue env (.map .plain (← selected document))
  match ofEntries (filled.entries?.getD []) with
  | .ok settings => return settings
  | .error (.fields errors) => throw (.ofProblem (.documentFields errors))
  | .error e => throw e

/-- Settings from the document at a path; there may be none. -/
def ofDocument (env : Environment) (path : Text) (content : Option Text) :
    Except Failure Settings := do
  match content with
  | none => throw (.ofProblem (.noDocument path))
  | some content => ofDocumentValue env (← (Yaml.read content).mapError documentFailure)

end Dispatch.Settings
