import Dispatch.Yaml.Content
import Dispatch.Yaml.Grammar
import Dispatch.Yaml.Layout

/-! Documents as values.
-/

namespace Dispatch.Yaml

/-- Writes every line end of a file as a line feed. -/
def normalBreaks : Text → Text → Text
  | [], done => done.reverse
  | c :: rest, done =>
      if c = CodePoint.ofChar '\r' then
        if rest.head? = some (CodePoint.ofChar '\n') then normalBreaks rest done
        else normalBreaks rest (CodePoint.ofChar '\n' :: done)
      else normalBreaks rest (c :: done)

/-- The value of a document; an empty one is null. -/
def read [Platform] (content : Text) : Except Error Value := do
  let t := normalBreaks content []
  if !t.all isAllowed then throw .grammar
  match ← Node.ofTokens (Token.ofText t) with
  | none => return .null
  | some n => do
      let _ ← n.shallow
      n.toValue

end Dispatch.Yaml
