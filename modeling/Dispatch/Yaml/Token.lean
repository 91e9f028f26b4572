import Dispatch.Yaml.Error

/-! The tokens of a document. Blocks that the document marks by indentation alone have tokens for
their start and end. A failure stands where the text cannot be read on.
-/

namespace Dispatch.Yaml

/-- The directives at the start of a document. Those with an unknown name mean nothing. -/
inductive Directive where
  | version (major : Nat)
  | tagHandle (handle start : Text)
  | other
deriving DecidableEq

inductive Token where
  | directive (d : Directive)
  | documentStart
  | documentEnd
  | sequenceStart
  | mapStart
  | blockEnd
  | flowSequenceStart
  | flowSequenceEnd
  | flowMapStart
  | flowMapEnd
  | entry
  | flowEntry
  | key
  | value
  | alias (name : Text)
  | anchor (name : Text)
  /-- A tag: a suffix with a handle before it, or in full. -/
  | tag (handle : Option Text) (suffix : Text)
  /-- A scalar; a plain one is written without quotes. -/
  | scalar (content : Text) (plain : Bool)
  | streamEnd
  | failure (e : Error)
deriving DecidableEq

end Dispatch.Yaml
