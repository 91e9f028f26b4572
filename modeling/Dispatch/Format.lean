import Dispatch.Fault

/-! Object formats: named ways to write a structured value as bytes. A format may refuse a value.
What it gives should be bytes, but nothing keeps a format from giving something else.
-/

namespace Dispatch

structure ObjectFormat where
  name : Text
  encode : Value → Except Fault Value

namespace ObjectFormat

variable [Platform]

/-- Pickles of a version of the format, of values with a given sharing. -/
def pickleOf (sharing : Pickle.Sharing) (version : Int) : ObjectFormat where
  name := text "python"
  encode v := match Pickle.dump version ⟨v, sharing⟩ with
    | .ok bytes => .ok (.blob .fixed bytes)
    | .error e => .error (.pickle e)

/-- Pickles of values in which only texts and fixed bytes are shared. -/
def pickle (version : Int) : ObjectFormat :=
  pickleOf .byContent version

/-- The format that is used unless another one is chosen. -/
def standard : ObjectFormat :=
  pickle 4

/-- JSON text. -/
def json : ObjectFormat where
  name := text "json"
  encode v := match Json.render v with
    | .ok t => .ok (.blob .fixed (Utf8.encode t))
    | .error e => .error (.json e)

/-- The content type of what a format writes. -/
def contentType (format : ObjectFormat) : Text :=
  text "application/x-" ++ format.name ++ text "-serialized-object"

end ObjectFormat

end Dispatch
