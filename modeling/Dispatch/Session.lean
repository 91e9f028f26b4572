import Dispatch.Mapper

/-! Sessions: calls on one mapper, one after the other. A change of settings puts a new mapper in
the place of the one before as its last act. A call that fails does not undo what it has done
before.
-/

namespace Dispatch

/-- A call on a mapper. -/
inductive Call where
  /-- Mapping asks for a message. -/
  | map (m : Option Message)
  | setDefaultUrl (v : Value)
  | setExtractPayload (v : Value)
  | setCharset (v : Value)
  | update (changes : List (Text × Value))

/-- What a call gives back. -/
inductive Answer where
  | descriptor (d : Descriptor)
  | settings (s : Settings)
  | done

/-- A program on a mapper. What it has put in the place of the mapper stays there if it fails. -/
abbrev Session (α : Type) := ExceptT Failure (StateM Mapper) α

namespace Session

/-- What the mapper gives. -/
def read {α : Type} (f : Mapper → Except Failure α) : Session α := do
  liftExcept (f (← get))

/-- Puts a changed mapper in the place of the mapper. -/
def change (f : Mapper → Except Failure Mapper) : Session Settings := do
  let next ← read f
  set next
  return next.settings

/-- How a program ends on a mapper, and the mapper after it. -/
def outcome {α : Type} (program : Session α) (mapper : Mapper) : Except Failure α × Mapper :=
  (program.run.run mapper).run

end Session

/-- The name by which a change of several settings takes the mapper itself. -/
def receiverName : Text := text "self"

/-- Whether changes give the mapper a second time. -/
def namesReceiver (changes : List (Text × Value)) : Bool :=
  changes.any (·.1 = receiverName)

variable [Platform]

/-- The program of a call. Only a change of several settings gives the new ones back. -/
def Call.program : Call → Session Answer
  | .map none => throw (.fault .noMessage)
  | .map (some m) => Answer.descriptor <$> Session.read (·.map m)
  | .setDefaultUrl v => (fun _ => .done) <$> Session.change (·.setDefaultUrl v)
  | .setExtractPayload v => (fun _ => .done) <$> Session.change (·.setExtractPayload v)
  | .setCharset v => (fun _ => .done) <$> Session.change (·.setCharset v)
  | .update changes =>
      if namesReceiver changes then throw (.fault .receiverName)
      else Answer.settings <$> Session.change (·.update (.ofNamed changes))

namespace Mapper

/-- How a call ends, and the mapper after it. -/
def perform (mapper : Mapper) (call : Call) : Except Failure Answer × Mapper :=
  call.program.outcome mapper

/-- The mapper after calls, however each of them ends. -/
def after (mapper : Mapper) (calls : List Call) : Mapper :=
  calls.foldl (fun mapper call => (mapper.perform call).2) mapper

end Mapper

end Dispatch
