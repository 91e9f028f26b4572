import Dispatch.Environment
import Dispatch.Failure
import Dispatch.Platform

/-! Templates: texts in which `$` and a name in braces stand for the value of a variable. A name is
not empty and runs up to the first closing brace; a dollar sign that starts no such placeholder
stands for itself. Values that are filled in are not read again.
-/

namespace Dispatch

/-- A piece of a template: a code point that stands for itself, or a variable. -/
inductive Piece where
  | literal (c : CodePoint)
  | variable (name : Text)
deriving DecidableEq

namespace Template

/-- The name between braces at the start of a text, and what follows. -/
def bracedName? (t : Text) : Option (Text × Text) :=
  let name : Text := t.takeWhile fun c => c != CodePoint.ofChar '\x7d'
  match t.drop name.length with
  | [] => none
  | _ :: rest => if name.isEmpty then none else some (name, rest)

/-- The placeholder at the start of a text: its name, and what follows. -/
def placeholder? : Text → Option (Text × Text)
  | dollar :: brace :: t =>
      if dollar = CodePoint.ofChar '$' && brace = CodePoint.ofChar '\x7b' then bracedName? t
      else none
  | _ => none

theorem bracedName?_length {t name rest : Text} (h : bracedName? t = some (name, rest))
    : rest.length < t.length := by
  unfold bracedName? at h
  simp only at h
  split at h
  · simp at h
  · rename_i c tail found
    split at h
    · simp at h
    · obtain ⟨-, rfl⟩ := Prod.mk.inj (Option.some.inj h)
      have := congrArg List.length found
      simp at this
      omega

/-- What follows a placeholder is shorter than the text. -/
theorem placeholder?_length {t name rest : Text} (h : placeholder? t = some (name, rest))
    : rest.length < t.length := by
  match t, h with
  | dollar :: brace :: tail, h =>
      simp only [placeholder?] at h
      split at h
      · have := bracedName?_length h
        simp
        omega
      · simp at h

/-- Reads the pieces of a text behind those that are read already, last first. -/
def readPieces (t : Text) (done : List Piece) : List Piece :=
  match _found : placeholder? t with
  | some (name, rest) => readPieces rest (.variable name :: done)
  | none =>
      match t with
      | [] => done.reverse
      | c :: rest => readPieces rest (.literal c :: done)
termination_by t.length
decreasing_by
  · exact placeholder?_length _found
  · simp

/-- The pieces of a text. -/
def pieces (t : Text) : List Piece :=
  readPieces t []

/-- The text that a piece stands for. -/
def fillPiece (env : Environment) : Piece → Except Failure Text
  | .literal c => .ok [c]
  | .variable name =>
      match env.get? name with
      | .ok (some value) => .ok value
      | .ok none => .error (.ofProblem (.unsetVariable name))
      | .error f => .error (.fault f)

/-- Fills in the variables of a text. -/
def fill (env : Environment) (t : Text) : Except Failure Text :=
  ((pieces t).mapM (fillPiece env)).map List.flatten

/-- Fills in the variables of all texts in lists and maps. Keys and other values are kept; a map
that can only be read is one of those. -/
def fillWithin (env : Environment) : Nat → Value → Except Failure Value
  | _, .text t => (fill env t).map Value.text
  | _, .handle .cycle => .error (.fault .depth)
  | _, v@(.map .readOnly _) => .ok v
  | _, v@(.map (.own _) _) => .ok v
  | 0, .list _ => .error (.fault .depth)
  | 0, .map _ _ => .error (.fault .depth)
  | depth + 1, .list items => (items.mapM (fillWithin env depth)).map Value.list
  | depth + 1, .map _ entries =>
      (entries.mapM fun (e : Value × Value) => do
        return (e.1, ← fillWithin env depth e.2)).map (Value.map .plain)
  | _, v => .ok v

/-- Fills in the variables of a value. -/
def fillValue [Platform] (env : Environment) (v : Value) : Except Failure Value :=
  fillWithin env Platform.filledDepth v

end Template

end Dispatch
