import Dispatch.Fault
import Dispatch.Text.Upper

/-! Levels of notes: a number by name, in any case of letters. An unknown name stands for warnings.
-/

namespace Dispatch.Level

def warning : Nat := 30

def byName : List (Text × Nat) := [
  (text "CRITICAL", 50), (text "FATAL", 50), (text "ERROR", 40), (text "WARNING", warning),
  (text "WARN", warning), (text "INFO", 20), (text "DEBUG", 10), (text "NOTSET", 0)]

/-- The form of a note: its level, its source and its text. -/
def noteForm : Text := text "%(levelname)s %(name)s: %(message)s"

/-- The form of a note unless another one is set. It goes by a name among those of the levels, and
is no level. -/
def standardForm : Text := text "%(levelname)s:%(name)s:%(message)s"

/-- The table of the ways to write a form, each with its class and its standard form. It goes by a
name among those of the levels, too. -/
def formTable : Text :=
  text "\x7b'%': (<class 'logging.PercentStyle'>, '%(levelname)s:%(name)s:%(message)s'), "
    ++ text "'\x7b': (<class 'logging.StrFormatStyle'>, "
    ++ text "'\x7blevelname\x7d:\x7bname\x7d:\x7bmessage\x7d'), "
    ++ text "'$': (<class 'logging.StringTemplateStyle'>, "
    ++ text "'$\x7blevelname\x7d:$\x7bname\x7d:$\x7bmessage\x7d')\x7d"

/-- The level of a name. -/
def ofName (name : Text) : Except Fault Nat :=
  let upper := name.upper
  if upper = text "BASIC_FORMAT" then .error (.level standardForm.quoted)
  else if upper = text "_STYLES" then .error (.levelTable formTable)
  else .ok (((byName.find? (·.1 = upper)).map (·.2)).getD warning)

/-- The level that a value asks for; an empty one asks for warnings. -/
def ofValue (v : Value) : Except Fault Nat := do
  if !(← v.truth) then return warning
  else
    match v with
    | .text name => ofName name
    | .blob .fixed _ => .error (.levelBytes v.typeName)
    | .blob .editable _ => .error (.levelBytes v.typeName)
    | v => .error (.levelKind (Json.orderName v))

end Dispatch.Level
