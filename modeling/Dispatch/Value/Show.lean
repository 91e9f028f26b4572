import Dispatch.Number.Shortest
import Dispatch.Platform
import Dispatch.Value.Basic

/-! How values are written in messages. Texts and bytes are quoted, containers show their items in
order. A value nested too deeply and an integer with too many digits have no written form.
-/

namespace Dispatch

attribute [local instance (1100)] instPowNat

namespace Value

/-- Why a value has no written form. -/
inductive ShowError where
  | digits
  | depth
  /-- An error that an object raises for itself. -/
  | own (reason : Text)
deriving DecidableEq

def ShowError.message : ShowError → Text
  | .digits =>
      Dispatch.text "Exceeds the limit (4300 digits) for integer string conversion; "
        ++ Dispatch.text "use sys.set_int_max_str_digits() to increase the limit"
  | .depth =>
      Dispatch.text "maximum recursion depth exceeded while getting the repr of an object"
  | .own reason => reason

/-- The decimal text of an integer, up to the limit of digits. -/
def showInt (n : Int) : Except ShowError Text :=
  if n.natAbs < 10 ^ Text.maxDigits then .ok (Text.ofInt n) else .error .digits

/-- A name with a written form in parentheses. -/
def called (name : String) (content : Text) : Text :=
  Dispatch.text name ++ Dispatch.text "(" ++ content ++ Dispatch.text ")"

/-- Items with commas between two brackets. -/
def bracketed (opening : String) (items : List Text) (closing : String) : Text :=
  Dispatch.text opening ++ Text.joinWith (Dispatch.text ", ") items ++ Dispatch.text closing

/-- An entry of a map. -/
def entryText (key value : Text) : Text :=
  key ++ Dispatch.text ": " ++ value

/-- The names of the parts of a URI. -/
def partNames (p : UriParts) : List Text :=
  [Dispatch.text "scheme", Dispatch.text "netloc", Dispatch.text "path"]
    ++ (if p.parameters.isSome then [Dispatch.text "params"] else [])
    ++ [Dispatch.text "query", Dispatch.text "fragment"]

def showParts (p : UriParts) : Text :=
  let fields := List.zipWith (fun name part => name ++ Dispatch.text "=" ++ Text.quoted part)
    (partNames p) p.toList
  bracketed (if p.parameters.isSome then "ParseResult(" else "SplitResult(") fields ")"

/-- An object by what it is and where it is. -/
def addressed (name : Text) (address : Nat) : Text :=
  Dispatch.text "<" ++ name ++ Dispatch.text " at 0x" ++ Text.ofHex 1 address ++ Dispatch.text ">"

/-- The written form of what shows no more than its identity. -/
def showHandle : Handle → Except ShowError Text
  | .lock address held =>
      .ok (addressed (Dispatch.text (if held then "locked" else "unlocked")
        ++ Dispatch.text " _thread.lock object") address)
  | .generator name address =>
      .ok (addressed (Dispatch.text "generator object " ++ name) address)
  | .object o => o.shown.mapError .own
  | .cycle => .ok (Dispatch.text "[...]")

/-- Writes a value that is nested at most as deeply as the first argument says. -/
def showWithin : Nat → Value → Except ShowError Text
  | _, .null => .ok (Dispatch.text "None")
  | _, .bool b => .ok (Dispatch.text (if b then "True" else "False"))
  | _, .int n => showInt n
  | _, .float x => .ok (Text.ofBinary64 x)
  | _, .text t => .ok t.quoted
  | _, .blob .fixed bytes => .ok (Bytes.quoted bytes)
  | _, .blob .editable bytes => .ok (called "bytearray" (Bytes.quotedStrictly bytes))
  | _, .blob (.view address released) _ =>
      .ok (addressed (Dispatch.text (if released then "released memory" else "memory")) address)
  | _, .url u => .ok (called "URL" (Text.quoted u.renderMasked))
  | _, .parts p => .ok (showParts p)
  | _, .moment m => .ok m.shown
  | _, .handle h => showHandle h
  | _, .map (.own o) _ => o.shown.mapError .own
  | 0, _ => .error .depth
  | depth + 1, .list items => do
      return bracketed "[" (← items.mapM (showWithin depth)) "]"
  | depth + 1, .tuple items => do
      let shown ← items.mapM (showWithin depth)
      return bracketed "(" shown (if shown.length = 1 then ",)" else ")")
  | depth + 1, .set items => do
      let shown ← items.mapM (showWithin depth)
      return if shown.isEmpty then Dispatch.text "set()" else bracketed "\x7b" shown "\x7d"
  | depth + 1, .map .ordered entries => do
      let shown ← entries.mapM fun e => do
        return bracketed "(" [← showWithin depth e.1, ← showWithin depth e.2] ")"
      return called "OrderedDict" (if shown.isEmpty then [] else bracketed "[" shown "]")
  | depth + 1, .map kind entries => do
      let shown ← entries.mapM fun e => do
        return entryText (← showWithin depth e.1) (← showWithin depth e.2)
      let content := bracketed "\x7b" shown "\x7d"
      return if kind.isWritable then content else called "mappingproxy" content
  | depth + 1, .message payload headers _ => do
      let payload ← showWithin depth payload
      let shown ← headers.mapM fun h => do
        return entryText h.1.quoted (← showWithin depth h.2)
      return called "Message" (Dispatch.text "payload=" ++ payload ++ Dispatch.text ", headers="
        ++ bracketed "\x7b" shown "\x7d")

variable [Platform]

/-- The written form of a value. -/
def shown (v : Value) : Except ShowError Text :=
  showWithin Platform.shownDepth v

@[simp] theorem shown_null : shown .null = .ok (Dispatch.text "None") := by
  rw [shown]
  cases Platform.shownDepth <;> rfl

@[simp] theorem shown_text (t : Text) : shown (.text t) = .ok t.quoted := by
  rw [shown]
  cases Platform.shownDepth <;> rfl

@[simp] theorem shown_url (u : Url)
    : shown (.url u) = .ok (called "URL" (Text.quoted u.renderMasked)) := by
  rw [shown]
  cases Platform.shownDepth <;> rfl

/-- The plain form of a value: a text as it is, a URL in full, a moment in digits, a read-only map
as the map it shows, a message without its name, an object as it says, and any other value in its
written form. -/
def plain : Value → Except ShowError Text
  | .text t => .ok t
  | .url u => .ok u.render
  | .moment m => .ok m.plain
  | .handle (.object o) => o.plain.mapError .own
  | .map (.own o) _ => o.plain.mapError .own
  | .map .readOnly entries => shown (.map .plain entries)
  | .message payload headers _ => do
      let payload ← shown payload
      let headers ← shown (.map .plain (headers.map fun h => (.text h.1, h.2)))
      return Dispatch.text "payload=" ++ payload ++ Dispatch.text " headers=" ++ headers
  | v => shown v

end Value

end Dispatch
