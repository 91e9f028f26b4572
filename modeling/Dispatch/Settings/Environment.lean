import Dispatch.Environment
import Dispatch.Settings.Basic
import Dispatch.Text.Blank
import Dispatch.Text.Lower

/-! Settings from environment variables. A variable that is not set gives the standard setting, and
an empty URL is no URL.
-/

namespace Dispatch.Settings

variable [Platform]

def urlVariable : Text := text "OUTBOUND_HTTP_DEFAULT_URL"

def extractVariable : Text := text "OUTBOUND_HTTP_EXTRACT_PAYLOAD"

def charsetVariable : Text := text "OUTBOUND_HTTP_CHARSET"

/-- The words that switch extraction on; every other one switches it off. -/
def onWords : List Text := ["1", "true", "yes", "on"].map text

/-- The truth value of a variable. -/
def flag (value : Text) : Bool :=
  onWords.contains value.strip.lower

/-- The settings that an environment asks for. -/
def ofEnvironment (env : Environment) : Except Failure Settings := do
  let get := fun name => (env.get? name).mapError Failure.fault
  let defaultUrl := match ← get urlVariable with
    | none => Value.null
    | some [] => Value.null
    | some url => .text url
  let extractPayload := ((← get extractVariable).map flag).getD standard.extractPayload
  let charset := (← get charsetVariable).getD standardCharset
  ofEntries [
    (.text (text "default_url"), defaultUrl),
    (.text (text "extract_payload"), .bool extractPayload),
    (.text (text "charset"), .text charset)]

end Dispatch.Settings
