import Dispatch.Number.Binary64
import Dispatch.Text.Utf8
import Dispatch.Url.Basic
import Dispatch.Url.Parts
import Dispatch.Value.Moment

/-! Values of any kind, as payloads, header values and settings hold them. A map keeps its entries
in the order of their first insertion; two keys are one if they are equal as values, so that the
number one, the float one and the truth value true are the same key.
-/

namespace Dispatch

/-- Kinds of byte values: fixed bytes, bytes that can be edited, and views of other bytes at an
address. A view that was released has no bytes any more. -/
inductive BlobKind where
  | fixed
  | editable
  | view (address : Nat := 0) (released : Bool := false)
deriving DecidableEq

/-- An object that is known by the answers of its own methods: its text, its written form, whether
it counts as true, and the text of the error by which it refuses to be pickled. Where a method
raises an error in place of an answer there is the text of that error. -/
structure Object where
  typeName : Text
  className : Text
  plain : Except Text Text
  shown : Except Text Text
  truth : Except Text Bool
  refusal : Except Text Text

/-- Kinds of maps: plain ones, ones whose order counts, ones that can only be read, and objects that
give their entries as a map does. -/
inductive MapKind where
  | plain
  | ordered
  | readOnly
  | own (o : Object)

/-- Whether a map is one that can be written. -/
def MapKind.isWritable : MapKind → Bool
  | .plain => true
  | .ordered => true
  | .readOnly => false
  | .own _ => false

/-- Values that have an identity and nothing else that shows, and other objects. A cycle stands in a
container for another container around it. -/
inductive Handle where
  | lock (address : Nat := 0) (held : Bool := false)
  | generator (name : Text := text "<genexpr>") (address : Nat := 0)
  | object (o : Object)
  | cycle

/-- An object whose only peculiarity is that it refuses to be pickled. -/
def Handle.unreducible : Handle :=
  .object {
    typeName := text "Unreducible"
    className := text "Unreducible"
    plain := .ok (text "<Unreducible object>")
    shown := .ok (text "<Unreducible object>")
    truth := .ok true
    refusal := .ok (text "refusing to pickle") }

/-- Which fields of a message were given explicitly, and which header names were given as bytes. -/
structure Given where
  payload : Bool
  headers : Bool
  byteNames : List Text
deriving DecidableEq

inductive Value where
  | null
  | bool (b : Bool)
  | int (n : Int)
  | float (x : Binary64)
  | text (t : Text)
  | blob (kind : BlobKind) (bytes : Bytes)
  | list (items : List Value)
  | tuple (items : List Value)
  | set (items : List Value)
  | map (kind : MapKind) (entries : List (Value × Value))
  | url (u : Url)
  | parts (p : UriParts)
  | moment (m : Moment)
  | handle (h : Handle)
  | message (payload : Value) (headers : List (Text × Value)) (given : Given)

instance : Inhabited Value := ⟨.null⟩

namespace Value

/-- The name of the type of a value. -/
def typeName : Value → Text
  | .null => Dispatch.text "NoneType"
  | .bool _ => Dispatch.text "bool"
  | .int _ => Dispatch.text "int"
  | .float _ => Dispatch.text "float"
  | .text _ => Dispatch.text "str"
  | .blob .fixed _ => Dispatch.text "bytes"
  | .blob .editable _ => Dispatch.text "bytearray"
  | .blob (.view ..) _ => Dispatch.text "memoryview"
  | .list _ => Dispatch.text "list"
  | .tuple _ => Dispatch.text "tuple"
  | .set _ => Dispatch.text "set"
  | .map .plain _ => Dispatch.text "dict"
  | .map .ordered _ => Dispatch.text "OrderedDict"
  | .map .readOnly _ => Dispatch.text "mappingproxy"
  | .map (.own o) _ => o.typeName
  | .url _ => Dispatch.text "URL"
  | .parts p => Dispatch.text (if p.parameters.isSome then "ParseResult" else "SplitResult")
  | .moment m => Dispatch.text (if m.clock.isSome then "datetime" else "date")
  | .handle (.lock ..) => Dispatch.text "lock"
  | .handle (.generator ..) => Dispatch.text "generator"
  | .handle (.object o) => o.typeName
  | .handle .cycle => Dispatch.text "list"
  | .message .. => Dispatch.text "Message"

/-- Whether a value counts as true, unless it answers for itself: no null, no zero, nothing empty.
-/
def truthy : Value → Bool
  | .null => false
  | .bool b => b
  | .int n => n != 0
  | .float x => !x.isZero
  | .text t => !t.isEmpty
  | .blob _ bytes => !bytes.isEmpty
  | .list items => !items.isEmpty
  | .tuple items => !items.isEmpty
  | .set items => !items.isEmpty
  | .map _ entries => !entries.isEmpty
  | _ => true

/-- Whether a value is a view that was released. -/
def isReleased : Value → Bool
  | .blob (.view _ released) _ => released
  | _ => false

def isNull : Value → Bool
  | .null => true
  | _ => false

def isText : Value → Bool
  | .text _ => true
  | _ => false

def asText? : Value → Option Text
  | .text t => some t
  | _ => none

/-- The entries of a map of any kind. -/
def entries? : Value → Option (List (Value × Value))
  | .map _ entries => some entries
  | _ => none

/-! ### Keys -/

/-- The integer that a number or a truth value is equal to. -/
def asInteger? : Value → Option Int
  | .bool b => some (if b then 1 else 0)
  | .int n => some n
  | .float x => x.toInt?
  | _ => none

/-- The text that a text or a URL is equal to. -/
def asKeyText? : Value → Option Text
  | .text t => some t
  | .url u => some u.render
  | _ => none

/-- Whether byte values of a kind are keys that other ones can be equal to. -/
def isKeyBlob : BlobKind → Bool
  | .fixed => true
  | .editable => false
  | .view _ released => !released

mutual

/-- Whether two values are the same key. -/
def sameKey : Value → Value → Bool
  | .null, .null => true
  | .float x, .float y => x.eqv y
  | .blob a x, .blob b y => isKeyBlob a && isKeyBlob b && x = y
  | .moment x, .moment y => x.same y
  | .tuple xs, .tuple ys => sameKeys xs ys
  | .tuple xs, .parts p => sameTexts xs p.toList
  | .parts p, .tuple ys => sameTexts ys p.toList
  | .parts p, .parts q => p.toList = q.toList
  | x, y =>
      match x.asKeyText?, y.asKeyText? with
      | some s, some t => s = t
      | none, none =>
          match x.asInteger?, y.asInteger? with
          | some m, some n => m = n
          | _, _ => false
      | _, _ => false

def sameKeys : List Value → List Value → Bool
  | [], [] => true
  | x :: xs, y :: ys => sameKey x y && sameKeys xs ys
  | _, _ => false

def sameTexts : List Value → List Text → Bool
  | [], [] => true
  | x :: xs, t :: ts => (x.asKeyText? = some t) && sameTexts xs ts
  | _, _ => false

end

mutual

/-- Whether a value can be a key. -/
def isKey : Value → Bool
  | .tuple items => areKeys items
  | .list _ => false
  | .set _ => false
  | .map _ _ => false
  | .message .. => false
  | .blob .editable _ => false
  | .handle .cycle => false
  | _ => true

def areKeys : List Value → Bool
  | [] => true
  | v :: rest => v.isKey && areKeys rest

end

mutual

/-- The value that keeps another one from being a key; in a message it is the payload or else the
headers. -/
def firstNonKey? : Value → Option Value
  | .tuple items => firstNonKeyOf? items
  | .message payload headers _ =>
      (firstNonKey? payload).orElse fun _ =>
        some (.map .plain (headers.map fun h => (.text h.1, h.2)))
  | v => if v.isKey then none else some v

def firstNonKeyOf? : List Value → Option Value
  | [] => none
  | v :: rest => (firstNonKey? v).orElse fun _ => firstNonKeyOf? rest

end

/-- Whether a map has a key. -/
def hasKey (entries : List (Value × Value)) (key : Value) : Bool :=
  entries.any fun e => sameKey e.1 key

/-- Sets the value of a key. A key that is there keeps its place and its form. -/
def insert (entries : List (Value × Value)) (key value : Value) : List (Value × Value) :=
  if hasKey entries key then
    entries.map fun e => if sameKey e.1 key then (e.1, value) else e
  else entries ++ [(key, value)]

/-- The entries that result from inserting pairs in turn. -/
def ofPairs (pairs : List (Value × Value)) : List (Value × Value) :=
  pairs.foldl (fun entries e => insert entries e.1 e.2) []

/-- The value of a key. -/
def lookup? (entries : List (Value × Value)) (key : Value) : Option Value :=
  (entries.find? fun e => sameKey e.1 key).map (·.2)

end Value

/-- A message: a payload of any kind and headers by name. -/
structure Message where
  payload : Value
  headers : List (Text × Value)
  given : Given

namespace Message

/-- A message as a value. -/
def toValue (m : Message) : Value :=
  .message m.payload m.headers m.given

/-- The value of a header. -/
def header? (m : Message) (name : Text) : Option Value :=
  (m.headers.find? fun h => h.1 = name).map (·.2)

end Message

end Dispatch
