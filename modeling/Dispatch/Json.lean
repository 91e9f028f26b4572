import Dispatch.Number.Shortest
import Dispatch.Value.Basic
import Dispatch.Value.Show

/-! Values as JSON text with sorted keys. The text is ASCII; other code points are escaped by their
two-byte units. Keys are sorted as values, before they are turned into texts.
-/

namespace Dispatch.Json

/-- Why a value has no JSON text. -/
inductive Error where
  | kind (typeName : Text)
  | key (typeName : Text)
  | unordered (left right : Text)
  | digits
  | depth
deriving DecidableEq

def Error.message : Error → Text
  | .kind typeName => text "Object of type " ++ typeName ++ text " is not JSON serializable"
  | .key typeName => text "keys must be str, int, float, bool or None, not " ++ typeName
  | .unordered left right =>
      text "'<' not supported between instances of '" ++ left ++ text "' and '" ++ right ++ text "'"
  | .digits => Value.ShowError.message .digits
  | .depth => text "maximum recursion depth exceeded while encoding a JSON object"

/-! ### Texts and numbers -/

/-- A two-byte unit as an escape. -/
def unitEscape (n : Nat) : Text :=
  text "\\u" ++ Text.ofHex 4 n

/-- A code point between quotes. -/
def escaped (c : CodePoint) : Text :=
  if c.val = 0x22 then text "\\\""
  else if c.val = 0x5c then text "\\\\"
  else if c.val = 0x08 then text "\\b"
  else if c.val = 0x09 then text "\\t"
  else if c.val = 0x0a then text "\\n"
  else if c.val = 0x0c then text "\\f"
  else if c.val = 0x0d then text "\\r"
  else if 0x20 ≤ c.val && c.val < 0x7f then [c]
  else if c.val < 0x10000 then unitEscape c.val
  else
    unitEscape (0xd800 + (c.val - 0x10000) / 0x400)
      ++ unitEscape (0xdc00 + (c.val - 0x10000) % 0x400)

def quoted (t : Text) : Text :=
  text "\"" ++ t.flatMap escaped ++ text "\""

def number (x : Binary64) : Text :=
  match x.form with
  | .notANumber => text "NaN"
  | .infinite negative => text (if negative then "-Infinity" else "Infinity")
  | .finite .. => Text.ofBinary64 x

def integer (n : Int) : Except Error Text :=
  (Value.showInt n).mapError fun _ => .digits

/-! ### Order of keys -/

/-- The name of the type of a value where an order is refused. -/
def orderName : Value → Text
  | .handle (.lock ..) => text "_thread.lock"
  | v => v.typeName

def textLt : Text → Text → Bool
  | _, [] => false
  | [], _ :: _ => true
  | a :: s, b :: t => if a.val = b.val then textLt s t else a.val < b.val

def bytesLt : Bytes → Bytes → Bool
  | _, [] => false
  | [], _ :: _ => true
  | a :: s, b :: t => if a = b then bytesLt s t else a < b

/-- A number or a truth value as an integer or a binary number. -/
def numeric? : Value → Option (Int ⊕ Binary64)
  | .bool b => some (.inl (if b then 1 else 0))
  | .int n => some (.inl n)
  | .float x => some (.inr x)
  | _ => none

/-- The items of a tuple; the parts of a URI are one. -/
def tupleItems? : Value → Option (List Value)
  | .tuple items => some items
  | .parts p => some (p.toList.map .text)
  | _ => none

/-- Whether one key is below another, if they can be compared. Tuples are compared at the first
place where they differ. -/
def keyLt : Nat → Value → Value → Except Error Bool
  | depth, x, y =>
      match numeric? x, numeric? y with
      | some (.inl m), some (.inl n) => .ok (m < n)
      | some (.inl m), some (.inr y) => .ok (Binary64.intLt m y)
      | some (.inr x), some (.inl n) => .ok (Binary64.ltInt x n)
      | some (.inr x), some (.inr y) => .ok (Binary64.lt x y)
      | _, _ =>
          match x, y with
          | .text s, .text t => .ok (textLt s t)
          | .blob .fixed s, .blob .fixed t => .ok (bytesLt s t)
          | _, _ =>
              match depth, tupleItems? x, tupleItems? y with
              | depth + 1, some xs, some ys =>
                  match (xs.zip ys).find? fun (x, y) => !Value.sameKey x y with
                  | some (x, y) => keyLt depth x y
                  | none => .ok (xs.length < ys.length)
              | 0, some _, some _ => .error .depth
              | _, _, _ => .error (.unordered (orderName x) (orderName y))

variable [Platform]

/-- Whether one entry is below another: by key, and by value under equal keys. -/
def entryLt (x y : Value × Value) : Except Error Bool :=
  if Value.sameKey x.1 y.1 then keyLt Platform.jsonDepth x.2 y.2
  else keyLt Platform.jsonDepth x.1 y.1

/-- How far a run at the start of a list goes on, as entries in ascending or descending order. -/
def runTail (descending : Bool) (last : Value × Value) :
    List (Value × Value) → List (Value × Value) →
      Except Error (List (Value × Value) × List (Value × Value))
  | [], run => .ok (run, [])
  | e :: rest, run => do
      if (← entryLt e last) = descending then runTail descending e rest (e :: run)
      else return (run, e :: rest)

/-- Cuts the longest run off a list and puts it in ascending order. The result holds the run, latest
first, and the rest. -/
def firstRun : List (Value × Value) →
    Except Error (List (Value × Value) × List (Value × Value))
  | [] => .ok ([], [])
  | [e] => .ok ([e], [])
  | a :: b :: rest => do
      let descending ← entryLt b a
      let (run, rest) ← runTail descending b rest [b, a]
      return (if descending then run.reverse else run, rest)

/-- The place where an entry belongs among sorted ones, found by halving. The fuel bounds the
halvings. -/
def findPlace (sorted : Array (Value × Value)) (e : Value × Value) :
    Nat → Nat → Nat → Except Error Nat
  | 0, low, _ => .ok low
  | fuel + 1, low, high =>
      if high ≤ low then .ok low
      else do
        let middle := low + (high - low) / 2
        match sorted[middle]? with
        | none => return low
        | some m =>
            if ← entryLt e m then findPlace sorted e fuel low middle
            else findPlace sorted e fuel (middle + 1) high

/-- Sorts entries by their keys: the first run is kept, each later entry put in its place. -/
def sortEntries (entries : List (Value × Value)) : Except Error (List (Value × Value)) := do
  let (run, rest) ← firstRun entries
  let sorted ← rest.foldlM
    (fun (sorted : Array (Value × Value)) e => do
      let place ← findPlace sorted e (sorted.size + 1) 0 sorted.size
      return sorted.insertIdxIfInBounds place e)
    run.reverse.toArray
  return sorted.toList

/-! ### Values -/

/-- The text of a key. -/
def keyText : Value → Except Error Text
  | .text t => .ok t
  | .float x => .ok (number x)
  | .bool b => .ok (text (if b then "true" else "false"))
  | .null => .ok (text "null")
  | .int n => integer n
  | v => .error (.key v.typeName)

def bracketed (opening : String) (items : List Text) (closing : String) : Text :=
  text opening ++ Text.joinWith (text ", ") items ++ text closing

/-- Writes a value that is nested at most as deeply as the first argument says. -/
def write : Nat → Value → Except Error Text
  | _, .null => .ok (text "null")
  | _, .bool b => .ok (text (if b then "true" else "false"))
  | _, .int n => integer n
  | _, .float x => .ok (number x)
  | _, .text t => .ok (quoted t)
  | 0, _ => .error .depth
  | depth + 1, .list items => do
      return bracketed "[" (← items.mapM (write depth)) "]"
  | depth + 1, .tuple items => do
      return bracketed "[" (← items.mapM (write depth)) "]"
  | depth + 1, .parts p => do
      return bracketed "[" (← (p.toList.map Value.text).mapM (write depth)) "]"
  | _ + 1, .map .readOnly entries => .error (.kind (Value.map .readOnly entries).typeName)
  | _ + 1, .map (.own o) _ => .error (.kind o.typeName)
  | depth + 1, .map _ entries => do
      let sorted ← sortEntries entries
      let shown ← sorted.mapM fun e => do
        let key ← keyText e.1
        return quoted key ++ text ": " ++ (← write depth e.2)
      return bracketed "\x7b" shown "\x7d"
  | _ + 1, v => .error (.kind v.typeName)

/-- The JSON text of a value. -/
def render (v : Value) : Except Error Text :=
  write Platform.jsonDepth v

end Dispatch.Json
