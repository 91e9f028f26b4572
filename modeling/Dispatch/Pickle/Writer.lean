import Dispatch.Pickle.Frame
import Dispatch.Pickle.Sharing
import Dispatch.Value.Show

/-! Pickles: values as programs of the pickle machine. An object that occurs again is fetched from
the memo. Long containers are filled in batches.
-/

namespace Dispatch.Pickle

attribute [local instance (1100)] instPowNat

/-- Why a value has no pickle. -/
inductive Error where
  | version
  | depth
  | kind (typeName : Text)
  /-- A value gives a reason of its own. -/
  | refused (reason : Text)
  /-- A value gives a reason whose text raises an error itself. -/
  | mute (raised : Text)
  /-- An integer has too many digits for a line. -/
  | digits
  /-- An integer has too many bytes. -/
  | integer
  /-- Content has a length that versions before 4 have no room for. -/
  | content (noun : Text)
  /-- There are too many memo entries. -/
  | index (instruction : Text)
  /-- There is no room for the pickle. -/
  | memory
  /-- The class of a value cannot be found by its name. -/
  | hidden (typeName module name : Text)
deriving DecidableEq

def Error.message : Error → Text
  | .version => text "pickle protocol must be <= 5"
  | .depth => text "maximum recursion depth exceeded while pickling an object"
  | .kind typeName => text "cannot pickle '" ++ typeName ++ text "' object"
  | .refused reason => reason
  | .mute _ => []
  | .digits => Value.ShowError.digits.message
  | .integer => text "int too large to pickle"
  | .content noun =>
      text "serializing a " ++ noun
        ++ text " larger than 4 GiB requires pickle protocol 4 or higher"
  | .index instruction => text "memo id too large for " ++ instruction
  | .memory => []
  | .hidden typeName module name =>
      text "Can't pickle <class '" ++ typeName ++ text "'>: attribute lookup " ++ name
        ++ text " on " ++ module ++ text " failed"

/-- The reason that a value gives. -/
def Error.ofRefusal : Except Text Text → Error
  | .ok reason => .refused reason
  | .error raised => .mute raised

/-- Why an instruction cannot be written under a version of the format. -/
def Opcode.refusal? (version : Nat) : Opcode → Option Error
  | .int n =>
      if version < 2 then (if 10 ^ Text.maxDigits ≤ n.natAbs then some .digits else none)
      else if 0x7fffffff < (n.natAbs.log2 + 1) / 8 + 1 then some .integer
      else none
  | .text t =>
      if 1 ≤ version && version < 4 && 0x100000000 ≤ (Utf8.encode t).length then
        some (.content (Dispatch.text "string"))
      else none
  | .bytes b =>
      if version < 4 && 0x100000000 ≤ b.length then some (.content (Dispatch.text "bytes object"))
      else none
  | .put index =>
      if 1 ≤ version && 0x100000000 ≤ index then some (.index (Dispatch.text "LONG_BINPUT"))
      else none
  | .get index =>
      if 1 ≤ version && 0x100000000 ≤ index then some (.index (Dispatch.text "LONG_BINGET"))
      else none
  | _ => none

/-- What can be fetched from the memo. -/
inductive MemoKey where
  | text (t : Text)
  /-- A header name that was given as bytes. -/
  | byteName (t : Text)
  | bytes (b : Bytes)
  /-- What there is one of, by its module and name. -/
  | global (module name : Text)
  | object (number : Nat)
deriving DecidableEq

/-- The key of an object: its number, or another one if it has none. -/
def MemoKey.ofObject (object : Option Nat) (other : MemoKey) : MemoKey :=
  (object.map .object).getD other

/-- A pickle that is being written: its steps, latest first, the count of memo entries, and the
numbers of those that can be fetched. -/
structure Draft where
  version : Nat
  steps : List Step
  count : Nat
  memo : List (MemoKey × Nat)

namespace Draft

def code (d : Draft) (o : Opcode) : Draft :=
  { d with steps := .code o :: d.steps }

/-- Why the first instruction that cannot be written is refused. -/
def refusal? (d : Draft) : Option Error :=
  d.steps.reverse.findSome? fun
    | .code o => o.refusal? d.version
    | .object => none

/-- Ends the writing. An instruction that was refused before comes first. -/
def fail (d : Draft) (e : Error) : Except Error Draft :=
  .error (d.refusal?.getD e)

/-- Notes that an object starts. -/
def object (d : Draft) : Draft :=
  { d with steps := .object :: d.steps }

/-- Stores the top of the stack in the memo. -/
def store (d : Draft) : Draft :=
  { (d.code (if 4 ≤ d.version then .memoize else .put d.count)) with count := d.count + 1 }

/-- Stores the top of the stack so that it can be fetched. -/
def storeAs (d : Draft) (key : MemoKey) : Draft :=
  { d.store with memo := (key, d.count) :: d.memo }

/-- The number of a memo entry. -/
def index? (d : Draft) (key : MemoKey) : Option Nat :=
  (d.memo.find? (·.1 = key)).map (·.2)

/-- Fetches an entry of the memo, or writes it and stores it. -/
def fetchOr (d : Draft) (key : MemoKey) (write : Draft → Draft) : Draft :=
  match d.index? key with
  | some index => d.code (.get index)
  | none => (write d).storeAs key

/-- Lets an object be fetched under its number from now on. -/
def note (d : Draft) (object : Option Nat) (index : Nat) : Draft :=
  { d with memo := (object.map fun n => (.object n, index)).toList ++ d.memo }

/-- The same for the object that was stored last. -/
def noteLast (d : Draft) (object : Option Nat) : Draft :=
  d.note object (d.count - 1)

/-- Completes the object that was stored last. It can be fetched only then. -/
def complete (d : Draft) (object : Option Nat) (fill : Draft → Except Error Draft) :
    Except Error Draft :=
  (fill d).map (·.note object (d.count - 1))

/-- A text that is fetched if it occurred before. -/
def sharedText (d : Draft) (object : Option Nat) (t : Text) : Draft :=
  d.object.fetchOr (.ofObject object (.text t)) (·.code (.text t))

/-- The one object for a text. -/
def text (d : Draft) (t : Text) : Draft :=
  d.sharedText none t

/-- A text that is an object of its own. -/
def ownText (d : Draft) (t : Text) : Draft :=
  (d.object.code (.text t)).store

/-- Whether there is only one object for a text: it is empty or a single Latin-1 character. -/
def isSingleton : Text → Bool
  | [] => true
  | [c] => c.val < 0x100
  | _ => false

/-- A header name that was given as bytes. It is shared only with other such names, and only if it
has fewer than 64 bytes. -/
def byteName (d : Draft) (t : Text) : Draft :=
  if isSingleton t then d.text t
  else if (Utf8.encode t).length < 64 then d.object.fetchOr (.byteName t) (·.code (.text t))
  else d.ownText t

/-- The older names of modules, for versions before 3. -/
def olderModules : List (Text × Text) := [
  (Dispatch.text "builtins", Dispatch.text "__builtin__"),
  (Dispatch.text "copyreg", Dispatch.text "copy_reg"),
  (Dispatch.text "urllib.parse", Dispatch.text "urlparse")]

/-- A class or function by its module and name. The name of a native one is a text of its own. -/
def global (d : Draft) (module name : String) (native : Bool := false) : Draft :=
  let module := Dispatch.text module
  let name := Dispatch.text name
  d.object.fetchOr (.global module name) fun d =>
    if 4 ≤ d.version then
      let d := d.text module
      (if native then d.ownText name else d.text name).code .stackGlobal
    else
      let module :=
        if d.version < 3 then
          ((olderModules.find? (·.1 = module)).map (·.2)).getD module
        else module
      d.code (.global module name)

/-- An empty tuple. -/
def emptyTuple (d : Draft) : Draft :=
  d.object.code .emptyTuple

/-- Whether a tuple is gathered by its count; a longer one, and any before version 2, by a mark. -/
def gathersByCount (d : Draft) (count : Nat) : Bool :=
  count ≤ 3 && 2 ≤ d.version

/-- Starts a tuple that is not empty. -/
def openTuple (d : Draft) (count : Nat) : Draft :=
  if d.gathersByCount count then d else d.code .mark

/-- Gathers the items of a tuple. -/
def closeTuple (d : Draft) (count : Nat) : Draft :=
  (d.code (if d.gathersByCount count then .smallTuple count else .tuple)).store

/-- An object of a class from its arguments. Before version 2 a function makes it from the class,
from the class that holds its content and from that content. -/
def construct (d : Draft) (module name holder : String) (arguments : Draft → Draft) : Draft :=
  if 2 ≤ d.version then ((arguments (d.object.global module name)).code .newObject).store
  else
    let d := (d.object.global "copyreg" "_reconstructor").openTuple 3
    let d := arguments ((d.global module name).global "builtins" holder)
    ((d.closeTuple 3).code .reduce).store

/-- The arguments of an object whose content is a state that follows. -/
def noArguments (d : Draft) : Draft :=
  if 2 ≤ d.version then d.emptyTuple else d.code .null

/-- Fixed bytes with the key to fetch them, or of their own. Before version 3 they are made from a
text of the same numbers. -/
def bytes (d : Draft) (key : Option MemoKey) (b : Bytes) : Draft :=
  let write := fun (d : Draft) =>
    if 3 ≤ d.version then d.code (.bytes b)
    else if b.isEmpty then
      (((d.global "builtins" "bytes").emptyTuple).code .reduce)
    else
      let latin := b.map fun x => CodePoint.ofNat x.toNat
      let d := (d.global "_codecs" "encode").openTuple 2
      let d := if latin.length ≤ 1 then d.text latin else d.ownText latin
      ((d.text (Dispatch.text "latin1")).closeTuple 2).code .reduce
  match key with
  | some key => d.object.fetchOr key write
  | none => (write d.object).store

/-- What a native class makes of arguments. -/
def made (d : Draft) (module name : String) (count : Nat) (arguments : Draft → Draft) : Draft :=
  let d := (d.global module name true).object.openTuple count
  ((arguments d).closeTuple count).code .reduce

end Draft

/-- How many items a batch has. -/
def batchSize : Nat := 1000

/-- Cuts items into batches. -/
def batches {α : Type} (items : List α) : List (List α) :=
  (List.range ((items.length + batchSize - 1) / batchSize)).map fun i =>
    (items.drop (i * batchSize)).take batchSize

/-- Writes items, each followed by an instruction. -/
def oneByOne {α : Type} (write : Draft → α → Except Error Draft) (ending : Opcode) (d : Draft)
    (items : List α) : Except Error Draft :=
  items.foldlM (fun d item => (write d item).map (·.code ending)) d

/-- Writes a batch between a mark and an instruction. -/
def batch {α : Type} (write : Draft → α → Except Error Draft) (ending : Opcode) (d : Draft)
    (items : List α) : Except Error Draft :=
  (items.foldlM write (d.code .mark)).map (·.code ending)

/-- Fills a list on the stack. -/
def fillList {α : Type} (write : Draft → α → Except Error Draft) (d : Draft) (items : List α) :
    Except Error Draft :=
  if d.version = 0 || items.length = 1 then oneByOne write .append d items
  else (batches items).foldlM (batch write .appends) d

/-- Fills a map on the stack. If the last batch is full, an empty one follows it. -/
def fillMap {α : Type} (write : Draft → α → Except Error Draft) (d : Draft) (entries : List α) :
    Except Error Draft :=
  if d.version = 0 || entries.length ≤ 1 then oneByOne write .setItem d entries
  else
    let full := entries.length % batchSize = 0
    (batches entries ++ (if full then [[]] else [])).foldlM (batch write .setItems) d

/-- Fills an ordered map on the stack. A single entry that is left is set on its own. -/
def fillOrdered {α : Type} (write : Draft → α → Except Error Draft) (d : Draft)
    (entries : List α) : Except Error Draft :=
  (batches entries).foldlM
    (fun d entries =>
      if d.version = 0 || entries.length = 1 then oneByOne write .setItem d entries
      else batch write .setItems d entries)
    d

/-- The parts of a URI as an object. -/
def partsObject (d : Draft) (sharing : Sharing) (p : UriParts) : Draft :=
  let d := d.construct "urllib.parse"
    (if p.parameters.isSome then "ParseResult" else "SplitResult") "tuple" fun d =>
      let d := p.toList.zipIdx.foldl (fun d (t, i) => d.sharedText (sharing.part i).object? t)
        (d.object.openTuple p.toList.length)
      d.closeTuple p.toList.length
  d.noteLast sharing.object?

/-- A component of a URL: an object of its own unless it is empty, or a single character that is
cut from the URL. -/
def urlPiece (cut : Bool) (d : Draft) (t : Text) : Draft :=
  if t.isEmpty || (cut && t.length = 1) then d.text t else d.ownText t

def urlPiece? (d : Draft) : Option Text → Draft
  | some t => urlPiece true d t
  | none => d.object.code .null

/-- A URL as an object whose state holds its components. -/
def urlObject (d : Draft) (object : Option Nat) (u : Url) : Draft :=
  let d := (d.construct "httpx" "URL" "object" Draft.noArguments).noteLast object
  let d := (d.object.code .emptyDict).store
  let d := d.text (Dispatch.text "_uri_reference")
  let d := d.construct "httpx._urlparse" "ParseResult" "tuple" fun d =>
    let d := d.object.openTuple 7
    let d := urlPiece true (urlPiece false d u.scheme) u.userinfo
    let d := urlPiece false d u.host
    let d :=
      match u.port with
      | some n => d.object.code (.int n)
      | none => d.object.code .null
    let d := urlPiece? (urlPiece? (urlPiece true d u.path) u.query) u.fragment
    d.closeTuple 7
  (d.code .setItem).code .build

/-- Editable bytes. Before version 5 they are made from fixed ones. -/
def editableObject (d : Draft) (object : Option Nat) (b : Bytes) : Draft :=
  let d :=
    if 5 ≤ d.version then d.object.code (.editable b)
    else if b.isEmpty then
      ((d.object.global "builtins" "bytearray" true).emptyTuple).code .reduce
    else d.object.made "builtins" "bytearray" 1 (·.bytes none b)
  d.store.noteLast object

/-- A distance from universal time as an object, made from days, seconds and microseconds. -/
def spanObject (d : Draft) (object : Option Nat) (span : Int) : Draft :=
  let write := fun (d : Draft) => d.made "datetime" "timedelta" 3 fun d =>
    let d := d.object.code (.int (span / 86400000000))
    let d := d.object.code (.int (span / 1000000 % 86400))
    d.object.code (.int (span % 1000000))
  match object with
  | some n => d.object.fetchOr (.object n) write
  | none => (write d.object).store

/-- A time zone as an object. There is one for universal time. -/
def zoneObject (d : Draft) (sharing : Sharing) (span : Int) : Draft :=
  let write := fun (d : Draft) => d.made "datetime" "timezone" 1 fun d =>
    spanObject d (sharing.part 0).object? span
  let universal := MemoKey.global (Dispatch.text "datetime") (Dispatch.text "timezone.utc")
  match sharing.object?, span with
  | some n, _ => d.object.fetchOr (.object n) write
  | none, 0 => d.object.fetchOr universal write
  | none, _ => (write d.object).store

/-- A date as an object, made from its numbers as bytes and from its time zone. -/
def momentObject (d : Draft) (sharing : Sharing) (m : Moment) : Draft :=
  let date := [m.year / 256, m.year % 256, m.month, m.day]
  let d :=
    match m.clock with
    | none => d.object.made "datetime" "date" 1 (·.bytes none (date.map UInt8.ofNat))
    | some c =>
        let clock :=
          [c.hour, c.minute, c.second, c.micro / 65536, c.micro / 256 % 256, c.micro % 256]
        let state := (date ++ clock).map UInt8.ofNat
        match c.offset with
        | none => d.object.made "datetime" "datetime" 1 (·.bytes none state)
        | some span =>
            d.object.made "datetime" "datetime" 2 fun d =>
              zoneObject (d.bytes none state) (sharing.part 0) span
  d.store.noteLast sharing.object?

/-- Writes the key and the value of an entry. -/
def saveEntry (save : Draft → Part → Except Error Draft) (d : Draft) (e : Part × Part) :
    Except Error Draft := do
  save (← save d e.1) e.2

/-- Writes the name and the value of a header. -/
def saveHeader (save : Draft → Part → Except Error Draft) (byteNames : List Text) (d : Draft)
    (h : Text × Option Nat × Part) : Except Error Draft :=
  save (if byteNames.contains h.1 then d.byteName h.1 else d.sharedText h.2.1 h.1) h.2.2

/-- A set. Before version 4 it is made from a list. -/
def setObject (save : Draft → Part → Except Error Draft) (d : Draft) (object : Option Nat)
    (items : List Part) : Except Error Draft :=
  if 4 ≤ d.version then
    (d.object.code .emptySet).store.complete object fun d =>
      (batches items).foldlM (batch save .addItems) d
  else do
    let d := (d.object.global "builtins" "set").object.openTuple 1
    let d ← fillList save (d.object.code .emptyList).store items
    return ((d.closeTuple 1).code .reduce).store.noteLast object

/-- Writes the name of a field and what is written for it. -/
def saveField (d : Draft) (field : String × (Draft → Except Error Draft)) : Except Error Draft :=
  field.2 (d.text (Dispatch.text field.1))

/-- A map from names to what is written for each. -/
def record (d : Draft) (fields : List (String × (Draft → Except Error Draft))) :
    Except Error Draft :=
  (d.object.code .emptyDict).store.complete none fun d => fillMap saveField d fields

/-- A message as an object whose state holds its payload, its headers, and which of the two were
given. -/
def messageObject (save : Draft → Part → Except Error Draft) (d : Draft) (sharing : Sharing)
    (payload : Value) (headers : List (Text × Value)) (given : Given) : Except Error Draft :=
  let nothing (d : Draft) : Except Error Draft := .ok (d.object.code .null)
  let names := (if given.payload then [Value.text (Dispatch.text "payload")] else [])
    ++ (if given.headers then [Value.text (Dispatch.text "headers")] else [])
  let d := d.construct "outbound_http.models" "Message" "object" Draft.noArguments
  d.complete sharing.object? fun d => do
    let d ← record d [
      ("__dict__", fun d => record d [
        ("payload", fun d => save d ⟨payload, sharing.part 0⟩),
        ("headers", fun d =>
          (d.object.code .emptyDict).store.complete none fun d =>
            fillMap (saveHeader save given.byteNames) d ((sharing.part 1).headers headers))]),
      ("__pydantic_extra__", nothing),
      ("__pydantic_fields_set__", fun d => setObject save d none (names.map Part.byContent)),
      ("__pydantic_private__", nothing)]
    return d.code .build

/-- Writes a value that was not written before. -/
def write (save : Draft → Part → Except Error Draft) (d : Draft) (sharing : Sharing) :
    Value → Except Error Draft
  | .null => .ok (d.object.code .null)
  | .bool b => .ok (d.object.code (.bool b))
  | .int n => .ok (d.object.code (.int n))
  | .float x => .ok (d.object.code (.float x))
  | .text t => .ok (d.sharedText sharing.object? t)
  | .blob .fixed b => .ok (d.bytes (some (.ofObject sharing.object? (.bytes b))) b)
  | .blob .editable b => .ok (editableObject d sharing.object? b)
  | .blob (.view ..) _ => d.fail (.kind (Dispatch.text "memoryview"))
  | .url u => .ok (urlObject d sharing.object? u)
  | .parts p => .ok (partsObject d sharing p)
  | .moment m => .ok (momentObject d sharing m)
  | .handle (.lock ..) =>
      let typeName := Dispatch.text "_thread.lock"
      d.fail (if 2 ≤ d.version then .kind typeName
        else .hidden typeName (Dispatch.text "_thread") (Dispatch.text "lock"))
  | .handle (.generator ..) => d.fail (.kind (Dispatch.text "generator"))
  | .handle (.object o) => d.fail (Error.ofRefusal o.refusal)
  | .handle .cycle => d.fail .depth
  | .list items =>
      (d.object.code .emptyList).store.complete sharing.object? fun d =>
        fillList save d (sharing.items items)
  | .tuple [] => .ok d.emptyTuple
  | .tuple items =>
      ((sharing.items items).foldlM save (d.object.openTuple items.length)).map
        fun d => (d.closeTuple items.length).noteLast sharing.object?
  | .set items => setObject save d sharing.object? (sharing.items items)
  | .map .plain entries =>
      (d.object.code .emptyDict).store.complete sharing.object? fun d =>
        fillMap (saveEntry save) d (sharing.entries entries)
  | .map .ordered entries =>
      let d := d.object.global "collections" "OrderedDict" true
      (d.emptyTuple.code .reduce).store.complete sharing.object? fun d =>
        fillOrdered (saveEntry save) d (sharing.entries entries)
  | .map .readOnly _ => d.fail (.kind (Dispatch.text "mappingproxy"))
  | .map (.own o) _ => d.fail (Error.ofRefusal o.refusal)
  | .message payload headers given => messageObject save d sharing payload headers given

/-- Writes a value that is nested at most as deeply as the first argument says. -/
def save : Nat → Draft → Part → Except Error Draft
  | 0, d, _ => d.fail .depth
  | depth + 1, d, p =>
      match p.sharing.object?.bind fun n => d.index? (.object n) with
      | some index => .ok (d.object.code (.get index))
      | none => write (save depth) d p.sharing p.value

/-- The latest version of the format. -/
def latest : Nat := 5

/-- The length that no pickle reaches: half of what a signed number of 64 bits can count. -/
def maxLength : Nat := 0x4000000000000000

/-- The bytes of a finished draft. -/
def Draft.finish (d : Draft) : Except Error Bytes :=
  match d.refusal? with
  | some e => .error e
  | none =>
      let bytes := assemble d.version d.steps.reverse
      if bytes.length < maxLength then .ok bytes else .error .memory

/-- The pickle of a value. A negative version stands for the latest one. -/
def dump [Platform] (version : Int) (p : Part) : Except Error Bytes :=
  if (latest : Int) < version then .error .version
  else
    let version := if version < 0 then latest else version.toNat
    (save Platform.pickledDepth ⟨version, [], 0, []⟩ p).bind Draft.finish

end Dispatch.Pickle
