import Dispatch.Pickle.Reader
import Dispatch.Value.Basic

/-! The pickle machine of version 4. What can still change is changed where it stands on the stack,
and in its memo entry. What is fetched from the memo is a copy, so a pickle that changes something
after it was fetched is refused.
-/

namespace Dispatch.Pickle

/-- What stands on the stack. What can still change has the number of its memo entry. -/
inductive Item where
  | value (v : Value)
  /-- A container that can still be filled. -/
  | container (entry : Option Nat) (v : Value)
  /-- A class or function. -/
  | named (module name : Text)
  /-- An object of a class, without its state. -/
  | blank (entry : Option Nat) (module name : Text)

namespace Item

def value? : Item → Option Value
  | .value v => some v
  | .container _ v => some v
  | _ => none

/-- Whether an item can still change. -/
def isOpen : Item → Bool
  | .container .. => true
  | .blank .. => true
  | _ => false

/-- An item as it is stored under a number. What can still change is stored once. -/
def stored? (index : Nat) : Item → Option Item
  | .container none v => some (.container (some index) v)
  | .blank none module name => some (.blank (some index) module name)
  | .container (some _) _ => none
  | .blank (some _) .. => none
  | item => some item

/-- What fetching an item from the memo gives. An object without its state cannot be fetched. -/
def fetched? : Item → Option Item
  | .container _ v => some (.value v)
  | .blank .. => none
  | item => some item

/-- The values of items that are stacked, the lowest first. -/
def values? (items : List Item) : Option (List Value) :=
  items.reverse.mapM value?

end Item

/-- The stack above the last mark with its top in front, the stacks below each mark, and the
memo. -/
structure Machine where
  stack : List Item
  below : List (List Item)
  memo : List Item

/-- Sets keys in turn. What cannot be a key is refused. -/
def setKeys? (entries : List (Value × Value)) : List Value → Option (List (Value × Value))
  | [] => some entries
  | key :: value :: rest =>
      if key.isKey then setKeys? (Value.insert entries key value) rest else none
  | [_] => none

/-- Adds items to a set in turn. -/
def addItems? (items : List Value) : List Value → Option (List Value)
  | [] => some items
  | v :: rest =>
      if v.isKey then addItems? (if items.any (Value.sameKey · v) then items else items ++ [v]) rest
      else none

/-- The entry of a record. -/
def field? (entries : List (Value × Value)) (name : String) : Option Value :=
  Value.lookup? entries (.text (text name))

/-- A header from an entry of a map. -/
def header? (e : Value × Value) : Option (Text × Value) :=
  e.1.asText?.map (·, e.2)

/-- The message of a state: its fields, and the names of those that were given. -/
def messageOf? (state : List (Value × Value)) : Option Value := do
  match ← field? state "__dict__", ← field? state "__pydantic_fields_set__" with
  | .map .plain fields, .set names =>
      let payload ← field? fields "payload"
      match ← field? fields "headers" with
      | .map .plain headers =>
          let given := fun name => names.any (Value.sameKey (.text (text name)))
          return .message payload (← headers.mapM header?) ⟨given "payload", given "headers", []⟩
      | _ => none
  | _, _ => none

/-- Whether a class is the one of messages. -/
def isMessageClass (module name : Text) : Bool :=
  module = text "outbound_http.models" && name = text "Message"

namespace Machine

/-- The machine before the first instruction. -/
def start : Machine := ⟨[], [], []⟩

def push (s : Machine) (item : Item) : Machine :=
  { s with stack := item :: s.stack }

/-- Puts an item in the place of one that can still change, given by its memo entry. -/
def replace? (s : Machine) (entry : Option Nat) (item : Item) (rest : List Item) :
    Option Machine :=
  match entry with
  | none => some { s with stack := item :: rest }
  | some index =>
      if s.memo[index]?.any Item.isOpen then
        some { s with stack := item :: rest, memo := s.memo.set index item }
      else none

/-- Adds the values above the last mark to the container below it. -/
def fill? (s : Machine) (add : Value → List Value → Option Value) : Option Machine :=
  match s.below with
  | (.container entry container :: rest) :: below => do
      let filled ← add container (← Item.values? s.stack)
      replace? { s with below } entry (.container entry filled) rest
  | _ => none

/-- Adds as many values as a count says to the container below them. -/
def fillTop? (s : Machine) (count : Nat) (add : Value → List Value → Option Value) :
    Option Machine :=
  match s.stack.drop count with
  | .container entry container :: rest => do
      let filled ← add container (← Item.values? (s.stack.take count))
      s.replace? entry (.container entry filled) rest
  | _ => none

/-- Stores the top of the stack in the memo. -/
def memoize? (s : Machine) : Option Machine :=
  match s.stack with
  | item :: rest => (item.stored? s.memo.length).map fun item =>
      { s with stack := item :: rest, memo := s.memo ++ [item] }
  | [] => none

/-- Fetches an entry of the memo, which can change no more. -/
def fetch? (s : Machine) (index : Nat) : Option Machine :=
  (s.memo[index]?.bind Item.fetched?).map fun item =>
    { s with stack := item :: s.stack, memo := s.memo.set index item }

def append? : Value → List Value → Option Value
  | .list items, more => some (.list (items ++ more))
  | _, _ => none

def setItems? : Value → List Value → Option Value
  | .map .plain entries, more => (setKeys? entries more).map (.map .plain)
  | _, _ => none

def includeItems? : Value → List Value → Option Value
  | .set items, more => (addItems? items more).map .set
  | _, _ => none

/-- Carries out an instruction, if it can be. -/
def step? (s : Machine) : Opcode → Option Machine
  | .mark => some { s with stack := [], below := s.stack :: s.below }
  | .null => some (s.push (.value .null))
  | .bool b => some (s.push (.value (.bool b)))
  | .int n => some (s.push (.value (.int n)))
  | .float x => some (s.push (.value (.float x)))
  | .text t => some (s.push (.value (.text t)))
  | .bytes b => some (s.push (.value (.blob .fixed b)))
  | .editable b => some (s.push (.value (.blob .editable b)))
  | .emptyList => some (s.push (.container none (.list [])))
  | .emptyTuple => some (s.push (.value (.tuple [])))
  | .emptyDict => some (s.push (.container none (.map .plain [])))
  | .emptySet => some (s.push (.container none (.set [])))
  | .append => s.fillTop? 1 append?
  | .setItem => s.fillTop? 2 setItems?
  | .appends => s.fill? append?
  | .setItems => s.fill? setItems?
  | .addItems => s.fill? includeItems?
  | .smallTuple count =>
      if count ≤ s.stack.length then
        (Item.values? (s.stack.take count)).map fun items =>
          { s with stack := .value (.tuple items) :: s.stack.drop count }
      else none
  | .tuple =>
      match s.below with
      | stack :: below =>
          (Item.values? s.stack).map fun items =>
            { s with stack := .value (.tuple items) :: stack, below }
      | [] => none
  | .memoize => s.memoize?
  | .get index => s.fetch? index
  | .stackGlobal =>
      match s.stack with
      | .value (.text name) :: .value (.text module) :: rest =>
          some { s with stack := .named module name :: rest }
      | _ => none
  | .newObject =>
      match s.stack with
      | .value (.tuple []) :: .named module name :: rest =>
          some { s with stack := .blank none module name :: rest }
      | _ => none
  | .build =>
      match s.stack with
      | item :: .blank entry module name :: rest =>
          match item.value? with
          | some (.map .plain state) =>
              if isMessageClass module name then
                (messageOf? state).bind fun m => s.replace? entry (.value m) rest
              else none
          | _ => none
      | _ => none
  | .stop | .put _ | .global .. | .reduce => none

/-- Carries out instructions in turn. -/
def run? (s : Machine) (os : List Opcode) : Option Machine :=
  os.foldlM step? s

end Machine

/-- The value of a pickle: what alone stands on the stack at the end, with no mark left. -/
def load? (bytes : Bytes) : Option Value := do
  let os ← read? bytes
  match ← Machine.start.run? os with
  | ⟨[item], [], _⟩ => item.value?
  | _ => none

end Dispatch.Pickle
