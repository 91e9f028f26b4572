import Dispatch.Text.Digits
import Dispatch.Text.Lower
import Dispatch.Url.Address
import Dispatch.Url.Basic
import Dispatch.Url.Escape
import Dispatch.Url.Idna.Label

/-! Reading a URL. The text is cut into its components, and each component is brought to normal
form: the scheme and the host in lower case, a default port dropped, dot segments resolved, and what
a component does not allow escaped.
-/

namespace Dispatch.Url

/-- The most code points a URL may have. -/
def maxLength : Nat := 65536

def isControl (c : CodePoint) : Bool :=
  c.val < 0x20 || c.val = 0x7f

/-- The first control character of a text with its place. -/
def firstControl : Nat → Text → Option (CodePoint × Nat)
  | _, [] => none
  | n, c :: rest => if isControl c then some (c, n) else firstControl (n + 1) rest

/-! ### Components -/

/-- The components of a URL as they are written. -/
structure Components where
  scheme : Text
  userinfo : Text
  host : Text
  port : Text
  path : Text
  query : Option Text
  fragment : Option Text
deriving DecidableEq

def isSchemeCharacter (c : CodePoint) : Bool :=
  c.isAlnum || c.val = 0x2b || c.val = 0x2d || c.val = 0x2e

/-- A scheme is empty or starts with a letter. -/
def isScheme (t : Text) : Bool :=
  match t with
  | [] => true
  | c :: rest => c.isLetter && rest.all isSchemeCharacter

/-- Cuts off a scheme and its colon. -/
def cutScheme (t : Text) : Text × Text :=
  match t.cut ':' with
  | (scheme, some rest) => if isScheme scheme then (scheme, rest) else ([], t)
  | (_, none) => ([], t)

/-- The end of an authority. -/
def endsAuthority (c : CodePoint) : Bool :=
  c.val = 0x2f || c.val = 0x3f || c.val = 0x23

/-- Cuts off two slashes and an authority. -/
def cutAuthority (t : Text) : Text × Text :=
  if t.startsWith (text "//") then
    let rest := t.drop 2
    (rest.takeWhile (!endsAuthority ·), rest.dropWhile (!endsAuthority ·))
  else ([], t)

/-- Cuts a host from a port. A host that starts with a bracket reaches to the last closing one. -/
def cutHost (t : Text) : Text × Text :=
  match t.startsWith (text "["), t.cutLast ']' with
  | true, (some inner, rest) =>
      (inner ++ text "]", if rest.startsWith (text ":") then rest.drop 1 else rest)
  | _, _ =>
      match t.cut ':' with
      | (host, port) => (host, port.getD [])

/-- The components of a text. Every text has them. -/
def Components.ofText (t : Text) : Components :=
  let (scheme, rest) := cutScheme t
  let (authority, rest) := cutAuthority rest
  let (rest, fragment) := rest.cut '#'
  let (path, query) := rest.cut '?'
  let (userinfo, hostAndPort) := authority.cutLast '@'
  let (host, port) := cutHost hostAndPort
  { scheme, userinfo := userinfo.getD [], host, port, path, query, fragment }

/-! ### Hosts -/

/-- One step through four runs of digits with any code point between two runs. An even place is the
start of a run, an odd one is inside it. -/
def dottedStep (c : CodePoint) (place : Nat) : List Nat :=
  if place % 2 = 0 then (if c.isDigit then [place + 1] else [])
  else (if c.isDigit then [place] else []) ++ (if place < 7 then [place + 1] else [])

/-- Whether a host consists of four runs of digits with any one code point between two runs. -/
def looksDotted (host : Text) : Bool :=
  (host.foldl (fun places c => (places.flatMap (dottedStep c)).eraseDups) [0]).contains 7

/-- The host in normal form. -/
def normalHost (host : Text) : Except Error Text :=
  if host.isEmpty then .ok []
  else if looksDotted host then
    if Address.isV4 host then .ok host else .error (.addressV4 host)
  else if host.startsWith (text "[") && host.getLast? = some (CodePoint.ofChar ']') then
    let inner := (host.drop 1).dropLast
    if Address.isV6 inner then .ok inner else .error (.addressV6 host)
  else if host.isAscii then .ok (Escape.escape Escape.inHost host.lowerAscii)
  else
    match Idna.encodeName host.lower with
    | .ok ascii => .ok ascii
    | .error _ => .error (.hostName host)

/-! ### Port and path -/

def defaultPorts : List (Text × Int) :=
  [(text "ftp", 21), (text "http", 80), (text "https", 443), (text "ws", 80), (text "wss", 443)]

/-- The port of a URL, unless it is the one that the scheme, as it is written, implies. -/
def normalPort (scheme port : Text) : Except Error (Option Int) :=
  if port.isEmpty then .ok none
  else
    match port.toInt? with
    | none => .error (.port port)
    | some n => .ok (if defaultPorts.contains (scheme, n) then none else some n)

/-- Adds a segment to the segments before it, latest first: one dot is dropped, two dots take the
segment before them away, except the empty one before the first slash. -/
def addSegment (segments : List Text) (segment : Text) : List Text :=
  if segment = text "." then segments
  else if segment = text ".." then
    if segments = [] || segments = [[]] then segments else segments.tail
  else segment :: segments

/-- Resolves the dot segments of a path. -/
def resolveDots (path : Text) : Text :=
  Text.joinWith (text "/") ((path.splitOn '/').foldl addSegment []).reverse

/-- Checks how a path may start. -/
def checkPath (path : Text) (hasScheme hasAuthority : Bool) : Except Error Unit :=
  if hasAuthority && !path.isEmpty && !path.startsWith (text "/") then .error .pathWithoutSlash
  else if hasScheme || hasAuthority then .ok ()
  else if path.startsWith (text "//") then .error .pathWithTwoSlashes
  else if path.startsWith (text ":") then .error .pathWithColon
  else .ok ()

/-! ### The whole -/

/-- Escapes a component. -/
def quote (allowed : CodePoint → Bool) (t : Text) : Except Error Text :=
  (Escape.quote allowed t).mapError .surrogate

/-- Escapes a component that may be missing. -/
def quote? (allowed : CodePoint → Bool) : Option Text → Except Error (Option Text)
  | none => .ok none
  | some t => (quote allowed t).map some

/-- Brings the components to normal form, in their order of precedence. -/
def Components.normalize (c : Components) : Except Error Url := do
  let scheme := c.scheme.lowerAscii
  let userinfo ← quote Escape.inUserinfo c.userinfo
  let host ← normalHost c.host
  let port ← normalPort c.scheme c.port
  let hasScheme := !scheme.isEmpty
  let hasAuthority := !userinfo.isEmpty || !host.isEmpty || port.isSome
  checkPath c.path hasScheme hasAuthority
  let path := if hasScheme || hasAuthority then resolveDots c.path else c.path
  let path ← quote Escape.inPath path
  let query ← quote? Escape.inQuery c.query
  let fragment ← quote? Escape.inFragment c.fragment
  return { scheme, userinfo, host, port, path, query, fragment }

/-- Reads a URL. -/
def parse (t : Text) : Except Error Url :=
  if maxLength < t.length then .error .tooLong
  else
    match firstControl 0 t with
    | some (c, position) => .error (.controlCharacter c position)
    | none => (Components.ofText t).normalize

/-- Whether a text reads as a URL with a scheme and a host. -/
def isAbsoluteText (t : Text) : Except Error Bool :=
  match parse t with
  | .ok u => .ok u.isAbsolute
  | .error (.surrogate c) => .error (.surrogate c)
  | .error _ => .ok false

end Dispatch.Url
