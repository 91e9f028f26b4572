import Dispatch.Text.Normalize
import Dispatch.Text.Quoted
import Dispatch.Url.Address

/-! A URI taken apart without being brought to normal form. The parts are scheme, authority, path,
query and fragment; the finer form also has the parameters of the last path segment. Putting them
together again adds slashes only where the scheme or the path asks for an authority.
-/

namespace Dispatch

structure UriParts where
  scheme : Text
  authority : Text
  path : Text
  parameters : Option Text
  query : Text
  fragment : Text
deriving DecidableEq

namespace UriParts

/-- Why a text cannot be taken apart. -/
inductive Error where
  | brackets
  | futureAddress
  | notAddress (host : Text)
  | bracketedV4
  | compatibility (authority : Text)
deriving DecidableEq

def Error.message : Error → Text
  | .brackets => text "Invalid IPv6 URL"
  | .futureAddress => text "IPvFuture address is invalid"
  | .notAddress host => host.quoted ++ text " does not appear to be an IPv4 or IPv6 address"
  | .bracketedV4 => text "An IPv4 address cannot be in brackets"
  | .compatibility authority =>
      text "netloc '" ++ authority
        ++ text "' contains invalid characters under NFKC normalization"

/-- The schemes whose URIs have an authority. -/
def authoritySchemes : List Text := [
  "ftp", "http", "gopher", "nntp", "telnet", "imap", "wais", "file", "mms", "https", "shttp",
  "snews", "prospero", "rtsp", "rtsps", "rtspu", "rsync", "svn", "svn+ssh", "sftp", "nfs", "git",
  "git+ssh", "ws", "wss"].map text

/-- The schemes whose last path segment may have parameters. -/
def parameterSchemes : List Text := [
  "", "ftp", "hdl", "prospero", "http", "imap", "https", "shttp", "rtsp", "rtsps", "rtspu", "sip",
  "sips", "mms", "sftp", "tel"].map text

/-! ### Taking apart -/

/-- Drops leading blanks and control characters, and tabs and line ends anywhere. -/
def clean (t : Text) : Text :=
  (t.dropWhile fun c => c.val ≤ 0x20).filter fun c =>
    c.val != 0x09 && c.val != 0x0a && c.val != 0x0d

def isSchemeCharacter (c : CodePoint) : Bool :=
  c.isAlnum || c.val = 0x2b || c.val = 0x2d || c.val = 0x2e

/-- Cuts off a scheme that starts with a letter, and its colon. -/
def cutScheme (t : Text) : Text × Text :=
  match t.cut ':' with
  | (scheme, some rest) =>
      if (scheme.head?.any CodePoint.isLetter) && scheme.all isSchemeCharacter then
        (scheme.lowerAscii, rest)
      else ([], t)
  | (_, none) => ([], t)

def endsAuthority (c : CodePoint) : Bool :=
  c.val = 0x2f || c.val = 0x3f || c.val = 0x23

/-- A version and an address that is not yet known: `v`, hexadecimal digits, a point and more. -/
def isFutureAddress (host : Text) : Bool :=
  let rest : Text := (host.drop 1).dropWhile CodePoint.isHexDigit
  ((host.drop 1).head?.any CodePoint.isHexDigit) && rest.startsWith (text ".")
    && 2 ≤ rest.length

/-- Checks the host between the first brackets of an authority. -/
def checkBrackets (authority : Text) : Except Error Unit :=
  match authority.cut '[', authority.contains (CodePoint.ofChar ']') with
  | (_, none), true => .error .brackets
  | (_, some _), false => .error .brackets
  | (_, none), false => .ok ()
  | (_, some inner), true =>
      let host := (inner.cut ']').1
      if host.startsWith (text "v") then
        if isFutureAddress host then .ok () else .error .futureAddress
      else if Address.isV4 host then .error .bracketedV4
      else if Address.isV6 host then .ok ()
      else .error (.notAddress host)

/-- The code points that divide the parts of a URI. -/
def isDivider (c : CodePoint) : Bool :=
  c.val = 0x2f || c.val = 0x3f || c.val = 0x23 || c.val = 0x40 || c.val = 0x3a

/-- Refuses an authority whose compatibility form holds a divider that it does not show itself. -/
def checkCompatibility (authority : Text) : Except Error Unit :=
  let plain : Text := authority.filter fun c =>
    c.val != 0x40 && c.val != 0x3a && c.val != 0x23 && c.val != 0x3f
  let normal := plain.nfkc
  if authority.isAscii || plain = normal then .ok ()
  else if normal.any isDivider then .error (.compatibility authority)
  else .ok ()

/-- Takes a URI apart into five parts. -/
def split (t : Text) : Except Error UriParts := do
  let (scheme, rest) := cutScheme (clean t)
  let (authority, rest) : Text × Text :=
    if rest.startsWith (text "//") then
      ((rest.drop 2).takeWhile (!endsAuthority ·), (rest.drop 2).dropWhile (!endsAuthority ·))
    else ([], rest)
  checkBrackets authority
  let (rest, fragment) := rest.cut '#'
  let (path, query) := rest.cut '?'
  checkCompatibility authority
  return {
    scheme, authority, path, parameters := none
    query := query.getD [], fragment := fragment.getD [] }

/-- Cuts the parameters from the last segment of a path, at its first semicolon. -/
def cutParameters (path : Text) : Text × Text :=
  let (before, last) := path.cutLast '/'
  match last.cut ';' with
  | (segment, some parameters) =>
      ((before.map (· ++ text "/")).getD [] ++ segment, parameters)
  | (_, none) => (path, [])

/-- Takes a URI apart into six parts. -/
def splitFine (t : Text) : Except Error UriParts := do
  let parts ← split t
  if parameterSchemes.contains parts.scheme && parts.path.contains (CodePoint.ofChar ';') then
    let (path, parameters) := cutParameters parts.path
    return { parts with path, parameters := some parameters }
  else return { parts with parameters := some [] }

/-! ### Putting together -/

/-- Whether the parts are written with the two slashes of an authority. An empty authority has them
only in front of a path that does not start with two slashes itself. -/
def showsAuthority (p : UriParts) : Bool :=
  !p.authority.isEmpty
    || (!p.scheme.isEmpty && authoritySchemes.contains p.scheme && !p.path.startsWith (text "//"))

/-- The parts as one text. -/
def join (p : UriParts) : Text :=
  let path :=
    match p.parameters with
    | some (c :: parameters) => p.path ++ text ";" ++ (c :: parameters)
    | _ => p.path
  let withAuthority :=
    if p.showsAuthority then
      text "//" ++ p.authority
        ++ (if !path.isEmpty && !path.startsWith (text "/") then text "/" ++ path else path)
    else path
  (if p.scheme.isEmpty then [] else p.scheme ++ text ":") ++ withAuthority
    ++ (if p.query.isEmpty then [] else text "?" ++ p.query)
    ++ (if p.fragment.isEmpty then [] else text "#" ++ p.fragment)

/-- The parts in their order. -/
def toList (p : UriParts) : List Text :=
  [p.scheme, p.authority, p.path] ++ p.parameters.toList ++ [p.query, p.fragment]

end UriParts

end Dispatch
