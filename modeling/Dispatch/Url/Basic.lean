import Dispatch.Text.Quoted

/-! URLs in normal form: scheme, user information, host, port, path, query and fragment. A missing
query differs from an empty one, and so for the fragment.
-/

namespace Dispatch

structure Url where
  scheme : Text
  userinfo : Text
  host : Text
  port : Option Int
  path : Text
  query : Option Text
  fragment : Option Text
deriving DecidableEq

namespace Url

/-- Why a text is no URL. -/
inductive Error where
  | tooLong
  | controlCharacter (c : CodePoint) (position : Nat)
  | port (digits : Text)
  | addressV4 (host : Text)
  | addressV6 (host : Text)
  | hostName (host : Text)
  | pathWithoutSlash
  | pathWithTwoSlashes
  | pathWithColon
  | surrogate (c : CodePoint)
deriving DecidableEq

def Error.message : Error → Text
  | .tooLong => text "URL too long"
  | .controlCharacter c position =>
      text "Invalid non-printable ASCII character in URL, " ++ Text.quoted [c]
        ++ text " at position " ++ Text.ofNat position ++ text "."
  | .port digits => text "Invalid port: " ++ digits.quoted
  | .addressV4 host => text "Invalid IPv4 address: " ++ host.quoted
  | .addressV6 host => text "Invalid IPv6 address: " ++ host.quoted
  | .hostName host => text "Invalid IDNA hostname: " ++ host.quoted
  | .pathWithoutSlash => text "For absolute URLs, path must be empty or begin with '/'"
  | .pathWithTwoSlashes => text "Relative URLs cannot have a path starting with '//'"
  | .pathWithColon => text "Relative URLs cannot have a path starting with ':'"
  | .surrogate c =>
      text "'utf-8' codec can't encode character '\\u" ++ Text.ofHex 4 c.val
        ++ text "' in position 0: surrogates not allowed"

/-- Whether a URL names both a scheme and a host. -/
def isAbsolute (u : Url) : Bool :=
  !u.scheme.isEmpty && !u.host.isEmpty

/-- The host and the port; a numeric host with colons stands in brackets. -/
def hostAndPort (u : Url) : Text :=
  (if u.host.contains (CodePoint.ofChar ':') then text "[" ++ u.host ++ text "]" else u.host)
    ++ (match u.port with
      | some n => text ":" ++ Text.ofInt n
      | none => [])

/-- The text of a URL under a given user information. -/
def renderWith (userinfo : Text) (u : Url) : Text :=
  let authority := (if userinfo.isEmpty then [] else userinfo ++ text "@") ++ u.hostAndPort
  (if u.scheme.isEmpty then [] else u.scheme ++ text ":")
    ++ (if authority.isEmpty then [] else text "//" ++ authority)
    ++ u.path
    ++ (match u.query with
      | some q => text "?" ++ q
      | none => [])
    ++ (match u.fragment with
      | some f => text "#" ++ f
      | none => [])

/-- The text of a URL. -/
def render (u : Url) : Text :=
  u.renderWith u.userinfo

/-- The text of a URL with its password hidden. -/
def renderMasked (u : Url) : Text :=
  match u.userinfo.cut ':' with
  | (user, some _) => u.renderWith (user ++ text ":[secure]")
  | (_, none) => u.render

end Url

end Dispatch
