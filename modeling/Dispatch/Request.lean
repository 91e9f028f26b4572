import Dispatch.Charset.Encode
import Dispatch.Descriptor
import Dispatch.Fault
import Dispatch.Text.Lower

/-! Requests that are ready to be sent. The headers of the descriptor replace those of the same name
among the extra ones; the host and an empty length are added in front where they are missing.
-/

namespace Dispatch

structure Request where
  method : Text
  url : Url
  headers : List (Bytes × Bytes)
  content : Bytes

namespace Request

variable [Platform]

/-- The full name of the type of a value. -/
def className (v : Value) : Text :=
  match v with
  | .url _ => text "httpx.URL"
  | .parts _ => text "urllib.parse." ++ v.typeName
  | .map .ordered _ => text "collections.OrderedDict"
  | .moment _ => text "datetime." ++ v.typeName
  | .message .. => text "outbound_http.models.Message"
  | .handle (.object o) => o.className
  | .map (.own o) _ => o.className
  | v => Json.orderName v

/-- The names of headers that only the descriptor gives. -/
def entityHeaders : List Text := [text "content-type", text "content-length"]

/-- Whether an extra header is kept. Its name must be a text or bytes. -/
def keeps (name : Value) : Except Fault Bool :=
  match name with
  | .text t => .ok (!entityHeaders.contains t.lower)
  | .blob .fixed _ => .ok true
  | v => .error (.headerName (Json.orderName v))

/-- The extra headers that are kept. -/
def keptHeaders (extra : Entries) : Except Fault Entries :=
  extra.filterM fun e => keeps e.1

def encodeAscii (t : Text) : Except Fault Bytes :=
  ((Charset.Codec.ascii).encode (text "ascii") t).mapError .charset

/-- The bytes of a header name. -/
def nameBytes : Value → Except Fault Bytes
  | .text t => encodeAscii t
  | .blob .fixed b => .ok b
  | v => .error (.headerName (Json.orderName v))

/-- The bytes of a header value. -/
def valueBytes : Value → Except Fault Bytes
  | .text t => encodeAscii t
  | .blob .fixed b => .ok b
  | v => .error (.headerValue (className v))

def headerBytes (e : Value × Value) : Except Fault (Bytes × Bytes) := do
  return (← nameBytes e.1, ← valueBytes e.2)

/-- Lower case of the ASCII letters among bytes. -/
def lowerBytes (b : Bytes) : Bytes :=
  b.map fun x => if 0x41 ≤ x && x ≤ 0x5a then x + 0x20 else x

/-- Whether a header is there, in any case of letters. -/
def hasHeader (headers : List (Bytes × Bytes)) (name : String) : Bool :=
  headers.any fun h => lowerBytes h.1 = Utf8.encode (text name)

/-- The methods whose requests show the length of an empty body. -/
def lengthMethods : List Text := [text "POST", text "PUT", text "PATCH"]

/-- The host header of a URL. The readable form of the host must exist. -/
def hostHeader (u : Url) : Except Fault (Bytes × Bytes) := do
  if u.host.startsWith Idna.acePrefix then
    let _ ← (Idna.decodeName u.host).mapError Fault.hostName
  return (Utf8.encode (text "Host"), ← encodeAscii u.hostAndPort)

/-- Puts the missing headers in front. -/
def addMissing (method : Text) (u : Url) (headers : List (Bytes × Bytes)) :
    Except Fault (List (Bytes × Bytes)) := do
  let host ←
    if hasHeader headers "host" || u.host.isEmpty then pure []
    else (hostHeader u).map ([·])
  let length :=
    if hasHeader headers "content-length" || hasHeader headers "transfer-encoding"
        || !lengthMethods.contains method then []
    else [(Utf8.encode (text "Content-Length"), Utf8.encode (text "0"))]
  return host ++ length ++ headers

/-- The request of a descriptor, with extra headers. -/
def ofDescriptor (d : Descriptor) (extra : Entries) : Except Fault Request := do
  let kept ← keptHeaders extra
  let entries := d.headers.foldl
    (fun entries h => Value.insert entries (.text h.1) (.text h.2)) kept
  let method := Text.upper d.method
  let url ← (Url.parse d.target).mapError Fault.url
  let headers ← entries.mapM headerBytes
  let headers ← addMissing method url headers
  return { method, url, headers, content := d.body }

end Request

end Dispatch
