import FilteringProxy.Proxy.Basic
import FilteringProxy.Rehearsal.Script

/-! # Scripted origins

How connections to the origins of a script turn out, and which requests the origins get to see.
-/

namespace FilteringProxy.Rehearsal

open Http (Request Response Headers Field)

structure Seen where
  method : Text
  target : Text
  version : Text
  headers : Headers
  body : Bytes
  deriving Repr, DecidableEq

/-- Where a name leads. -/
inductive Resolution where
  | loopback
  /-- To a place where nothing listens. -/
  | elsewhere
  | unknown
  deriving Repr, DecidableEq

/-- Where a host leads: only one name is known. -/
def resolve (host : Text) : Resolution :=
  if Text.sameLetters host "localhost" || Url.parseIpv4? host = some 0x7F000001 then .loopback
  else if Url.isAddress host then .elsewhere
  else .unknown

/-- What listens at a place. -/
inductive Listener where
  | http
  | tls
  | stall
  deriving Repr, DecidableEq

def Ports.listener? (ports : Ports) (port : Nat) : Option Listener :=
  if port = ports.http then some .http
  else if port = ports.tls then some .tls
  else if port = ports.stall then some .stall
  else none

/-- The origin at a place, or what is said about its absence. -/
def Ports.find (ports : Ports) (c : Contact) : Except Text Listener :=
  match resolve c.host with
  | .unknown => .error "failed to lookup address information: Name or service not known"
  | .elsewhere => .error "Connection refused (os error 111)"
  | .loopback =>
    match ports.listener? c.port with
    | some listener => .ok listener
    | none => .error "Connection refused (os error 111)"

/-- A response to a request has no body, whatever else is said. -/
def isBodyless (method : Text) (status : Nat) : Bool :=
  method = "HEAD" || status < 200 || status = 204 || status = 304

/-- The field that an origin's text makes; blanks around the value are not part of it. -/
def field? (name : Text) (value : Bytes) : Option Field := do
  let trimmed := (value.dropWhile Http.Wire.isPadding).reverse.dropWhile Http.Wire.isPadding
  return ⟨← Http.fieldName? name, ← Http.fieldValue? trimmed.reverse⟩

/-- The response of an origin, if its fields can be read. -/
def originResponse? (method : Text) (status : Nat) (fields : List (Text × Bytes)) (body : Bytes)
    (chunked : Bool) : Option Reply := do
  let bodyless := isBodyless method status
  let framing : List (Text × Bytes) :=
    if chunked then [("transfer-encoding", Utf8.encode "chunked")]
    else if status < 200 || status = 204 then []
    else [("content-length", Utf8.encode (Text.ofNat body.length))]
  let fields ← (fields ++ framing).mapM fun (name, value) => field? name value
  return {
    response := { status, version := .http11, headers := ⟨fields⟩ }
    body := if bodyless then [] else body
    measured := bodyless || !chunked }

/-- What comes of the exchange with an origin that has been reached. -/
def exchange (secure : Bool) (method : Text) : OriginReply → Outcome
  | .answer status fields body chunked =>
    if status < 200 && status ≠ 101 then .timedOut .exchange
    else
      match originResponse? method status fields body chunked with
      | some reply => .answered reply
      | none => .failed .exchange ["invalid HTTP header parsed"]
  | .close =>
    if secure then
      .failed .exchange
        ["connection error", "peer closed connection without sending TLS close_notify"]
    else .failed .exchange ["connection closed before message completed"]
  | .stall => .timedOut .exchange
  | .garbage => .failed .exchange ["invalid HTTP version parsed"]

/-- What comes of a request of the proxy. The plain origin answers a secure greeting in plain words,
which is a corrupt message, and the secure origin answers plain words with an alert, which is no
response. -/
def reach (ports : Ports) (trusted : Bool) (reply : OriginReply) (d : Dispatch) : Outcome :=
  match ports.find d.contact, d.secure with
  | .error message, _ => .failed .connect [message]
  | .ok .stall, true => .timedOut .handshake
  | .ok .stall, false => .timedOut .exchange
  | .ok .http, true =>
    .failed .handshake ["received corrupt message of type InvalidContentType"]
  | .ok .http, false => exchange false d.request.method reply
  | .ok .tls, true =>
    if trusted then exchange true d.request.method reply
    else .failed .handshake ["invalid peer certificate: UnknownIssuer"]
  | .ok .tls, false => .failed .exchange ["invalid HTTP version parsed"]

/-- An origin gets to see the request. -/
def isSeen (ports : Ports) (trusted : Bool) (d : Dispatch) : Bool :=
  match ports.find d.contact, d.secure with
  | .ok .http, false => true
  | .ok .tls, true => trusted
  | _, _ => false

def Seen.ofDispatch (d : Dispatch) : Seen :=
  { method := d.request.method
    target := d.request.uri.print
    version := d.request.version.print
    headers := d.request.headers
    body := d.body }

/-- What comes of opening a connection that the proxy passes through. -/
def dialed (ports : Ports) (c : Contact) : Dial :=
  match ports.find c with
  | .ok _ => .connected
  | .error message => .failed message

end FilteringProxy.Rehearsal
