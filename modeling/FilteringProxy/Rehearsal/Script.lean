import FilteringProxy.Http.Wire
import FilteringProxy.Proxy.Config

/-! # Scripts

A script tells what a client does one thing after another, and what the origins answer that it may
reach. The origins listen on the machine itself, each under its own port number.
-/

namespace FilteringProxy.Rehearsal

structure Ports where
  /-- An origin that speaks plainly. -/
  http : Nat
  /-- An origin that speaks over secure connections only. -/
  tls : Nat
  /-- An origin that takes connections and never says anything. -/
  stall : Nat
  deriving Repr, DecidableEq

/-- What an origin does with a request. -/
inductive OriginReply where
  | answer (status : Nat) (fields : List (Text × Bytes)) (body : Bytes) (chunked : Bool)
  | close
  | stall
  /-- It answers with bytes that are no response. -/
  | garbage
  deriving Repr, DecidableEq

/-- What an origin answers unless the script says something else. -/
def OriginReply.standard : OriginReply := .answer 200 [] (Utf8.encode "ok") false

/-- One request of the client and what belongs to it. -/
structure Turn where
  sent : Bytes
  /-- What the origin does, if it is reached. -/
  reply : OriginReply := .standard
  /-- What the client sends after a change of protocol, piece by piece. -/
  frames : List Bytes := []
  deriving Repr, DecidableEq

structure ClientRequest where
  method : Text := "GET"
  target : Text
  version : Text := "HTTP/1.1"
  fields : List (Text × Bytes) := []
  body : Option Bytes := none
  chunked : Bool := false
  deriving Repr, DecidableEq

namespace ClientRequest

/-- The fields that tell how long the body is. -/
def framing (r : ClientRequest) : List (Text × Bytes) :=
  if r.chunked then [("transfer-encoding", Utf8.encode "chunked")]
  else
    match r.body with
    | some body => [("content-length", Utf8.encode (Text.ofNat body.length))]
    | none => []

def write (r : ClientRequest) : Bytes :=
  let crlf : Bytes := [Http.Wire.cr, Http.Wire.lf]
  let line := Text.join [' '] [r.method, r.target, r.version]
  let fields := (r.fields ++ r.framing).flatMap fun (name, value) =>
    Http.Wire.writeField ⟨name, value⟩
  let body := r.body.getD []
  Utf8.encode line ++ crlf ++ fields ++ crlf ++
    if r.chunked then Http.Wire.writeChunks body else body

end ClientRequest

/-- What a client does with a connection that it asked for and got. -/
inductive Client where
  /-- It agrees on a secure connection and sends its requests. -/
  | secure
  /-- It trusts no certificate. -/
  | distrusting
  /-- It sends its requests plainly. -/
  | plain
  /-- It leaves at once. -/
  | leaving
  /-- It says nothing. -/
  | silent
  deriving Repr, DecidableEq

/-- One thing that the client does, on a connection of its own. -/
inductive Step where
  | plain (turns : List Turn)
  | connect (request : ClientRequest) (client : Client) (turns : List Turn)
  /-- It begins a request and does not go on. -/
  | begin (bytes : Bytes)
  deriving Repr, DecidableEq

/-- What the client does while the proxy is told to stop. -/
structure Farewell where
  sent : Bytes
  /-- It waits for the response before the proxy is told to stop. -/
  waits : Bool
  deriving Repr, DecidableEq

structure Script where
  ports : Ports
  rules : List Text
  steps : List Step
  ignored : List Text := []
  /-- The proxy has an authority to sign with. -/
  hasRoot : Bool := true
  /-- The proxy trusts the secure origin. -/
  trustsOrigin : Bool := true
  timeouts : Timeouts := {}
  farewell : Option Farewell := none
  deriving DecidableEq

end FilteringProxy.Rehearsal
