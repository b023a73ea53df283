import FilteringProxy.Http.HopByHop
import FilteringProxy.Http.Message

/-! # Requests to origins

What the proxy sends to an origin, over which connection, and what may come of it. Ordinary requests
go through a client that adds the host where it is missing; a handshake for the WebSocket protocol
is passed on as it is, less what speaks to the proxy.
-/

namespace FilteringProxy

open Http (Request Response Uri Headers)

/-- A place that the proxy opens a connection to. -/
structure Contact where
  /-- A name or an address, without brackets. -/
  host : Text
  port : Nat
  deriving Repr, DecidableEq

/-- The head of a message to a client and its body. -/
structure Reply where
  response : Response
  body : Bytes := []
  /-- The length of the body is known before it has been read. -/
  measured : Bool := true
  deriving Repr, DecidableEq

/-- How a request is passed on. -/
inductive Passage where
  /-- Through the client for ordinary requests. -/
  | ordinary
  /-- As a handshake for another protocol. -/
  | upgrade
  deriving Repr, DecidableEq

/-- A request on its way to an origin. -/
structure Dispatch where
  contact : Contact
  /-- Over a secure connection. -/
  secure : Bool
  passage : Passage
  /-- The request as the origin gets it. -/
  request : Request
  body : Bytes
  deriving Repr, DecidableEq

/-- What the proxy does with a connection to an origin, step by step. -/
inductive Stage where
  | connect
  | handshake
  /-- Sending the request and waiting for the head of the response. -/
  | exchange
  deriving Repr, DecidableEq

/-- What comes of a dispatch. -/
inductive Outcome where
  | answered (reply : Reply)
  /-- A step fails; the message of the failure and those of its causes. -/
  | failed (stage : Stage) (messages : List Text)
  | timedOut (stage : Stage)
  deriving Repr, DecidableEq

namespace Reply

/-- A message in plain text from the proxy itself. -/
def text (status : Nat) (message : Text) : Reply :=
  { response :=
      { status
        version := .http11
        headers :=
          ({} : Headers).append "content-type" (Utf8.encode "text/plain; charset=utf-8") }
    body := Utf8.encode message }

/-- The answer to a client whose request got no answer. -/
def badGateway (message : Text) : Reply := .text 502 message

def bare (response : Response) : Reply := { response }

end Reply

/-- A host without the brackets of an address. -/
def bareHost (host : Text) : Text := Text.dropEnd (· == ']') (host.dropWhile (· == '['))

/-- The target in the form in which an origin gets it: path and query only. -/
def originForm (u : Uri) : Uri :=
  if u.scheme.isSome || u.authority = [] then ⟨none, [], u.shownPath, u.query⟩
  else ⟨none, [], "/", none⟩

/-- The port that a target names, or the one that its kind of connection has by default. -/
def portOrDefault (u : Uri) (secure : Bool) : Nat :=
  u.port?.getD (if secure then 443 else 80)

/-- Host and port as a client names them: a port as it is written, unless it goes without saying. -/
def hostField (u : Uri) (secure : Bool) : Text :=
  let host := Uri.hostOf u.authority
  match u.port? with
  | some port =>
    if port = (if secure then 443 else 80) then host
    else host ++ [':'] ++ Uri.portText u.authority
  | none => host

/-- The body that an ordinary request is sent with. The client sends none with a request that asks
by GET or HEAD, unless its length is known beforehand. -/
def sentBody (r : Request) (body : Bytes) : Bytes :=
  if r.headers.has "transfer-encoding" && (r.method = "GET" || r.method = "HEAD") then []
  else body

namespace Dispatch

/-- What is said about a request that the client refuses to send. -/
def clientError (kind : String) : Text :=
  ("client error (" : Text) ++ (kind : Text) ++ [')']

/-- An ordinary request on its way. It needs an absolute target of a known scheme; otherwise the
messages of the failure are given. -/
def ordinary (r : Request) (body : Bytes) : Except (List Text) Dispatch :=
  match r.uri.scheme with
  | none => .error [clientError "UserAbsoluteUriRequired"]
  | some scheme =>
    if scheme ≠ "https" ∧ scheme ≠ "http" then
      .error [clientError "Connect", ("unsupported scheme " : Text) ++ scheme]
    else
      let secure := scheme == "https"
      let headers :=
        if r.headers.has "host" then r.headers
        else r.headers.append "host" (Utf8.encode (hostField r.uri secure))
      .ok
        { contact :=
            ⟨bareHost (Uri.hostOf r.uri.authority), portOrDefault r.uri secure⟩
          secure
          passage := .ordinary
          request := { r with uri := originForm r.uri, headers }
          body }

/-- A handshake on its way, if its target names a host. -/
def upgrade? (r : Request) (body : Bytes) : Option Dispatch :=
  if r.uri.authority = [] then none
  else
    let secure := r.uri.scheme == some "https" || r.uri.scheme == some "wss"
    let headers := (r.headers.remove "proxy-connection").remove "proxy-authorization"
    some
      { contact := ⟨bareHost (Uri.hostOf r.uri.authority), portOrDefault r.uri secure⟩
        secure
        passage := .upgrade
        request := { r with uri := originForm r.uri, headers }
        body }

end Dispatch

end FilteringProxy
