import FilteringProxy.Certificate.Issuer
import FilteringProxy.Filter
import FilteringProxy.Proxy.Failure
import FilteringProxy.Proxy.TransparentHosts
import FilteringProxy.Proxy.Dispatch
import FilteringProxy.Url.ServerName

/-! # The proxy

A proxy handles what its clients do one thing at a time; `step` is one such thing. What lies outside
is an argument: the authority that is loaded, the clock, and how connections to origins turn out.
What the proxy keeps from one step to the next is its set of transparent hosts, its certificates and
its intercepted connections.
-/

namespace FilteringProxy

open Http (Request Response Uri Headers)

/-- What comes of opening a connection that is only passed through. -/
inductive Dial where
  | connected
  | failed (message : Text)
  | timedOut
  deriving Repr, DecidableEq

/-- What lies outside of the proxy during one step. -/
structure Surroundings where
  root : Except CertificateError Root
  clock : Clock := {}
  /-- What comes of opening a connection. -/
  dial : Contact → Dial
  /-- What comes of a request to an origin. -/
  reach : Dispatch → Outcome

/-- How a client takes the offer of a secure connection. -/
inductive Handshake where
  | completed
  /-- It fails inside the protocol: by an alert, or because something else is spoken. -/
  | broken
  | left
  | timedOut
  deriving Repr, DecidableEq

/-- How far an intercepted connection has come. -/
inductive SessionStage where
  | opening
  | secured
  | closed
  deriving Repr, DecidableEq

structure Session where
  /-- The authority that the client asked for. -/
  authority : Text
  stage : SessionStage := .opening
  deriving Repr, DecidableEq

/-- The host of an authority as the proxy knows it: without brackets, in lower case. -/
def knownHost (authority : Text) : Text := (bareHost (Uri.hostOf authority)).lower

def Session.host (s : Session) : Text := knownHost s.authority

structure Proxy where
  filter : Filter
  transparent : TransparentHosts
  issuer : Issuer
  /-- All intercepted connections so far; each is known by its place. -/
  sessions : List Session := []

inductive Input where
  /-- Ask for a connection to the authority of the target. -/
  | connect (target : Uri)
  /-- Take the offer of a secure connection, one way or another. -/
  | handshake (session : Nat) (result : Handshake)
  /-- Send a request to the proxy itself. -/
  | request (r : Request) (body : Bytes)
  /-- Send a request on an intercepted connection. -/
  | inside (session : Nat) (r : Request) (body : Bytes)
  deriving DecidableEq

/-- What a request to the proxy itself asks for. -/
def Input.ofRequest (r : Request) (body : Bytes) : Input :=
  if r.method = "CONNECT" then .connect r.uri else .request r body

inductive Answer where
  | reply (reply : Reply)
  | tunnel (contact : Contact)
  | session (place : Nat) (leaf : Leaf)
  /-- Nothing that a request would get. -/
  | none
  deriving Repr, DecidableEq

/-- What a step does beside answering. -/
structure Effects where
  /-- The connections that it opens, or tries to. -/
  contacts : List Contact := []
  /-- The requests that it sends to origins, or tries to. -/
  dispatches : List Dispatch := []
  events : List Event := []
  deriving Repr, DecidableEq

/-- Where a connection goes that a client asks for. -/
inductive Route where
  | tunnel
  | intercept (leaf : Leaf)
  deriving Repr, DecidableEq

/-- What is decided about a request before anything is sent. -/
inductive Decision where
  /-- The filter answers it. -/
  | answer (response : Response)
  /-- It is passed on as a handshake. -/
  | upgrade (r : Request)
  /-- It is passed on as an ordinary request. -/
  | forward (r : Request)
  deriving Repr, DecidableEq

namespace Proxy

def defaultPort : Nat := 443

/-- The place that an authority names. -/
def contactOf (authority : Text) : Contact :=
  ⟨bareHost (Uri.hostOf authority), (Uri.portNumber? authority).getD defaultPort⟩

def learn (p : Proxy) (host : Text) : Proxy :=
  { p with transparent := (p.transparent.add host).1 }

/-- Where a connection to a host goes: addresses and transparent hosts are passed through, and so is
a host that no certificate can be issued for. -/
def route (p : Proxy) (w : Surroundings) (host : Text) : Proxy × Route :=
  if Url.isAddress host || p.transparent.contains host then (p, .tunnel)
  else
    match p.issuer.get w.root w.clock host with
    | (issuer, .ok leaf) => ({ p with issuer }, .intercept leaf)
    | (issuer, .error _) => ({ p with issuer }, .tunnel)

/-- Open a connection that is passed through. -/
def dial (w : Surroundings) (authority : Text) : Answer × Effects :=
  let contact := contactOf authority
  let answer := match w.dial contact with
    | .connected => .tunnel contact
    | .failed message => .reply (.badGateway message)
    | .timedOut => .reply (.badGateway "connect timed out")
  (answer, { contacts := [contact] })

def connect (p : Proxy) (w : Surroundings) (target : Uri) : Proxy × Answer × Effects :=
  if target.authority = [] then
    (p, .reply (.text 400 "CONNECT target must be host:port"), {})
  else
    match p.route w (knownHost target.authority) with
    | (p, .tunnel) => (p, dial w target.authority)
    | (p, .intercept leaf) =>
      ({ p with sessions := p.sessions ++ [{ authority := target.authority }] },
        .session p.sessions.length leaf, {})

def atStage (p : Proxy) (place : Nat) (stage : SessionStage) : Proxy :=
  { p with sessions := p.sessions.modify place fun s => { s with stage } }

/-- A client takes the offer of a secure connection. Only a failure inside the protocol tells that
it will never accept a certificate of the proxy. -/
def handshake (p : Proxy) (place : Nat) (result : Handshake) : Proxy :=
  match p.sessions[place]? with
  | none => p
  | some s =>
    if s.stage ≠ .opening then p
    else
      match result with
      | .completed => p.atStage place .secured
      | .broken => (p.learn s.host).atStage place .closed
      | .left => p.atStage place .closed
      | .timedOut => p.atStage place .closed

def decide (p : Proxy) (r : Request) : Decision × List Event :=
  let outcome := p.filter.onRequest r
  let decision := match outcome.response with
    | some response => .answer response
    | none =>
      if outcome.request.headers.asksForWebSocket then .upgrade outcome.request
      else .forward { outcome.request with headers := outcome.request.headers.withoutHop }
  (decision, outcome.events)

/-- What is said about an ordinary request that fails. -/
def clientMessages (stage : Stage) (messages : List Text) : List Text :=
  match stage with
  | .exchange => Dispatch.clientError "SendRequest" :: messages
  | _ => Dispatch.clientError "Connect" :: messages

/-- The answer to a client whose ordinary request failed. On an intercepted connection a failure of
the secure connection to the origin tells that its host is not to be intercepted. -/
def fail (p : Proxy) (intercepted : Option Text) (messages : List Text) : Proxy × Reply :=
  let message := Failure.describe messages
  let p := match intercepted with
    | some host => if Failure.isTls message then p.learn host else p
    | none => p
  (p, .badGateway message)

/-- The response of an origin to a request, edited for the client. -/
def finish (p : Proxy) (head : Request) (reply : Reply) : Reply × List Event :=
  let response := { reply.response with headers := reply.response.headers.withoutHop }
  let (response, events) := p.filter.onResponse ⟨head, response⟩
  ({ reply with response }, events)

def send (p : Proxy) (w : Surroundings) (intercepted : Option Text) (head : Request)
    (body : Bytes) : Proxy × Reply × Effects :=
  match Dispatch.ordinary head body with
  | .error messages =>
    let (p, reply) := p.fail intercepted messages
    (p, reply, {})
  | .ok d =>
    let effects : Effects := { contacts := [d.contact], dispatches := [d] }
    match w.reach d with
    | .answered reply =>
      let (reply, events) := p.finish head reply
      (p, reply, { effects with events })
    | .failed stage messages =>
      let (p, reply) := p.fail intercepted (clientMessages stage messages)
      (p, reply, effects)
    | .timedOut _ => (p, .badGateway "upstream request timed out", effects)

/-- What a client is told when a step of a handshake for another protocol takes too long. -/
def upgradeTimeout : Stage → Text
  | .connect => "connect timed out"
  | .handshake => "TLS handshake timed out"
  | .exchange => "upstream request timed out"

/-- Pass on a handshake for another protocol. Its response goes to the client as it is. Where the
host is no name that a secure connection can be asked for by, that is told once the connection is
open. -/
def relay (w : Surroundings) (r : Request) (body : Bytes) : Reply × Effects :=
  match Dispatch.upgrade? r body with
  | none => (.text 400 "WebSocket request without a host", {})
  | some d =>
    if d.secure && !Url.isServerName d.contact.host then
      let reply := match w.dial d.contact with
        | .connected => .text 400 "invalid dns name"
        | .failed message => .badGateway message
        | .timedOut => .badGateway (upgradeTimeout .connect)
      (reply, { contacts := [d.contact] })
    else
      let reply := match w.reach d with
        | .answered reply => reply
        | .failed _ messages => .badGateway (Failure.describe messages)
        | .timedOut stage => .badGateway (upgradeTimeout stage)
      (reply, { contacts := [d.contact], dispatches := [d] })

/-- Handle a request with an absolute target; `intercepted` is the host of the intercepted
connection that it was read from. -/
def serve (p : Proxy) (w : Surroundings) (intercepted : Option Text) (r : Request)
    (body : Bytes) : Proxy × Reply × Effects :=
  let (decision, events) := p.decide r
  let (p, reply, effects) : Proxy × Reply × Effects := match decision with
    | .answer response => (p, .bare response, {})
    | .upgrade r => (p, relay w r body)
    | .forward head => p.send w intercepted head (sentBody r body)
  (p, reply, { effects with events := events ++ effects.events })

def plain (p : Proxy) (w : Surroundings) (r : Request) (body : Bytes) :
    Proxy × Reply × Effects :=
  if r.uri.authority = [] then
    (p, .text 400 "proxy requests must use absolute URIs", {})
  else p.serve w none r body

end Proxy

namespace Session

/-- Host and port that the connection was asked for; the usual port goes without saying. -/
def hostAndPort (s : Session) : Text :=
  let port := match Uri.portNumber? s.authority with
    | some port => if port = Proxy.defaultPort then [] else ':' :: Text.ofNat port
    | none => []
  Uri.hostOf s.authority ++ port

/-- How the target of a request on an intercepted connection is written: path and query as asked
for, at the place that the connection was asked for. -/
def writtenTarget (s : Session) (asked : Uri) : Text :=
  ("https" : Text) ++ ("://" : Text) ++ (s.hostAndPort ++ asked.pathAndQuery?.getD "/")

def target? (s : Session) (asked : Uri) : Option Uri := Uri.parse? (s.writtenTarget asked)

/-- What is said about a request whose target is written so that it is none. -/
def targetFault (s : Session) (asked : Uri) : Text :=
  if Uri.lengthLimit < Utf8.size (s.writtenTarget asked) then "uri too long"
  else if (Uri.splitAuthority (s.hostAndPort ++ asked.pathAndQuery?.getD "/")).1 = [] then
    "invalid format"
  else "invalid authority"

end Session

namespace Proxy

def intercepted (p : Proxy) (w : Surroundings) (s : Session) (r : Request) (body : Bytes) :
    Proxy × Reply × Effects :=
  match s.target? r.uri with
  | none => (p, .text 400 (s.targetFault r.uri), {})
  | some uri => p.serve w (some s.host) { r with uri } body

def inside (p : Proxy) (w : Surroundings) (place : Nat) (r : Request) (body : Bytes) :
    Proxy × Answer × Effects :=
  match p.sessions[place]? with
  | none => (p, .none, {})
  | some s =>
    if s.stage = .secured then
      let (p, reply, effects) := p.intercepted w s r body
      (p, .reply reply, effects)
    else (p, .none, {})

/-- Handle one thing that a client does. -/
def step (w : Surroundings) (p : Proxy) : Input → Proxy × Answer × Effects
  | .connect target => p.connect w target
  | .handshake place result => (p.handshake place result, .none, {})
  | .request r body =>
    let (p, reply, effects) := p.plain w r body
    (p, .reply reply, effects)
  | .inside place r body => p.inside w place r body

/-- The proxy after several things, each in surroundings of its own. -/
def run (p : Proxy) (inputs : List (Surroundings × Input)) : Proxy :=
  inputs.foldl (fun p (w, input) => (step w p input).1) p

end Proxy

end FilteringProxy
