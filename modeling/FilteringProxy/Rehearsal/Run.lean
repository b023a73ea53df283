import FilteringProxy.Http.Persistence
import FilteringProxy.Proxy.Error
import FilteringProxy.Rehearsal.Origin

/-! # Rehearsals

A rehearsal plays a script: the client, a proxy and the origins in memory. The proxy is the one of
`Proxy.step`; what is told here is how the others behave and what the client gets to see.
-/

namespace FilteringProxy.Rehearsal

open Http (Request Response Headers Field)

/-- What becomes of one request of the client. -/
inductive TurnResult where
  | answered (status : Nat) (headers : Headers) (body : Bytes) (echoed : Option (List Bytes))
      (origin : List Seen) (events : List Event)
  /-- The connection ends before a response. -/
  | closed (origin : List Seen) (events : List Event)
  deriving Repr, DecidableEq

/-- Whose certificate a client is shown. -/
inductive PeerCertificate where
  | proxy (names : List SubjectName)
  | origin
  deriving Repr, DecidableEq

/-- What becomes of a connection that the client asked for. -/
inductive ConnectResult where
  /-- It does not get it. -/
  | refused (status : Nat) (body : Bytes)
  | secured (peer : PeerCertificate) (turns : List TurnResult)
  | unsecured
  | plain (turns : List TurnResult)
  | left
  | hungUp
  deriving Repr, DecidableEq

inductive StepResult where
  | plain (turns : List TurnResult)
  | connect (result : ConnectResult)
  | hungUp
  deriving Repr, DecidableEq

/-- Who answers on a connection of the client. -/
inductive Line where
  | proxy
  /-- The proxy, on an intercepted connection. -/
  | session (place : Nat)
  /-- An origin that is reached through the proxy. -/
  | origin (secure : Bool)
  deriving Repr, DecidableEq

namespace Script

def proxy (s : Script) : Proxy :=
  { filter :=
      (({ watch := .everything } : Filter).addList
        (Utf8.encode (Text.join ['\n'] s.rules)) "list").1
    transparent := .ofList s.ignored
    issuer := { cache := { capacity := Issuer.defaultCapacity } } }

/-- What surrounds the proxy while the origins behave in a certain way. -/
def surroundings (s : Script) (reply : OriginReply) : Surroundings :=
  { root := if s.hasRoot then .ok (Root.generate 0 0) else .error .notInitialized
    dial := dialed s.ports
    reach := reach s.ports s.trustsOrigin reply }

/-- What a server answers to a request that it refuses to read. -/
def refusal (why : Http.Wire.Refusal) : TurnResult :=
  match why.status? with
  | some status =>
    .answered status (({} : Headers).append "connection" (Utf8.encode "close")) [] none [] []
  | none => .closed [] []

/-- The pieces that come back after a change of protocol. -/
def echo (status : Nat) (frames : List Bytes) : Option (List Bytes) :=
  if status = 101 then some frames else none

/-- What becomes of the body of a request. -/
inductive BodyFate where
  | read
  /-- It is given up before there is a response. -/
  | givenUp
  /-- It is left unread after the response. -/
  | left
  deriving Repr, DecidableEq

/-- What becomes of the body of a request. One of known length is so short that it is read anyway;
one in chunks is read if it is sent on to an origin, and given up if it could be but is not. -/
def fateOf (s : Script) (framing : Http.Wire.Framing) (body : Bytes) (reply : OriginReply)
    (dispatches : List Dispatch) : BodyFate :=
  let reached (d : Dispatch) : Bool :=
    match reach s.ports s.trustsOrigin reply d with
    | .answered _ => true
    | .failed stage _ => stage = .exchange
    | .timedOut stage => stage = .exchange
  match framing with
  | .length _ => .read
  | .chunked =>
    if body = [] then .read
    else
      match dispatches.find? reached with
      | some d => if d.body = [] then .givenUp else .read
      | none => .left

/-- The proxy answers a request. Tells whether the connection stays open. -/
def served (s : Script) (p : Proxy) (input : Request → Bytes → Input) (t : Turn) (r : Request)
    (framing : Http.Wire.Framing) (body : Bytes) : Proxy × TurnResult × Bool :=
  let (p, answer, effects) := p.step (s.surroundings t.reply) (input r body)
  let origin := (effects.dispatches.filter (isSeen s.ports s.trustsOrigin)).map Seen.ofDispatch
  match answer with
  | .reply reply =>
    let fate := s.fateOf framing body t.reply effects.dispatches
    let (response, stays) :=
      reply.response.conclude r.version (r.wantsPersistence && fate ≠ .givenUp)
    let shown := if isBodyless r.method response.status then [] else reply.body
    (p, .answered response.status response.headers shown (echo response.status t.frames) origin
      effects.events,
      stays && fate = .read && (reply.measured || r.version ≠ .http10))
  | .tunnel _ => (p, .answered 200 {} [] none origin effects.events, false)
  | .session _ _ => (p, .answered 200 {} [] none origin effects.events, false)
  | .none => (p, .closed origin effects.events, false)

def proxyTurn (s : Script) (p : Proxy) (input : Request → Bytes → Input) (t : Turn) :
    Proxy × TurnResult × Bool :=
  let reading := (Http.Wire.readHead t.sent).andThen fun r rest =>
    (Http.Wire.readFraming r.version r.headers rest).andThen fun framing rest =>
      (Http.Wire.readBody framing rest).andThen fun body rest =>
        .complete (r, framing, body) rest
  match reading with
  | .incomplete => (p, .closed [] [], false)
  | .refused why => (p, refusal why, false)
  | .complete (r, framing, body) _ => s.served p input t r framing body

/-- A request to an origin on a connection that the proxy passes through. -/
def originTurn (secure : Bool) (t : Turn) : TurnResult × Bool :=
  let reading := (Http.Wire.readRawHead t.sent).andThen fun head rest =>
    (Http.Wire.readFraming head.version head.headers rest).andThen fun framing rest =>
      (Http.Wire.readBody framing rest).andThen fun body rest => .complete (head, body) rest
  match reading with
  | .complete (head, body) _ =>
    let seen : Seen :=
      { method := head.method, target := head.target, version := head.version.print,
        headers := head.headers, body }
    match exchange secure head.method t.reply with
    | .answered reply =>
      let status := reply.response.status
      (.answered status reply.response.headers reply.body (echo status t.frames) [seen] [],
        status ≠ 101)
    | _ => (.closed [seen] [], false)
  | _ => (.closed [] [], false)

/-- One request of the client. -/
def turn (s : Script) (p : Proxy) (line : Line) (t : Turn) : Proxy × TurnResult × Bool :=
  match line with
  | .proxy => s.proxyTurn p .ofRequest t
  | .session place => s.proxyTurn p (.inside place) t
  | .origin secure => (p, originTurn secure t)

/-- The requests of the client on one connection. After the end of the connection one more request
finds it closed, and those that follow are left out. -/
def turns (s : Script) (line : Line) : (isOpen : Bool) → Proxy → List Turn →
    Proxy × List TurnResult
  | _, p, [] => (p, [])
  | false, p, _ :: _ => (p, [.closed [] []])
  | true, p, t :: ts =>
    match s.turn p line t with
    | (p, .closed origin events, _) => (p, [.closed origin events])
    | (p, result, stays) =>
      let (p, results) := s.turns line stays p ts
      (p, result :: results)

/-- How the client takes the offer of the proxy to make an intercepted connection secure. A name
with a full stop at its end may be asked for, but no certificate is accepted for it. -/
def handshake (client : Client) (host : Text) (turns : List Turn) : Handshake :=
  match client with
  | .secure =>
    if !Url.isServerName host then .left
    else if host.getLast? = some '.' then .broken
    else .completed
  | .distrusting => if Url.isServerName host then .broken else .left
  | .plain =>
    match turns with
    | [] => .left
    | t :: _ => if t.sent.length < 5 then .timedOut else .broken
  | .leaving => .left
  | .silent => .timedOut

/-- What the requests of a client come to on a connection that is of no use. -/
def deadTurns (turns : List Turn) : List TurnResult := (turns.take 1).map fun _ => .closed [] []

def intercepted (s : Script) (p : Proxy) (place : Nat) (leaf : Leaf) (host : Text)
    (client : Client) (ts : List Turn) : Proxy × ConnectResult :=
  let result := handshake client host ts
  let (p, _, _) := p.step (s.surroundings .standard) (.handshake place result)
  match client, result with
  | .plain, _ => (p, .plain (deadTurns ts))
  | .leaving, _ => (p, .left)
  | .silent, _ => (p, .hungUp)
  | _, .completed =>
    let (p, results) := s.turns (.session place) true p ts
    (p, .secured (.proxy leaf.certificate.names) results)
  | _, _ => (p, .unsecured)

def tunneled (s : Script) (p : Proxy) (listener : Listener) (client : Client) (ts : List Turn) :
    Proxy × ConnectResult :=
  match client, listener with
  | .secure, .tls =>
    let (p, results) := s.turns (.origin true) true p ts
    (p, .secured .origin results)
  | .secure, _ => (p, .unsecured)
  | .distrusting, _ => (p, .unsecured)
  | .plain, .http =>
    let (p, results) := s.turns (.origin false) true p ts
    (p, .plain results)
  | .plain, _ => (p, .plain (deadTurns ts))
  | .leaving, _ => (p, .left)
  | .silent, _ => (p, .hungUp)

def connect (s : Script) (p : Proxy) (request : ClientRequest) (client : Client)
    (ts : List Turn) : Proxy × ConnectResult :=
  match Http.Wire.readHead request.write with
  | .incomplete => (p, .hungUp)
  | .refused why =>
    (p, match why.status? with
      | some status => .refused status []
      | none => .hungUp)
  | .complete r _ =>
    match p.step (s.surroundings .standard) (.ofRequest r []) with
    | (p, .tunnel contact, _) =>
      match s.ports.find contact with
      | .ok listener => s.tunneled p listener client ts
      | .error _ => (p, .hungUp)
    | (p, .session place leaf, _) =>
      s.intercepted p place leaf (knownHost r.uri.authority) client ts
    | (p, .reply reply, _) => (p, .refused reply.response.status reply.body)
    | (p, .none, _) => (p, .hungUp)

def step (s : Script) (p : Proxy) : Step → Proxy × StepResult
  | .plain ts =>
    let (p, results) := s.turns .proxy true p ts
    (p, .plain results)
  | .connect request client ts =>
    let (p, result) := s.connect p request client ts
    (p, .connect result)
  | .begin _ => (p, .hungUp)

def playSteps (s : Script) : Proxy → List Step → Proxy × List StepResult
  | p, [] => (p, [])
  | p, st :: rest =>
    let (p, result) := s.step p st
    let (p, results) := s.playSteps p rest
    (p, result :: results)

/-- How long a connection is still in use. -/
inductive Use where
  | none
  | upTo (milliseconds : Nat)
  | forever
  deriving Repr, DecidableEq

/-- How long a request keeps the proxy waiting. -/
def waitFor (s : Script) (d : Dispatch) : Use :=
  match reach s.ports s.trustsOrigin .standard d, d.passage with
  | .timedOut _, .ordinary => .upTo s.timeouts.client
  | .timedOut .connect, .upgrade => .upTo s.timeouts.connect
  | .timedOut .handshake, .upgrade => .upTo s.timeouts.tlsHandshake
  | .timedOut .exchange, .upgrade => .forever
  | _, _ => .none

/-- How long the connection that the client keeps open is still in use. -/
def useOf (s : Script) (p : Proxy) (f : Farewell) : Use :=
  if f.waits || f.sent = [] then .none
  else
    match Http.Wire.readHead f.sent with
    | .incomplete => .upTo s.timeouts.headerRead
    | .refused _ => .none
    | .complete r rest =>
      match p.step (s.surroundings .standard) (.ofRequest r rest) with
      | (_, _, { dispatches := d :: _, .. }) => s.waitFor d
      | _ => .none

/-- What becomes of the order to stop: connections in use are waited for, up to a limit. -/
def stop (s : Script) (p : Proxy) : Except ProxyError Unit :=
  let use := match s.farewell with
    | some f => s.useOf p f
    | none => .none
  match use with
  | .none => .ok ()
  | .upTo t =>
    if t < s.timeouts.shutdown then .ok () else .error (.stillOpen s.timeouts.shutdown)
  | .forever => .error (.stillOpen s.timeouts.shutdown)

end Script

/-- What is seen of a rehearsal. -/
structure Report where
  steps : List StepResult
  stop : Except ProxyError Unit
  /-- The proxy still takes connections after it has been told to stop. -/
  listening : Bool := false

def play (s : Script) : Report :=
  let (p, steps) := s.playSteps s.proxy s.steps
  { steps, stop := s.stop p }

end FilteringProxy.Rehearsal
