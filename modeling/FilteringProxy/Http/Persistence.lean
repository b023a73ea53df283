import FilteringProxy.Http.HopByHop
import FilteringProxy.Http.Message

/-! # Connections that stay open

Whether a connection stays open after an exchange, by the versions and the `connection` headers of
request and response, and how a server says so in its response.
-/

namespace FilteringProxy.Http

def valueHas (value : Bytes) (word : Text) : Bool :=
  match readable? value with
  | some t => (Text.splitOn ',' t).any fun element => Text.sameLetters (Text.trim element) word
  | none => false

/-- The client wants the connection to stay open: by default since version 1.1, else if it says
so. -/
def Request.wantsPersistence (r : Request) : Bool :=
  (r.headers.values "connection").foldl
    (fun stillOpen value =>
      if stillOpen then !valueHas value "close" else valueHas value "keep-alive")
    (r.version != .http10)

/-- The headers with all values of `connection` in one. -/
def Headers.withJoinedConnection (h : Headers) : Headers :=
  match h.values "connection" with
  | [] => h
  | [_] => h
  | value :: values =>
    h.replace "connection" (values.foldl (fun row v => row ++ Utf8.encode ", " ++ v) value)

/-- A response as it goes out to a client that speaks a version, and whether the connection stays
open after it; `wanted` tells whether client and server want that. -/
def Response.conclude (response : Response) (version : Version) (wanted : Bool) :
    Response × Bool :=
  let headers := response.headers
  let stays := wanted && response.status != 101
  if version = .http10 then
    let said := (headers.first? "connection").any (valueHas · "keep-alive")
    if said then (response, stays)
    else if response.version = .http10 || !wanted then (response, false)
    else
      ({ response with headers := headers.replace "connection" (Utf8.encode "keep-alive") }, stays)
  else
    let headers :=
      if wanted then headers else headers.replace "connection" (Utf8.encode "close")
    let closes := (headers.values "connection").any (valueHas · "close")
    ({ response with headers := headers.withJoinedConnection }, stays && !closes)

end FilteringProxy.Http
