import FilteringProxy.Http.Headers
import FilteringProxy.Http.Uri

/-! # Messages

Requests and responses without their bodies: what rules look at and edit.
-/

namespace FilteringProxy.Http

inductive Version where
  | http09
  | http10
  | http11
  | http2
  | http3
  deriving Repr, DecidableEq

namespace Version

def print : Version → Text
  | http09 => "HTTP/0.9"
  | http10 => "HTTP/1.0"
  | http11 => "HTTP/1.1"
  | http2 => "HTTP/2.0"
  | http3 => "HTTP/3.0"

def parse? (t : Text) : Option Version :=
  [http09, http10, http11, http2, http3].find? (·.print == t)

end Version

structure Request where
  method : Text
  uri : Uri
  version : Version
  headers : Headers
  deriving Repr, DecidableEq

structure Response where
  status : Nat
  version : Version
  headers : Headers
  deriving Repr, DecidableEq

/-- A response together with the request that it answers. -/
structure Exchange where
  request : Request
  response : Response
  deriving Repr, DecidableEq

namespace Request

def host? (r : Request) : Option Text := r.uri.host?.map Text.lower

end Request

end FilteringProxy.Http
