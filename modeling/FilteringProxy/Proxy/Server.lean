import FilteringProxy.Proxy.Config
import FilteringProxy.Proxy.Error

/-! # Servers

A server is made from a configuration whose trusted certificates are certificates, and starts where
its address is free.
-/

namespace FilteringProxy

/-- A server that has not been started. -/
structure Server where
  config : Config

namespace Server

/-- A server, if all that is to be trusted is a certificate. -/
def make (config : Config) : Except ProxyError Server :=
  let isCertificate : TrustRoot → Bool
    | .certificate _ => true
    | .bytes _ => false
  if config.trustedRoots.all isCertificate then .ok ⟨config⟩
  else .error (.tls "invalid peer certificate: BadEncoding")

/-- Start a server where others have taken some addresses, and the system has chosen a port for
those that leave the choice to it. Gives the address on which the server listens. -/
def start (s : Server) (taken : SocketAddress → Bool) (chosen : Nat) :
    Except ProxyError SocketAddress :=
  let address := s.config.address
  if taken address then .error (.bind address "Address already in use (os error 98)")
  else .ok (if address.port = 0 then { address with port := chosen } else address)

end Server

end FilteringProxy
