import FilteringProxy.Certificate.Error
import FilteringProxy.Net.SocketAddress
import FilteringProxy.Text.Duration

/-! # Errors of a proxy -/

namespace FilteringProxy

/-- Why a proxy cannot be made, started or stopped. -/
inductive ProxyError where
  | certificate (error : CertificateError)
  | io (reason : Text)
  | tls (reason : Text)
  | bind (address : SocketAddress) (reason : Text)
  | shutdown (reason : Text)
  deriving Repr, DecidableEq

namespace ProxyError

def message : ProxyError → Text
  | certificate error => ("Certificate error: " : Text) ++ error.message
  | io reason => ("IO error: " : Text) ++ reason
  | tls reason => ("TLS error: " : Text) ++ reason
  | bind address reason =>
    ("Failed to bind " : Text) ++ address.print ++ (": " : Text) ++ reason
  | shutdown reason => ("Shutdown error: " : Text) ++ reason

/-- Connections are still in use after the time for them to end. -/
def stillOpen (waited : Nat) : ProxyError :=
  .shutdown (("connections still open after " : Text) ++ Duration.print waited)

end ProxyError

end FilteringProxy
