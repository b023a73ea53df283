import FilteringProxy.Certificate.Issuer
import FilteringProxy.Filter.Show
import FilteringProxy.Net.SocketAddress
import FilteringProxy.Text.Duration
import FilteringProxy.Text.Quoted
import FilteringProxy.Text.Utf8

/-! # Configuration

What a proxy is told before it starts: where to listen, what to filter, whom to trust, which hosts
to leave alone, and how long to wait for what. Durations are in milliseconds.
-/

namespace FilteringProxy

/-- How long the proxy waits. -/
structure Timeouts where
  /-- For the head of a request. -/
  headerRead : Nat := 10 * second
  /-- For a connection to an origin. -/
  connect : Nat := 60 * second
  /-- For a secure connection to be agreed on, with a client or an origin. -/
  tlsHandshake : Nat := 20 * second
  /-- For the head of a response. -/
  client : Nat := 60 * second
  /-- For open connections when the proxy stops. -/
  shutdown : Nat := 10 * second
  deriving Repr, DecidableEq

/-- What an origin may be trusted by. -/
inductive TrustRoot where
  | certificate (certificate : Certificate)
  | bytes (bytes : Bytes)
  deriving Repr, DecidableEq

structure Config where
  /-- Where to listen; port zero leaves the choice of a port to the system. -/
  address : SocketAddress := .loopback 0
  filter : Filter := {}
  /-- Hosts that are not intercepted, with everything below them. -/
  ignoredHosts : List Text := []
  /-- Whom to trust beside the public authorities. -/
  trustedRoots : List TrustRoot := []
  timeouts : Timeouts := {}
  cacheCapacity : Nat := Issuer.defaultCapacity
  sweepInterval : Nat := Issuer.sweepInterval

namespace Config

/-- The configuration that listens on the machine itself under another port number. -/
def withPort (c : Config) (port : Nat) : Config := { c with address := .loopback port }

/-- The configuration with another number of certificates to keep; there must be room for one. -/
def withCacheCapacity? (c : Config) (capacity : Nat) : Option Config :=
  if capacity = 0 then none else some { c with cacheCapacity := capacity }

end Config

namespace Show

def timeouts (t : Timeouts) : Text :=
  record "Timeouts"
    [("header_read", Duration.print t.headerRead), ("connect", Duration.print t.connect),
      ("tls_handshake", Duration.print t.tlsHandshake), ("client", Duration.print t.client),
      ("shutdown", Duration.print t.shutdown)]

/-- A configuration. Of what is trusted only the number is told. -/
def config (c : Config) : Text :=
  record "ProxyConfig"
    [("addr", c.address.print), ("filter", filter c.filter),
      ("root", Text.quote "RootCertificateSource"),
      ("ignored_hosts", row (c.ignoredHosts.map Text.quote)),
      ("upstream_roots", Text.ofNat c.trustedRoots.length), ("timeouts", timeouts c.timeouts),
      ("cert_cache_capacity", Text.ofNat c.cacheCapacity),
      ("cert_sweep_interval", Duration.print c.sweepInterval)]

def openRecord (name : String) (parts : List (String × Text)) : Text :=
  (name : Text) ++ (" \x7b " : Text) ++
    (parts.map fun (label, value) =>
      (label : Text) ++ (": " : Text) ++ value ++ (", " : Text)).flatten ++ (".. \x7d" : Text)

def server (c : Config) : Text := openRecord "ProxyServer" [("config", config c)]

/-- An authority, of which only the length of its certificate is told. -/
def root (length : Text) : Text := openRecord "RootCertificate" [("cert_der_len", length)]

end Show

end FilteringProxy
