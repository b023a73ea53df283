import FilteringProxy.Certificate.Basic
import FilteringProxy.Certificate.Cache

/-! # Certificates for hosts

An issuer signs a certificate for each host that is asked for and keeps it as long as it will stay
valid for a while. The times of one call are told one by one, since time passes while it runs.
-/

namespace FilteringProxy

structure Leaf where
  certificate : Certificate
  deriving Repr, DecidableEq

/-- The clock as one call reads it. -/
structure Clock where
  /-- When the cache is asked. -/
  lookup : Nat := 0
  /-- When the certificate is dated. -/
  date : Nat := 0
  /-- When the certificate is stored. -/
  store : Nat := 0
  deriving Repr, DecidableEq

namespace Leaf

/-- How long a certificate is valid from its date on. -/
def lifetime : Nat := day

/-- How long before its date the validity begins, for clocks that are late. -/
def leeway : Nat := minute

/-- The protocols that a server with a leaf offers. -/
def protocols : List Text := ["http/1.1"]

def issue (root : Root) (number date : Nat) (host : Text) : Except CertificateError Leaf :=
  match SubjectName.ofHost? host with
  | none => .error (.generation "the name of the host is not ASCII")
  | some name =>
    .ok
      { certificate :=
          { subject := { organization := Root.organization }
            issuer := root.certificate.subject
            names := [name]
            usages := [.digitalSignature]
            serverAuth := true
            clientAuth := true
            namesSigner := true
            serial := number + 1
            notBefore := dateOf ((date : Int) - leeway)
            notAfter := dateOf ((date : Int) + lifetime)
            key := .leaf number
            signer := root.key } }

end Leaf

structure Issuer where
  cache : Cache Leaf
  issued : Nat := 0
  deriving Repr, DecidableEq

namespace Issuer

/-- How many certificates are kept unless something else is said. -/
def defaultCapacity : Nat := 5800

/-- How long before its end a certificate is dropped. -/
def reserve : Nat := 5 * minute

/-- How often expired certificates are looked for. -/
def sweepInterval : Nat := 5 * minute

/-- The time from which on a certificate is not kept any more, if it is stored now. -/
def keptUntil (now : Nat) : Nat := now + Leaf.lifetime - reserve

/-- A certificate for a host: one that is kept, or a new one. A failure changes nothing but that an
expired certificate is dropped. -/
def get (i : Issuer) (root : Except CertificateError Root) (clock : Clock) (host : Text) :
    Issuer × Except CertificateError Leaf :=
  match i.cache.get clock.lookup host with
  | (cache, some leaf) => ({ i with cache }, .ok leaf)
  | (cache, none) =>
    match root with
    | .error e => ({ i with cache }, .error e)
    | .ok root =>
      match Leaf.issue root i.issued clock.date host with
      | .error e => ({ i with cache }, .error e)
      | .ok leaf =>
        ({ cache := cache.put host leaf (keptUntil clock.store), issued := i.issued + 1 },
          .ok leaf)

end Issuer

end FilteringProxy
