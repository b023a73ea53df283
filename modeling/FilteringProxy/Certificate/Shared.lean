import FilteringProxy.Certificate.Issuer

/-! # Calls for certificates that overlap

Many calls share one cache and one loaded authority. A call asks the cache; if that has nothing, it
reads the authority and issues a certificate; and then it stores what it has issued. Each of these
steps holds its lock alone, and none is held in between: there other calls may take steps, another
authority may be loaded and the cache purged.
-/

namespace FilteringProxy

/-- How far a call for a certificate has come. -/
inductive CallStage where
  | begun
  /-- The cache has nothing to give out. -/
  | missed
  /-- A certificate is issued and not stored yet. -/
  | signed (leaf : Leaf)
  | answered (answer : Except CertificateError Leaf)

/-- The next step of a call for a host, at a time: what becomes of the issuer, and how far the call
has come then. -/
def CallStage.next (i : Issuer) (root : Except CertificateError Root) (now : Nat) (host : Text) :
    CallStage → Issuer × CallStage
  | begun =>
    match i.cache.get now host with
    | (cache, some leaf) => ({ i with cache }, answered (.ok leaf))
    | (cache, none) => ({ i with cache }, missed)
  | missed =>
    match root with
    | .error e => (i, answered (.error e))
    | .ok root =>
      match Leaf.issue root i.issued now host with
      | .error e => (i, answered (.error e))
      | .ok leaf => ({ i with issued := i.issued + 1 }, signed leaf)
  | signed leaf =>
    ({ i with cache := i.cache.put host leaf (Issuer.keptUntil now) }, answered (.ok leaf))
  | answered answer => (i, answered answer)

structure CertificateCall where
  host : Text
  stage : CallStage := .begun

/-- What happens next, for whichever call. -/
inductive IssuerEvent where
  | call (host : Text)
  /-- The call with this place among all calls takes its next step. -/
  | go (place now : Nat)
  /-- An authority is loaded, or it is not there any more. -/
  | load (root : Except CertificateError Root)
  | purge
  | sweep (now : Nat)

/-- An issuer with the authority that is loaded and all calls so far. -/
structure SharedIssuer where
  issuer : Issuer
  root : Except CertificateError Root := .error .notInitialized
  calls : List CertificateCall := []

namespace SharedIssuer

def step (s : SharedIssuer) : IssuerEvent → SharedIssuer
  | .call host => { s with calls := s.calls ++ [{ host }] }
  | .go place now =>
    match s.calls[place]? with
    | none => s
    | some c =>
      let (issuer, stage) := c.stage.next s.issuer s.root now c.host
      { s with issuer, calls := s.calls.set place { c with stage } }
  | .load root => { s with root }
  | .purge => { s with issuer := { s.issuer with cache := s.issuer.cache.purge } }
  | .sweep now => { s with issuer := { s.issuer with cache := (s.issuer.cache.sweep now).1 } }

/-- What comes of a schedule. -/
def run (s : SharedIssuer) (events : List IssuerEvent) : SharedIssuer := events.foldl step s

end SharedIssuer

end FilteringProxy
