import FilteringProxy.Text.Blank

/-! # Hosts that are not intercepted

A set of names. A host belongs to it if its own name or the name of a domain above it is a member.
Names are compared without blanks around them, without full stops at the end and in lower case.
-/

namespace FilteringProxy

/-- The set of hosts whose connections are passed through unread. -/
structure TransparentHosts where
  /-- The members, each once. -/
  names : List Text := []
  deriving Repr, DecidableEq

namespace TransparentHosts

/-- The form in which names are compared. -/
def normalize (host : Text) : Text := Text.lower (Text.dropEnd (· == '.') (Text.trim host))

/-- The domains above a name: what follows each full stop, unless nothing does. -/
def parents : Text → List Text
  | [] => []
  | c :: r => if c = '.' && r ≠ [] then r :: parents r else parents r

/-- The set has this very name as a member. -/
def has (s : TransparentHosts) (name : Text) : Bool := s.names.contains name

/-- The host or a domain above it is a member. -/
def contains (s : TransparentHosts) (host : Text) : Bool :=
  (normalize host :: parents (normalize host)).any s.has

/-- The set with a name that is already in the form of comparison. -/
def insert (s : TransparentHosts) (name : Text) : TransparentHosts :=
  if s.has name then s else ⟨s.names ++ [name]⟩

/-- Add a host; tells whether its name was new. -/
def add (s : TransparentHosts) (host : Text) : TransparentHosts × Bool :=
  (s.insert (normalize host), !s.has (normalize host))

/-- The set of the given hosts; names of nothing are left out. -/
def ofList (hosts : List Text) : TransparentHosts :=
  ((hosts.map normalize).filter (· ≠ [])).foldl insert {}

def size (s : TransparentHosts) : Nat := s.names.length

end TransparentHosts

end FilteringProxy
