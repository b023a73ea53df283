import FilteringProxy.Text.Basic

/-! # Expiring cache

A cache for values of hosts that holds a limited number of them. What was used last stands first;
when the cache is full, the last one gives way. Every value has a time from which on it is not given
out any more. The time is an argument of what asks for it.
-/

namespace FilteringProxy

structure CacheEntry (α : Type) where
  host : Text
  value : α
  expires : Nat
  deriving Repr, DecidableEq

def CacheEntry.isFresh (e : CacheEntry α) (now : Nat) : Bool := now < e.expires

structure Cache (α : Type) where
  capacity : Nat
  /-- The entries, the last used one first. -/
  entries : List (CacheEntry α) := []
  deriving Repr, DecidableEq

namespace Cache

def find? (c : Cache α) (host : Text) : Option (CacheEntry α) :=
  c.entries.find? (·.host == host)

def others (c : Cache α) (host : Text) : List (CacheEntry α) :=
  c.entries.filter (·.host != host)

/-- Ask for the value of a host. A fresh entry comes to the front, an expired one is dropped. -/
def get (c : Cache α) (now : Nat) (host : Text) : Cache α × Option α :=
  match c.find? host with
  | none => (c, none)
  | some e =>
    if e.isFresh now then ({ c with entries := e :: c.others host }, some e.value)
    else ({ c with entries := c.others host }, none)

/-- Store a value for a host, in front and in place of what was there. -/
def put (c : Cache α) (host : Text) (value : α) (expires : Nat) : Cache α :=
  { c with entries := (⟨host, value, expires⟩ :: c.others host).take c.capacity }

/-- Drop all expired entries; tells how many there were. -/
def sweep (c : Cache α) (now : Nat) : Cache α × Nat :=
  ({ c with entries := c.entries.filter (·.isFresh now) },
    (c.entries.filter (!·.isFresh now)).length)

def purge (c : Cache α) : Cache α := { c with entries := [] }

def size (c : Cache α) : Nat := c.entries.length

end Cache

end FilteringProxy
