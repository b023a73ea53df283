import FilteringProxy.Text.Utf8

/-! # Tunnels

A tunnel copies bytes both ways between a client and an origin, unread. When one side ends its
output the other sees the end of its input, and the way back stays open.
-/

namespace FilteringProxy

/-- A side of a tunnel. -/
inductive Peer where
  | client
  | origin
  deriving Repr, DecidableEq

/-- The ways through a tunnel that are open. -/
structure Tunnel where
  /-- From the client to the origin. -/
  outward : Bool := true
  /-- From the origin to the client. -/
  inward : Bool := true
  deriving Repr, DecidableEq

/-- What arrives on the other side. -/
structure Arrival where
  bytes : Option Bytes
  /-- The input of the other side ends. -/
  ended : Bool
  deriving Repr, DecidableEq

namespace Tunnel

def isOpen (t : Tunnel) : Peer → Bool
  | .client => t.outward
  | .origin => t.inward

/-- The tunnel after a side has ended its output. -/
def finish (t : Tunnel) : Peer → Tunnel
  | .client => { t with outward := false }
  | .origin => { t with inward := false }

/-- A side sends bytes, and then perhaps ends its output. -/
def send (t : Tunnel) (sender : Peer) (bytes : Option Bytes) (last : Bool) : Tunnel × Arrival :=
  (if last then t.finish sender else t,
    { bytes := if t.isOpen sender then bytes else none, ended := last })

/-- Nothing can pass any more. -/
def isOver (t : Tunnel) : Bool := !t.outward && !t.inward

/-- The tunnel after both sides are gone. -/
def abandon (t : Tunnel) : Tunnel := (t.finish .client).finish .origin

end Tunnel

end FilteringProxy
