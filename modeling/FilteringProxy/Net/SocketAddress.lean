import FilteringProxy.Url.Address

/-! # Addresses of sockets

An address in numbers and a port. An address of version 6 stands in brackets; one that stands for an
address of version 4 shows it, and a scope follows a percent sign unless it is zero.
-/

namespace FilteringProxy

inductive IpAddress where
  | v4 (number : Nat)
  | v6 (pieces : List Nat) (scope : Nat)
  deriving Repr, DecidableEq

structure SocketAddress where
  ip : IpAddress
  port : Nat
  deriving Repr, DecidableEq

namespace SocketAddress

/-- The address by which a machine reaches itself. -/
def loopback (port : Nat) : SocketAddress := ⟨.v4 0x7F000001, port⟩

/-- An address of version 6, with the address of version 4 that it may stand for. -/
def showPieces (pieces : List Nat) : Text :=
  match pieces with
  | [0, 0, 0, 0, 0, 0xFFFF, a, b] => ("::ffff:" : Text) ++ Url.showIpv4 (a * 0x10000 + b)
  | _ => Url.showIpv6 pieces

def printIp : IpAddress → Text
  | .v4 number => Url.showIpv4 number
  | .v6 pieces 0 => showPieces pieces
  | .v6 pieces scope => showPieces pieces ++ ['%'] ++ Text.ofNat scope

def print (a : SocketAddress) : Text :=
  let port := ':' :: Text.ofNat a.port
  match a.ip with
  | .v4 _ => printIp a.ip ++ port
  | .v6 _ _ => ['['] ++ printIp a.ip ++ [']'] ++ port

/-- A number in decimal digits below a limit. -/
def number? (limit : Nat) (t : Text) : Option Nat :=
  match Text.toNat? 10 t with
  | some n => if n < limit then some n else none
  | none => none

/-- Read an address of version 6 with its scope. -/
def parseScoped? (t : Text) : Option IpAddress :=
  match Text.cut? '%' t with
  | some (address, scope) => do
    let pieces ← Url.parseIpv6? address
    let scope ← number? 0x100000000 scope
    return .v6 pieces scope
  | none => (Url.parseIpv6? t).map (.v6 · 0)

def parse? (t : Text) : Option SocketAddress :=
  match t with
  | '[' :: r => do
    let (address, rest) ← Text.cut? ']' r
    let ip ← parseScoped? address
    let digits ← Text.after? ":" rest
    return ⟨ip, ← number? 65536 digits⟩
  | _ => do
    let (address, digits) ← Text.cut? ':' t
    let n ← Url.parseIpv4? address
    return ⟨.v4 n, ← number? 65536 digits⟩

end SocketAddress

end FilteringProxy
