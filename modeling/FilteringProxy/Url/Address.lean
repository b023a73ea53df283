import FilteringProxy.Text.Basic

/-! # Addresses in numbers

Addresses of version 4 and 6: how they are read where a host may also be a name, how they are read
where only an address is meant, and how they are written.
-/

namespace FilteringProxy.Url

/-- What a part of a host says as a number of an address. -/
inductive AddressNumber where
  /-- It is no number. -/
  | none
  /-- It is a number of at most thirty-two bits. -/
  | value (n : Nat)
  /-- It is a larger number. -/
  | tooLarge
  deriving Repr, DecidableEq

/-- Read a part of a host as a number: after `0x` in base sixteen, after `0` in base eight. -/
def addressNumber (part : Text) : AddressNumber :=
  let (base, digits) : Nat × Text := match part with
    | '0' :: 'x' :: r => (16, r)
    | '0' :: 'X' :: r => (16, r)
    | '0' :: c :: r => (8, c :: r)
    | t => (10, t)
  if part = [] then .none
  else if digits = [] then .value 0
  else
    match Text.toNat? base digits with
    | some n => if n < 0x100000000 then .value n else .tooLarge
    | Option.none => .none

/-- The last part of the host, or the one before a final full stop, is a number. -/
def endsInNumber (host : Text) : Bool :=
  let isNumber (part : Text) : Bool :=
    (part ≠ [] && part.all Char.isDigit) || addressNumber part != .none
  match (Text.splitOn '.' host).reverse with
  | [] :: part :: _ => isNumber part
  | [] :: [] => false
  | part :: _ => isNumber part
  | [] => false

/-- Read an address of version 4 with up to four parts, of which the last fills what is left. -/
def parseLooseIpv4? (host : Text) : Option Nat :=
  let parts := Text.splitOn '.' host
  let parts := if parts.getLast? = some [] then parts.dropLast else parts
  if 4 < parts.length then none
  else
    let numbers := parts.mapM fun part =>
      match addressNumber part with
      | .value n => some n
      | _ => Option.none
    match numbers.map List.reverse with
    | some (last :: rest) =>
      let leading := rest.reverse
      let room := Nat.pow 256 (4 - leading.length)
      if room ≤ last || leading.any (255 < ·) then none
      else some (leading.foldl (fun value n => value * 256 + n) 0 * room + last)
    | _ => none

/-- A number below 256 without a leading zero. -/
def octet? (digits : Text) : Option Nat :=
  if digits = [] || 3 < digits.length || (1 < digits.length && digits.head? = some '0') then none
  else
    match Text.toNat? 10 digits with
    | some n => if n < 256 then some n else none
    | none => none

/-- Four numbers between full stops. -/
def parseIpv4? (t : Text) : Option Nat :=
  match (Text.splitOn '.' t).mapM octet? with
  | some [a, b, c, d] => some (((a * 256 + b) * 256 + c) * 256 + d)
  | _ => none

/-- The bytes of an address of version 4. -/
def ipv4Bytes (n : Nat) : List Nat :=
  [n / 0x1000000 % 256, n / 0x10000 % 256, n / 0x100 % 256, n % 256]

/-- An address of version 4 as it is written. -/
def showIpv4 (n : Nat) : Text := Text.join ['.'] ((ipv4Bytes n).map Text.ofNat)

/-- One to four hexadecimal digits. -/
def parsePiece? (t : Text) : Option Nat :=
  if t = [] || 4 < t.length then none else Text.toNat? 16 t

/-- The pieces of one side of an address of version 6; the last part may be an address of
version 4 when `tail` allows it. -/
def parsePieces? (tail : Bool) : List Text → Option (List Nat)
  | [] => some []
  | [part] =>
    match parsePiece? part with
    | some n => some [n]
    | none =>
      if tail then (parseIpv4? part).map fun n => [n / 0x10000, n % 0x10000] else none
  | part :: parts => do
    let n ← parsePiece? part
    let ns ← parsePieces? tail parts
    return n :: ns

/-- Split a text at its first double colon. -/
def cutDoubleColon? : Text → Option (Text × Text)
  | [] => none
  | ':' :: ':' :: r => some ([], r)
  | c :: r => (cutDoubleColon? r).map fun (a, b) => (c :: a, b)

/-- Read an address of version 6: eight pieces, or fewer around one double colon. -/
def parseIpv6? (t : Text) : Option (List Nat) :=
  let side (t : Text) : List Text := if t = [] then [] else Text.splitOn ':' t
  match cutDoubleColon? t with
  | some (left, right) => do
    let a ← parsePieces? false (side left)
    let b ← parsePieces? true (side right)
    if a.length + b.length ≤ 7 then
      return a ++ List.replicate (8 - a.length - b.length) 0 ++ b
    else none
  | none => do
    let a ← parsePieces? true (side t)
    if a.length = 8 then return a else none

def zeroRun (pieces : List Nat) : Nat := (pieces.takeWhile (· == 0)).length

/-- Place and length of the first longest run of zeros. -/
def longestZeroRun : Nat → List Nat → Nat × Nat
  | _, [] => (0, 0)
  | i, n :: ns =>
    let here := zeroRun (n :: ns)
    let (j, later) := longestZeroRun (i + 1) ns
    if later ≤ here then (i, here) else (j, later)

/-- An address of version 6 as it is written: its longest run of two or more zeros is left out. -/
def showIpv6 (pieces : List Nat) : Text :=
  let hex (ns : List Nat) : Text := Text.join [':'] (ns.map (Nat.toDigits 16 ·))
  let (i, n) := longestZeroRun 0 pieces
  if 2 ≤ n then hex (pieces.take i) ++ ("::" : Text) ++ hex (pieces.drop (i + n))
  else hex pieces

/-- The bytes of an address of version 6. -/
def ipv6Bytes (pieces : List Nat) : List Nat := pieces.flatMap fun n => [n / 256, n % 256]

/-- The bytes of the address that a text spells, without brackets. -/
def addressBytes? (t : Text) : Option (List Nat) :=
  match parseIpv4? t with
  | some n => some (ipv4Bytes n)
  | none => (parseIpv6? t).map ipv6Bytes

/-- The text spells an address, without brackets. -/
def isAddress (t : Text) : Bool := (addressBytes? t).isSome

end FilteringProxy.Url
