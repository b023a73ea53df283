import FilteringProxy.Rule.Basic
import FilteringProxy.Token

/-! # Rule lines

What a line of a list says: names of hosts, as in a hosts file, or an address with modifiers. The
address ends at the first dollar sign, and signs in front of it say where it must begin.
-/

namespace FilteringProxy

/-- Where an address must begin. -/
inductive Anchor where
  /-- At any token. -/
  | anywhere
  /-- At the start of a label of the host. -/
  | domain
  /-- At the start of the URL; it must also end with it. -/
  | address
  /-- There is no address. -/
  | everything
  deriving Repr, DecidableEq

inductive RuleLine where
  | hosts (names : List Text)
  | pattern (anchor : Anchor) (address : Text) (modifiers : ModifierSet)
  deriving DecidableEq

namespace RuleLine

/-- The addresses that a hosts line gives to unwanted hosts. -/
def sinkholeAddresses : List Text := ["0.0.0.0", "127.0.0.1"]

/-- A name that hosts files define for the machine itself. -/
def isSinkholeName (name : Text) : Bool :=
  [("0.0.0.0" : Text), "broadcasthost", "local", "localhost", "localhost.localdomain"].contains
      name ||
    match Text.after? "ip6-" name with
    | some (c :: cs) => (c :: cs).all fun c => Unicode.isWord c.toNat
    | _ => false

/-- What follows the address of a hosts line. There must be a blank and after it something on the
same line, a second blank at least. -/
def hostsPart? (line : Text) : Option Text :=
  match sinkholeAddresses.findSome? (Text.after? · line) with
  | none => none
  | some rest =>
    let blanks := rest.takeWhile isBlank
    let names := rest.dropWhile isBlank
    if blanks = [] then none
    else if names = [] then
      if 2 ≤ blanks.length ∧ blanks.getLast? ≠ some '\n' then some [] else none
    else if names.contains '\n' then none
    else some names

/-- The names on a hosts line, without its comment and without the names of the machine itself. -/
def hostNames (part : Text) : List Text :=
  (Text.words (Text.upTo '#' part)).filter (!isSinkholeName ·)

/-- The text before the first dollar sign, and after it if there is one. -/
def cutModifiers (line : Text) : Text × Option Text :=
  match Text.cut? '$' line with
  | some (address, modifiers) => (address, some modifiers)
  | none => (line, none)

/-- Where the address begins, and the address without the signs that say so. -/
def anchorOf (address : Text) : Anchor × Text :=
  match address with
  | [] => (.everything, [])
  | '|' :: '|' :: c :: r => (.domain, c :: r)
  | '|' :: c :: r => if c = '|' then (.anywhere, address) else (.address, c :: r)
  | _ => (.anywhere, address)

/-- Modifiers may be left out, but not after a dollar sign, and they end with the line. -/
def areModifiers : Option Text → Bool
  | none => true
  | some t => t ≠ [] && !t.contains '\n'

def parse (line : Text) : Except RuleError RuleLine :=
  match hostsPart? line with
  | some part => .ok (.hosts (hostNames part))
  | none =>
    let (address, modifiers) := cutModifiers line
    if !areModifiers modifiers || (address = [] && modifiers.isNone) then .error .unknownFormat
    else do
      let set ← match modifiers with
        | some written => ModifierSet.parse written
        | none => .ok {}
      let (anchor, address) := anchorOf address
      return .pattern anchor address set

end RuleLine

end FilteringProxy
