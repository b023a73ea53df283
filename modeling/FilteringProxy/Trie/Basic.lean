import FilteringProxy.Rule.Line
import FilteringProxy.Trie.Node

/-! # Looking up rules

All rules of one kind, filed by where their address must begin. A look-up goes through the names of
hosts lines, the rules without an address, those for whole URLs and then, token by token, those that
can begin there. Every rule is found at most once, at the first place that leads to it.
-/

namespace FilteringProxy

open Http (Request Response Exchange)

/-- A rule in store. The number tells it from all others, equal ones included. -/
structure Stored where
  number : Nat
  rule : Rule

/-- All rules of one kind. -/
structure Trie where
  /-- The number of the next rule. -/
  next : Nat := 0
  /-- The rule of each name of a hosts line in lower case, the latest first. -/
  hosts : List (Text × Stored) := []
  /-- The rules without an address. -/
  everything : List Stored := []
  /-- The rules for whole URLs. -/
  address : Node Stored := {}
  /-- The rules that begin at a label of the host. -/
  domain : Node Stored := {}
  /-- The rules that begin anywhere. -/
  anywhere : Node Stored := {}

namespace Trie

def addHost (rule : Rule) (t : Trie) (name : Text) : Trie :=
  { t with next := t.next + 1, hosts := (name.lower, ⟨t.next, rule⟩) :: t.hosts }

def addPattern (t : Trie) (anchor : Anchor) (path : List Edge) (rule : Rule) : Trie :=
  let stored : Stored := ⟨t.next, rule⟩
  let t := { t with next := t.next + 1 }
  match anchor with
  | .everything => { t with everything := t.everything ++ [stored] }
  | .address => { t with address := t.address.insert stored path }
  | .domain => { t with domain := t.domain.insert stored path }
  | .anywhere => { t with anywhere := t.anywhere.insert stored path }

/-- The trie with a line that has been read, and the number of rules that this adds. -/
def addLine (t : Trie) (line : RuleLine) (raw list : Text) : Trie × Nat :=
  match line with
  | .hosts names => (names.foldl (addHost { raw, list }) t, names.length)
  | .pattern anchor address modifiers =>
    (t.addPattern anchor (Edge.ofAddress address) { raw, list, modifiers }, 1)

def add (t : Trie) (line raw list : Text) : Except RuleError (Trie × Nat) := do
  return t.addLine (← RuleLine.parse line) raw list

/-- Drop what has a number that came before. -/
def distinct (seen : List Nat) : List Stored → List Stored
  | [] => []
  | s :: rest =>
    if seen.contains s.number then distinct seen rest
    else s :: distinct (s.number :: seen) rest

/-- The text that addresses are compared with: scheme, host and path of a target. User information
and port do not count. -/
def lookupText (scheme host path : Text) : Text := scheme ++ ("://" : Text) ++ host ++ path

/-- A label of the host begins at the token with number `i`, after `before`, when the host has
`count` tokens; scheme and separator are two tokens. -/
def beginsLabel (count i : Nat) (before : Option Token) : Bool :=
  i == 2 || (2 < i && i < 2 + count && before == some ['.'])

/-- What is found at the token with number `i` and at all later ones. -/
def walkFrom (t : Trie) (count : Nat) : Nat → Option Token → List Token → List Stored
  | _, _, [] => []
  | i, before, token :: rest =>
    (if beginsLabel count i before then t.domain.walk false (token :: rest) else []) ++
      t.anywhere.walk false (token :: rest) ++ walkFrom t count (i + 1) (some token) rest

/-- Everything that can apply to a target, in the order of the look-up, with repetitions. -/
def candidates (t : Trie) (u : Http.Uri) : List Stored :=
  match u.host? with
  | none => []
  | some host =>
    let host := host.lower
    let tokens :=
      tokenize (lookupText (u.scheme.getD "http") host (u.pathAndQuery?.getD "/"))
    ((t.hosts.find? (·.1 == host)).map (·.2)).toList ++ t.everything ++
      t.address.walk true tokens ++ t.walkFrom (tokenize host).length 0 none tokens

/-- The rules that apply, given which of them accept the exchange. -/
def findWhere (t : Trie) (u : Http.Uri) (accepts : Rule → Bool) : List Rule :=
  (distinct [] ((t.candidates u).filter (accepts ·.rule))).map (·.rule)

def findForRequest (t : Trie) (r : Request) : List Rule :=
  t.findWhere r.uri (·.modifiers.holdsForRequest r)

def findForExchange (t : Trie) (e : Exchange) : List Rule :=
  t.findWhere e.request.uri (·.modifiers.holdsForExchange e)

end Trie

end FilteringProxy
