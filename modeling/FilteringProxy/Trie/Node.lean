import FilteringProxy.Token

/-! # Token tries

A trie files values under rows of edges and finds, for a row of tokens, the values of all rows that
match it from its start. An edge is a token, or a sign for one separator or for any one token; at
the end of the input a sign for a separator matches nothing at all.

The children of a node are kept as a first child with its next sibling, so that every function on
them is a plain recursion.
-/

namespace FilteringProxy

/-- An edge between two nodes of a trie. -/
inductive Edge where
  /-- Matches one separator, or nothing at the end of the input. -/
  | separator
  /-- Matches one token. -/
  | wildcard
  /-- Matches a token equal to the given one. -/
  | token (t : Token)
  deriving Repr, DecidableEq

namespace Edge

def ofToken (t : Token) : Edge :=
  if t = ['^'] then separator else if t = ['*'] then wildcard else token t

def ofAddress (address : Text) : List Edge := (tokenize address).map ofToken

end Edge

/-- The children of a node: the edge to the first of them, its values and children, and its next
siblings. -/
inductive Children (α : Type) where
  | none
  | child (edge : Edge) (values : List α) (below beside : Children α)
  deriving Repr

/-- A node: the values filed at it and its children. -/
structure Node (α : Type) where
  values : List α := []
  children : Children α := .none
  deriving Repr

namespace Children

def at? (e : Edge) : Children α → Option (Node α)
  | none => Option.none
  | child f values below beside => if e = f then some ⟨values, below⟩ else at? e beside

/-- Change the child at an edge, a new one if there is none yet. -/
def update (e : Edge) (change : Node α → Node α) : Children α → Children α
  | none =>
    let n := change {}
    child e n.values n.children none
  | child f values below beside =>
    if e = f then
      let n := change ⟨values, below⟩
      child f n.values n.children beside
    else child f values below (update e change beside)

/-- The values that are reached at the end of the input, by signs for a separator. -/
def atEnd : Children α → List α
  | none => []
  | child f values below beside =>
    if f = .separator then values ++ atEnd below else atEnd beside

end Children

namespace Node

/-- File a value under a row of edges, after those that are filed there. -/
def insert (a : α) : List Edge → Node α → Node α
  | [], n => { n with values := n.values ++ [a] }
  | e :: path, n => { n with children := n.children.update e (insert a path) }

/-- The values filed under a row of edges. -/
def valuesAt : List Edge → Node α → List α
  | [], n => n.values
  | e :: path, n =>
    match n.children.at? e with
    | some m => valuesAt path m
    | none => []

/-- The values under all rows that match the tokens from their start, or, when `whole` is set, that
match all of them. -/
def walk (whole : Bool) : List Token → Node α → List α
  | [], n => n.values ++ n.children.atEnd
  | t :: ts, n =>
    let follow (e : Edge) : List α :=
      match n.children.at? e with
      | some m => walk whole ts m
      | none => []
    (if whole then [] else n.values) ++
      (if Token.isSeparator t then follow .separator else []) ++ follow .wildcard ++
      follow (.token t)

end Node

end FilteringProxy
