import FilteringProxy.Trie.Node
import Mathlib.Data.List.Basic

/-! # What a walk finds

A walk over a node trie follows many paths at once and shares what they have in common. Here it is
compared with the paths one by one: a value is found exactly if it is filed under a row of edges
that consumes the tokens. Filing is compared with the view `valuesAt`, so that no later proof opens
the children of a node.
-/

namespace FilteringProxy

namespace Edge

/-- The tokens that are left when a row of edges has consumed its own from the start; nothing if
some edge does not match. At the end of the input a sign for a separator consumes nothing. -/
def consume : List Edge → List Token → Option (List Token)
  | [], tokens => some tokens
  | .separator :: path, [] => consume path []
  | _ :: _, [] => none
  | .separator :: path, t :: ts => if Token.isSeparator t then consume path ts else none
  | .wildcard :: path, _ :: ts => consume path ts
  | .token u :: path, t :: ts => if u = t then consume path ts else none

/-- The edge matches the token. -/
def takes : Edge → Token → Bool
  | .separator, t => Token.isSeparator t
  | .wildcard, _ => true
  | .token u, t => u = t

/-- The edges that a walk follows for a token, in its order. -/
def takers (t : Token) : List Edge :=
  (if Token.isSeparator t then [separator] else []) ++ [wildcard, token t]

theorem mem_takers {e : Edge} {t : Token} : e ∈ takers t ↔ e.takes t = true := by
  rw [takers, List.mem_append, List.mem_cons, List.mem_singleton]
  cases e with
  | separator =>
      cases separates : Token.isSeparator t with
      | false => simp only [Bool.false_eq_true, if_false, List.not_mem_nil, reduceCtorEq, or_self,
          takes, separates]
      | true => simp only [if_true, List.mem_singleton, true_or, takes, separates]
  | wildcard => simp only [true_or, or_true, takes]
  | token u =>
      have other : token u ∉ if Token.isSeparator t then [separator] else [] := by
        split
        · exact fun member => nomatch List.mem_singleton.mp member
        · exact List.not_mem_nil
      simp only [other, reduceCtorEq, token.injEq, false_or, takes, decide_eq_true_eq]

theorem consume_cons (e : Edge) (path : List Edge) (t : Token) (ts : List Token) :
    consume (e :: path) (t :: ts) = if e.takes t then consume path ts else none := by
  cases e with
  | separator | wildcard => rfl
  | token u => simp only [consume, takes, decide_eq_true_eq]

theorem consume_nil_rest {path : List Edge} {rest : List Token}
    (h : consume path [] = some rest) : rest = [] := by
  induction path with
  | nil => exact (Option.some.inj h).symm
  | cons e path ih =>
      cases e with
      | separator => exact ih h
      | wildcard | token => cases h

end Edge

namespace Children

theorem at?_update (e f : Edge) (change : Node α → Node α) (cs : Children α) :
    (cs.update e change).at? f =
      if f = e then some (change ((cs.at? e).getD {})) else cs.at? f := by
  induction cs with
  | none => simp only [update, at?, Option.getD_none]
  | child g values below beside _ ihBeside =>
      by_cases here : e = g
      · subst here
        simp only [update, if_true, at?, Option.getD_some]
        split <;> rfl
      · simp only [update, if_neg here, at?, ihBeside]
        by_cases there : f = g
        · subst there
          simp only [if_true, if_neg (Ne.symm here)]
        · simp only [if_neg there]

theorem mem_atEnd (values : List α) (cs : Children α) (a : α) :
    a ∈ cs.atEnd ↔ ∃ e path, a ∈ Node.valuesAt (e :: path) ⟨values, cs⟩ ∧
      Edge.consume (e :: path) [] = some [] := by
  induction cs generalizing values with
  | none => simp only [atEnd, Node.valuesAt, at?, List.not_mem_nil, false_and, exists_false]
  | child g inner below beside ihBelow ihBeside =>
      by_cases here : g = .separator
      · subst here
        simp only [atEnd, if_true, List.mem_append, ihBelow inner]
        constructor
        · rintro (found | ⟨e, path, found, ends⟩)
          · exact ⟨.separator, [], by simpa only [Node.valuesAt, at?, if_true] using found, rfl⟩
          · exact ⟨.separator, e :: path,
              by simpa only [Node.valuesAt, at?, if_true] using found, ends⟩
        · rintro ⟨e, path, found, ends⟩
          cases e with
          | wildcard | token => cases ends
          | separator =>
              simp only [Node.valuesAt, at?, if_true] at found
              cases path with
              | nil => exact Or.inl found
              | cons e path => exact Or.inr ⟨e, path, found, ends⟩
      · simp only [atEnd, if_neg here, ihBeside values]
        have skip (e : Edge) (path : List Edge) (ends : Edge.consume (e :: path) [] = some []) :
            Node.valuesAt (e :: path) ⟨values, child g inner below beside⟩ =
              Node.valuesAt (e :: path) ⟨values, beside⟩ := by
          cases e with
          | wildcard | token => cases ends
          | separator => simp only [Node.valuesAt, at?, if_neg (Ne.symm here)]
        constructor
        · rintro ⟨e, path, found, ends⟩
          exact ⟨e, path, (skip e path ends).symm ▸ found, ends⟩
        · rintro ⟨e, path, found, ends⟩
          exact ⟨e, path, skip e path ends ▸ found, ends⟩

end Children

namespace Node

@[simp] theorem valuesAt_empty (path : List Edge) : valuesAt path ({} : Node α) = [] := by
  cases path <;> rfl

/-- Filing adds a value at the end of its own row and leaves all other rows alone. -/
theorem valuesAt_insert (a : α) (path other : List Edge) (n : Node α) :
    valuesAt other (n.insert a path) =
      if other = path then valuesAt other n ++ [a] else valuesAt other n := by
  induction path generalizing other n with
  | nil =>
      cases other with
      | nil => simp only [insert, valuesAt, if_true]
      | cons e other => simp only [insert, valuesAt, reduceCtorEq, if_false]
  | cons e path ih =>
      cases other with
      | nil => simp only [insert, valuesAt, List.nil_eq, reduceCtorEq, if_false]
      | cons f other =>
          simp only [insert, valuesAt, Children.at?_update, List.cons.injEq]
          by_cases same : f = e
          · subst same
            simp only [if_true, true_and, ih]
            cases n.children.at? f with
            | none => simp only [Option.getD_none, valuesAt_empty]
            | some m => simp only [Option.getD_some]
          · simp only [same, false_and, if_false]

/-- A row of edges that matches the tokens from their start, or, when `whole` is set, consumes all
of them. -/
def Matches (whole : Bool) (path : List Edge) (tokens : List Token) : Prop :=
  ∃ rest, Edge.consume path tokens = some rest ∧ (whole = true → rest = [])

/-- What the walk finds beyond one edge. -/
def follow (whole : Bool) (tokens : List Token) (n : Node α) (e : Edge) : List α :=
  match n.children.at? e with
  | some m => m.walk whole tokens
  | none => []

theorem walk_cons (whole : Bool) (t : Token) (ts : List Token) (n : Node α) :
    n.walk whole (t :: ts) =
      (if whole then [] else n.values) ++ (Edge.takers t).flatMap (n.follow whole ts) := by
  have unfolded : n.walk whole (t :: ts) =
      (if whole then [] else n.values) ++
        (if Token.isSeparator t then n.follow whole ts .separator else []) ++
        n.follow whole ts .wildcard ++ n.follow whole ts (.token t) := rfl
  rw [unfolded, Edge.takers]
  cases Token.isSeparator t <;>
    simp only [Bool.false_eq_true, if_false, if_true, List.nil_append, List.append_nil,
      List.cons_append, List.flatMap_cons, List.flatMap_nil, List.append_assoc]

/-- A walk ends at a node, or it goes on beyond an edge that matches the next token. -/
theorem mem_walk_cons {whole : Bool} {t : Token} {ts : List Token} {n : Node α} {a : α} :
    a ∈ n.walk whole (t :: ts) ↔
      whole = false ∧ a ∈ n.values ∨ ∃ e, Edge.takes e t = true ∧ a ∈ n.follow whole ts e := by
  simp only [walk_cons, List.mem_append, List.mem_flatMap, Edge.mem_takers]
  cases whole <;>
    simp only [Bool.false_eq_true, if_false, if_true, true_and, List.not_mem_nil, reduceCtorEq,
      false_and]

theorem matches_nil_cons (whole : Bool) (t : Token) (ts : List Token) :
    Matches whole [] (t :: ts) ↔ whole = false := by
  simp only [Matches, Edge.consume, Option.some.injEq, exists_eq_left', reduceCtorEq, imp_false,
    Bool.not_eq_true]

theorem matches_cons (whole : Bool) (e : Edge) (path : List Edge) (t : Token) (ts : List Token) :
    Matches whole (e :: path) (t :: ts) ↔ e.takes t = true ∧ Matches whole path ts := by
  rw [Matches, Edge.consume_cons]
  cases e.takes t with
  | true => simp only [if_true, true_and, Matches]
  | false => simp only [Bool.false_eq_true, if_false, reduceCtorEq, false_and, exists_false]

theorem matches_end (whole : Bool) (path : List Edge) :
    Matches whole path [] ↔ Edge.consume path [] = some [] := by
  constructor
  · rintro ⟨rest, consumed, _⟩
    rw [consumed, Edge.consume_nil_rest consumed]
  · intro consumed
    exact ⟨[], consumed, fun _ => rfl⟩

theorem mem_follow {whole : Bool} {tokens : List Token} {a : α}
    (walked : ∀ m : Node α, a ∈ m.walk whole tokens ↔
      ∃ path, a ∈ m.valuesAt path ∧ Matches whole path tokens) (n : Node α) (e : Edge) :
    a ∈ n.follow whole tokens e ↔
      ∃ path, a ∈ n.valuesAt (e :: path) ∧ Matches whole path tokens := by
  simp only [follow, valuesAt]
  cases n.children.at? e with
  | none => simp only [List.not_mem_nil, false_and, exists_false]
  | some m => exact walked m

/-- A walk finds exactly what is filed under a row of edges that matches the tokens. -/
theorem mem_walk (whole : Bool) (tokens : List Token) (n : Node α) (a : α) :
    a ∈ n.walk whole tokens ↔ ∃ path, a ∈ n.valuesAt path ∧ Matches whole path tokens := by
  induction tokens generalizing n with
  | nil =>
      simp only [walk, List.mem_append, matches_end, Children.mem_atEnd n.values]
      constructor
      · rintro (here | ⟨e, path, found, ends⟩)
        · exact ⟨[], here, rfl⟩
        · exact ⟨e :: path, found, ends⟩
      · rintro ⟨path, found, ends⟩
        cases path with
        | nil => exact Or.inl found
        | cons e path => exact Or.inr ⟨e, path, found, ends⟩
  | cons t ts ih =>
      rw [mem_walk_cons]
      constructor
      · rintro (⟨rfl, here⟩ | ⟨e, taken, beyond⟩)
        · exact ⟨[], here, (matches_nil_cons false t ts).mpr rfl⟩
        · obtain ⟨path, found, matched⟩ := (mem_follow ih n e).mp beyond
          exact ⟨e :: path, found, (matches_cons whole e path t ts).mpr ⟨taken, matched⟩⟩
      · rintro ⟨path, found, matched⟩
        cases path with
        | nil => exact Or.inl ⟨(matches_nil_cons whole t ts).mp matched, found⟩
        | cons e path =>
            obtain ⟨taken, beyond⟩ := (matches_cons whole e path t ts).mp matched
            exact Or.inr ⟨e, taken, (mem_follow ih n e).mpr ⟨path, found, beyond⟩⟩

end Node

end FilteringProxy
