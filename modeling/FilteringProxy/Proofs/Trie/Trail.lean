import FilteringProxy.Proofs.Trie.Lookup

/-! # The trail of a walk

A walk can note where it goes: the edges that it follows, each with the tokens that lie ahead of it.
Without its notes it is the walk that a look-up takes. The notes show what a sign for a separator
has stood for.
-/

namespace FilteringProxy

/-- A step of a walk. The edge stands for the first token ahead or, when there is none, for the end
of the target. -/
structure Step where
  edge : Edge
  ahead : List Token
  deriving DecidableEq

/-- What a walk finds, with the steps that lead there. -/
structure Find (α : Type) where
  trail : List Step
  value : α
  deriving DecidableEq

namespace Find

/-- A value that is found where the walk stands. -/
def here (a : α) : Find α := ⟨[], a⟩

/-- What is found beyond a step. -/
def beyond (s : Step) (f : Find α) : Find α := ⟨s :: f.trail, f.value⟩

@[simp] theorem value_here (a : α) : (here a).value = a := rfl

@[simp] theorem value_beyond (s : Step) (f : Find α) : (f.beyond s).value = f.value := rfl

end Find

/-! ## Walks that note their steps -/

/-- The steps along a row of edges. -/
def Edge.along : List Edge → List Token → List Step
  | [], _ => []
  | e :: path, tokens => ⟨e, tokens⟩ :: along path tokens.tail

/-- What the walk finds at the end of the input. -/
def Children.endFinds : Children α → List (Find α)
  | none => []
  | child f values below beside =>
    if f = .separator then
      (values.map Find.here ++ below.endFinds).map (Find.beyond ⟨.separator, []⟩)
    else beside.endFinds

namespace Node

/-- The walk with its notes. -/
def finds (whole : Bool) : List Token → Node α → List (Find α)
  | [], n => n.values.map Find.here ++ n.children.endFinds
  | t :: ts, n =>
    let follow (e : Edge) : List (Find α) :=
      match n.children.at? e with
      | some m => (finds whole ts m).map (Find.beyond ⟨e, t :: ts⟩)
      | none => []
    (if whole then [] else n.values.map Find.here) ++
      (if Token.isSeparator t then follow .separator else []) ++ follow .wildcard ++
      follow (.token t)

end Node

namespace Trie

/-- What is found at the token with number `i` and at all later ones, with notes. -/
def findsFrom (t : Trie) (count : Nat) : Nat → Option Token → List Token → List (Find Stored)
  | _, _, [] => []
  | i, before, token :: rest =>
    (if beginsLabel count i before then t.domain.finds false (token :: rest) else []) ++
      t.anywhere.finds false (token :: rest) ++ findsFrom t count (i + 1) (some token) rest

/-- The tokens of a target that a look-up walks along; none if the target has no host. -/
def tokensOf (u : Http.Uri) : List Token :=
  match u.host? with
  | none => []
  | some host => targetTokens u host.lower

/-- All that the walks of a look-up find, in its order and with notes. -/
def finds (t : Trie) (u : Http.Uri) : List (Find Stored) :=
  match u.host? with
  | none => []
  | some host =>
    t.address.finds true (tokensOf u) ++
      t.findsFrom (tokenize host.lower).length 0 none (tokensOf u)

end Trie

/-! ## The notes change nothing -/

namespace Children

theorem map_value_endFinds (cs : Children α) : cs.endFinds.map Find.value = cs.atEnd := by
  induction cs with
  | none => rfl
  | child f values below beside ihBelow ihBeside =>
      simp only [endFinds, atEnd]
      split <;> simp [Function.comp_def, ihBelow, ihBeside]

end Children

namespace Node

/-- What the walk finds beyond one edge, with its notes. -/
def findsBeyond (whole : Bool) (t : Token) (ts : List Token) (n : Node α) (e : Edge) :
    List (Find α) :=
  match n.children.at? e with
  | some m => (m.finds whole ts).map (Find.beyond ⟨e, t :: ts⟩)
  | none => []

theorem finds_cons (whole : Bool) (t : Token) (ts : List Token) (n : Node α) :
    n.finds whole (t :: ts) =
      (if whole then [] else n.values.map Find.here) ++
        (Edge.takers t).flatMap (n.findsBeyond whole t ts) := by
  have unfolded : n.finds whole (t :: ts) =
      (if whole then [] else n.values.map Find.here) ++
        (if Token.isSeparator t then n.findsBeyond whole t ts .separator else []) ++
        n.findsBeyond whole t ts .wildcard ++ n.findsBeyond whole t ts (.token t) := rfl
  rw [unfolded, Edge.takers]
  cases Token.isSeparator t <;> simp

theorem map_value_finds (whole : Bool) (tokens : List Token) (n : Node α) :
    (n.finds whole tokens).map Find.value = n.walk whole tokens := by
  induction tokens generalizing n with
  | nil => simp [finds, walk, Function.comp_def, Children.map_value_endFinds]
  | cons t ts ih =>
      have beyond (e : Edge) :
          (n.findsBeyond whole t ts e).map Find.value = n.follow whole ts e := by
        simp only [findsBeyond, follow]
        cases n.children.at? e with
        | none => rfl
        | some m => simp [Function.comp_def, ← ih]
      simp only [finds_cons, walk_cons, List.map_append, List.map_flatMap, beyond]
      cases whole <;> simp [Function.comp_def]

end Node

namespace Trie

theorem map_value_findsFrom (t : Trie) (count i : Nat) (before : Option Token)
    (tokens : List Token) :
    (t.findsFrom count i before tokens).map Find.value = t.walkFrom count i before tokens := by
  induction tokens generalizing i before with
  | nil => rfl
  | cons token rest ih =>
      simp only [findsFrom, walkFrom, List.map_append, ih, Node.map_value_finds]
      split <;> simp [Node.map_value_finds]

/-- A look-up finds the rules of hosts lines, those without an address, and what its walks find. -/
theorem candidates_eq_finds (t : Trie) {u : Http.Uri} {host : Text} (named : u.host? = some host) :
    t.candidates u =
      t.heldAt (.host host.lower) ++ t.everything ++ (t.finds u).map Find.value := by
  simp only [candidates, finds, tokensOf, named, targetTokens, heldAt, List.map_append,
    Node.map_value_finds, map_value_findsFrom, List.append_assoc]

end Trie

/-! ## What the notes say -/

namespace Edge

theorem ahead_of_mem_along {path : List Edge} {tokens rest : List Token} {s : Step}
    (matched : consume path tokens = some rest) (step : s ∈ along path tokens) :
    s.ahead <:+ tokens ∧ ∀ t ∈ s.ahead.head?, s.edge.takes t = true := by
  induction path generalizing tokens with
  | nil => cases step
  | cons e path ih =>
      simp only [along, List.mem_cons] at step
      cases tokens with
      | nil =>
          cases step with
          | inl first => simp [first]
          | inr later =>
              have matched : consume path [] = some rest := by
                cases e with
                | separator => exact matched
                | wildcard | token => cases matched
              exact ih matched later
      | cons t ts =>
          rw [consume_cons] at matched
          cases taken : e.takes t with
          | false => simp [taken] at matched
          | true =>
              cases step with
              | inl first => simp [first, taken]
              | inr later =>
                  obtain ⟨suffix, takes⟩ := ih (by simpa [taken] using matched) later
                  exact ⟨suffix.trans (List.suffix_cons t ts), takes⟩

end Edge

namespace Children

theorem trail_of_mem_endFinds {cs : Children α} {f : Find α} (found : f ∈ cs.endFinds) :
    ∃ path, Edge.consume path [] = some [] ∧ f.trail = Edge.along path [] := by
  induction cs generalizing f with
  | none => cases found
  | child g inner below beside ihBelow ihBeside =>
      simp only [endFinds] at found
      split at found
      · simp only [List.map_append, List.map_map, List.mem_append, List.mem_map] at found
        cases found with
        | inl here =>
            obtain ⟨a, member, rfl⟩ := here
            exact ⟨[.separator], rfl, rfl⟩
        | inr later =>
            obtain ⟨g, member, rfl⟩ := later
            obtain ⟨path, ends, trail⟩ := ihBelow member
            exact ⟨.separator :: path, ends, by simp [Find.beyond, Edge.along, trail]⟩
      · exact ihBeside found

end Children

namespace Node

/-- A walk finds nothing but along a row of edges that matches the tokens. -/
theorem trail_of_mem_finds {whole : Bool} {tokens : List Token} {n : Node α} {f : Find α}
    (found : f ∈ n.finds whole tokens) :
    ∃ path, Matches whole path tokens ∧ f.trail = Edge.along path tokens := by
  induction tokens generalizing n f with
  | nil =>
      simp only [finds, List.mem_append, List.mem_map] at found
      cases found with
      | inl here =>
          obtain ⟨a, member, rfl⟩ := here
          exact ⟨[], (matches_end whole []).mpr rfl, rfl⟩
      | inr signs =>
          obtain ⟨path, ends, trail⟩ := Children.trail_of_mem_endFinds signs
          exact ⟨path, (matches_end whole path).mpr ends, trail⟩
  | cons t ts ih =>
      simp only [finds_cons, List.mem_append, List.mem_flatMap, Edge.mem_takers] at found
      cases found with
      | inl here =>
          cases whole with
          | true => cases here
          | false =>
              obtain ⟨a, member, rfl⟩ := List.mem_map.mp here
              exact ⟨[], (matches_nil_cons false t ts).mpr rfl, rfl⟩
      | inr onward =>
          obtain ⟨e, taken, beyond⟩ := onward
          simp only [findsBeyond] at beyond
          split at beyond
          · obtain ⟨g, member, rfl⟩ := List.mem_map.mp beyond
            obtain ⟨path, matched, trail⟩ := ih member
            refine ⟨e :: path, (matches_cons whole e path t ts).mpr ⟨taken, matched⟩, ?_⟩
            simp [Find.beyond, Edge.along, trail]
          · cases beyond

/-- One sign for a separator at a node below the first is found by a walk that stands before a
token which can stand for it. -/
theorem mem_finds_separator {n : Node α} {a : α} {t : Token} (ts : List Token)
    (held : a ∈ n.valuesAt [.separator]) (separates : Token.isSeparator t = true) :
    ⟨[⟨.separator, t :: ts⟩], a⟩ ∈ n.finds false (t :: ts) := by
  simp only [valuesAt] at held
  cases child : n.children.at? .separator with
  | none => simp [child] at held
  | some m =>
      simp only [child] at held
      have first : Find.here a ∈ m.finds false ts := by
        have here : Find.here a ∈ m.values.map Find.here := List.mem_map_of_mem held
        cases ts with
        | nil => simp only [finds, List.mem_append, here, true_or]
        | cons =>
            simp only [finds_cons, Bool.false_eq_true, if_false, List.mem_append, here, true_or]
      have beyond : ⟨[⟨.separator, t :: ts⟩], a⟩ ∈ n.findsBeyond false t ts .separator := by
        simp only [findsBeyond, child]
        exact List.mem_map_of_mem first
      simp only [finds_cons, List.mem_append, List.mem_flatMap, Edge.mem_takers]
      exact Or.inr ⟨.separator, separates, beyond⟩

end Node

namespace Trie

theorem trail_of_mem_findsFrom {t : Trie} {count i : Nat} {before : Option Token}
    {tokens : List Token} {f : Find Stored} (found : f ∈ t.findsFrom count i before tokens) :
    ∃ row path, row <:+ tokens ∧ Node.Matches false path row ∧ f.trail = Edge.along path row := by
  induction tokens generalizing i before with
  | nil => cases found
  | cons token rest ih =>
      simp only [findsFrom, List.mem_append] at found
      rcases found with (label | anywhere) | later
      · split at label
        · obtain ⟨path, matched, trail⟩ := Node.trail_of_mem_finds label
          exact ⟨token :: rest, path, List.suffix_refl _, matched, trail⟩
        · cases label
      · obtain ⟨path, matched, trail⟩ := Node.trail_of_mem_finds anywhere
        exact ⟨token :: rest, path, List.suffix_refl _, matched, trail⟩
      · obtain ⟨row, path, suffix, matched, trail⟩ := ih later
        exact ⟨row, path, suffix.trans (List.suffix_cons token rest), matched, trail⟩

theorem ahead_of_mem_trail {t : Trie} {u : Http.Uri} {f : Find Stored} (found : f ∈ t.finds u)
    {s : Step} (step : s ∈ f.trail) :
    s.ahead <:+ tokensOf u ∧ ∀ token ∈ s.ahead.head?, s.edge.takes token = true := by
  have along : ∃ whole row path, row <:+ tokensOf u ∧ Node.Matches whole path row ∧
      f.trail = Edge.along path row := by
    simp only [finds] at found
    split at found
    · cases found
    · cases List.mem_append.mp found with
      | inl address =>
          obtain ⟨path, matched, trail⟩ := Node.trail_of_mem_finds address
          exact ⟨true, tokensOf u, path, List.suffix_refl _, matched, trail⟩
      | inr walked =>
          obtain ⟨row, path, suffix, matched, trail⟩ := trail_of_mem_findsFrom walked
          exact ⟨false, row, path, suffix, matched, trail⟩
  obtain ⟨whole, row, path, suffix, matched, trail⟩ := along
  obtain ⟨rest, consumed, _⟩ := matched
  obtain ⟨ahead, takes⟩ := Edge.ahead_of_mem_along consumed (trail ▸ step)
  exact ⟨ahead.trans suffix, takes⟩

theorem mem_findsFrom_separator {t : Trie} {s : Stored}
    (held : s ∈ t.anywhere.valuesAt [.separator]) {token : Token} {rest tokens : List Token}
    (ahead : token :: rest <:+ tokens) (separates : Token.isSeparator token = true)
    (count i : Nat) (before : Option Token) :
    ⟨[⟨.separator, token :: rest⟩], s⟩ ∈ t.findsFrom count i before tokens := by
  induction tokens generalizing i before with
  | nil => simp at ahead
  | cons first more ih =>
      simp only [findsFrom, List.mem_append]
      cases List.suffix_cons_iff.mp ahead with
      | inl here =>
          cases here
          exact Or.inl (Or.inr (Node.mem_finds_separator rest held separates))
      | inr later => exact Or.inr (ih later (i + 1) (some first))

theorem mem_finds_separator {t : Trie} {s : Stored}
    (held : s ∈ t.anywhere.valuesAt [.separator]) {u : Http.Uri} {token : Token}
    {rest : List Token} (ahead : token :: rest <:+ tokensOf u)
    (separates : Token.isSeparator token = true) :
    ⟨[⟨.separator, token :: rest⟩], s⟩ ∈ t.finds u := by
  simp only [finds]
  split
  · rename_i nameless
    simp [tokensOf, nameless] at ahead
  · exact List.mem_append_right _ (mem_findsFrom_separator held ahead separates ..)

end Trie

/-! ## What a sign for a separator stands for -/

/-- The token has a character that separates and one that does not. -/
def Token.IsMixed (t : Token) : Prop :=
  (∃ c ∈ t, isSeparatorChar c = true) ∧ ∃ c ∈ t, isSeparatorChar c = false

/-- The step stands for a token that only separates, or for the end of the target, unless its edge
is another than the sign for a separator. -/
def Step.Separates (s : Step) : Prop :=
  s.edge = .separator → s.ahead = [] ∨
    ∃ token rest, s.ahead = token :: rest ∧ ∀ c ∈ token, Token.isSeparatorChar c = true

namespace Trie

theorem held_separator (raw list : Text) :
    ∃ s, s ∈ (ofAdditions [⟨"^", raw, list⟩]).anywhere.valuesAt [.separator] := by
  have parsed : RuleLine.parse "^" = .ok (.pattern .anywhere "^" {}) := by decide +kernel
  refine ⟨⟨0, { raw, list }⟩, ?_⟩
  have path : Edge.ofAddress "^" = [.separator] := by decide
  simp only [ofAdditions, List.foldl_cons, List.foldl_nil, addition, add_of_parse parsed, addLine,
    addPattern, path, Node.valuesAt_insert, if_true]
  exact List.mem_append_right _ (List.mem_singleton_self _)

/-- In every match that a look-up makes for a target, whatever rules are stored, each sign for a
separator stands for a token that only separates or for the end of the target, exactly if no token
of the target is mixed. -/
theorem separates_iff (u : Http.Uri) :
    (∀ additions, ∀ f ∈ (ofAdditions additions).finds u, ∀ s ∈ f.trail, s.Separates) ↔
      ∀ token ∈ tokensOf u, ¬ token.IsMixed := by
  constructor
  · -- a rule that is one sign for a separator meets the mixed token
    intro separates token member mixed
    obtain ⟨⟨c, inside, separating⟩, d, other, letter⟩ := mixed
    obtain ⟨front, rest, whole⟩ := List.append_of_mem member
    have ahead : token :: rest <:+ tokensOf u := ⟨front, whole.symm⟩
    have stands : Token.isSeparator token = true := List.any_eq_true.mpr ⟨c, inside, separating⟩
    obtain ⟨s, held⟩ := held_separator [] []
    have found := mem_finds_separator held ahead stands
    have step := separates _ _ found ⟨.separator, token :: rest⟩ (by simp) rfl
    obtain impossible | ⟨token', rest', same, all⟩ := step
    · cases impossible
    · cases same
      rw [all d other] at letter
      cases letter
  · intro unmixed additions f found s step sign
    obtain ⟨ahead, takes⟩ := ahead_of_mem_trail found step
    cases rest : s.ahead with
    | nil => exact Or.inl rfl
    | cons token more =>
        right
        refine ⟨token, more, rfl, fun c inside => ?_⟩
        have member : token ∈ tokensOf u := ahead.subset (by simp [rest])
        have stands : Token.isSeparator token = true := by
          simpa [rest, sign, Edge.takes] using takes
        obtain ⟨d, other, separating⟩ := List.any_eq_true.mp stands
        by_contra letter
        exact unmixed token member ⟨⟨d, other, separating⟩, c, inside, by simpa using letter⟩

/-- A plus sign makes a sign for a separator stand for a letter. -/
theorem separator_stands_for_letter :
    let line : Text := "||a.com/^"
    ∃ u, Http.Uri.parse? "http://a.com/c++" = some u ∧
      ∃ f ∈ (ofAdditions [⟨line, line, "list"⟩]).finds u, ∃ s ∈ f.trail,
        s.edge = .separator ∧ s.ahead = ["c++".toList] ∧ ¬ s.Separates := by
  intro line
  refine ⟨⟨some "http", "a.com", "/c++", none⟩, by decide +kernel, ?_⟩
  have noted : ⟨.separator, ["c++".toList]⟩ ∈
      ((ofAdditions [⟨line, line, "list"⟩]).finds
        ⟨some "http", "a.com", "/c++", none⟩).flatMap Find.trail := by
    decide +kernel
  obtain ⟨f, found, step⟩ := List.mem_flatMap.mp noted
  refine ⟨f, found, _, step, rfl, rfl, fun separates => ?_⟩
  obtain impossible | ⟨token, rest, same, all⟩ := separates rfl
  · cases impossible
  · cases same
    exact absurd (all 'c' (by decide)) (by decide)

end Trie

end FilteringProxy
