import FilteringProxy.Proofs.Trie.Filing
import FilteringProxy.Trie.Shared

/-! # What a table of nodes holds

A node is told by the links that lead to it from the root, and no two rows of links lead to the same
node. So what a row of links leads to changes by nothing but a value that is put into its own node:
a new child has nothing yet, and whoever finds it later finds the same child.
-/

namespace FilteringProxy

namespace NodeTable

/-- The node that a row of links leads to. -/
def follow (t : NodeTable) : Nat → List Link → Option Nat
  | node, [] => some node
  | node, link :: path => (t.child? node link).bind (t.follow · path)

def values (t : NodeTable) (node : Nat) : List Stored := (t.cells[node]?.map (·.values)).getD []

/-- What is in the node that a row of links leads to. -/
def held (t : NodeTable) (node : Nat) (path : List Link) : List Stored :=
  ((t.follow node path).map t.values).getD []

theorem follow_append (t : NodeTable) (node : Nat) (path rest : List Link) :
    t.follow node (path ++ rest) = (t.follow node path).bind (t.follow · rest) := by
  induction path generalizing node with
  | nil => rfl
  | cons link path ih =>
      simp only [List.cons_append, follow, ih, Option.bind_assoc]

theorem follow_concat {t : NodeTable} {node child : Nat} {path : List Link} {link : Link} :
    t.follow node (path ++ [link]) = some child ↔
      ∃ parent, t.follow node path = some parent ∧ t.child? parent link = some child := by
  simp only [follow_append, follow, Option.bind_eq_some_iff, Option.some.injEq, exists_eq_right]

theorem lt_of_follow {t : NodeTable} {node : Nat} {path : List Link}
    (reached : t.follow 0 path = some node) : node < t.cells.length := by
  rcases List.eq_nil_or_concat path with rfl | ⟨front, link, rfl⟩
  · cases reached
    exact t.rooted
  · rw [List.concat_eq_append] at reached
    obtain ⟨parent, _, found⟩ := follow_concat.mp reached
    exact (t.younger found).2

theorem follow_unique {t : NodeTable} {node : Nat} {path other : List Link}
    (reached : t.follow 0 path = some node) (reached' : t.follow 0 other = some node) :
    path = other := by
  induction path using List.reverseRecOn generalizing node other with
  | nil =>
      cases reached
      rcases List.eq_nil_or_concat other with rfl | ⟨front, link, rfl⟩
      · rfl
      · rw [List.concat_eq_append] at reached'
        obtain ⟨parent, _, found⟩ := follow_concat.mp reached'
        exact absurd (t.younger found).1 (Nat.not_lt_zero _)
  | append_singleton path link ih =>
      obtain ⟨parent, above, found⟩ := follow_concat.mp reached
      rcases List.eq_nil_or_concat other with rfl | ⟨front, link', rfl⟩
      · cases reached'
        exact absurd (t.younger found).1 (Nat.not_lt_zero _)
      · rw [List.concat_eq_append] at reached' ⊢
        obtain ⟨parent', above', found'⟩ := follow_concat.mp reached'
        obtain ⟨rfl, rfl⟩ := t.single found found'
        rw [ih above above']

theorem held_root (path : List Link) : root.held 0 path = [] := by
  cases path <;> rfl

/-! ## Putting values in and creating children -/

theorem follow_push (t : NodeTable) (changed node : Nat) (s : Stored) (path : List Link) :
    (t.push changed s).follow node path = t.follow node path := by
  induction path generalizing node with
  | nil => rfl
  | cons link path ih =>
      have same : (t.push changed s).child? = t.child? := Cell.child?_push t.cells changed s
      simp only [follow, same, ih]

theorem values_push {t : NodeTable} {changed : Nat} (inside : changed < t.cells.length)
    (node : Nat) (s : Stored) :
    (t.push changed s).values node =
      if node = changed then t.values node ++ [s] else t.values node := by
  rw [values, values, push, List.getElem?_modify]
  by_cases here : node = changed
  · subst here
    simp only [List.getElem?_eq_getElem inside, if_true, Option.map_eq_map, Option.map_some,
      Option.getD_some, Cell.push]
  · simp only [Ne.symm here, here, if_false, Option.map_eq_map, Option.map_id']

theorem held_push {t : NodeTable} {node : Nat} {path : List Link}
    (reached : t.follow 0 path = some node) (s : Stored) (other : List Link) :
    (t.push node s).held 0 other =
      if other = path then t.held 0 other ++ [s] else t.held 0 other := by
  rw [held, held, follow_push]
  cases there : t.follow 0 other with
  | none =>
      have elsewhere : other ≠ path := fun same => by simp [same, reached] at there
      rw [if_neg elsewhere]
      rfl
  | some node' =>
      simp only [Option.map_some, Option.getD_some, values_push (lt_of_follow reached)]
      by_cases here : node' = node
      · subst here
        rw [if_pos rfl, if_pos (follow_unique there reached)]
      · have elsewhere : other ≠ path := fun same => by
          rw [same, reached] at there
          exact here (Option.some.inj there).symm
        rw [if_neg here, if_neg elsewhere]

theorem child?_grow {t : NodeTable} {node : Nat} {link : Link} (missing : t.child? node link = none)
    {other child : Nat} {link' : Link} (found : t.child? other link' = some child) :
    (t.grow node link).child? other link' = some child := by
  rw [child?, grow, Cell.child?_grown, if_neg]
  · exact found
  · rintro ⟨⟨rfl, rfl⟩, _⟩
    rw [missing] at found
    cases found

theorem child?_grow_self {t : NodeTable} {node : Nat} (inside : node < t.cells.length)
    (link : Link) : (t.grow node link).child? node link = some t.cells.length := by
  rw [child?, grow, Cell.child?_grown, if_pos ⟨⟨rfl, rfl⟩, inside⟩]

theorem follow_grow {t : NodeTable} {node : Nat} {link : Link} (missing : t.child? node link = none)
    {other reached : Nat} {path : List Link} (found : t.follow other path = some reached) :
    (t.grow node link).follow other path = some reached := by
  induction path generalizing other with
  | nil => exact found
  | cons link' path ih =>
      obtain ⟨child, first, later⟩ := Option.bind_eq_some_iff.mp found
      exact Option.bind_eq_some_iff.mpr ⟨child, child?_grow missing first, ih later⟩

theorem values_grow (t : NodeTable) (node : Nat) (link : Link) (other : Nat) :
    (t.grow node link).values other = t.values other := by
  rw [values, values, grow, Cell.getElem?_grown]
  split
  · rename_i new
    rw [new, List.getElem?_eq_none (Nat.le_refl _)]
    rfl
  · rw [Option.map_map]
    refine congrArg (Option.getD · []) (Option.map_congr fun c _ => ?_)
    simp only [Function.comp_apply]
    split <;> rfl

/-- A row of links that leads somewhere leads to an old node as before, or to the new one. -/
theorem of_follow_grow {t : NodeTable} {node : Nat} {link : Link} {reached : Nat}
    {path : List Link} (found : (t.grow node link).follow 0 path = some reached) :
    t.follow 0 path = some reached ∨ reached = t.cells.length := by
  induction path using List.reverseRecOn generalizing reached with
  | nil => exact .inl found
  | append_singleton path link' ih =>
      obtain ⟨parent, above, last⟩ := follow_concat.mp found
      rcases Cell.of_child?_grown last with ⟨-, -, -, new⟩ | old
      · exact .inr new
      · refine .inl (follow_concat.mpr ⟨parent, ?_, old⟩)
        exact (ih above).resolve_right (Nat.ne_of_lt (Cell.lt_of_child? old))

theorem held_grow {t : NodeTable} {node : Nat} {link : Link} (missing : t.child? node link = none)
    (path : List Link) : (t.grow node link).held 0 path = t.held 0 path := by
  have fresh : t.values t.cells.length = [] := by
    rw [values, List.getElem?_eq_none (Nat.le_refl _)]
    rfl
  rw [held, held]
  cases before : t.follow 0 path with
  | some reached => simp only [follow_grow missing before, Option.map_some, values_grow]
  | none =>
      cases after : (t.grow node link).follow 0 path with
      | none => rfl
      | some reached =>
          rcases of_follow_grow after with old | rfl
          · rw [before] at old
            cases old
          · simp only [Option.map_some, Option.map_none, Option.getD_some, Option.getD_none,
              values_grow, fresh]

/-! ## Reading the nodes -/

theorem at?_below (tree : Nat → Node Stored) (e : Edge) (children : List (Link × Nat)) :
    (below tree children).at? e = (children.lookup (.edge e)).map tree := by
  induction children with
  | nil => rfl
  | cons first rest ih =>
      obtain ⟨link, child⟩ := first
      cases link with
      | everything | address | domain => exact ih
      | edge f =>
          rw [below, Children.at?, List.lookup_cons]
          by_cases same : e = f
          · subst same
            rw [if_pos rfl, beq_self_eq_true]
            rfl
          · have other : (Link.edge e == Link.edge f) = false :=
              beq_false_of_ne fun h => same (Link.edge.inj h)
            rw [if_neg same, other, ih]

theorem values_treeFrom {first node : Nat} (cells : List Cell) (later : first ≤ node) :
    (treeFrom first cells node).values = (cells[node - first]?.map (·.values)).getD [] := by
  induction cells generalizing first with
  | nil => rfl
  | cons c cells ih =>
      rw [treeFrom]
      split
      · rename_i here
        rw [here, Nat.sub_self]
        rfl
      · have beyond : node - first = node - (first + 1) + 1 := by omega
        rw [beyond, List.getElem?_cons_succ, ih (by omega)]

theorem at?_treeFrom {first node : Nat} (cells : List Cell) (later : first ≤ node) (e : Edge)
    (younger : ∀ child, cells[node - first]?.bind (·.children.lookup (.edge e)) = some child →
      node < child) :
    (treeFrom first cells node).children.at? e =
      (cells[node - first]?.bind (·.children.lookup (.edge e))).map (treeFrom first cells) := by
  induction cells generalizing first with
  | nil => rfl
  | cons c cells ih =>
      have pass {child : Nat} (beyond : node < child) :
          treeFrom first (c :: cells) child = treeFrom (first + 1) cells child := by
        rw [treeFrom, if_neg (by omega)]
      have same {found : Option Nat} (beyond : ∀ child, found = some child → node < child) :
          found.map (treeFrom (first + 1) cells) = found.map (treeFrom first (c :: cells)) :=
        Option.map_congr fun child member => (pass (beyond child member)).symm
      rw [treeFrom]
      split
      · rename_i here
        rw [here, Nat.sub_self] at younger ⊢
        rw [at?_below]
        exact same (here ▸ younger)
      · have beyond : node - first = node - (first + 1) + 1 := by omega
        rw [beyond, List.getElem?_cons_succ] at younger ⊢
        rw [ih (by omega) younger]
        exact same younger

theorem values_tree (t : NodeTable) (node : Nat) : (t.tree node).values = t.values node :=
  values_treeFrom t.cells (Nat.zero_le node)

theorem at?_tree (t : NodeTable) (node : Nat) (e : Edge) :
    (t.tree node).children.at? e = (t.child? node (.edge e)).map t.tree :=
  at?_treeFrom t.cells (Nat.zero_le node) e fun _ found => (t.younger found).1

theorem valuesAt_tree (t : NodeTable) (node : Nat) (path : List Edge) :
    (t.tree node).valuesAt path = t.held node (path.map .edge) := by
  induction path generalizing node with
  | nil => exact values_tree t node
  | cons e path ih =>
      rw [Node.valuesAt, at?_tree, List.map_cons, held, follow]
      cases t.child? node (.edge e) with
      | none => rfl
      | some child => exact ih child

theorem valuesAt_branch (t : NodeTable) (link : Link) (path : List Edge) :
    (t.branch link).valuesAt path = t.held 0 (link :: path.map .edge) := by
  rw [branch, held, follow]
  cases t.child? 0 link with
  | none => exact Node.valuesAt_empty path
  | some child => exact valuesAt_tree t child path

end NodeTable

namespace Trie

/-- The links to a place; the names of hosts lines are no nodes. -/
def Place.links? : Place → Option (List Link)
  | .host _ => none
  | .everything => some (Link.toRule .everything [])
  | .address path => some (Link.toRule .address path)
  | .domain path => some (Link.toRule .domain path)
  | .anywhere path => some (Link.toRule .anywhere path)

theorem Place.host_or_links (place : Place) :
    (∃ name, place = .host name) ∨ place.isSingle = false ∧ ∃ path, place.links? = some path := by
  cases place with
  | host name => exact .inl ⟨name, rfl⟩
  | everything | address | domain | anywhere => exact .inr ⟨rfl, _, rfl⟩

theorem Entry.links?_place (anchor : Anchor) (address : Text) (rule : Rule) :
    (Entry.pattern anchor address rule).place.links? =
      some (Link.toRule anchor (Edge.ofAddress address)) := by
  cases anchor <;> rfl

/-- The edges in a row of links. -/
def edgesIn (path : List Link) : List Edge :=
  path.filterMap fun
    | .edge e => some e
    | _ => none

theorem edgesIn_map_edge (path : List Edge) : edgesIn (path.map .edge) = path := by
  rw [edgesIn, List.filterMap_map]
  exact List.filterMap_some

/-- The place that a row of links leads to. -/
def Place.ofLinks : List Link → Place
  | .everything :: _ => .everything
  | .address :: path => .address (edgesIn path)
  | .domain :: path => .domain (edgesIn path)
  | path => .anywhere (edgesIn path)

theorem Place.ofLinks_of_links? {place : Place} {path : List Link}
    (links : place.links? = some path) : ofLinks path = place := by
  cases place with
  | host => cases links
  | everything => cases links; rfl
  | address row => cases links; exact congrArg Place.address (edgesIn_map_edge row)
  | domain row => cases links; exact congrArg Place.domain (edgesIn_map_edge row)
  | anywhere row =>
      cases links
      have same := edgesIn_map_edge row
      cases row with
      | nil => rfl
      | cons e row => exact congrArg Place.anywhere same

/-- What a look-up sees at a place of nodes is what the links to it lead to. -/
theorem heldAt_toTrie (t : SharedTrie) {place : Place} {path : List Link}
    (links : place.links? = some path) : t.toTrie.heldAt place = t.nodes.held 0 path := by
  cases place with
  | host => cases links
  | everything => cases links; exact t.nodes.valuesAt_branch .everything []
  | address row => cases links; exact t.nodes.valuesAt_branch .address row
  | domain row => cases links; exact t.nodes.valuesAt_branch .domain row
  | anywhere row => cases links; exact t.nodes.valuesAt_tree 0 row

end Trie

end FilteringProxy
