import FilteringProxy.Trie.Basic

/-! # Calls that add rules at the same time

Many calls add lines to one trie. Its nodes lie in a table, each under the number of its creation,
and know their children by number. A call holds one lock at a time: to read one child of a node, to
create one that is still missing, to put its rule into a node, or to enter all names of a hosts
line. Between two of these steps other calls may take theirs.
-/

namespace FilteringProxy

/-- What leads from a node to a child. All but the edges lead on from the root only. -/
inductive Link where
  | everything
  | address
  | domain
  | edge (e : Edge)
  deriving DecidableEq

namespace Link

/-- The links from the root to the node of a rule. -/
def toRule (anchor : Anchor) (path : List Edge) : List Link :=
  match anchor with
  | .everything => [everything]
  | .address => address :: path.map edge
  | .domain => domain :: path.map edge
  | .anywhere => path.map edge

end Link

/-- A node with the numbers of its children. -/
structure Cell where
  values : List Stored := []
  children : List (Link × Nat) := []

namespace Cell

def push (s : Stored) (c : Cell) : Cell := { c with values := c.values ++ [s] }

def adopt (link : Link) (child : Nat) (c : Cell) : Cell :=
  { c with children := (link, child) :: c.children }

/-- The number of a node's child. -/
def child? (cells : List Cell) (node : Nat) (link : Link) : Option Nat :=
  cells[node]?.bind (·.children.lookup link)

theorem lt_of_child? {cells : List Cell} {node child : Nat} {link : Link}
    (found : child? cells node link = some child) : node < cells.length := by
  obtain ⟨_, here, _⟩ := Option.bind_eq_some_iff.mp found
  exact (List.getElem?_eq_some_iff.mp here).1

theorem child?_push (cells : List Cell) (node : Nat) (s : Stored) :
    child? (cells.modify node (push s)) = child? cells := by
  funext other link
  rw [child?, child?, List.getElem?_modify]
  cases cells[other]? with
  | none => rfl
  | some c =>
      by_cases here : node = other <;>
        simp only [here, if_true, if_false, Option.map_eq_map, Option.map_some, Option.bind_some,
          push]

/-- The cells with a new one, the child of a node behind a link. -/
def grown (cells : List Cell) (node : Nat) (link : Link) : List Cell :=
  cells.modify node (adopt link cells.length) ++ [({} : Cell)]

theorem length_grown (cells : List Cell) (node : Nat) (link : Link) :
    (grown cells node link).length = cells.length + 1 := by
  rw [grown, List.length_append, List.length_modify, List.length_singleton]

theorem getElem?_grown (cells : List Cell) (node other : Nat) (link : Link) :
    (grown cells node link)[other]? =
      if other = cells.length then some {}
      else cells[other]?.map fun c => if node = other then c.adopt link cells.length else c := by
  rw [grown, List.getElem?_append, List.length_modify, List.getElem?_modify,
    List.getElem?_singleton]
  rcases Nat.lt_trichotomy other cells.length with old | rfl | beyond
  · rw [if_pos old, if_neg (Nat.ne_of_lt old)]
    rfl
  · rw [if_neg (Nat.lt_irrefl _), Nat.sub_self, if_pos rfl, if_pos rfl]
  · rw [if_neg (Nat.lt_asymm beyond), if_neg (by omega), if_neg (Nat.ne_of_gt beyond),
      List.getElem?_eq_none (Nat.le_of_lt beyond)]
    rfl

/-- A new child is found behind its own link, and everything else as before. -/
theorem child?_grown (cells : List Cell) (node other : Nat) (link link' : Link) :
    child? (grown cells node link) other link' =
      if (other = node ∧ link' = link) ∧ node < cells.length then some cells.length
      else child? cells other link' := by
  rw [child?, child?, getElem?_grown]
  by_cases new : other = cells.length
  · have elsewhere : ¬((other = node ∧ link' = link) ∧ node < cells.length) := fun h => by omega
    rw [if_pos new, if_neg elsewhere, new, List.getElem?_eq_none (Nat.le_refl _)]
    rfl
  · rw [if_neg new]
    by_cases here : other = node
    · subst here
      by_cases inside : other < cells.length
      · by_cases same : link' = link
        · simp [same, adopt, inside]
        · simp [same, adopt, inside, List.lookup_cons, beq_false_of_ne same]
      · simp [inside]
    · simp [here, Ne.symm here]

theorem of_child?_grown {cells : List Cell} {node other child : Nat} {link link' : Link}
    (found : child? (grown cells node link) other link' = some child) :
    (other = node ∧ link' = link ∧ node < cells.length ∧ child = cells.length) ∨
      child? cells other link' = some child := by
  rw [child?_grown] at found
  split at found
  · rename_i new
    exact .inl ⟨new.1.1, new.1.2, new.2, (Option.some.inj found).symm⟩
  · exact .inr found

end Cell

/-- The nodes of a trie under their numbers; the first is the root. A child is younger than its
parent, and no other link leads to it. -/
structure NodeTable where
  cells : List Cell
  rooted : 0 < cells.length
  younger : ∀ {node link child}, Cell.child? cells node link = some child →
    node < child ∧ child < cells.length
  single : ∀ {node node' link link' child}, Cell.child? cells node link = some child →
    Cell.child? cells node' link' = some child → node = node' ∧ link = link'

namespace NodeTable

theorem not_child?_root {node child : Nat} {link : Link} :
    Cell.child? [{}] node link ≠ some child := by
  intro found
  have root : node = 0 := Nat.lt_one_iff.mp (Cell.lt_of_child? found)
  subst root
  cases found

/-- A root alone. -/
def root : NodeTable where
  cells := [{}]
  rooted := Nat.zero_lt_one
  younger found := absurd found not_child?_root
  single found := absurd found not_child?_root

def child? (t : NodeTable) : Nat → Link → Option Nat := Cell.child? t.cells

/-- Put a value into a node, after those that are there. -/
def push (t : NodeTable) (node : Nat) (s : Stored) : NodeTable where
  cells := t.cells.modify node (Cell.push s)
  rooted := by
    rw [List.length_modify]
    exact t.rooted
  younger found := by
    rw [Cell.child?_push] at found
    rw [List.length_modify]
    exact t.younger found
  single found found' := by
    rw [Cell.child?_push] at found found'
    exact t.single found found'

/-- Create the child of a node behind a link that leads nowhere yet. -/
def grow (t : NodeTable) (node : Nat) (link : Link) : NodeTable where
  cells := Cell.grown t.cells node link
  rooted := by
    rw [Cell.length_grown]
    exact Nat.succ_pos _
  younger {other link' child} found := by
    rw [Cell.length_grown]
    rcases Cell.of_child?_grown found with ⟨rfl, -, inside, rfl⟩ | old
    · exact ⟨inside, Nat.lt_succ_self _⟩
    · exact ⟨(t.younger old).1, Nat.lt_succ_of_lt (t.younger old).2⟩
  single found found' := by
    rcases Cell.of_child?_grown found with ⟨rfl, rfl, -, new⟩ | old <;>
      rcases Cell.of_child?_grown found' with ⟨rfl, rfl, -, new'⟩ | old'
    · exact ⟨rfl, rfl⟩
    · exact absurd new (Nat.ne_of_lt (t.younger old').2)
    · exact absurd new' (Nat.ne_of_lt (t.younger old).2)
    · exact t.single old old'

/-- The child of a node behind a link, a new one if it is still missing. -/
def childOrInsert (t : NodeTable) (node : Nat) (link : Link) : NodeTable × Nat :=
  match t.child? node link with
  | some child => (t, child)
  | none => (t.grow node link, t.cells.length)

/-- The children behind edges, each with its own ones. -/
def below (tree : Nat → Node Stored) : List (Link × Nat) → Children Stored
  | [] => .none
  | (.edge e, child) :: rest => .child e (tree child).values (tree child).children (below tree rest)
  | (_, _) :: rest => below tree rest

/-- A node with everything below it, among cells that are numbered from `first` on. Younger nodes
are read first. -/
def treeFrom (first : Nat) : List Cell → Nat → Node Stored
  | [], _ => {}
  | c :: later, node =>
    if node = first then
      { values := c.values, children := below (treeFrom (first + 1) later) c.children }
    else treeFrom (first + 1) later node

/-- A node with everything below it. -/
def tree (t : NodeTable) : Nat → Node Stored := treeFrom 0 t.cells

/-- What is behind a link of the root. -/
def branch (t : NodeTable) (link : Link) : Node Stored := ((t.child? 0 link).map t.tree).getD {}

end NodeTable

/-- What the calls share. -/
structure SharedTrie where
  /-- The number of the next rule that is filed. -/
  next : Nat := 0
  hosts : List (Text × Stored) := []
  nodes : NodeTable := .root

namespace SharedTrie

def addHost (rule : Rule) (t : SharedTrie) (name : Text) : SharedTrie :=
  { t with next := t.next + 1, hosts := (name.lower, ⟨t.next, rule⟩) :: t.hosts }

def push (t : SharedTrie) (node : Nat) (rule : Rule) : SharedTrie :=
  { t with next := t.next + 1, nodes := t.nodes.push node ⟨t.next, rule⟩ }

/-- The trie as a look-up sees it. -/
def toTrie (t : SharedTrie) : Trie where
  next := t.next
  hosts := t.hosts
  everything := (t.nodes.branch .everything).values
  address := t.nodes.branch .address
  domain := t.nodes.branch .domain
  anywhere := t.nodes.tree 0

end SharedTrie

/-- How far a call to add a line has come. -/
inductive AddStage where
  | begun
  /-- At a node, with the links that still lead to where the rule belongs. -/
  | walking (node : Nat) (ahead : List Link) (rule : Rule)
  /-- The node had no child behind a link when it was read. -/
  | missing (node : Nat) (link : Link) (ahead : List Link) (rule : Rule)
  | finished (result : Except RuleError Nat)

/-- A call to add a line. -/
structure AddCall where
  line : Text
  raw : Text
  list : Text
  stage : AddStage := .begun

namespace AddCall

/-- The next step of a call: what becomes of the trie, and how far the call has come then. -/
def next (t : SharedTrie) (c : AddCall) : SharedTrie × AddStage :=
  match c.stage with
  | .begun =>
    match RuleLine.parse c.line with
    | .error e => (t, .finished (.error e))
    | .ok (.hosts names) =>
      (names.foldl (SharedTrie.addHost { raw := c.raw, list := c.list }) t,
        .finished (.ok names.length))
    | .ok (.pattern anchor address modifiers) =>
      (t, .walking 0 (Link.toRule anchor (Edge.ofAddress address))
        { raw := c.raw, list := c.list, modifiers })
  | .walking node [] rule => (t.push node rule, .finished (.ok 1))
  | .walking node (link :: ahead) rule =>
    match t.nodes.child? node link with
    | some child => (t, .walking child ahead rule)
    | none => (t, .missing node link ahead rule)
  | .missing node link ahead rule =>
    let (nodes, child) := t.nodes.childOrInsert node link
    ({ t with nodes }, .walking child ahead rule)
  | .finished result => (t, .finished result)

end AddCall

/-- A trie with all calls that add lines to it. -/
structure AddSession where
  trie : SharedTrie := {}
  calls : List AddCall

namespace AddSession

/-- The call with this place among all calls takes its next step. -/
def step (s : AddSession) (place : Nat) : AddSession :=
  match s.calls[place]? with
  | none => s
  | some c =>
    let (trie, stage) := c.next s.trie
    { trie, calls := s.calls.set place { c with stage } }

/-- What comes of a schedule. -/
def run (s : AddSession) (schedule : List Nat) : AddSession := schedule.foldl step s

end AddSession

end FilteringProxy
