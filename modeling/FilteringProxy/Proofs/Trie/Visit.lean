import FilteringProxy.Proofs.Trie.Lookup

/-! # The order of a look-up

A look-up goes through the places of a trie in an order that the target alone decides, however the
children of its nodes are arranged. What it finds is what the trie holds at these places, each place
at its first visit only. At the end of the input it goes on by signs for a separator for as long as
there are nodes; `depth` bounds how many.
-/

namespace FilteringProxy

namespace Edge

/-- Rows of fewer than `n` signs for a separator, the shortest first. -/
def separators : Nat → List (List Edge)
  | 0 => []
  | n + 1 => [] :: (separators n).map (separator :: ·)

/-- The rows of edges that a walk visits, in its order. -/
def rows (whole : Bool) (depth : Nat) : List Token → List (List Edge)
  | [] => separators depth
  | t :: ts =>
    (if whole then [] else [[]]) ++
      (takers t).flatMap fun e => (rows whole depth ts).map (e :: ·)

end Edge

namespace Children

/-- The longest row of edges to a node. -/
def depth : Children α → Nat
  | none => 0
  | child _ _ below beside => max (below.depth + 1) beside.depth

theorem depth_at? {e : Edge} {cs : Children α} {m : Node α} (found : cs.at? e = some m) :
    m.children.depth < cs.depth := by
  induction cs with
  | none => cases found
  | child f values below beside _ ihBeside =>
      rw [at?] at found
      split at found
      · cases found
        exact Nat.lt_of_lt_of_le (Nat.lt_succ_self _) (Nat.le_max_left ..)
      · exact Nat.lt_of_lt_of_le (ihBeside found) (Nat.le_max_right ..)

theorem atEnd_eq (values : List α) {cs : Children α} {depth : Nat} (deep : cs.depth < depth) :
    values ++ cs.atEnd = (Edge.separators depth).flatMap (Node.valuesAt · ⟨values, cs⟩) := by
  induction cs generalizing values depth with
  | none =>
      cases depth with
      | zero => cases deep
      | succ n =>
          have nothing : (Edge.separators n).flatMap (fun _ => ([] : List α)) = [] :=
            List.flatMap_eq_nil_iff.mpr fun _ _ => rfl
          simp only [atEnd, Edge.separators, List.flatMap_cons, List.flatMap_map, Node.valuesAt,
            at?, nothing]
  | child f inner below beside ihBelow ihBeside =>
      cases depth with
      | zero => cases deep
      | succ n =>
          have bounds := Nat.max_lt.mp deep
          by_cases here : f = .separator
          · subst here
            have later := ihBelow inner (Nat.lt_of_succ_lt_succ bounds.1)
            simp only [atEnd, if_true, later, Edge.separators, List.flatMap_cons, List.flatMap_map,
              Node.valuesAt, at?]
          · have skipped := ihBeside values bounds.2
            simp only [atEnd, if_neg here, skipped, Edge.separators, List.flatMap_cons,
              List.flatMap_map, Node.valuesAt, at?, if_neg (Ne.symm here)]

end Children

namespace Node

theorem follow_eq {whole : Bool} {ts : List Token} {rows : List (List Edge)} {n : Node α}
    (walked : ∀ (e : Edge) (m : Node α), n.children.at? e = some m →
      m.walk whole ts = rows.flatMap (m.valuesAt ·)) (e : Edge) :
    n.follow whole ts e = (rows.map (e :: ·)).flatMap (n.valuesAt ·) := by
  simp only [follow, List.flatMap_map, valuesAt]
  cases found : n.children.at? e with
  | none => exact (List.flatMap_eq_nil_iff.mpr fun _ _ => rfl).symm
  | some m => exact walked e m found

/-- A walk finds what is filed under the rows that it visits, row by row. -/
theorem walk_eq (whole : Bool) (tokens : List Token) {n : Node α} {depth : Nat}
    (deep : n.children.depth < depth) :
    n.walk whole tokens = (Edge.rows whole depth tokens).flatMap (n.valuesAt ·) := by
  induction tokens generalizing n with
  | nil => exact Children.atEnd_eq n.values deep
  | cons t ts ih =>
      have beyond := follow_eq (n := n) fun e m found =>
        ih (Nat.lt_trans (Children.depth_at? found) deep)
      simp only [walk_cons, Edge.rows, List.flatMap_append, List.flatMap_assoc, ← beyond]
      cases whole <;>
        simp only [Bool.false_eq_true, if_false, if_true, List.flatMap_nil, List.flatMap_cons,
          valuesAt, List.append_nil]

end Node

namespace Trie

/-- The places that are visited from the token with number `i` on. -/
def visitsFrom (depth count : Nat) : Nat → Option Token → List Token → List Place
  | _, _, [] => []
  | i, before, token :: rest =>
    (if beginsLabel count i before then
        (Edge.rows false depth (token :: rest)).map Place.domain else []) ++
      (Edge.rows false depth (token :: rest)).map Place.anywhere ++
      visitsFrom depth count (i + 1) (some token) rest

/-- The places that a look-up visits, in its order. -/
def visits (depth : Nat) (u : Http.Uri) : List Place :=
  match u.host? with
  | none => []
  | some host =>
    let host := host.lower
    .host host :: .everything :: (Edge.rows true depth (targetTokens u host)).map .address ++
      visitsFrom depth (tokenize host).length 0 none (targetTokens u host)

/-- A bound for the rows of edges of all entry points. -/
def depth (t : Trie) : Nat :=
  max t.address.children.depth (max t.domain.children.depth t.anywhere.children.depth) + 1

theorem walkFrom_eq {t : Trie} {bound : Nat} (deep : t.depth ≤ bound) (count i : Nat)
    (before : Option Token) (tokens : List Token) :
    t.walkFrom count i before tokens =
      (visitsFrom bound count i before tokens).flatMap t.heldAt := by
  obtain ⟨_, domain, anywhere⟩ : t.address.children.depth < bound ∧
      t.domain.children.depth < bound ∧ t.anywhere.children.depth < bound := by
    simp only [depth] at deep
    omega
  induction tokens generalizing i before with
  | nil => rfl
  | cons token rest ih =>
      simp only [walkFrom, visitsFrom, List.flatMap_append, ih, Node.walk_eq _ _ domain,
        Node.walk_eq _ _ anywhere]
      cases beginsLabel count i before <;>
        simp only [if_true, Bool.false_eq_true, if_false, List.flatMap_map, List.flatMap_nil,
          heldAt]

/-- The candidates are what the trie holds at the places that the look-up visits. -/
theorem candidates_eq {t : Trie} {bound : Nat} (deep : t.depth ≤ bound) (u : Http.Uri) :
    t.candidates u = (visits bound u).flatMap t.heldAt := by
  have address : t.address.children.depth < bound := by
    simp only [depth] at deep
    omega
  simp only [candidates, visits]
  cases u.host? with
  | none => rfl
  | some host =>
      simp only [walkFrom_eq deep, Node.walk_eq _ _ address, List.flatMap_append,
        List.flatMap_cons, List.flatMap_map, heldAt, List.append_assoc, targetTokens]

/-! ## First visits -/

/-- The places at their first visits, without those that have been seen before. -/
def firstVisits (seen : List Place) : List Place → List Place
  | [] => []
  | p :: later =>
    if p ∈ seen then firstVisits seen later else p :: firstVisits (p :: seen) later

theorem nodup_firstVisits (seen places : List Place) :
    (firstVisits seen places).Nodup ∧ ∀ p ∈ firstVisits seen places, p ∉ seen := by
  induction places generalizing seen with
  | nil => exact ⟨List.nodup_nil, fun _ member => nomatch member⟩
  | cons p later ih =>
      rw [firstVisits]
      split
      · exact ih seen
      · rename_i new
        obtain ⟨nodup, unseen⟩ := ih (p :: seen)
        refine ⟨List.nodup_cons.mpr ⟨fun again => unseen p again List.mem_cons_self, nodup⟩, ?_⟩
        intro q member
        rcases List.mem_cons.mp member with rfl | member
        · exact new
        · exact fun old => unseen q member (List.mem_cons_of_mem p old)

theorem distinct_append_old {seen : List Nat} {l : List Stored} (old : ∀ s ∈ l, s.number ∈ seen)
    (rest : List Stored) : distinct seen (l ++ rest) = distinct seen rest := by
  induction l with
  | nil => rfl
  | cons s l ih =>
      rw [List.cons_append, distinct, if_pos (List.contains_iff_mem.mpr (old s List.mem_cons_self))]
      exact ih fun a member => old a (List.mem_cons_of_mem s member)

theorem distinct_append_new {seen : List Nat} {l : List Stored}
    (nodup : (l.map (·.number)).Nodup) (new : ∀ s ∈ l, s.number ∉ seen) (rest : List Stored) :
    distinct seen (l ++ rest) = l ++ distinct ((l.map (·.number)).reverse ++ seen) rest := by
  induction l generalizing seen with
  | nil => rfl
  | cons s l ih =>
      obtain ⟨once, nodup⟩ := List.nodup_cons.mp nodup
      have fresh : ¬seen.contains s.number = true := fun old =>
        new s List.mem_cons_self (List.contains_iff_mem.mp old)
      have later : ∀ a ∈ l, a.number ∉ s.number :: seen := by
        intro a member old
        rcases List.mem_cons.mp old with same | old
        · exact once (List.mem_map.mpr ⟨a, member, same⟩)
        · exact new a (List.mem_cons_of_mem s member) old
      rw [List.cons_append, distinct, if_neg fresh, ih nodup later, List.map_cons,
        List.reverse_cons, List.append_assoc, List.singleton_append, List.cons_append]

/-- When every place has numbers of its own, only second visits are dropped. -/
theorem distinct_flatMap {held : Place → List Stored}
    (nodup : ∀ p, ((held p).map (·.number)).Nodup)
    (own : ∀ p q, ∀ s ∈ held p, ∀ a ∈ held q, s.number = a.number → p = q)
    {marks : List Nat} {seen : List Place}
    (marked : ∀ p, ∀ s ∈ held p, s.number ∈ marks ↔ p ∈ seen) (places : List Place) :
    distinct marks (places.flatMap held) = (firstVisits seen places).flatMap held := by
  induction places generalizing marks seen with
  | nil => rfl
  | cons p later ih =>
      rw [List.flatMap_cons, firstVisits]
      by_cases old : p ∈ seen
      · rw [if_pos old, distinct_append_old fun s member => (marked p s member).mpr old]
        exact ih marked
      · have new : ∀ s ∈ held p, s.number ∉ marks := fun s member mark =>
          old ((marked p s member).mp mark)
        rw [if_neg old, distinct_append_new (nodup p) new, List.flatMap_cons]
        refine congrArg _ (ih fun q s member => ?_)
        rw [List.mem_append, List.mem_reverse, List.mem_cons, marked q s member]
        refine or_congr_left ⟨fun here => ?_, fun same => ?_⟩
        · obtain ⟨a, there, number⟩ := List.mem_map.mp here
          exact own q p s member a there number.symm
        · exact List.mem_map_of_mem (same ▸ member)

/-! ## What is found -/

/-- The current entries of a place with their numbers, in the order of filing. -/
def filedAt (entries : List Entry) (p : Place) : List (Entry × Nat) :=
  (Entry.current (·.1.place) entries.zipIdx).filter (·.1.place = p)

/-- The numbered entries that a look-up finds, in its order. -/
def found (entries : List Entry) (bound : Nat) (u : Http.Uri) (accepts : Rule → Bool) :
    List (Entry × Nat) :=
  (firstVisits [] (visits bound u)).flatMap fun p =>
    (filedAt entries p).filter (accepts ·.1.rule)

theorem mem_filedAt {entries : List Entry} {p : Place} {e : Entry × Nat}
    (member : e ∈ filedAt entries p) : e ∈ entries.zipIdx ∧ e.1.place = p := by
  obtain ⟨current, place⟩ := List.mem_filter.mp member
  exact ⟨(Entry.current_sublist _ _).subset current, of_decide_eq_true place⟩

theorem pairwise_filedAt (entries : List Entry) (p : Place) :
    (filedAt entries p).Pairwise (·.2 < ·.2) := by
  have numbered : entries.zipIdx.Pairwise (·.2 < ·.2) := by
    rw [← List.pairwise_map, List.zipIdx_map_snd]
    exact List.pairwise_lt_range'
  exact (numbered.sublist (Entry.current_sublist _ _)).filter _

theorem findWhere_eq {entries : List Entry} {bound : Nat}
    (deep : (ofEntries entries).depth ≤ bound) (u : Http.Uri) (accepts : Rule → Bool) :
    (ofEntries entries).findWhere u accepts =
      (found entries bound u accepts).map (·.1.rule) := by
  let held (p : Place) : List Stored := ((filedAt entries p).filter (accepts ·.1.rule)).map storedOf
  have holds : (fun p => ((ofEntries entries).heldAt p).filter (accepts ·.rule)) = held := by
    funext p
    rw [heldAt_ofEntries, List.filter_map]
    rfl
  have entry {p : Place} {s : Stored} (member : s ∈ held p) :
      ∃ e ∈ filedAt entries p, storedOf e = s := by
    obtain ⟨e, filed, stored⟩ := List.mem_map.mp member
    exact ⟨e, List.mem_of_mem_filter filed, stored⟩
  have nodup (p : Place) : ((held p).map (·.number)).Nodup := by
    rw [List.map_map]
    exact List.pairwise_map.mpr (((pairwise_filedAt entries p).filter _).imp Nat.ne_of_lt)
  have own (p q : Place) : ∀ s ∈ held p, ∀ a ∈ held q, s.number = a.number → p = q := by
    intro s here a there number
    obtain ⟨e, filed, rfl⟩ := entry here
    obtain ⟨f, filed', rfl⟩ := entry there
    have same := unique_number (mem_filedAt filed).1 (mem_filedAt filed').1 number
    rw [← (mem_filedAt filed).2, ← (mem_filedAt filed').2, same]
  have unmarked (p : Place) :
      ∀ s ∈ held p, s.number ∈ ([] : List Nat) ↔ p ∈ ([] : List Place) := by
    intro s _
    simp only [List.not_mem_nil]
  rw [findWhere, candidates_eq deep, List.filter_flatMap, holds,
    distinct_flatMap nodup own unmarked]
  simp only [found, List.map_flatMap, held, List.map_map]
  rfl

end Trie

end FilteringProxy
