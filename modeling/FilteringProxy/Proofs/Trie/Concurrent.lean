import FilteringProxy.Proofs.Trie.NodeTable
import FilteringProxy.Proofs.Trie.Visit

/-! # Calls that add rules at the same time lose nothing

A call that is on its way stands at the node that the links behind it lead to, whatever other calls
do meanwhile: links are never redirected. So it puts its rule in at the right place, and the whole
trie holds at any time what the calls that have finished would have put into it one after another,
in the order in which they finished.
-/

namespace FilteringProxy

open Http (Request Exchange)

namespace Trie

/-- Both tries hold the same at every place and count alike; their nodes may be arranged
differently. -/
structure SameContent (t u : Trie) : Prop where
  next : t.next = u.next
  held : ∀ place, t.heldAt place = u.heldAt place

namespace SameContent

variable {t u v : Trie}

protected theorem refl (t : Trie) : SameContent t t := ⟨rfl, fun _ => rfl⟩

theorem trans (first : SameContent t u) (second : SameContent u v) : SameContent t v :=
  ⟨first.next.trans second.next, fun place => (first.held place).trans (second.held place)⟩

theorem file (same : SameContent t u) (e : Entry) : SameContent (t.file e) (u.file e) where
  next := by rw [next_file, next_file, same.next]
  held place := by rw [heldAt_file, heldAt_file, same.next, same.held]

theorem addition (same : SameContent t u) (a : Addition) :
    SameContent (t.addition a) (u.addition a) := by
  rw [addition_eq, addition_eq]
  induction a.entries generalizing t u with
  | nil => exact same
  | cons e later ih => exact ih (same.file e)

theorem findWhere (same : SameContent t u) (uri : Http.Uri) (accepts : Rule → Bool) :
    t.findWhere uri accepts = u.findWhere uri accepts := by
  have held : t.heldAt = u.heldAt := funext same.held
  rw [Trie.findWhere, Trie.findWhere, candidates_eq (Nat.le_max_left t.depth u.depth),
    candidates_eq (Nat.le_max_right t.depth u.depth), held]

end SameContent

theorem ofAdditions_concat (additions : List Addition) (a : Addition) :
    ofAdditions (additions ++ [a]) = (ofAdditions additions).addition a := by
  rw [ofAdditions, List.foldl_append]
  rfl

end Trie

open Trie (Addition SameContent)

/-! ## Where a call stands -/

namespace SharedTrie

/-- Whatever links led to, they still lead to. -/
def Extends (t t' : SharedTrie) : Prop :=
  ∀ {path : List Link} {node : Nat},
    t.nodes.follow 0 path = some node → t'.nodes.follow 0 path = some node

theorem toTrie_addHosts (t : SharedTrie) (rule : Rule) (names : List Text) :
    (names.foldl (addHost rule) t).toTrie = names.foldl (Trie.addHost rule) t.toTrie := by
  induction names generalizing t with
  | nil => rfl
  | cons name names ih => exact ih (t.addHost rule name)

theorem nodes_addHosts (t : SharedTrie) (rule : Rule) (names : List Text) :
    (names.foldl (addHost rule) t).nodes = t.nodes := by
  induction names generalizing t with
  | nil => rfl
  | cons name names ih => exact ih (t.addHost rule name)

theorem push_content {t : SharedTrie} {node : Nat} {anchor : Anchor} {address : Text}
    (reached : t.nodes.follow 0 (Link.toRule anchor (Edge.ofAddress address)) = some node)
    (rule : Rule) :
    SameContent (t.push node rule).toTrie (t.toTrie.file (.pattern anchor address rule)) where
  next := by
    rw [Trie.next_file]
    rfl
  held place := by
    have here := Trie.Entry.links?_place anchor address rule
    rw [Trie.heldAt_file]
    rcases place.host_or_links with ⟨name, rfl⟩ | ⟨many, path, links⟩
    · cases anchor <;> rfl
    · rw [Trie.heldAt_toTrie _ links, Trie.heldAt_toTrie _ links, push,
        NodeTable.held_push reached, many]
      by_cases same : (Trie.Entry.pattern anchor address rule).place = place
      · rw [same, links] at here
        rw [if_pos (Option.some.inj here), if_pos same]
        rfl
      · have other : path ≠ Link.toRule anchor (Edge.ofAddress address) := by
          rintro rfl
          exact same ((Trie.Place.ofLinks_of_links? here).symm.trans
            (Trie.Place.ofLinks_of_links? links))
        rw [if_neg other, if_neg same]

theorem grow_content (t : SharedTrie) {node : Nat} {link : Link}
    (missing : t.nodes.child? node link = none) :
    SameContent { t with nodes := t.nodes.grow node link }.toTrie t.toTrie where
  next := rfl
  held place := by
    rcases place.host_or_links with ⟨name, rfl⟩ | ⟨_, path, links⟩
    · rfl
    · rw [Trie.heldAt_toTrie _ links, Trie.heldAt_toTrie _ links]
      exact NodeTable.held_grow missing path

end SharedTrie

namespace AddStage

def isFinished : AddStage → Bool
  | finished _ => true
  | _ => false

/-- How far a call to add a line can be: it has come from the root along the first links to its
place, or it has finished with what it returns when it is alone. -/
inductive Reached (t : SharedTrie) (a : Addition) : AddStage → Prop where
  | begun : Reached t a .begun
  | walking {anchor : Anchor} {address : Text} {modifiers : ModifierSet} {node : Nat}
      {passed ahead : List Link}
      (parsed : RuleLine.parse a.line = .ok (.pattern anchor address modifiers))
      (links : Link.toRule anchor (Edge.ofAddress address) = passed ++ ahead)
      (here : t.nodes.follow 0 passed = some node) :
      Reached t a (.walking node ahead { raw := a.raw, list := a.list, modifiers })
  | missing {anchor : Anchor} {address : Text} {modifiers : ModifierSet} {node : Nat}
      {passed ahead : List Link} {link : Link}
      (parsed : RuleLine.parse a.line = .ok (.pattern anchor address modifiers))
      (links : Link.toRule anchor (Edge.ofAddress address) = passed ++ link :: ahead)
      (here : t.nodes.follow 0 passed = some node) :
      Reached t a (.missing node link ahead { raw := a.raw, list := a.list, modifiers })
  | finished {result : Except RuleError Nat}
      (alone : ∀ u : Trie, (u.add a.line a.raw a.list).map (·.2) = result) :
      Reached t a (.finished result)

theorem Reached.mono {t t' : SharedTrie} {a : Addition} {stage : AddStage}
    (reached : Reached t a stage) (kept : t.Extends t') : Reached t' a stage := by
  cases reached with
  | begun => exact .begun
  | walking parsed links here => exact .walking parsed links (kept here)
  | missing parsed links here => exact .missing parsed links (kept here)
  | finished alone => exact .finished alone

end AddStage

namespace AddCall

def addition (c : AddCall) : Addition := ⟨c.line, c.raw, c.list⟩

def isFinished (c : AddCall) : Bool := c.stage.isFinished

/-- A bound for the steps that a call still has to take. -/
def left (c : AddCall) : Nat :=
  match c.stage with
  | .begun =>
    match RuleLine.parse c.line with
    | .ok (.pattern anchor address _) =>
      2 * (Link.toRule anchor (Edge.ofAddress address)).length + 2
    | _ => 1
  | .walking _ ahead _ => 2 * ahead.length + 1
  | .missing _ _ ahead _ => 2 * ahead.length + 2
  | .finished _ => 0

theorem left_next (t : SharedTrie) (c : AddCall) :
    { c with stage := (c.next t).2 : AddCall }.left ≤ c.left - 1 := by
  obtain ⟨line, raw, list, stage⟩ := c
  cases stage with
  | begun =>
      cases parsed : RuleLine.parse line with
      | error => simp only [next, left, parsed, Nat.zero_le]
      | ok read => cases read <;> simp [next, left, parsed]
  | walking node ahead rule =>
      cases ahead with
      | nil => exact Nat.zero_le _
      | cons link ahead =>
          cases found : t.nodes.child? node link <;>
            simp only [next, left, found, List.length_cons] <;> omega
  | missing node link ahead rule => exact Nat.le_refl _
  | finished => exact Nat.le_refl _

theorem isFinished_of_left {c : AddCall} (none_left : c.left = 0) : c.isFinished = true := by
  obtain ⟨line, raw, list, stage⟩ := c
  cases stage with
  | begun =>
      rw [left] at none_left
      dsimp only at none_left
      split at none_left <;> cases none_left
  | walking | missing => cases none_left
  | finished => rfl

/-- What one step of a call does to the trie: no link is redirected, and nothing is put in, or the
whole addition at once. -/
inductive Took (t : SharedTrie) (c : AddCall) : SharedTrie → AddStage → Prop where
  | moved {t' : SharedTrie} {stage : AddStage} (kept : t.Extends t')
      (reached : stage.Reached t' c.addition) (same : stage.isFinished = c.isFinished)
      (content : SameContent t'.toTrie t.toTrie) : Took t c t' stage
  | completed {t' : SharedTrie} {stage : AddStage} (kept : t.Extends t')
      (reached : stage.Reached t' c.addition) (before : c.isFinished = false)
      (after : stage.isFinished = true)
      (content : SameContent t'.toTrie (t.toTrie.addition c.addition)) : Took t c t' stage

theorem took {t : SharedTrie} {c : AddCall} (reached : c.stage.Reached t c.addition) :
    Took t c (c.next t).1 (c.next t).2 := by
  obtain ⟨line, raw, list, stage⟩ := c
  change AddStage.Reached t ⟨line, raw, list⟩ stage at reached
  cases reached with
  | begun =>
      cases parsed : RuleLine.parse line with
      | error fault =>
          have refused (u : Trie) := Trie.add_of_refused parsed u raw list
          simp only [next, parsed]
          refine .completed id (.finished fun u => congrArg _ (refused u)) rfl rfl ?_
          simp only [addition, Trie.addition, refused]
          exact .refl _
      | ok read =>
          have accepted (u : Trie) := Trie.add_of_parse parsed u raw list
          cases read with
          | hosts names =>
              simp only [next, parsed]
              refine .completed ?_ (.finished fun u => congrArg _ (accepted u)) rfl rfl ?_
              · intro path node found
                rwa [SharedTrie.nodes_addHosts]
              · simp only [addition, Trie.addition, accepted, SharedTrie.toTrie_addHosts]
                exact .refl _
          | pattern anchor address modifiers =>
              simp only [next, parsed]
              exact .moved id (.walking parsed (List.nil_append _).symm rfl) rfl (.refl _)
  | @walking anchor address modifiers node passed ahead parsed links here =>
      cases ahead with
      | nil =>
          rw [List.append_nil] at links
          subst links
          have accepted (u : Trie) := Trie.add_of_parse parsed u raw list
          refine .completed ?_ (.finished fun u => congrArg _ (accepted u)) rfl rfl ?_
          · intro path node' found
            exact (NodeTable.follow_push ..).trans found
          · simp only [addition, Trie.addition, accepted]
            exact SharedTrie.push_content here _
      | cons link ahead =>
          cases found : t.nodes.child? node link with
          | none =>
              simp only [next, found]
              exact .moved id (.missing parsed links here) rfl (.refl _)
          | some child =>
              simp only [next, found]
              exact .moved id (.walking parsed (links.trans (List.append_cons ..))
                (NodeTable.follow_concat.mpr ⟨node, here, found⟩)) rfl (.refl _)
  | @missing anchor address modifiers node passed ahead link parsed links here =>
      have links := links.trans (List.append_cons passed link ahead)
      cases found : t.nodes.child? node link with
      | some child =>
          simp only [next, NodeTable.childOrInsert, found]
          exact .moved id (.walking parsed links (NodeTable.follow_concat.mpr ⟨node, here, found⟩))
            rfl (.refl _)
      | none =>
          simp only [next, NodeTable.childOrInsert, found]
          have child := NodeTable.child?_grow_self (NodeTable.lt_of_follow here) link
          have arrived := NodeTable.follow_concat.mpr
            ⟨node, NodeTable.follow_grow found here, child⟩
          exact .moved (NodeTable.follow_grow found) (.walking parsed links arrived) rfl
            (t.grow_content found)
  | finished alone => exact .moved id (.finished alone) rfl (.refl _)

end AddCall

/-! ## All calls -/

def Trie.Addition.call (a : Addition) : AddCall := { line := a.line, raw := a.raw, list := a.list }

namespace AddSession

/-- All calls are still to begin, and the trie is empty. -/
def start (additions : List Addition) : AddSession := { calls := additions.map (·.call) }

theorem getElem?_step (s : AddSession) (now place : Nat) :
    (s.step now).calls[place]? = s.calls[place]?.map fun c =>
      if place = now then { c with stage := (c.next s.trie).2 } else c := by
  rw [step]
  cases found : s.calls[now]? with
  | none =>
      by_cases here : place = now
      · rw [here, found]
        rfl
      · simp only [here, if_false, Option.map_id']
  | some c =>
      rw [List.getElem?_set]
      by_cases here : now = place
      · subst here
        rw [if_pos rfl, found, if_pos (List.getElem?_eq_some_iff.mp found).1]
        simp only [Option.map_some, if_true]
      · simp only [here, Ne.symm here, if_false, Option.map_id']

/-- The addition that the next step of a call completes, if it does. -/
def completed (s : AddSession) (place : Nat) : List Addition :=
  match s.calls[place]? with
  | none => []
  | some c => if !c.isFinished && (c.next s.trie).2.isFinished then [c.addition] else []

/-- The additions in the order in which a schedule completes them. -/
def completions (s : AddSession) : List Nat → List Addition
  | [] => []
  | place :: later => s.completed place ++ (s.step place).completions later

/-- The additions of the calls that have finished. -/
def done (calls : List AddCall) : List Addition :=
  (calls.filter (·.isFinished)).map (·.addition)

/-- The calls that have finished could have come one after another in this order. -/
structure InOrder (s : AddSession) (order : List Addition) : Prop where
  reached : ∀ c ∈ s.calls, c.stage.Reached s.trie c.addition
  content : SameContent s.trie.toTrie (Trie.ofAdditions order)
  finished : order.Perm (done s.calls)

theorem done_set {calls : List AddCall} {place : Nat} {c : AddCall} {stage : AddStage}
    (found : calls[place]? = some c) (stays : c.isFinished = true → stage.isFinished = true) :
    (done calls ++ if !c.isFinished && stage.isFinished then [c.addition] else []).Perm
      (done (calls.set place { c with stage })) := by
  induction calls generalizing place with
  | nil => cases found
  | cons d calls ih =>
      cases place with
      | zero =>
          cases found
          have now : AddCall.isFinished { c with stage } = stage.isFinished := rfl
          simp only [List.set_cons_zero, done, List.filter_cons, now]
          cases before : c.isFinished with
          | true =>
              rw [stays before]
              exact .of_eq (List.append_nil _)
          | false =>
              cases stage.isFinished with
              | true => exact List.perm_append_singleton _ _
              | false => exact .of_eq (List.append_nil _)
      | succ place =>
          have found : calls[place]? = some c := found
          have later := ih found
          simp only [List.set_cons_succ, done, List.filter_cons] at later ⊢
          split
          · exact later.cons d.addition
          · exact later

theorem step_inOrder {s : AddSession} {order : List Addition} (ordered : s.InOrder order)
    (place : Nat) : (s.step place).InOrder (order ++ s.completed place) := by
  cases found : s.calls[place]? with
  | none => simpa only [step, completed, found, List.append_nil] using ordered
  | some c =>
      have took := AddCall.took (ordered.reached c (List.mem_of_getElem? found))
      simp only [step, completed, found]
      generalize c.next s.trie = outcome at took ⊢
      obtain ⟨t', stage⟩ := outcome
      dsimp only at took ⊢
      have others (kept : s.trie.Extends t') (reached : stage.Reached t' c.addition) :
          ∀ d ∈ s.calls.set place { c with stage }, d.stage.Reached t' d.addition := by
        intro d member
        rcases List.mem_or_eq_of_mem_set member with old | rfl
        · exact (ordered.reached d old).mono kept
        · exact reached
      have finished (stays : c.isFinished = true → stage.isFinished = true) :=
        (ordered.finished.append_right _).trans (done_set found stays)
      cases took with
      | moved kept reached same content =>
          refine ⟨others kept reached, ?_, finished same.trans⟩
          rw [same, Bool.not_and_self, if_neg Bool.false_ne_true, List.append_nil]
          exact content.trans ordered.content
      | completed kept reached before after content =>
          refine ⟨others kept reached, ?_, finished fun _ => after⟩
          simp only [before, after, Bool.not_false, Bool.and_self, if_true]
          rw [Trie.ofAdditions_concat]
          exact content.trans (ordered.content.addition _)

/-- At any time the trie holds what the calls that have finished so far put into it one after
another, in the order in which they finished. -/
theorem run_inOrder {s : AddSession} {order : List Addition} (ordered : s.InOrder order)
    (schedule : List Nat) : (s.run schedule).InOrder (order ++ s.completions schedule) := by
  induction schedule generalizing s order with
  | nil =>
      rw [completions, List.append_nil]
      exact ordered
  | cons place later ih =>
      rw [completions, ← List.append_assoc]
      exact ih (step_inOrder ordered place)

theorem start_inOrder (additions : List Addition) : (start additions).InOrder [] where
  reached c member := by
    obtain ⟨a, _, rfl⟩ := List.mem_map.mp member
    exact .begun
  content := by
    refine ⟨rfl, fun place => ?_⟩
    rw [Trie.ofAdditions, List.foldl_nil, Trie.heldAt_empty]
    rcases place.host_or_links with ⟨name, rfl⟩ | ⟨-, path, links⟩
    · rfl
    · rw [Trie.heldAt_toTrie _ links]
      exact NodeTable.held_root path
  finished := by
    have none_yet : done (start additions).calls = [] :=
      List.map_eq_nil_iff.mpr (List.filter_eq_nil_iff.mpr fun c member => by
        obtain ⟨a, _, rfl⟩ := List.mem_map.mp member
        exact Bool.false_ne_true)
    rw [none_yet]

/-- A call that has finished returned what it returns when it is alone. -/
theorem result_alone {additions : List Addition} {schedule : List Nat} {c : AddCall}
    {result : Except RuleError Nat} (member : c ∈ ((start additions).run schedule).calls)
    (stage : c.stage = .finished result) (t : Trie) :
    (t.add c.line c.raw c.list).map (·.2) = result := by
  have reached := (run_inOrder (start_inOrder additions) schedule).reached c member
  rw [stage] at reached
  cases reached with
  | finished alone => exact alone t

/-! ## When all calls have finished -/

def Finished (s : AddSession) : Prop := ∀ c ∈ s.calls, c.isFinished = true

instance (s : AddSession) : Decidable s.Finished :=
  inferInstanceAs (Decidable (∀ c ∈ s.calls, c.isFinished = true))

/-- No call waits for another: each has finished once the schedule has given it as many steps as it
has left. -/
theorem finished_of_count {s : AddSession} {schedule : List Nat}
    (enough : ∀ place c, s.calls[place]? = some c → c.left ≤ schedule.count place) :
    (s.run schedule).Finished := by
  induction schedule generalizing s with
  | nil =>
      intro c member
      obtain ⟨place, found⟩ := List.mem_iff_getElem?.mp member
      exact c.isFinished_of_left (Nat.le_zero.mp (enough place c found))
  | cons now later ih =>
      refine ih (s := s.step now) fun place c found => ?_
      rw [getElem?_step] at found
      obtain ⟨d, before, rfl⟩ := Option.map_eq_some_iff.mp found
      have bound := enough place d before
      by_cases here : place = now
      · subst here
        rw [List.count_cons_self] at bound
        rw [if_pos rfl]
        exact Nat.le_trans (d.left_next s.trie) (by omega)
      · rw [List.count_cons_of_ne (Ne.symm here)] at bound
        rwa [if_neg here]

theorem additions_step (s : AddSession) (place : Nat) :
    (s.step place).calls.map (·.addition) = s.calls.map (·.addition) := by
  refine List.ext_getElem? fun other => ?_
  rw [List.getElem?_map, List.getElem?_map, getElem?_step, Option.map_map]
  refine Option.map_congr fun c _ => ?_
  simp only [Function.comp_apply]
  split <;> rfl

theorem additions_run (s : AddSession) (schedule : List Nat) :
    (s.run schedule).calls.map (·.addition) = s.calls.map (·.addition) := by
  induction schedule generalizing s with
  | nil => rfl
  | cons place later ih => exact (ih (s.step place)).trans (additions_step s place)

/-- What a schedule completes is a part of the additions, and all of them once every call has
finished. -/
theorem completions_perm {additions : List Addition} {schedule : List Nat}
    (finished : ((start additions).run schedule).Finished) :
    ((start additions).completions schedule).Perm additions := by
  have all : done ((start additions).run schedule).calls = additions := by
    rw [done, List.filter_eq_self.mpr finished, additions_run, start, List.map_map]
    exact List.map_id additions
  have ordered := (run_inOrder (start_inOrder additions) schedule).finished
  rwa [all, List.nil_append] at ordered

/-- Whatever the schedule, once all calls have finished, each look-up finds what it would find if
the same calls had come one after another in some order. -/
theorem concurrent_as_sequential (additions : List Addition) (schedule : List Nat)
    (finished : ((start additions).run schedule).Finished) :
    ∃ order : List Addition, order.Perm additions ∧
      (∀ r : Request, ((start additions).run schedule).trie.toTrie.findForRequest r =
        (Trie.ofAdditions order).findForRequest r) ∧
      ∀ e : Exchange, ((start additions).run schedule).trie.toTrie.findForExchange e =
        (Trie.ofAdditions order).findForExchange e := by
  have content := (run_inOrder (start_inOrder additions) schedule).content
  exact ⟨(start additions).completions schedule, completions_perm finished,
    fun r => content.findWhere r.uri _, fun e => content.findWhere e.request.uri _⟩

/-- Two calls that both find the same child missing, with the node and the link where they do. -/
theorem concurrent_as_sequential_race :
    let additions : List Addition :=
      [⟨"||ads.com^", "||ads.com^", "easy"⟩, ⟨"||ads.org^", "||ads.org^", "easy"⟩]
    let both := (start additions).run [0, 1, 0, 1]
    let schedule := [0, 1, 0, 1] ++ List.replicate 12 0 ++ List.replicate 12 1
    let s := (start additions).run schedule
    (both.calls.map fun c =>
      match c.stage with
      | .missing node link _ _ => some (node, link)
      | _ => none) = [some (0, .domain), some (0, .domain)] ∧
    s.Finished ∧ ∃ order : List Addition, order.Perm additions ∧
      (∀ r : Request, s.trie.toTrie.findForRequest r = (Trie.ofAdditions order).findForRequest r) ∧
      ∀ e : Exchange, s.trie.toTrie.findForExchange e =
        (Trie.ofAdditions order).findForExchange e := by
  intro additions both schedule s
  have finished : s.Finished := by decide +kernel
  exact ⟨by decide +kernel, finished, concurrent_as_sequential additions schedule finished⟩

end AddSession

end FilteringProxy
