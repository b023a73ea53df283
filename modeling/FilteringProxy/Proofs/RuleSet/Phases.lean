import FilteringProxy.Proofs.Modifier.Context
import FilteringProxy.Proofs.RuleSet.Order

/-! # Two phases of an exchange

Rules are looked up twice: for a request before it is sent on, and for the exchange when its
response has come. When conditions see the same in both requests, the same rules are found, those
aside that wait for a header of the response. When they do not, a rule that does nothing to requests
makes the difference: it can join any rules without a change to what they decide about requests.
-/

namespace FilteringProxy

open Http (Request Response Exchange)

namespace Trie

/-- One more entry, at a place for many, is found behind the others. -/
theorem findWhere_concat_perm (entries : List Entry) (e : Entry) (many : e.place.isSingle = false)
    (u : Http.Uri) (accepts : Rule → Bool) :
    ∃ more, more ⊆ [e.rule] ∧
      ((ofEntries (entries ++ [e])).findWhere u accepts).Perm
        ((ofEntries entries).findWhere u accepts ++ more) := by
  classical
  let reached (e : Entry) : Bool := ∃ host, u.host? = some host ∧ e.place.Reached u host.lower
  have meaning (e : Entry) : reached e = true ↔
      ∃ host, u.host? = some host ∧ e.place.Reached u host.lower := decide_eq_true_iff
  have kept : (Entry.current Entry.place entries).filter
      (fun b => !(b.place.isSingle && b.place == e.place)) =
        Entry.current Entry.place entries := by
    refine List.filter_eq_self.mpr fun b _ => ?_
    by_cases same : b.place = e.place
    · rw [same, many, Bool.false_and, Bool.not_false]
    · rw [beq_false_of_ne same, Bool.and_false, Bool.not_false]
  refine ⟨([e].filter fun e => reached e && accepts e.rule).map Entry.rule, ?_, ?_⟩
  · exact List.map_subset Entry.rule (List.filter_subset_self _)
  · have all := findWhere_perm (entries ++ [e]) u accepts reached meaning
    rw [Entry.current_concat, kept, List.filter_append, List.map_append] at all
    exact all.trans ((findWhere_perm entries u accepts reached meaning).symm.append_right _)

end Trie

namespace RuleSet

/-- The rules and the exceptions were filed one by one, as lines are. -/
def Filed (s : RuleSet) : Prop :=
  ∃ regular exceptions, s = ⟨.ofEntries regular, .ofEntries exceptions⟩

theorem filed_ofLines (lines : List ListedLine) : (ofLines lines).Filed :=
  ⟨_, _, ofLines_eq lines⟩

/-- The same rules and exceptions are found for the request and, later, for an exchange whose
request has become `head`, whatever the response; those that wait for a header of it do not
count. -/
def PhasesAgree (s : RuleSet) (r head : Request) : Prop :=
  ∀ (response : Response) (rule : Rule), rule.modifiers.readsResponse = false →
    (rule ∈ s.regular.findForExchange ⟨head, response⟩ ↔ rule ∈ s.regular.findForRequest r) ∧
    (rule ∈ s.exceptions.findForExchange ⟨head, response⟩ ↔ rule ∈ s.exceptions.findForRequest r)

variable {s : RuleSet} {r head : Request}

theorem phasesAgree_of_sameContext (filed : s.Filed) (target : head.uri = r.uri)
    (same : r.SameContext head) : s.PhasesAgree r head := by
  intro response rule blind
  obtain ⟨regular, exceptions, rfl⟩ := filed
  have alike : rule.modifiers.holdsForExchange ⟨head, response⟩ =
      rule.modifiers.holdsForRequest r :=
    (ModifierSet.holdsForExchange_eq blind _).trans (same.modifiers_hold rule.modifiers)
  simp only [Trie.findForExchange, Trie.findForRequest, Trie.mem_findWhere, target, alike,
    and_self]

/-! ## A rule that does nothing to requests -/

/-- An edit of responses. -/
def silentEdit : Edit := .header ⟨"x-silent", .response, by decide +kernel⟩

/-- A rule with one condition that edits responses alone. -/
def silentRule (c : Condition) : Rule :=
  { raw := [], list := [], modifiers := { required := [c], edits := [silentEdit] } }

/-- The rules with one that applies to all targets if the condition holds. -/
def withSilent (regular exceptions : List Trie.Entry) (c : Condition) : RuleSet :=
  ⟨.ofEntries (regular ++ [.pattern .everything [] (silentRule c)]), .ofEntries exceptions⟩

theorem holds_silentRule (c : Condition) (r : Request) :
    (silentRule c).modifiers.holdsForRequest r = c.holdsForRequest r := by
  simp only [silentRule, ModifierSet.holdsForRequest, ModifierSet.holdsWhen, List.all_cons,
    List.all_nil, List.isEmpty_nil, Bool.true_or, Bool.and_true]

theorem settle_append_silent {silent : List ModifierSet}
    (only : ∀ m ∈ silent, m.edits = [silentEdit]) (sets : List ModifierSet) (r : Request) :
    settle (sets ++ silent) r = settle sets r := by
  have edits : silent.any (·.edits.isEmpty) = false := by
    refine List.any_eq_false.mpr fun m member => ?_
    rw [only m member]
    exact Bool.false_ne_true
  have still (r : Request) : (allEdits silent).foldl (fun r e => e.strip r) r = r := by
    induction silent with
    | nil => rfl
    | cons m silent ih =>
        rw [allEdits, List.flatMap_cons, only m List.mem_cons_self]
        have rest := List.any_cons ▸ edits
        exact ih (fun m member => only m (List.mem_cons_of_mem _ member))
          (Bool.or_eq_false_iff.mp rest).2
  have joined : allEdits (sets ++ silent) = allEdits sets ++ allEdits silent :=
    List.flatMap_append
  rw [settle, settle, List.any_append, edits, Bool.or_false, joined, List.foldl_append, still]

theorem onRequest_withSilent (regular exceptions : List Trie.Entry) (c : Condition) (r : Request) :
    let s : RuleSet := ⟨.ofEntries regular, .ofEntries exceptions⟩
    ((withSilent regular exceptions c).onRequest r).2.kind = (s.onRequest r).2.kind ∧
      ((withSilent regular exceptions c).onRequest r).1 = (s.onRequest r).1 := by
  intro s
  obtain ⟨more, added, found⟩ := Trie.findWhere_concat_perm regular
    (.pattern .everything [] (silentRule c)) rfl r.uri (·.modifiers.holdsForRequest r)
  have rules : (((withSilent regular exceptions c).rulesForRequest r).map (·.modifiers)).Perm
      ((s.rulesForRequest r).map (·.modifiers) ++
        (survivors (s.exceptions.findForRequest r) more).map (·.modifiers)) := by
    rw [← List.map_append, rulesForRequest, survivors, rulesForRequest, survivors, survivors,
      ← List.filter_append]
    exact (found.filter _).map _
  have silent : ∀ m ∈ (survivors (s.exceptions.findForRequest r) more).map (·.modifiers),
      m.edits = [silentEdit] := by
    intro m member
    obtain ⟨rule, survived, rfl⟩ := List.mem_map.mp member
    rw [List.mem_singleton.mp (added (List.mem_of_mem_filter survived))]
    rfl
  have settled := settle_perm rules r
  rw [settle_append_silent silent, ← onRequest_settle, ← onRequest_settle, Prod.mk.injEq]
    at settled
  exact settled

/-- Its condition holds in both phases or in none, if it is found in both or in none. -/
theorem alike_of_phasesAgree {regular exceptions : List Trie.Entry} {c : Condition}
    (agree : (withSilent regular exceptions c).PhasesAgree r head)
    (blind : c.readsResponse = false) (target : head.uri = r.uri)
    (named : r.uri.host?.isSome = true) : c.holdsForRequest head = c.holdsForRequest r := by
  have quiet : (silentRule c).modifiers.readsResponse = false := by
    simp only [silentRule, ModifierSet.readsResponse, ModifierSet.conditions, List.append_nil,
      List.any_cons, blind, List.any_nil, Bool.or_self]
  obtain ⟨host, known⟩ := Option.isSome_iff_exists.mp named
  have inside : ∃ e ∈ Trie.Entry.current Trie.Entry.place
      (regular ++ [.pattern .everything [] (silentRule c)]), e.rule = silentRule c ∧
        ∃ host, r.uri.host? = some host ∧ e.place.Reached r.uri host.lower := by
    rw [Trie.Entry.current_concat]
    exact ⟨_, List.mem_append_right _ (List.mem_singleton_self _), rfl, host, known, trivial⟩
  have found := (agree ⟨200, .http11, {}⟩ (silentRule c) quiet).1
  rw [withSilent, Trie.findForExchange, Trie.findForRequest, Trie.mem_findWhere,
    Trie.mem_findWhere, target, ModifierSet.holdsForExchange_eq quiet, holds_silentRule,
    holds_silentRule, and_iff_left inside, and_iff_left inside] at found
  exact Bool.eq_iff_iff.mpr found

end RuleSet

end FilteringProxy
