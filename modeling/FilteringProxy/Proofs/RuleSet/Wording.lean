import FilteringProxy.Filter
import FilteringProxy.Proofs.Trie.Filing

/-! # The wording of hosts lines

A rule keeps the text of its line for those who read reports. What a filter does with a request or a
response, and which lists it names for it, does not depend on the text of hosts lines, whatever
lists are added later.
-/

namespace FilteringProxy

open Http (Request Response Exchange)

/-! ## Without the text -/

/-- The rule without the text of its line. -/
def Rule.unworded (r : Rule) : Rule := { r with raw := [] }

def Stored.unworded (s : Stored) : Stored := { s with rule := s.rule.unworded }

def Verdict.unworded : Verdict → Verdict
  | allow => allow
  | block rule => block rule.unworded
  | redirect target rules => redirect target (rules.map Rule.unworded)
  | modified rules => modified (rules.map Rule.unworded)

def Event.unworded (e : Event) : Event :=
  { e with rules := e.rules.map fun rule => { rule with raw := [] } }

def Filter.Outcome.unworded (o : Filter.Outcome) : Filter.Outcome :=
  { o with events := o.events.map Event.unworded }

/-! ## Tries -/

namespace Trie

/-- What a name of a hosts line stands for, without the text of the line. -/
def bare (row : Text × Stored) : Text × Stored := (row.1, row.2.unworded)

/-- The tries agree but for the text of hosts lines. -/
def Alike (s t : Trie) : Prop :=
  ∃ hosts, t = { s with hosts } ∧ hosts.map bare = s.hosts.map bare

variable {s t : Trie}

theorem Alike.refl (t : Trie) : t.Alike t := ⟨t.hosts, rfl, rfl⟩

theorem Alike.addHost (alike : s.Alike t) {rule rule' : Rule}
    (same : rule'.unworded = rule.unworded) (name : Text) :
    (addHost rule s name).Alike (addHost rule' t name) := by
  obtain ⟨hosts, rfl, rows⟩ := alike
  refine ⟨_, rfl, ?_⟩
  simp only [Trie.addHost, List.map_cons, rows, bare, Stored.unworded, same]

theorem Alike.addHosts (alike : s.Alike t) {rule rule' : Rule}
    (same : rule'.unworded = rule.unworded) (names : List Text) :
    (names.foldl (Trie.addHost rule) s).Alike (names.foldl (Trie.addHost rule') t) := by
  induction names generalizing s t with
  | nil => exact alike
  | cons name names ih => exact ih (alike.addHost same name)

theorem Alike.addPattern (alike : s.Alike t) (anchor : Anchor) (path : List Edge) (rule : Rule) :
    (s.addPattern anchor path rule).Alike (t.addPattern anchor path rule) := by
  obtain ⟨hosts, rfl, rows⟩ := alike
  cases anchor <;> exact ⟨hosts, rfl, rows⟩

/-- One line has the same effect on both. -/
theorem Alike.addLine (alike : s.Alike t) (line : RuleLine) (raw list : Text) :
    (s.addLine line raw list).1.Alike (t.addLine line raw list).1 ∧
      (t.addLine line raw list).2 = (s.addLine line raw list).2 := by
  cases line with
  | hosts names => exact ⟨alike.addHosts rfl names, rfl⟩
  | pattern anchor address modifiers => exact ⟨alike.addPattern _ _ _, rfl⟩

theorem Alike.add (alike : s.Alike t) (line raw list : Text) :
    (∃ e, s.add line raw list = .error e ∧ t.add line raw list = .error e) ∨
      ∃ s' t' n, s.add line raw list = .ok (s', n) ∧ t.add line raw list = .ok (t', n) ∧
        s'.Alike t' := by
  cases parsed : RuleLine.parse line with
  | error e =>
      exact Or.inl ⟨e, add_of_refused parsed s raw list, add_of_refused parsed t raw list⟩
  | ok written =>
      obtain ⟨added, count⟩ := alike.addLine written raw list
      refine Or.inr ⟨_, _, (s.addLine written raw list).2, add_of_parse parsed s raw list, ?_,
        added⟩
      rw [add_of_parse parsed t raw list, ← count]

theorem walkFrom_withHosts (s : Trie) (hosts : List (Text × Stored)) (count i : Nat)
    (before : Option Token) (tokens : List Token) :
    { s with hosts }.walkFrom count i before tokens = s.walkFrom count i before tokens := by
  induction tokens generalizing i before with
  | nil => rfl
  | cons token tokens ih => simp only [walkFrom, ih]

theorem find?_bare (rows : List (Text × Stored)) (name : Text) :
    ((rows.find? (·.1 == name)).map (·.2)).toList.map Stored.unworded =
      (((rows.map bare).find? (·.1 == name)).map (·.2)).toList := by
  rw [List.find?_map]
  change _ = (((rows.find? (·.1 == name)).map bare).map (·.2)).toList
  cases rows.find? (·.1 == name) <;> rfl

theorem Alike.candidates (alike : s.Alike t) (u : Http.Uri) :
    (t.candidates u).map Stored.unworded = (s.candidates u).map Stored.unworded := by
  obtain ⟨hosts, rfl, rows⟩ := alike
  cases named : u.host? with
  | none => simp only [Trie.candidates, named]
  | some host =>
      simp only [Trie.candidates, named, walkFrom_withHosts, List.map_append, find?_bare, rows]

theorem distinct_unworded (seen : List Nat) (l : List Stored) :
    distinct seen (l.map Stored.unworded) = (distinct seen l).map Stored.unworded := by
  induction l generalizing seen with
  | nil => rfl
  | cons s l ih =>
      have number : s.unworded.number = s.number := rfl
      simp only [List.map_cons, distinct, number, ih]
      split <;> rfl

theorem findWhere_unworded (t : Trie) (u : Http.Uri) (holds : ModifierSet → Bool) :
    (t.findWhere u (holds ·.modifiers)).map Rule.unworded =
      (distinct [] (((t.candidates u).map Stored.unworded).filter
        (holds ·.rule.modifiers))).map (·.rule) := by
  have kept : (holds ·.rule.modifiers) ∘ Stored.unworded = (holds ·.rule.modifiers) := rfl
  rw [List.filter_map, kept, distinct_unworded, List.map_map, Trie.findWhere, List.map_map]
  rfl

/-- The same rules are found but for their text. -/
theorem Alike.findWhere (alike : s.Alike t) (u : Http.Uri) (holds : ModifierSet → Bool) :
    (t.findWhere u (holds ·.modifiers)).map Rule.unworded =
      (s.findWhere u (holds ·.modifiers)).map Rule.unworded := by
  rw [findWhere_unworded, findWhere_unworded, alike.candidates]

end Trie

/-! ## Rule sets -/

namespace RuleSet

/-- The rule sets agree but for the text of hosts lines. -/
structure Alike (s t : RuleSet) : Prop where
  regular : s.regular.Alike t.regular
  exceptions : s.exceptions.Alike t.exceptions

variable {s t : RuleSet}

theorem survivors_unworded (exceptions rules : List Rule) :
    survivors (exceptions.map Rule.unworded) (rules.map Rule.unworded) =
      (survivors exceptions rules).map Rule.unworded := by
  simp only [survivors, List.filter_map, List.any_map]
  rfl

theorem Alike.rulesForRequest (alike : s.Alike t) (r : Request) :
    (t.rulesForRequest r).map Rule.unworded = (s.rulesForRequest r).map Rule.unworded := by
  have regular := alike.regular.findWhere r.uri (·.holdsForRequest r)
  have exceptions := alike.exceptions.findWhere r.uri (·.holdsForRequest r)
  rw [RuleSet.rulesForRequest, RuleSet.rulesForRequest, ← survivors_unworded,
    ← survivors_unworded, Trie.findForRequest, Trie.findForRequest, exceptions, regular]
  rfl

theorem Alike.rulesForExchange (alike : s.Alike t) (e : Exchange) :
    (t.rulesForExchange e).map Rule.unworded = (s.rulesForExchange e).map Rule.unworded := by
  have regular := alike.regular.findWhere e.request.uri (·.holdsForExchange e)
  have exceptions := alike.exceptions.findWhere e.request.uri (·.holdsForExchange e)
  rw [RuleSet.rulesForExchange, RuleSet.rulesForExchange, ← survivors_unworded,
    ← survivors_unworded, Trie.findForExchange, Trie.findForExchange, exceptions, regular]
  rfl

theorem applyAll_unworded (apply : ModifierSet → α → α × Bool) (rules : List Rule) (a : α) :
    applyAll (apply ·.modifiers) (rules.map Rule.unworded) a =
      ((applyAll (apply ·.modifiers) rules a).1,
        (applyAll (apply ·.modifiers) rules a).2.map Rule.unworded) := by
  induction rules generalizing a with
  | nil => rfl
  | cons rule rules ih =>
      have same : rule.unworded.modifiers = rule.modifiers := rfl
      rw [List.map_cons, applyAll, applyAll, same]
      obtain ⟨b, _ | _⟩ := apply rule.modifiers a
      · exact ih b
      · simp only [ih b, List.map_cons]

/-- What rules decide about a request. -/
def decideBy (rules : List Rule) (r : Request) : Request × Verdict :=
  match rules.find? (·.blocks) with
  | some rule => (r, .block rule)
  | none =>
    let (edited, applied) := applyAll (fun rule => rule.modifiers.onRequest) rules r
    if applied = [] then (edited, .allow)
    else if edited.uri.same r.uri then (edited, .modified applied)
    else (edited, .redirect edited.uri.print applied)

theorem onRequest_eq (s : RuleSet) (r : Request) :
    s.onRequest r = decideBy (s.rulesForRequest r) r := rfl

theorem decideBy_unworded (rules : List Rule) (r : Request) :
    decideBy (rules.map Rule.unworded) r =
      ((decideBy rules r).1, (decideBy rules r).2.unworded) := by
  have blocks : (rules.map Rule.unworded).find? (·.blocks) =
      (rules.find? (·.blocks)).map Rule.unworded := by
    rw [List.find?_map]
    rfl
  rw [decideBy, decideBy, blocks, applyAll_unworded (fun m => m.onRequest)]
  cases rules.find? (·.blocks) with
  | some rule => rfl
  | none =>
      simp only [Option.map_none, List.map_eq_nil_iff]
      split
      · rfl
      · split <;> rfl

theorem Alike.onRequest (alike : s.Alike t) (r : Request) :
    (t.onRequest r).1 = (s.onRequest r).1 ∧
      (t.onRequest r).2.unworded = (s.onRequest r).2.unworded := by
  have decided := congrArg (decideBy · r) (alike.rulesForRequest r)
  simp only [decideBy_unworded, ← onRequest_eq] at decided
  exact Prod.mk.inj decided

theorem Alike.onResponse (alike : s.Alike t) (e : Exchange) :
    (t.onResponse e).1 = (s.onResponse e).1 ∧
      (t.onResponse e).2.map Rule.unworded = (s.onResponse e).2.map Rule.unworded := by
  have edited := congrArg (applyAll (fun rule => rule.modifiers.onResponse) · e.response)
    (alike.rulesForExchange e)
  simp only [applyAll_unworded (fun m => m.onResponse)] at edited
  exact Prod.mk.inj edited

theorem Alike.add (alike : s.Alike t) (line list : Text) :
    (∃ e, s.add line list = .error e ∧ t.add line list = .error e) ∨
      ∃ s' t' kind n, s.add line list = .ok (s', kind, n) ∧ t.add line list = .ok (t', kind, n) ∧
        s'.Alike t' := by
  rw [RuleSet.add, RuleSet.add]
  cases Text.after? "@@" line with
  | some rest =>
      dsimp only
      rcases alike.exceptions.add rest line list with
        ⟨e, first, second⟩ | ⟨s', t', n, first, second, added⟩
      · exact Or.inl ⟨e, by rw [first]; rfl, by rw [second]; rfl⟩
      · refine Or.inr ⟨{ s with exceptions := s' }, { t with exceptions := t' }, .exception, n,
          ?_, ?_, ⟨alike.regular, added⟩⟩
        · rw [first]
          rfl
        · rw [second]
          rfl
  | none =>
      dsimp only
      rcases alike.regular.add line line list with
        ⟨e, first, second⟩ | ⟨s', t', n, first, second, added⟩
      · exact Or.inl ⟨e, by rw [first]; rfl, by rw [second]; rfl⟩
      · refine Or.inr ⟨{ s with regular := s' }, { t with regular := t' }, .regular, n, ?_, ?_,
          ⟨added, alike.exceptions⟩⟩
        · rw [first]
          rfl
        · rw [second]
          rfl

end RuleSet

/-! ## Filters -/

namespace Filter

/-- The filters agree but for the text of hosts lines. -/
structure Alike (f g : Filter) : Prop where
  rules : f.rules.Alike g.rules
  watch : g.watch = f.watch

variable {f g : Filter}

theorem Alike.refl (f : Filter) : f.Alike f := ⟨⟨.refl _, .refl _⟩, rfl⟩

theorem Alike.addListLine (alike : f.Alike g) (list : Text) (counts : Counts) (line : Text) :
    (addListLine list (f, counts) line).1.Alike (addListLine list (g, counts) line).1 ∧
      (addListLine list (g, counts) line).2 = (addListLine list (f, counts) line).2 := by
  rw [Filter.addListLine, Filter.addListLine]
  split
  · exact ⟨alike, rfl⟩
  · rcases alike.rules.add line.trim list with
      ⟨e, first, second⟩ | ⟨s, t, kind, n, first, second, rules⟩
    · simp only [Filter.add, first, second]
      exact ⟨alike, rfl⟩
    · simp only [Filter.add, first, second]
      exact ⟨⟨rules, alike.watch⟩, rfl⟩

theorem Alike.addList (alike : f.Alike g) (bytes : Bytes) (list : Text) :
    (f.addList bytes list).1.Alike (g.addList bytes list).1 := by
  have lines (lines : List Text) (counts : Counts) :
      (lines.foldl (Filter.addListLine list) (f, counts)).1.Alike
        (lines.foldl (Filter.addListLine list) (g, counts)).1 := by
    induction lines generalizing f g counts with
    | nil => exact alike
    | cons line lines ih =>
        obtain ⟨added, same⟩ := alike.addListLine list counts line
        generalize next : Filter.addListLine list (f, counts) line = state at added same
        generalize next' : Filter.addListLine list (g, counts) line = state' at added same
        obtain ⟨f', _⟩ := state
        obtain ⟨g', counts'⟩ := state'
        obtain rfl := same
        rw [List.foldl_cons, List.foldl_cons, next, next']
        exact ih added counts'
  exact lines _ _

/-- The filter with more lists. -/
def load (f : Filter) (lists : List (Bytes × Text)) : Filter :=
  lists.foldl (fun f l => (f.addList l.1 l.2).1) f

theorem Alike.load (alike : f.Alike g) (lists : List (Bytes × Text)) :
    (f.load lists).Alike (g.load lists) := by
  induction lists generalizing f g with
  | nil => exact alike
  | cons l lists ih => exact ih (alike.addList l.1 l.2)

theorem report_unworded (r : Request) (action : Action) (rules : List Rule) :
    (report r action rules).unworded = report r action (rules.map Rule.unworded) := by
  simp only [report, Event.unworded, List.map_map]
  rfl

theorem reports_unworded (w : Watch) (e : Event) :
    (w.reports e).map Event.unworded = w.reports e.unworded := by
  have action : e.unworded.action = e.action := rfl
  rw [Watch.reports, Watch.reports, action]
  cases e.action with
  | block => cases w.block <;> rfl
  | redirect => cases w.redirect <;> rfl
  | modify => cases w.modify <;> rfl

/-- What a filter tells of a decision. -/
def outcomeOf (w : Watch) (r : Request) : Request × Verdict → Outcome
  | (edited, .allow) => ⟨edited, none, []⟩
  | (edited, .block rule) =>
    ⟨edited, some (blockResponse edited), w.reports (report r .block [rule])⟩
  | (edited, .redirect target rules) =>
    ⟨edited, some (redirectResponse edited target), w.reports (report r (.redirect target) rules)⟩
  | (edited, .modified rules) => ⟨edited, none, w.reports (report r .modify rules)⟩

theorem onRequest_eq (f : Filter) (r : Request) :
    f.onRequest r = outcomeOf f.watch r (f.rules.onRequest r) := by
  rw [Filter.onRequest]
  obtain ⟨edited, _ | _ | _ | _⟩ := f.rules.onRequest r <;> rfl

theorem outcomeOf_unworded (w : Watch) (r edited : Request) (verdict : Verdict) :
    (outcomeOf w r (edited, verdict)).unworded = outcomeOf w r (edited, verdict.unworded) := by
  cases verdict <;>
    simp only [outcomeOf, Outcome.unworded, reports_unworded, report_unworded, Verdict.unworded,
      List.map_cons, List.map_nil]

theorem Alike.onRequest (alike : f.Alike g) (r : Request) :
    (g.onRequest r).unworded = (f.onRequest r).unworded := by
  obtain ⟨edited, verdict⟩ := alike.rules.onRequest r
  rw [onRequest_eq, onRequest_eq, outcomeOf_unworded, outcomeOf_unworded, edited, verdict,
    alike.watch]

theorem snd_onResponse_unworded (f : Filter) (e : Exchange) :
    let rules := (f.rules.onResponse e).2.map Rule.unworded
    (f.onResponse e).2.map Event.unworded =
      if rules = [] then [] else f.watch.reports (report e.request .modify rules) := by
  rw [Filter.onResponse]
  obtain ⟨edited, _ | ⟨rule, rules⟩⟩ := f.rules.onResponse e
  · rfl
  · simp only [reports_unworded, report_unworded, List.map_cons, reduceCtorEq, if_false]

theorem fst_onResponse_eq (f : Filter) (e : Exchange) :
    (f.onResponse e).1 = (f.rules.onResponse e).1 := by
  rw [Filter.onResponse]
  obtain ⟨edited, _ | ⟨rule, rules⟩⟩ := f.rules.onResponse e <;> rfl

theorem Alike.onResponse (alike : f.Alike g) (e : Exchange) :
    (g.onResponse e).1 = (f.onResponse e).1 ∧
      (g.onResponse e).2.map Event.unworded = (f.onResponse e).2.map Event.unworded := by
  obtain ⟨edited, rules⟩ := alike.rules.onResponse e
  rw [fst_onResponse_eq, fst_onResponse_eq, snd_onResponse_unworded, snd_onResponse_unworded,
    edited, rules, alike.watch]
  exact ⟨rfl, rfl⟩

/-- The filters do the same with every request and every response, whatever lists are added to both,
and report the same but for the text of rules. -/
def SameEffect (f g : Filter) : Prop :=
  ∀ lists : List (Bytes × Text),
    (∀ r, ((g.load lists).onRequest r).unworded = ((f.load lists).onRequest r).unworded) ∧
    ∀ e, ((g.load lists).onResponse e).1 = ((f.load lists).onResponse e).1 ∧
      ((g.load lists).onResponse e).2.map Event.unworded =
        ((f.load lists).onResponse e).2.map Event.unworded

theorem Alike.sameEffect (alike : f.Alike g) : f.SameEffect g := by
  intro lists
  have loaded := alike.load lists
  exact ⟨loaded.onRequest, loaded.onResponse⟩

end Filter

end FilteringProxy
