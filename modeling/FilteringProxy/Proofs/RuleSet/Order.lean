import FilteringProxy.Proofs.RuleSet.Verdict
import FilteringProxy.Proofs.Trie.Reorder

/-! # Lines in another order

What a rule set does is decided by the modifiers that its look-ups find, and edits commute. So lines
in another order make a rule set that does the same, though it may name other rules for it.
-/

namespace FilteringProxy

open Http (Request Response Exchange)

/-! ## Rule sets of lines -/

/-- A line and the name of its list. -/
structure ListedLine where
  text : Text
  list : Text

namespace ListedLine

/-- What the line adds to the rules. -/
def regular? (l : ListedLine) : Option Trie.Addition :=
  match Text.after? "@@" l.text with
  | some _ => none
  | none => some ⟨l.text, l.text, l.list⟩

/-- What the line adds to the exceptions. -/
def exception? (l : ListedLine) : Option Trie.Addition :=
  (Text.after? "@@" l.text).map fun rest => ⟨rest, l.text, l.list⟩

end ListedLine

namespace RuleSet

/-- The rule set with one more line; a line that is refused changes nothing. -/
def addLine (s : RuleSet) (l : ListedLine) : RuleSet :=
  match s.add l.text l.list with
  | .ok (added, _) => added
  | .error _ => s

/-- The rule set of a row of lines. -/
def ofLines (lines : List ListedLine) : RuleSet := lines.foldl addLine {}

theorem addLine_eq (s : RuleSet) (l : ListedLine) :
    s.addLine l =
      { regular := l.regular?.toList.foldl Trie.addition s.regular
        exceptions := l.exception?.toList.foldl Trie.addition s.exceptions } := by
  rw [addLine, add, ListedLine.regular?, ListedLine.exception?]
  cases Text.after? "@@" l.text with
  | none =>
      simp only [Option.map_none, Option.toList_none, Option.toList_some, List.foldl_cons,
        List.foldl_nil, Trie.addition]
      cases s.regular.add l.text l.text l.list <;> rfl
  | some rest =>
      simp only [Option.map_some, Option.toList_none, Option.toList_some, List.foldl_cons,
        List.foldl_nil, Trie.addition]
      cases s.exceptions.add rest l.text l.list <;> rfl

theorem foldl_addLine (lines : List ListedLine) (s : RuleSet) :
    lines.foldl addLine s =
      { regular := (lines.filterMap ListedLine.regular?).foldl Trie.addition s.regular
        exceptions :=
          (lines.filterMap ListedLine.exception?).foldl Trie.addition s.exceptions } := by
  induction lines generalizing s with
  | nil => rfl
  | cons l lines ih =>
      rw [List.foldl_cons, ih, addLine_eq, List.filterMap_cons, List.filterMap_cons]
      cases l.regular? <;> cases l.exception? <;> rfl

theorem ofLines_eq (lines : List ListedLine) :
    ofLines lines =
      { regular := .ofEntries
          ((lines.filterMap ListedLine.regular?).flatMap Trie.Addition.entries)
        exceptions := .ofEntries
          ((lines.filterMap ListedLine.exception?).flatMap Trie.Addition.entries) } := by
  rw [ofLines, foldl_addLine, ← Trie.ofAdditions_eq, ← Trie.ofAdditions_eq]
  rfl

end RuleSet

/-! ## What decides -/

/-- What a verdict says, apart from the rules that it names. -/
inductive VerdictKind where
  | allow
  | block
  | redirect
  | modified
  deriving Repr, DecidableEq

def Verdict.kind : Verdict → VerdictKind
  | .allow => .allow
  | .block _ => .block
  | .redirect _ _ => .redirect
  | .modified _ => .modified

/-- Whether an exception cancels a rule is a matter of their modifiers. -/
def ModifierSet.cancels (exception rule : ModifierSet) : Bool :=
  exception.isEmpty ||
    (rule.conditions.all fun theirs => exception.conditions.any fun ours => ours.same theirs) &&
    exception.edits.all rule.edits.contains

/-- All edits of sets of modifiers. -/
def allEdits (sets : List ModifierSet) : List Edit := sets.flatMap (·.edits)

/-- What becomes of a request under the modifiers of its rules. -/
def settle (sets : List ModifierSet) (r : Request) : VerdictKind × Request :=
  if sets.any (·.edits.isEmpty) then (.block, r)
  else
    let edited := (allEdits sets).foldl (fun r e => e.strip r) r
    (if edited = r then .allow else if edited.uri.same r.uri then .modified else .redirect, edited)

theorem settle_perm {sets others : List ModifierSet} (perm : sets.Perm others) (r : Request) :
    settle sets r = settle others r := by
  have edits : (allEdits sets).Perm (allEdits others) := perm.flatMap_right _
  have edited := edits.foldl_eq' (f := fun r e => Edit.strip e r)
    (fun e _ f _ r => Edit.strip_comm e f r) r
  simp only [settle, perm.any_eq, edited]

theorem stripAll_perm {sets others : List ModifierSet} (perm : sets.Perm others) (r : Response) :
    (allEdits sets).foldl (fun r e => e.stripResponse r) r =
      (allEdits others).foldl (fun r e => e.stripResponse r) r := by
  have edits : (allEdits sets).Perm (allEdits others) := perm.flatMap_right _
  exact edits.foldl_eq' (fun e _ f _ r => Edit.stripResponse_comm e f r) r

namespace RuleSet

theorem map_survivors (exceptions rules : List Rule) :
    (survivors exceptions rules).map (·.modifiers) =
      (rules.map (·.modifiers)).filter fun rule =>
        !(exceptions.map (·.modifiers)).any (·.cancels rule) := by
  simp only [survivors, List.filter_map, List.any_map, Function.comp_def]
  rfl

theorem map_survivors_perm {exceptions exceptions' rules rules' : List Rule}
    (cancelling : (exceptions.map (·.modifiers)).Perm (exceptions'.map (·.modifiers)))
    (applying : (rules.map (·.modifiers)).Perm (rules'.map (·.modifiers))) :
    ((survivors exceptions rules).map (·.modifiers)).Perm
      ((survivors exceptions' rules').map (·.modifiers)) := by
  simp only [map_survivors, cancelling.any_eq]
  exact applying.filter _

theorem fst_requestRun (s : RuleSet) (r : Request) :
    (s.requestRun r).1 =
      (allEdits ((s.rulesForRequest r).map (·.modifiers))).foldl (fun r e => e.strip r) r := by
  simp only [requestRun, fst_applyAll, ModifierSet.fst_onRequest, allEdits, List.flatMap_map,
    List.foldl_flatMap]

theorem fst_onResponse (s : RuleSet) (e : Exchange) :
    (s.onResponse e).1 =
      (allEdits ((s.rulesForExchange e).map (·.modifiers))).foldl (fun r e => e.stripResponse r)
        e.response := by
  simp only [onResponse, fst_applyAll, ModifierSet.fst_onResponse, allEdits, List.flatMap_map,
    List.foldl_flatMap]

/-- The modifiers of the rules for a request settle what becomes of it. -/
theorem onRequest_settle (s : RuleSet) (r : Request) :
    ((s.onRequest r).2.kind, (s.onRequest r).1) =
      settle ((s.rulesForRequest r).map (·.modifiers)) r := by
  have decided := s.onRequest_decides r
  have run := s.fst_requestRun r
  have free (none_blocks : (s.rulesForRequest r).find? (·.blocks) = none) :
      ((s.rulesForRequest r).map (·.modifiers)).any (·.edits.isEmpty) = false := by
    rw [List.any_map]
    exact List.any_eq_false.mpr (List.find?_eq_none.mp none_blocks)
  cases decision : s.onRequest r with | mk edited verdict =>
    rw [decision] at decided
    cases decided with
    | block found =>
        have blocked : ((s.rulesForRequest r).map (·.modifiers)).any (·.edits.isEmpty) = true := by
          rw [List.any_map]
          exact List.any_eq_true.mpr ⟨_, List.mem_of_find?_eq_some found, List.find?_some found⟩
        rw [settle, if_pos blocked]
        rfl
    | allow none_blocks still =>
        rw [still] at run
        simp only [settle, free none_blocks, ← run, if_true, Bool.false_eq_true, if_false]
        rfl
    | modified none_blocks reduced kept =>
        have same : (s.requestRun r).1.uri.same r.uri = true := by
          rw [kept]
          exact r.uri.same_self
        simp only [settle, free none_blocks, ← run, if_neg reduced.lighter.ne, same, if_true,
          Bool.false_eq_true, if_false]
        rfl
    | redirect none_blocks reduced moved =>
        simp only [settle, free none_blocks, ← run, if_neg reduced.lighter.ne, moved,
          Bool.false_eq_true, if_false]
        rfl

/-! ## Reordered lines -/

variable {lines others : List ListedLine}

theorem modifiers_found_perm (perm : lines.Perm others) (u : Http.Uri)
    (holds : ModifierSet → Bool) :
    (((ofLines lines).regular.findWhere u (holds ·.modifiers)).map (·.modifiers)).Perm
        (((ofLines others).regular.findWhere u (holds ·.modifiers)).map (·.modifiers)) ∧
      (((ofLines lines).exceptions.findWhere u (holds ·.modifiers)).map (·.modifiers)).Perm
        (((ofLines others).exceptions.findWhere u (holds ·.modifiers)).map (·.modifiers)) := by
  rw [ofLines_eq, ofLines_eq]
  constructor
  · exact Trie.modifiers_findWhere_perm ((perm.filterMap _).flatMap_right _) u holds
  · exact Trie.modifiers_findWhere_perm ((perm.filterMap _).flatMap_right _) u holds

theorem rulesForRequest_perm (perm : lines.Perm others) (r : Request) :
    (((ofLines lines).rulesForRequest r).map (·.modifiers)).Perm
      (((ofLines others).rulesForRequest r).map (·.modifiers)) := by
  obtain ⟨applying, cancelling⟩ := modifiers_found_perm perm r.uri (·.holdsForRequest r)
  exact map_survivors_perm cancelling applying

theorem rulesForExchange_perm (perm : lines.Perm others) (e : Exchange) :
    (((ofLines lines).rulesForExchange e).map (·.modifiers)).Perm
      (((ofLines others).rulesForExchange e).map (·.modifiers)) := by
  obtain ⟨applying, cancelling⟩ :=
    modifiers_found_perm perm e.request.uri (·.holdsForExchange e)
  exact map_survivors_perm cancelling applying

/-- Rule sets of the same lines in any order give the same kind of verdict, leave the same request
and leave the same response. -/
theorem effect_of_perm (perm : lines.Perm others) :
    (∀ r : Request,
      ((ofLines lines).onRequest r).2.kind = ((ofLines others).onRequest r).2.kind ∧
        ((ofLines lines).onRequest r).1 = ((ofLines others).onRequest r).1) ∧
    ∀ e : Exchange, ((ofLines lines).onResponse e).1 = ((ofLines others).onResponse e).1 := by
  refine ⟨fun r => ?_, fun e => ?_⟩
  · have settled := settle_perm (rulesForRequest_perm perm r) r
    rw [← onRequest_settle, ← onRequest_settle, Prod.mk.injEq] at settled
    exact settled
  · rw [fst_onResponse, fst_onResponse]
    exact stripAll_perm (rulesForExchange_perm perm e) e.response

/-- Removals of cookies and of a header, an exception and a refused line, from either end. -/
theorem effect_of_perm_reversed :
    let lines : List ListedLine :=
      [⟨"||a.com^$cookie=s", "l"⟩, ⟨"@@||a.com^$cookie=t", "l"⟩, ⟨"a.com$cookie=t", "l"⟩,
        ⟨"a.com$removeheader=request:x-a", "l"⟩, ⟨"$nonsense", "l"⟩]
    let r : Request :=
      { method := "GET", uri := ⟨some "http", "a.com", "/", none⟩, version := .http11,
        headers := ⟨[⟨"cookie", Utf8.encode "s=1; t=2"⟩, ⟨"x-a", []⟩]⟩ }
    ((ofLines lines.reverse).onRequest r).2.kind = .modified ∧
      ((ofLines lines.reverse).onRequest r).1.headers = ⟨[⟨"cookie", Utf8.encode "t=2"⟩]⟩ := by
  intro lines r
  have forwards : ((ofLines lines).onRequest r).2.kind = .modified ∧
      ((ofLines lines).onRequest r).1.headers = ⟨[⟨"cookie", Utf8.encode "t=2"⟩]⟩ := by
    decide +kernel
  obtain ⟨kind, edited⟩ := (effect_of_perm (List.reverse_perm lines).symm).1 r
  rwa [kind, edited] at forwards

end RuleSet

end FilteringProxy
