import FilteringProxy.Filter
import FilteringProxy.Proofs.Modifier.Progress
import FilteringProxy.Proofs.RuleSet.Run

/-! # Verdicts and reports

A verdict says what became of the request, a report says what the request was before, and both name
the rules that changed it.
-/

namespace FilteringProxy

open Http (Request Response Exchange Headers Uri)

theorem Http.Request.Reduced.values_ne {r s : Request} (h : r.Reduced s) (same : s.uri = r.uri) :
    ∃ name, s.headers.values name ≠ r.headers.values name := by
  obtain ⟨place, less⟩ := h.lighter.somewhere
  cases place with
  | none =>
      simp only [Request.weight, same, Nat.lt_irrefl] at less
  | some name => exact ⟨name, Headers.values_ne_of_weight_ne (Nat.ne_of_lt less)⟩

namespace ModifierSet

theorem onRequest_tells (s : ModifierSet) (r : Request) : Tells Request.Reduced r (s.onRequest r) :=
  applyAll_tells (R := Request.Reduced) .trans Edit.onRequest_reduced s.edits r

theorem onResponse_tells (s : ModifierSet) (r : Response) :
    Tells (Lighter Response.weight) r (s.onResponse r) :=
  applyAll_tells (R := Lighter Response.weight) .trans Edit.onResponse_lighter s.edits r

theorem fst_onRequest (s : ModifierSet) (r : Request) :
    (s.onRequest r).1 = s.edits.foldl (fun r e => e.strip r) r := by
  simp only [onRequest, fst_applyAll, Edit.getD_onRequest]

theorem fst_onResponse (s : ModifierSet) (r : Response) :
    (s.onResponse r).1 = s.edits.foldl (fun r e => e.stripResponse r) r := by
  simp only [onResponse, fst_applyAll, Edit.getD_onResponse]

end ModifierSet

namespace RuleSet

/-- A request after the turns of all rules, and the rules that edited it. -/
def requestRun (s : RuleSet) (r : Request) : Request × List Rule :=
  applyAll (fun rule => rule.modifiers.onRequest) (s.rulesForRequest r) r

/-- The rules that change the request at their turn. -/
def requestChangers (s : RuleSet) (r : Request) : List Rule :=
  changers (fun rule r => (rule.modifiers.onRequest r).1) (s.rulesForRequest r) r

/-- The rules that change the response at their turn. -/
def responseChangers (s : RuleSet) (e : Exchange) : List Rule :=
  changers (fun rule r => (rule.modifiers.onResponse r).1) (s.rulesForExchange e) e.response

theorem requestRun_cases (s : RuleSet) (r : Request) :
    s.requestRun r = (r, []) ∨ (s.requestRun r).2 ≠ [] ∧ r.Reduced (s.requestRun r).1 :=
  applyAll_cases (R := Request.Reduced) .trans (fun rule => rule.modifiers.onRequest_tells) _ r

theorem requestRun_names (s : RuleSet) (r : Request) :
    (s.requestRun r).2 = s.requestChangers r :=
  applied_eq_changers (R := Request.Reduced) (fun h => h.lighter.ne)
    (fun rule => rule.modifiers.onRequest_tells) _ r

theorem onResponse_cases (s : RuleSet) (e : Exchange) :
    s.onResponse e = (e.response, []) ∨
      (s.onResponse e).2 ≠ [] ∧ Lighter Response.weight e.response (s.onResponse e).1 :=
  applyAll_cases (R := Lighter Response.weight) .trans
    (fun rule => rule.modifiers.onResponse_tells) _ e.response

theorem onResponse_names (s : RuleSet) (e : Exchange) :
    (s.onResponse e).2 = s.responseChangers e :=
  applied_eq_changers (R := Lighter Response.weight) Lighter.ne
    (fun rule => rule.modifiers.onResponse_tells) _ e.response

/-- How a request is decided. -/
inductive Decides (s : RuleSet) (r : Request) : Request × Verdict → Prop where
  | block {rule : Rule} (found : (s.rulesForRequest r).find? (·.blocks) = some rule) :
      Decides s r (r, .block rule)
  | allow (none_blocks : (s.rulesForRequest r).find? (·.blocks) = none)
      (still : s.requestRun r = (r, [])) : Decides s r (r, .allow)
  | modified (none_blocks : (s.rulesForRequest r).find? (·.blocks) = none)
      (reduced : r.Reduced (s.requestRun r).1) (kept : (s.requestRun r).1.uri = r.uri) :
      Decides s r ((s.requestRun r).1, .modified (s.requestRun r).2)
  | redirect (none_blocks : (s.rulesForRequest r).find? (·.blocks) = none)
      (reduced : r.Reduced (s.requestRun r).1)
      (moved : (s.requestRun r).1.uri.same r.uri = false) :
      Decides s r ((s.requestRun r).1,
        .redirect (s.requestRun r).1.uri.print (s.requestRun r).2)

theorem onRequest_decides (s : RuleSet) (r : Request) : s.Decides r (s.onRequest r) := by
  rw [onRequest]
  cases found : (s.rulesForRequest r).find? (·.blocks) with
  | some rule => exact .block found
  | none =>
      change s.Decides r (if (s.requestRun r).2 = [] then ((s.requestRun r).1, .allow)
        else if (s.requestRun r).1.uri.same r.uri then
          ((s.requestRun r).1, .modified (s.requestRun r).2)
        else ((s.requestRun r).1, .redirect (s.requestRun r).1.uri.print (s.requestRun r).2))
      rcases s.requestRun_cases r with still | ⟨edited, reduced⟩
      · rw [still]
        exact .allow found still
      · rw [if_neg edited]
        split
        · rename_i same
          refine .modified found reduced (reduced.target.resolve_right fun fewer => ?_)
          rw [Uri.segments_of_same same] at fewer
          exact Nat.lt_irrefl _ fewer
        · rename_i moved
          exact .redirect found reduced (Bool.eq_false_iff.mpr moved)

end RuleSet

namespace Filter

/-- What the verdict on a request says about the request afterwards and about the reports. -/
def Truthful (rules : RuleSet) (r edited : Request) (events : List Event) : Verdict → Prop
  | .allow => edited = r ∧ events = []
  | .block rule =>
    edited = r ∧
      events = [⟨.block, r.method, r.uri.print, r.headerText? "referer", [rule.applied]⟩]
  | .modified applied =>
    edited.uri = r.uri ∧ (∃ name, edited.headers.values name ≠ r.headers.values name) ∧
      applied = rules.requestChangers r ∧
      events = [⟨.modify, r.method, r.uri.print, r.headerText? "referer",
        applied.map Rule.applied⟩]
  | .redirect target applied =>
    edited.uri.same r.uri = false ∧ target = edited.uri.print ∧
      applied = rules.requestChangers r ∧
      events = [⟨.redirect target, r.method, r.uri.print, r.headerText? "referer",
        applied.map Rule.applied⟩]

end Filter

end FilteringProxy
