import FilteringProxy.Proofs.Modifier.Frame
import FilteringProxy.Proofs.Modifier.Protected
import FilteringProxy.Proofs.RuleSet.Verdict

/-! # A filter only takes away

Whatever lists a filter has read, it adds nothing to a request or a response, and what it takes away
is never protected.
-/

namespace FilteringProxy

open Http (Request Response Exchange)

namespace Edit

theorem onRequest_pruned {e : Edit} {r s : Request} (edited : e.onRequest r = some s) :
    r.Pruned s := by
  have total := e.getD_onRequest r
  rw [edited, Option.getD_some] at total
  rw [total]
  exact e.strip_pruned r

theorem onResponse_pruned {e : Edit} {r s : Response} (edited : e.onResponse r = some s) :
    r.Pruned s := by
  have total := e.getD_onResponse r
  rw [edited, Option.getD_some] at total
  rw [total]
  exact e.stripResponse_pruned r

end Edit

namespace RuleSet

theorem requestRun_pruned (s : RuleSet) (r : Request) : r.Pruned (s.requestRun r).1 :=
  applyAll_related (R := Request.Pruned) .refl .trans Edit.onRequest_pruned _ r

theorem onResponse_pruned (s : RuleSet) (e : Exchange) : e.response.Pruned (s.onResponse e).1 :=
  applyAll_related (R := Response.Pruned) .refl .trans Edit.onResponse_pruned _ e.response

theorem onRequest_pruned (s : RuleSet) (r : Request) : r.Pruned (s.onRequest r).1 := by
  have run := s.requestRun_pruned r
  have decided := s.onRequest_decides r
  cases decision : s.onRequest r with | mk edited verdict =>
    rw [decision] at decided
    cases decided with
    | block | allow => exact .refl r
    | modified | redirect => exact run

end RuleSet

namespace Filter

theorem request_onRequest (f : Filter) (r : Request) :
    (f.onRequest r).request = (f.rules.onRequest r).1 := by
  rw [onRequest]
  cases f.rules.onRequest r with | mk edited verdict =>
    cases verdict <;> rfl

theorem fst_onResponse (f : Filter) (e : Exchange) :
    (f.onResponse e).1 = (f.rules.onResponse e).1 := by
  rw [onResponse]
  cases f.rules.onResponse e with | mk edited applied =>
    cases applied <;> rfl

/-- A filter only takes away from requests and responses, nothing of a protected header, and refuses
each line that asks for the removal of one, however the line spells its name. -/
theorem only_takes_away (f : Filter) :
    (∀ r : Request, r.Pruned (f.onRequest r).request) ∧
    (∀ e : Exchange, e.response.Pruned (f.onResponse e).1) ∧
    ∀ line list address modifiers part value : Text,
      RuleLine.hostsPart? (ruleText line) = none →
      RuleLine.cutModifiers (ruleText line) = (address, some modifiers) →
      part ∈ Text.splitOn ',' modifiers → Text.trim part = ("removeheader=" : Text) ++ value →
      isProtected (HeaderRemoval.spelledName value) = true →
      ∃ fault, f.add line list = .error fault := by
  refine ⟨fun r => ?_, fun e => ?_, ?_⟩
  · rw [request_onRequest]
    exact f.rules.onRequest_pruned r
  · rw [fst_onResponse]
    exact f.rules.onResponse_pruned e
  · intro line list address modifiers part value no_hosts cut member written guarded
    have refused :=
      ModifierSet.parseInto_refused member (Modifier.parse_protected written guarded) {}
    exact f.add_refused list (RuleLine.parse_refused no_hosts cut refused)

/-- A line that names a protected header in capitals, with blanks and on the side of the request. -/
theorem only_takes_away_capitals :
    ∃ fault, ({} : Filter).add "@@||a.com^$script, removeheader=request: Origin " "list" =
      .error fault :=
  (only_takes_away {}).2.2 "@@||a.com^$script, removeheader=request: Origin " "list" "||a.com^"
    "script, removeheader=request: Origin " " removeheader=request: Origin " "request: Origin"
    (by decide) (by decide) (by decide) (by decide) (by decide +kernel)

end Filter

end FilteringProxy
