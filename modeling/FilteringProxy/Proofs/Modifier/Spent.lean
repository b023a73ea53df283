import FilteringProxy.Proofs.RuleSet.Verdict
import Mathlib.Data.List.Fold

/-! # Edits that have been made

An edit leaves nothing behind that it would take away, also where it writes anew what it keeps: the
rest of a query, or the rest of several cookie headers in one. Edits commute, so no later edit of a
set brings back what an earlier one looks for. A second run of the set finds nothing to do.
-/

namespace FilteringProxy

open Http (Request Response Headers)

/-! ## One edit -/

theorem HeaderRemoval.strip_strip (c : HeaderRemoval) (side : Side) (h : Headers) :
    c.strip side (c.strip side h) = c.strip side h := by
  by_cases here : c.side = side
  · simp [strip, here, Headers.remove_remove]
  · simp [strip, here]

namespace Edit

theorem strip_strip (e : Edit) (r : Request) : e.strip (e.strip r) = e.strip r := by
  cases e with
  | parameters c => simp [strip, Http.Uri.dropSegments_dropSegments]
  | header c => simp [strip, HeaderRemoval.strip_strip]
  | cookies c => simp [strip, Headers.dropCookies_dropCookies]

theorem stripResponse_stripResponse (e : Edit) (r : Response) :
    e.stripResponse (e.stripResponse r) = e.stripResponse r := by
  simp [stripResponse]

/-- An edit finds nothing in a request exactly when it would leave the request as it is. -/
theorem takesFrom_eq_false_iff {e : Edit} {r : Request} :
    e.takesFrom r = false ↔ e.strip r = r := by
  constructor
  · exact strip_of_not_takesFrom
  · intro same
    by_contra taken
    rw [Bool.not_eq_false] at taken
    have edited : e.onRequest r = some (e.strip r) := by
      rw [onRequest_eq, if_pos taken]
    exact (onRequest_reduced edited).lighter.ne same

theorem takesField_eq_false_iff {e : Edit} {r : Response} :
    r.headers.fields.any e.takesField = false ↔ e.stripResponse r = r := by
  constructor
  · intro nothing
    simp [stripResponse, Removal.filter_of_not_any nothing]
  · intro same
    by_contra taken
    rw [Bool.not_eq_false] at taken
    have edited : e.onResponse r = some (e.stripResponse r) := by
      rw [onResponse_eq, if_pos taken]
    exact (onResponse_lighter edited).ne same

end Edit

/-! ## All edits of a set -/

namespace ModifierSet

/-- Steps that commute and are each done once and for all leave no step to do. -/
theorem foldl_settled (step : α → β → α) (commute : ∀ a b c, step (step a b) c = step (step a c) b)
    (once : ∀ a b, step (step a b) b = step a b) {steps : List β} {b : β} (member : b ∈ steps)
    (a : α) : step (steps.foldl step a) b = steps.foldl step a := by
  induction steps generalizing a with
  | nil => cases member
  | cons first later ih =>
      rw [List.foldl_cons]
      rcases List.mem_cons.mp member with rfl | member
      · -- the step that comes again may as well come right after it was made
        have order : RightCommutative step := ⟨commute⟩
        have last : step (later.foldl step (step a b)) b = (b :: later).foldl step (step a b) :=
          List.foldl_cons_eq_apply_foldl.symm
        rw [last, List.foldl_cons, once]
      · exact ih member (step a first)

theorem applyAll_of_none {apply : Edit → α → Option α} {edits : List Edit} {a : α}
    (nothing : ∀ e ∈ edits, apply e a = none) : applyAll apply edits a = (a, false) := by
  induction edits with
  | nil => rfl
  | cons e edits ih =>
      rw [List.forall_mem_cons] at nothing
      simp only [applyAll, nothing.1]
      exact ih nothing.2

theorem takesFrom_onRequest (s : ModifierSet) (r : Request) {e : Edit} (member : e ∈ s.edits) :
    e.takesFrom (s.onRequest r).1 = false := by
  rw [Edit.takesFrom_eq_false_iff, fst_onRequest]
  exact foldl_settled (fun r e => Edit.strip e r) (fun r e f => e.strip_comm f r)
    (fun r e => e.strip_strip r) member r

theorem takesField_onResponse (s : ModifierSet) (r : Response) {e : Edit} (member : e ∈ s.edits) :
    (s.onResponse r).1.headers.fields.any e.takesField = false := by
  rw [Edit.takesField_eq_false_iff, fst_onResponse]
  exact foldl_settled (fun r e => Edit.stripResponse e r) (fun r e f => e.stripResponse_comm f r)
    (fun r e => e.stripResponse_stripResponse r) member r

/-- What a set has edited holds nothing more that one of its edits takes away, so a second run
changes nothing and says so. -/
theorem edits_once (s : ModifierSet) :
    (∀ r : Request,
      (∀ e ∈ s.edits, e.takesFrom (s.onRequest r).1 = false) ∧
        s.onRequest (s.onRequest r).1 = ((s.onRequest r).1, false)) ∧
    ∀ r : Response,
      (∀ e ∈ s.edits, (s.onResponse r).1.headers.fields.any e.takesField = false) ∧
        s.onResponse (s.onResponse r).1 = ((s.onResponse r).1, false) := by
  constructor
  · intro r
    have spent (e : Edit) (member : e ∈ s.edits) := s.takesFrom_onRequest r member
    refine ⟨spent, applyAll_of_none ?_⟩
    intro e member
    simp [Edit.onRequest_eq, spent e member]
  · intro r
    have spent (e : Edit) (member : e ∈ s.edits) := s.takesField_onResponse r member
    refine ⟨spent, applyAll_of_none ?_⟩
    intro e member
    rw [Edit.onResponse_eq, spent e member]
    rfl

/-- The first edit leaves an empty segment, which the last one takes, and one cookie of two headers
stays. -/
theorem edits_once_leftovers :
    let s : ModifierSet :=
      { edits := [.parameters (.named "x"), .cookies (.named "a"), .parameters (.notNamed "y")] }
    let r : Request :=
      { method := "GET", uri := ⟨some "http", "a.com", "/", some "x=1&&x"⟩, version := .http11,
        headers := ⟨[⟨"cookie", Utf8.encode "a=1;; b=2"⟩, ⟨"cookie", Utf8.encode " a"⟩]⟩ }
    let once := s.onRequest r
    parse "removeparam=x,cookie=a,removeparam=~y" = .ok s ∧ once.2 = true ∧
      once.1.uri = ⟨some "http", "a.com", "/", none⟩ ∧
      once.1.headers = ⟨[⟨"cookie", Utf8.encode "b=2"⟩]⟩ ∧ s.onRequest once.1 = (once.1, false) := by
  intro s r once
  refine ⟨?_, ?_, ?_, ?_, ((edits_once s).1 r).2⟩
  · decide
  · decide +kernel
  · decide +kernel
  · decide +kernel

end ModifierSet

end FilteringProxy
