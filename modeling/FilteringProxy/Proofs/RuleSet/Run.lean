import FilteringProxy.RuleSet
import Mathlib.Data.List.Basic

/-! # Runs of rules

Rules take their turns one after another, and a rule makes its edits one after another. What every
edit does, a transitive relation, the run does as a whole, unless nothing was edited; and the rules
that the run names are those whose turn changed something.
-/

namespace FilteringProxy

/-- Either the flag is off and nothing was done, or it is on and a step of `R` was made. -/
inductive Tells (R : α → α → Prop) (a : α) : α × Bool → Prop where
  | nothing : Tells R a (a, false)
  | step {b : α} (made : R a b) : Tells R a (b, true)

theorem Tells.eq_of_fst {R : α → α → Prop} {a : α} {x y : α × Bool} (moves : ∀ {a b}, R a b → b ≠ a)
    (left : Tells R a x) (right : Tells R a y) (same : x.1 = y.1) : x = y := by
  cases left with
  | nothing =>
      cases right with
      | nothing => rfl
      | step made => exact absurd same.symm (moves made)
  | step made =>
      cases right with
      | nothing => exact absurd same (moves made)
      | step made' => exact Prod.ext same rfl

theorem ModifierSet.applyAll_tells {R : α → α → Prop} {apply : Edit → α → Option α}
    (trans : ∀ {a b c}, R a b → R b c → R a c) (made : ∀ {e a b}, apply e a = some b → R a b)
    (edits : List Edit) (a : α) : Tells R a (applyAll apply edits a) := by
  induction edits generalizing a with
  | nil => exact .nothing
  | cons e edits ih =>
      simp only [applyAll]
      cases taken : apply e a with
      | none => exact ih a
      | some b =>
          have later := ih b
          change Tells R a ((applyAll apply edits b).1, true)
          cases run : applyAll apply edits b with | mk c flag =>
            rw [run] at later
            cases later with
            | nothing => exact .step (made taken)
            | step rest => exact .step (trans (made taken) rest)

theorem ModifierSet.fst_applyAll (apply : Edit → α → Option α) (edits : List Edit) (a : α) :
    (applyAll apply edits a).1 = edits.foldl (fun a e => (apply e a).getD a) a := by
  induction edits generalizing a with
  | nil => rfl
  | cons e edits ih =>
      simp only [applyAll, List.foldl_cons]
      cases taken : apply e a with
      | none => exact ih a
      | some b => exact ih b

theorem ModifierSet.applyAll_map {apply : Edit → α → Option α} {change : α → α}
    (commute : ∀ e a, apply e (change a) = (apply e a).map change) (edits : List Edit) (a : α) :
    applyAll apply edits (change a) =
      (change (applyAll apply edits a).1, (applyAll apply edits a).2) := by
  induction edits generalizing a with
  | nil => rfl
  | cons e edits ih =>
      rw [applyAll, applyAll, commute]
      cases apply e a with
      | none => exact ih a
      | some b =>
          simp only [Option.map_some, ih]

namespace RuleSet

section

variable {R : α → α → Prop} {turn : Rule → α → α × Bool}

theorem applyAll_cases (trans : ∀ {a b c}, R a b → R b c → R a c)
    (tells : ∀ rule a, Tells R a (turn rule a)) (rules : List Rule) (a : α) :
    applyAll turn rules a = (a, []) ∨
      (applyAll turn rules a).2 ≠ [] ∧ R a (applyAll turn rules a).1 := by
  induction rules generalizing a with
  | nil => exact Or.inl rfl
  | cons rule rules ih =>
      have here := tells rule a
      simp only [applyAll]
      cases taken : turn rule a with | mk b flag =>
        rw [taken] at here
        cases here with
        | nothing => exact ih a
        | step made =>
            refine Or.inr ⟨List.cons_ne_nil _ _, ?_⟩
            rcases ih b with unchanged | ⟨_, rest⟩
            · simp only [unchanged]
              exact made
            · exact trans made rest

theorem applyAll_related {apply : Edit → α → Option α} (refl : ∀ a, R a a)
    (trans : ∀ {a b c}, R a b → R b c → R a c) (made : ∀ {e a b}, apply e a = some b → R a b)
    (rules : List Rule) (a : α) :
    R a (applyAll (fun rule => ModifierSet.applyAll apply rule.modifiers.edits) rules a).1 := by
  have turns (rule : Rule) (a : α) :
      Tells R a (ModifierSet.applyAll apply rule.modifiers.edits a) :=
    ModifierSet.applyAll_tells (R := R) trans made rule.modifiers.edits a
  rcases applyAll_cases (R := R) trans turns rules a with unchanged | ⟨_, related⟩
  · rw [unchanged]
    exact refl a
  · exact related

/-- The rules whose turn changed something. -/
def changers [DecidableEq α] (step : Rule → α → α) : List Rule → α → List Rule
  | [], _ => []
  | rule :: rules, a =>
    if step rule a = a then changers step rules a
    else rule :: changers step rules (step rule a)

/-- The rules that are named are those that changed something. -/
theorem applied_eq_changers [DecidableEq α] (moved : ∀ {a b}, R a b → b ≠ a)
    (tells : ∀ rule a, Tells R a (turn rule a)) (rules : List Rule) (a : α) :
    (applyAll turn rules a).2 = changers (fun rule a => (turn rule a).1) rules a := by
  induction rules generalizing a with
  | nil => rfl
  | cons rule rules ih =>
      have here := tells rule a
      simp only [applyAll, changers]
      cases taken : turn rule a with | mk b flag =>
        rw [taken] at here
        cases here with
        | nothing =>
            rw [if_pos rfl]
            exact ih a
        | step made =>
            rw [if_neg (moved made)]
            exact congrArg _ (ih b)

end

theorem applyAll_map {turn : Rule → α → α × Bool} {change : α → α}
    (commute : ∀ rule a, turn rule (change a) = (change (turn rule a).1, (turn rule a).2))
    (rules : List Rule) (a : α) :
    applyAll turn rules (change a) =
      (change (applyAll turn rules a).1, (applyAll turn rules a).2) := by
  induction rules generalizing a with
  | nil => rfl
  | cons rule rules ih =>
      rw [applyAll, applyAll, commute]
      obtain ⟨b, _ | _⟩ := turn rule a
      · exact ih b
      · simp only [ih]

theorem fst_applyAll (turn : Rule → α → α × Bool) (rules : List Rule) (a : α) :
    (applyAll turn rules a).1 = rules.foldl (fun a rule => (turn rule a).1) a := by
  induction rules generalizing a with
  | nil => rfl
  | cons rule rules ih =>
      simp only [applyAll, List.foldl_cons]
      cases taken : turn rule a with | mk b flag =>
        cases flag with
        | true => exact ih b
        | false => exact ih b

end RuleSet

end FilteringProxy
