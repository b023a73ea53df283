import FilteringProxy.Modifier.Basic

/-! # Rules

A rule is a line of a list with its modifiers. It blocks what it applies to if it has no edits, and
only edits it otherwise. An exception is a rule too: it cancels other rules for the same exchange.
-/

namespace FilteringProxy

open Http (Request Response Exchange)

structure Rule where
  raw : Text
  list : Text
  modifiers : ModifierSet := {}
  deriving DecidableEq

structure AppliedRule where
  raw : Text
  list : Text
  deriving Repr, DecidableEq

namespace Rule

def withModifiers (r : Rule) (written : Text) : Except RuleError Rule := do
  return { r with modifiers := ← ModifierSet.parse written }

def blocks (r : Rule) : Bool := r.modifiers.edits.isEmpty

def applied (r : Rule) : AppliedRule := ⟨r.raw, r.list⟩

/-- An exception cancels a rule: one without modifiers cancels all; any other must state all
conditions of the rule, and the rule must make all edits of the exception. -/
def cancels (exception rule : Rule) : Bool :=
  exception.modifiers.isEmpty ||
    (rule.modifiers.conditions.all fun theirs =>
      exception.modifiers.conditions.any fun ours => ours.same theirs) &&
    exception.modifiers.edits.all rule.modifiers.edits.contains

end Rule

end FilteringProxy
