import FilteringProxy.Proofs.Rule.Form
import FilteringProxy.Proofs.Trie.Filing

/-! # How a line is filed

A line that is no hosts line is refused as a whole, or for its modifiers, or it is filed as one rule
at the place that the beginning of its address tells. A line that is refused leaves no trace.
-/

namespace FilteringProxy

open RuleLine (CutAt IsFormless IsHostsForm modifiersOf placement)

namespace Trie

variable {line address : Text} {written : Option Text}

/-- One trie is the other with one more rule at the end of one place. -/
structure FilesOnly (t filed : Trie) (e : Entry) : Prop where
  here : filed.heldAt e.place = t.heldAt e.place ++ [⟨t.next, e.rule⟩]
  elsewhere : ∀ place ≠ e.place, filed.heldAt place = t.heldAt place

theorem filesOnly_file (t : Trie) {e : Entry} (many : e.place.isSingle = false) :
    FilesOnly t (t.file e) e where
  here := by
    rw [heldAt_file, if_pos rfl, many]
    rfl
  elsewhere place other := by rw [heldAt_file, if_neg (Ne.symm other)]

theorem filesOnly_pattern (t : Trie) (anchor : Anchor) (address : Text) (rule : Rule) :
    FilesOnly t (t.file (.pattern anchor address rule)) (.pattern anchor address rule) := by
  apply filesOnly_file
  cases anchor <;> rfl

theorem add_eq_error_iff {t : Trie} {raw list : Text} {fault : RuleError} :
    t.add line raw list = .error fault ↔ RuleLine.parse line = .error fault := by
  cases parsed : RuleLine.parse line with
  | error other => rw [add_of_refused parsed]; simp
  | ok read => rw [add_of_parse parsed]; simp

theorem addition_of_error {t : Trie} {a : Addition} {fault : RuleError}
    (failed : t.add a.line a.raw a.list = .error fault) : t.addition a = t := by
  rw [addition, failed]

end Trie

end FilteringProxy
