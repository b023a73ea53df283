import Mathlib.Data.List.Basic

/-! # Removals from a list

Taking away what satisfies one condition and then what satisfies another is taking away what
satisfies either.
-/

namespace FilteringProxy.Removal

variable {l : List α} {p q : α → Bool}

theorem any_or (l : List α) (p q : α → Bool) :
    (l.any fun a => p a || q a) = (l.any p || l.any q) := by
  induction l with
  | nil => rfl
  | cons a l ih => simp only [List.any_cons, ih, Bool.or_assoc, Bool.or_left_comm]

theorem filter_of_not_any (h : l.any p = false) : l.filter (!p ·) = l := by
  refine List.filter_eq_self.mpr fun a member => ?_
  rw [Bool.eq_false_iff.mpr (List.any_eq_false.mp h a member), Bool.not_false]

theorem length_filter_of_any (h : l.any p = true) : (l.filter (!p ·)).length < l.length := by
  obtain ⟨a, member, taken⟩ := List.any_eq_true.mp h
  refine List.length_filter_lt_length_iff_exists.mpr ⟨a, member, ?_⟩
  simp only [taken, Bool.not_true, Bool.false_eq_true, not_false_eq_true]

theorem filter_filter_not (l : List α) (p q : α → Bool) :
    (l.filter (!p ·)).filter (!q ·) = l.filter fun a => !(p a || q a) := by
  simp only [List.filter_filter, Bool.not_or, Bool.and_comm]

end FilteringProxy.Removal
