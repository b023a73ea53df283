import FilteringProxy.Proofs.Text.Split

/-! # Texts inside of others

A text has another inside exactly if that is a stretch of its characters, without a gap. A stretch
cannot reach over a character that it does not have itself.
-/

namespace FilteringProxy.Text

variable {t part : Text}

theorem startsWith_iff {head : Text} : startsWith t head = true ↔ head <+: t := by
  rw [startsWith, Option.isSome_iff_exists]
  constructor
  · rintro ⟨rest, behind⟩
    exact ⟨rest, (after?_eq_some behind).symm⟩
  · rintro ⟨rest, rfl⟩
    exact ⟨rest, after?_append head rest⟩

theorem hasPart_iff : hasPart t part = true ↔ part <:+: t := by
  induction t with
  | nil => rw [hasPart, List.isEmpty_iff, List.infix_nil]
  | cons c t ih => rw [hasPart, Bool.or_eq_true, startsWith_iff, ih, List.infix_cons_iff]

/-! ## Stretches and separators -/

variable {sep : Char}

theorem prefix_append_cons_iff (absent : sep ∉ part) (a b : Text) :
    part <+: a ++ sep :: b ↔ part <+: a := by
  refine ⟨fun front => ?_, fun front => front.trans (List.prefix_append a _)⟩
  rcases List.prefix_or_prefix_of_prefix front (List.prefix_append a (sep :: b)) with
    within | ⟨_ | ⟨c, more⟩, rfl⟩
  · exact within
  · simp only [List.append_nil, List.prefix_refl]
  · rw [List.prefix_append_right_inj, List.cons_prefix_cons] at front
    refine absurd ?_ absent
    rw [front.1]
    exact List.mem_append_right a List.mem_cons_self

/-- A stretch without the separator is on one side of it. -/
theorem infix_append_cons_iff (absent : sep ∉ part) (a b : Text) :
    part <:+: a ++ sep :: b ↔ part <:+: a ∨ part <:+: b := by
  induction a with
  | nil =>
      have front := prefix_append_cons_iff absent [] b
      rw [List.nil_append, List.prefix_nil] at front
      rw [List.nil_append, List.infix_cons_iff, front, List.infix_nil]
  | cons c a ih =>
      rw [List.cons_append, List.infix_cons_iff, ih, ← List.cons_append,
        prefix_append_cons_iff absent, ← or_assoc, ← List.infix_cons_iff]

end FilteringProxy.Text
