import FilteringProxy.Text.Blank
import Mathlib.Data.List.DropRight

/-! # Parts of a text

Splitting at a separator and joining undo each other, and trimming gives a text that begins and ends
with no blank.
-/

namespace FilteringProxy.Text

/-! ## The first separator -/

theorem cut?_eq_none {sep : Char} {t : Text} : cut? sep t = none ↔ sep ∉ t := by
  induction t with
  | nil => simp only [cut?, List.not_mem_nil, not_false_eq_true]
  | cons c t ih =>
      by_cases here : c = sep
      · subst here
        simp only [cut?, if_true, reduceCtorEq, List.mem_cons_self, not_true_eq_false]
      · simp only [cut?, if_neg here, Option.map_eq_none_iff, ih, List.mem_cons, not_or,
          Ne.symm here, not_false_eq_true, true_and]

theorem cut?_eq_some {sep : Char} {t a b : Text} (h : cut? sep t = some (a, b)) :
    t = a ++ sep :: b ∧ sep ∉ a := by
  induction t generalizing a with
  | nil => cases h
  | cons c t ih =>
      by_cases here : c = sep
      · subst here
        simp only [cut?, if_true, Option.some.injEq, Prod.mk.injEq] at h
        obtain ⟨rfl, rfl⟩ := h
        exact ⟨rfl, List.not_mem_nil⟩
      · simp only [cut?, if_neg here, Option.map_eq_some_iff, Prod.exists, Prod.mk.injEq] at h
        obtain ⟨x, y, found, rfl, rfl⟩ := h
        obtain ⟨whole, absent⟩ := ih found
        refine ⟨congrArg (c :: ·) whole, fun member => ?_⟩
        rcases List.mem_cons.mp member with same | inside
        · exact here same.symm
        · exact absent inside

theorem cut?_append {sep : Char} {a : Text} (absent : sep ∉ a) (b : Text) :
    cut? sep (a ++ sep :: b) = some (a, b) := by
  induction a with
  | nil => simp only [List.nil_append, cut?, if_true]
  | cons c a ih =>
      rw [List.mem_cons, not_or] at absent
      simp only [List.cons_append, cut?, if_neg (Ne.symm absent.1), ih absent.2, Option.map_some]

theorem bne_of_not_mem {sep : Char} {t : Text} (absent : sep ∉ t) :
    ∀ c ∈ t, (c != sep) = true := by
  intro c member
  rw [bne_iff_ne]
  rintro rfl
  exact absent member

theorem upTo_of_not_mem {sep : Char} {t : Text} (absent : sep ∉ t) : upTo sep t = t :=
  List.takeWhile_eq_self_iff.mpr (bne_of_not_mem absent)

theorem upTo_append {sep : Char} {a : Text} (absent : sep ∉ a) (b : Text) :
    upTo sep (a ++ b) = a ++ upTo sep b :=
  List.takeWhile_append_of_pos (bne_of_not_mem absent)

theorem upTo_cons {sep c : Char} (apart : c ≠ sep) (t : Text) :
    upTo sep (c :: t) = c :: upTo sep t :=
  List.takeWhile_cons_of_pos (bne_iff_ne.mpr apart)

theorem upTo_append_cons {sep : Char} {a : Text} (absent : sep ∉ a) (b : Text) :
    upTo sep (a ++ sep :: b) = a := by
  rw [upTo_append absent, upTo, List.takeWhile_cons_of_neg (by simp), List.append_nil]

theorem upTo_append_of_mem {sep : Char} {t : Text} (present : sep ∈ t) (b : Text) :
    upTo sep (t ++ b) = upTo sep t := by
  obtain ⟨a, r, rfl, absent⟩ := List.eq_append_cons_of_mem present
  rw [List.append_assoc, List.cons_append, upTo_append_cons absent, upTo_append_cons absent]

theorem not_mem_upTo (sep : Char) (t : Text) : sep ∉ upTo sep t := by
  intro member
  have kept := List.mem_takeWhile_imp member
  simp only [bne_self_eq_false, Bool.false_eq_true] at kept

theorem upTo_prefix (sep : Char) (t : Text) : upTo sep t <+: t := List.takeWhile_prefix _

/-! ## A known beginning -/

theorem after?_append (head rest : Text) : after? head (head ++ rest) = some rest := by
  induction head with
  | nil => rfl
  | cons c head ih => rw [List.cons_append, after?, if_pos rfl, ih]

theorem after?_eq_some {head t rest : Text} (h : after? head t = some rest) : t = head ++ rest := by
  induction head generalizing t with
  | nil => exact Option.some.inj h
  | cons c head ih =>
      cases t with
      | nil => cases h
      | cons d t =>
          rw [after?, Option.ite_none_right_eq_some] at h
          rw [h.1, ih h.2, List.cons_append]

/-! ## A known end -/

theorem before?_append (front tail : Text) : before? tail (front ++ tail) = some front := by
  simp [before?, after?_append]

theorem before?_eq_some {tail t front : Text} (h : before? tail t = some front) :
    t = front ++ tail := by
  simp only [before?, Option.map_eq_some_iff] at h
  obtain ⟨reversed, found, rfl⟩ := h
  simpa using congrArg List.reverse (after?_eq_some found)

theorem before?_eq_none {tail t : Text} (other : ¬ tail <:+ t) : before? tail t = none := by
  cases found : before? tail t with
  | none => rfl
  | some front => exact absurd ⟨front, (before?_eq_some found).symm⟩ other

/-! ## Splitting and joining -/

theorem splitOn_ne_nil (sep : Char) (t : Text) : splitOn sep t ≠ [] := by
  cases t with
  | nil => exact List.cons_ne_nil _ _
  | cons c t =>
      simp only [splitOn]
      split
      · exact List.cons_ne_nil _ _
      · split <;> exact List.cons_ne_nil _ _

theorem splitOn_cons {sep c : Char} (h : c ≠ sep) (t : Text) :
    ∃ part parts, splitOn sep t = part :: parts ∧ splitOn sep (c :: t) = (c :: part) :: parts := by
  cases parts : splitOn sep t with
  | nil => exact absurd parts (splitOn_ne_nil sep t)
  | cons part rest => exact ⟨part, rest, rfl, by simp only [splitOn, if_neg h, parts]⟩

theorem splitOn_of_not_mem {sep : Char} {t : Text} (h : sep ∉ t) : splitOn sep t = [t] := by
  induction t with
  | nil => rfl
  | cons c t ih =>
      rw [List.mem_cons, not_or] at h
      simp only [splitOn, if_neg (Ne.symm h.1), ih h.2]

theorem splitOn_append_cons (sep : Char) (a b : Text) :
    splitOn sep (a ++ sep :: b) = splitOn sep a ++ splitOn sep b := by
  induction a with
  | nil => simp only [List.nil_append, splitOn, if_true, List.singleton_append]
  | cons c a ih =>
      by_cases here : c = sep
      · simp only [List.cons_append, splitOn, if_pos here, ih]
      · obtain ⟨part, parts, split, whole⟩ := splitOn_cons here a
        rw [List.cons_append, splitOn, if_neg here, ih, whole, split]
        rfl

theorem splitOn_append {sep : Char} {a : Text} (h : sep ∉ a) (b : Text) :
    splitOn sep (a ++ sep :: b) = a :: splitOn sep b := by
  rw [splitOn_append_cons, splitOn_of_not_mem h, List.singleton_append]

theorem mem_part {sep : Char} {t part : Text} (member : part ∈ splitOn sep t) {c : Char}
    (inside : c ∈ part) : c ≠ sep ∧ c ∈ t := by
  induction t generalizing part with
  | nil =>
      cases List.mem_singleton.mp member
      cases inside
  | cons d t ih =>
      by_cases here : d = sep
      · simp only [splitOn, if_pos here, List.mem_cons] at member
        rcases member with rfl | later
        · cases inside
        · exact ⟨(ih later inside).1, List.mem_cons_of_mem d (ih later inside).2⟩
      · obtain ⟨first, rest, parts, whole⟩ := splitOn_cons here t
        rw [whole, List.mem_cons] at member
        rcases member with rfl | later
        · rcases List.mem_cons.mp inside with rfl | inside
          · exact ⟨here, List.mem_cons_self⟩
          · have found := ih (parts ▸ List.mem_cons_self) inside
            exact ⟨found.1, List.mem_cons_of_mem d found.2⟩
        · have found := ih (parts ▸ List.mem_cons_of_mem first later) inside
          exact ⟨found.1, List.mem_cons_of_mem d found.2⟩

/-- A joined text is split where its parts are and where they were joined. -/
theorem splitOn_join_eq_flatMap {sep : Char} {parts : List Text} (some_part : parts ≠ []) :
    splitOn sep (join [sep] parts) = parts.flatMap (splitOn sep) := by
  induction parts with
  | nil => exact absurd rfl some_part
  | cons part rest ih =>
      cases rest with
      | nil => simp [join]
      | cons next rest =>
          have later := ih (List.cons_ne_nil _ _)
          rw [List.flatMap_cons, ← later, ← splitOn_append_cons]
          simp [join]

theorem splitOn_join {sep : Char} {parts : List Text} (some_part : parts ≠ [])
    (clean : ∀ part ∈ parts, sep ∉ part) : splitOn sep (join [sep] parts) = parts := by
  have whole : parts.flatMap (splitOn sep) = parts.flatMap fun part => [part] :=
    List.flatMap_congr fun part member => splitOn_of_not_mem (clean part member)
  rw [splitOn_join_eq_flatMap some_part, whole, List.flatMap_singleton']

theorem join_cons (sep part : Text) (parts : List Text) :
    join sep (part :: parts) = part ++ if parts = [] then [] else sep ++ join sep parts := by
  cases parts with
  | nil => exact (List.append_nil part).symm
  | cons next parts =>
      rw [if_neg (List.cons_ne_nil _ _), ← List.append_assoc]
      rfl

theorem join_splitOn (sep : Char) (t : Text) : join [sep] (splitOn sep t) = t := by
  induction t with
  | nil => rfl
  | cons c t ih =>
      by_cases here : c = sep
      · rw [splitOn, if_pos here, join_cons, if_neg (splitOn_ne_nil sep t), ih, here]
        rfl
      · obtain ⟨part, parts, split, whole⟩ := splitOn_cons here t
        rw [split, join_cons] at ih
        rw [whole, join_cons, List.cons_append, ih]

theorem join_append {sep : Text} {front back : List Text} (some_front : front ≠ [])
    (some_back : back ≠ []) :
    join sep (front ++ back) = join sep front ++ (sep ++ join sep back) := by
  induction front with
  | nil => exact absurd rfl some_front
  | cons part front ih =>
      rw [List.cons_append, join_cons, join_cons,
        if_neg (List.append_ne_nil_of_right_ne_nil front some_back)]
      split
      · rename_i last
        rw [last, List.nil_append, List.append_nil]
      · rename_i more
        rw [ih more, List.append_assoc, List.append_assoc]

theorem join_suffix (sep : Text) {parts whole : List Text} (last : parts <:+ whole) :
    join sep parts <:+ join sep whole := by
  obtain ⟨front, rfl⟩ := last
  by_cases no_parts : parts = []
  · subst no_parts
    exact List.nil_suffix
  by_cases no_front : front = []
  · subst no_front
    exact List.suffix_rfl
  · rw [join_append no_front no_parts, ← List.append_assoc]
    exact List.suffix_append _ _

theorem mem_join {sep part : Text} {parts : List Text} {c : Char} (member : part ∈ parts)
    (inside : c ∈ part) : c ∈ join sep parts := by
  induction parts with
  | nil => cases member
  | cons first rest ih =>
      rw [join_cons, List.mem_append]
      rcases List.mem_cons.mp member with rfl | later
      · exact Or.inl inside
      · rw [if_neg (List.ne_nil_of_mem later)]
        exact Or.inr (List.mem_append_right _ (ih later))

theorem mem_of_mem_join {sep : Text} {parts : List Text} {c : Char} (member : c ∈ join sep parts) :
    c ∈ sep ∨ ∃ part ∈ parts, c ∈ part := by
  induction parts with
  | nil => cases member
  | cons first rest ih =>
      rw [join_cons, List.mem_append] at member
      rcases member with inside | behind
      · exact Or.inr ⟨first, List.mem_cons_self, inside⟩
      split at behind
      · cases behind
      rcases List.mem_append.mp behind with between | later
      · exact Or.inl between
      · rcases ih later with between | ⟨part, there, inside⟩
        · exact Or.inl between
        · exact Or.inr ⟨part, List.mem_cons_of_mem _ there, inside⟩

theorem exists_part {sep : Char} {t : Text} {c : Char} (member : c ∈ t) (other : c ≠ sep) :
    ∃ part ∈ splitOn sep t, c ∈ part := by
  rw [← join_splitOn sep t] at member
  refine (mem_of_mem_join member).resolve_left fun between => ?_
  exact other (List.mem_singleton.mp between)

theorem join_sublist (sep : Text) {parts whole : List Text} (sub : parts.Sublist whole) :
    (join sep parts).Sublist (join sep whole) := by
  induction sub with
  | slnil => exact List.Sublist.refl _
  | cons part sub ih =>
      refine ih.trans ?_
      rw [join_cons]
      split
      · rename_i last
        rw [last]
        exact List.nil_sublist _
      · exact (List.sublist_append_right ..).trans (List.sublist_append_right ..)
  | cons_cons part sub ih =>
      rw [join_cons, join_cons]
      refine (List.Sublist.refl part).append ?_
      split
      · exact List.nil_sublist _
      · rename_i some_part
        rw [if_neg (List.ne_nil_of_length_pos <|
          (List.length_pos_of_ne_nil some_part).trans_le sub.length_le)]
        exact (List.Sublist.refl sep).append ih

theorem join_eq_nil {sep : Char} {parts : List Text} (h : join [sep] parts = []) :
    parts = [] ∨ parts = [[]] := by
  cases parts with
  | nil => exact Or.inl rfl
  | cons part rest =>
      cases rest with
      | nil => exact Or.inr (congrArg (fun t => [t]) h)
      | cons next rest =>
          simp only [join, List.append_assoc, List.singleton_append, List.append_eq_nil_iff,
            reduceCtorEq, and_false] at h

theorem splitOn_replicate (sep : Char) (n : Nat) :
    splitOn sep (List.replicate n sep) = List.replicate (n + 1) [] := by
  induction n with
  | zero => rfl
  | succ n ih => rw [List.replicate_succ, splitOn, if_pos rfl, ih, ← List.replicate_succ]

/-! ## Trimming -/

theorem mem_of_mem_trimWith {p : Char → Bool} {t : Text} {c : Char} (h : c ∈ trimWith p t) :
    c ∈ t :=
  (List.dropWhile_sublist p).subset ((List.rdropWhile_prefix p _).subset h)

theorem trimWith_cons {p : Char → Bool} {c : Char} (h : p c = true) (t : Text) :
    trimWith p (c :: t) = trimWith p t := by
  rw [trimWith, List.dropWhile_cons_of_pos h, ← trimWith]

theorem trimWith_append_singleton {p : Char → Bool} {c : Char} (h : p c = true) (t : Text) :
    trimWith p (t ++ [c]) = trimWith p t := by
  rw [trimWith, trimWith, List.dropWhile_append]
  split
  · rename_i empty
    rw [List.dropWhile_cons_of_pos h, List.isEmpty_iff.mp empty]
    rfl
  · rw [dropEnd, dropEnd, List.reverse_append, List.reverse_singleton, List.singleton_append,
      List.dropWhile_cons_of_pos h]

theorem trimWith_append {p : Char → Bool} {u : Text} (h : ∀ c ∈ u, p c = true) (t : Text) :
    trimWith p (t ++ u) = trimWith p t := by
  induction u generalizing t with
  | nil => rw [List.append_nil]
  | cons c u ih =>
      rw [List.forall_mem_cons] at h
      rw [List.append_cons, ih h.2, trimWith_append_singleton h.1]

theorem trimWith_trimWith (p : Char → Bool) (t : Text) :
    trimWith p (trimWith p t) = trimWith p t := by
  have front : (trimWith p t).dropWhile p = trimWith p t := by
    cases trimmed : trimWith p t with
    | nil => rfl
    | cons c rest =>
        obtain ⟨tail, whole⟩ : trimWith p t <+: t.dropWhile p := List.rdropWhile_prefix p _
        rw [trimmed, List.cons_append] at whole
        have kept : p c = false := by
          have first := List.head?_dropWhile_not p t
          rw [← whole] at first
          exact first
        exact List.dropWhile_cons_of_neg (by rw [kept]; exact Bool.false_ne_true)
  rw [trimWith, front]
  exact List.rdropWhile_idempotent p _

end FilteringProxy.Text
