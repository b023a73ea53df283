import Mathlib.Data.List.Basic

/-! # Reading element by element

A list is read if each of its elements is, and then the results stand in the order of the elements.
-/

namespace FilteringProxy.Reading

variable {f : α → Option β} {l : List α} {m : List β}

theorem mapM_eq_some : l.mapM f = some m ↔ l.map f = m.map some := by
  induction l generalizing m with
  | nil => cases m <;> simp
  | cons a l ih =>
      rw [List.mapM_cons, List.map_cons]
      cases first : f a with
      | none => cases m <;> simp
      | some b =>
          cases rest : l.mapM f with
          | none =>
              have unread (m : List β) : l.map f ≠ m.map some := fun same => by
                rw [ih.mpr same] at rest
                cases rest
              cases m <;> simp [unread]
          | some bs => cases m <;> simp [ih.mp rest, List.map_inj_right]

theorem mapM_eq_none : l.mapM f = none ↔ ∃ a ∈ l, f a = none := by
  induction l with
  | nil => simp
  | cons a l ih =>
      rw [List.mapM_cons]
      cases first : f a with
      | none => simp [first]
      | some b => cases rest : l.mapM f <;> simp_all

theorem exists_of_mem (read : l.mapM f = some m) {b : β} (member : b ∈ m) :
    ∃ a ∈ l, f a = some b := by
  have found : some b ∈ l.map f := mapM_eq_some.mp read ▸ List.mem_map_of_mem member
  exact List.mem_map.mp found

theorem exists_result (read : l.mapM f = some m) {a : α} (member : a ∈ l) :
    ∃ b ∈ m, f a = some b := by
  have found : f a ∈ m.map some := mapM_eq_some.mp read ▸ List.mem_map_of_mem member
  obtain ⟨b, there, same⟩ := List.mem_map.mp found
  exact ⟨b, there, same.symm⟩

theorem filterMap_of_mapM (read : l.mapM f = some m) : l.filterMap f = m := by
  have whole := congrArg (List.filterMap id) (mapM_eq_some.mp read)
  simpa [List.filterMap_map] using whole

theorem map_of_mapM {g : β → γ} {h : α → γ} (read : l.mapM f = some m)
    (same : ∀ a ∈ l, ∀ b, f a = some b → g b = h a) : m.map g = l.map h := by
  induction l generalizing m with
  | nil =>
      cases read
      rfl
  | cons a l ih =>
      rw [List.mapM_cons] at read
      obtain ⟨b, first, later⟩ := Option.bind_eq_some_iff.mp read
      obtain ⟨bs, rest, whole⟩ := Option.bind_eq_some_iff.mp later
      cases whole
      have more := ih rest fun a member => same a (List.mem_cons_of_mem _ member)
      rw [List.map_cons, List.map_cons, same a List.mem_cons_self b first, more]

end FilteringProxy.Reading
