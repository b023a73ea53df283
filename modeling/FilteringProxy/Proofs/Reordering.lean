import Mathlib.Data.List.FinRange
import Mathlib.Data.List.Sort
import Mathlib.Logic.Equiv.Fin.Basic

/-! # Lists in another order

A reordering may move all members of a list, but those that are related keep their order. What is
chosen from a list by a condition whose members are all related stays the same list.
-/

namespace FilteringProxy

/-- The second list is the first in another order, in which related members stand as before: places
are matched one by one, each with a place where the same is found. -/
def Reordering (related : α → α → Prop) (l m : List α) : Prop :=
  ∃ moved : Fin l.length ≃ Fin m.length, (∀ i, m.get (moved i) = l.get i) ∧
    ∀ i j, i < j → related (l.get i) (l.get j) → moved i < moved j

namespace Reordering

/-- The places whose members are chosen, in order. -/
def chosen (p : α → Bool) (l : List α) : List (Fin l.length) :=
  (List.finRange l.length).filter (p <| l.get ·)

theorem mem_chosen {p : α → Bool} {l : List α} {i : Fin l.length} :
    i ∈ chosen p l ↔ p (l.get i) = true := by
  rw [chosen, List.mem_filter, and_iff_right (List.mem_finRange i)]

theorem pairwise_chosen (p : α → Bool) (l : List α) : (chosen p l).Pairwise (· < ·) :=
  (List.pairwise_lt_finRange l.length).filter _

theorem map_get_chosen (p : α → Bool) (l : List α) : (chosen p l).map l.get = l.filter p := by
  have whole := congrArg (List.filter p) (List.map_get_finRange l)
  rwa [List.filter_map] at whole

/-- A choice among members that are all related does not depend on the order. -/
theorem filter_eq {related : α → α → Prop} {l m : List α} (reordered : Reordering related l m)
    {p : α → Bool} (together : ∀ a b, p a = true → p b = true → related a b) :
    l.filter p = m.filter p := by
  obtain ⟨moved, same, kept⟩ := reordered
  have increasing : ((chosen p l).map moved).Pairwise (· < ·) := by
    refine List.pairwise_map.mpr ((pairwise_chosen p l).imp_of_mem fun left right before => ?_)
    exact kept _ _ before (together _ _ (mem_chosen.mp left) (mem_chosen.mp right))
  have members (i : Fin m.length) : i ∈ (chosen p l).map moved ↔ i ∈ chosen p m := by
    rw [List.mem_map, mem_chosen]
    constructor
    · rintro ⟨j, member, rfl⟩
      rw [same]
      exact mem_chosen.mp member
    · intro taken
      refine ⟨moved.symm i, mem_chosen.mpr ?_, moved.apply_symm_apply i⟩
      rwa [← same, moved.apply_symm_apply]
  have places : (chosen p l).map moved = chosen p m := by
    refine List.Perm.eq_of_pairwise (fun i j _ _ left right => absurd right (lt_asymm left))
      increasing (pairwise_chosen p m) ?_
    exact (List.perm_ext_iff_of_nodup (increasing.imp ne_of_lt)
      ((pairwise_chosen p m).imp ne_of_lt)).mpr members
  calc l.filter p
      = (chosen p l).map l.get := (map_get_chosen p l).symm
    _ = (chosen p l).map (m.get ∘ moved) := List.map_congr_left fun i _ => (same i).symm
    _ = ((chosen p l).map moved).map m.get := List.map_map.symm
    _ = m.filter p := by rw [places, map_get_chosen]

theorem swap {related : α → α → Prop} {a b : α} (apart : ¬related a b) (l : List α) :
    Reordering related (a :: b :: l) (b :: a :: l) := by
  let moved : Fin (l.length + 2) ≃ Fin (l.length + 2) := Equiv.swap 0 1
  have kept (i : Fin l.length) : moved i.succ.succ = i.succ.succ :=
    Equiv.swap_apply_of_ne_of_ne (Fin.succ_ne_zero _)
      fun h => Fin.succ_ne_zero i (Fin.succ_injective _ h)
  refine ⟨moved, fun i => ?_, fun i j before near => ?_⟩
  · cases i using Fin.cases with
    | zero => rfl
    | succ i =>
        cases i using Fin.cases with
        | zero => rfl
        | succ i => exact congrArg _ (kept i)
  · cases j using Fin.cases with
    | zero => exact absurd before (Fin.not_lt_zero i)
    | succ j =>
        cases j using Fin.cases with
        | zero =>
            cases i using Fin.cases with
            | zero => exact absurd near apart
            | succ i => exact absurd (Fin.succ_lt_succ_iff.mp before) (Fin.not_lt_zero i)
        | succ j =>
            show moved i < moved j.succ.succ
            rw [kept]
            cases i using Fin.cases with
            | zero => exact Fin.succ_lt_succ_iff.mpr (Fin.succ_pos j)
            | succ i =>
                cases i using Fin.cases with
                | zero => exact Fin.succ_pos _
                | succ i =>
                    show moved i.succ.succ < j.succ.succ
                    rw [kept]
                    exact before

end Reordering

end FilteringProxy
