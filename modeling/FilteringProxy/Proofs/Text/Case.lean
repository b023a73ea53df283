import FilteringProxy.Text.Basic
import Mathlib.Data.List.Basic

/-! # Letter case

Changing the case of the letters of a text leaves all its other characters where they are.
-/

namespace FilteringProxy.Text

/-- Only a capital letter changes, by 32 code points. -/
theorem toLower_cases (c : Char) :
    c.toLower = c ∨ 65 ≤ c.toNat ∧ c.toNat ≤ 90 ∧ c.toLower.toNat = c.toNat + 32 := by
  delta Char.toLower
  split
  · rename_i capital
    have low : 65 ≤ c.val.toNat := UInt32.le_iff_toNat_le.mp capital.1
    have high : c.val.toNat ≤ 90 := UInt32.le_iff_toNat_le.mp capital.2
    have moved : (c.val + ('a'.val - 'A'.val)).toNat = c.val.toNat + 32 :=
      Nat.mod_eq_of_lt (show c.val.toNat + 32 < 2 ^ 32 by omega)
    exact Or.inr ⟨low, high, moved⟩
  · exact Or.inl rfl

theorem eq_of_toLower {c d : Char} (other : d.isLower = false) (h : c.toLower = d) : c = d := by
  rcases toLower_cases c with same | ⟨low, high, moved⟩
  · exact same.symm.trans h
  · rw [h] at moved
    delta Char.isLower at other
    simp only [Bool.and_eq_false_iff, decide_eq_false_iff_not, ge_iff_le,
      UInt32.le_iff_toNat_le] at other
    change ¬97 ≤ d.toNat ∨ ¬d.toNat ≤ 122 at other
    omega

theorem isAlphanum_of_toLower_ne {c : Char} (changed : c.toLower ≠ c) : c.isAlphanum = true := by
  rcases toLower_cases c with same | ⟨low, high, -⟩
  · exact absurd same changed
  · have capital : c.isUpper = true := by
      delta Char.isUpper
      simp only [ge_iff_le, decide_eq_true_eq, UInt32.le_iff_toNat_le]
      exact ⟨low, high⟩
    delta Char.isAlphanum Char.isAlpha
    rw [capital, Bool.true_or, Bool.true_or]

theorem toNat_of_isAlphanum {c : Char} (h : c.isAlphanum = true) : c.toNat < 0x80 := by
  delta Char.isAlphanum Char.isAlpha Char.isUpper Char.isLower Char.isDigit at h
  simp only [ge_iff_le, Bool.or_eq_true, Bool.and_eq_true, decide_eq_true_eq,
    UInt32.le_iff_toNat_le] at h
  change (65 ≤ c.toNat ∧ c.toNat ≤ 90 ∨ 97 ≤ c.toNat ∧ c.toNat ≤ 122) ∨
    48 ≤ c.toNat ∧ c.toNat ≤ 57 at h
  omega

theorem isAlphanum_toLower {c : Char} (h : c.isAlphanum = true) : c.toLower.isAlphanum = true := by
  rcases toLower_cases c with same | ⟨low, high, moved⟩
  · rwa [same]
  · have letter : c.toLower.isLower = true := by
      delta Char.isLower
      simp only [ge_iff_le, Bool.and_eq_true, decide_eq_true_eq, UInt32.le_iff_toNat_le]
      change 97 ≤ c.toLower.toNat ∧ c.toLower.toNat ≤ 122
      omega
    delta Char.isAlphanum Char.isAlpha
    simp only [letter, Bool.or_true, Bool.true_or]

theorem toNat_toLower_lt {c : Char} (ascii : c.toNat < 0x80) : c.toLower.toNat < 0x80 := by
  rcases toLower_cases c with same | ⟨low, high, moved⟩
  · rwa [same]
  · omega

theorem mem_of_mem_lower {t : Text} {c : Char} (other : c.isLower = false) (h : c ∈ t.lower) :
    c ∈ t := by
  obtain ⟨d, member, same⟩ := List.mem_map.mp h
  exact eq_of_toLower other same ▸ member

theorem toLower_of_mem_lower {t : Text} {c : Char} (h : c ∈ t.lower) : c.toLower = c := by
  obtain ⟨d, -, rfl⟩ := List.mem_map.mp h
  rcases toLower_cases d with same | ⟨low, high, moved⟩
  · rw [same, same]
  · rcases toLower_cases d.toLower with same | ⟨low', high', -⟩
    · exact same
    · omega

theorem lower_eq_self {t : Text} (small : ∀ c ∈ t, c.toLower = c) : t.lower = t := by
  rw [lower, List.map_congr_left small, List.map_id']

theorem lower_lower (t : Text) : t.lower.lower = t.lower :=
  lower_eq_self fun _ => toLower_of_mem_lower

theorem getLast?_lower (t : Text) : t.lower.getLast? = t.getLast?.map Char.toLower :=
  List.getLast?_map

end FilteringProxy.Text
