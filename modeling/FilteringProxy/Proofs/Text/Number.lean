import FilteringProxy.Proofs.Text.Case

/-! # Numbers in digits

A number is read back from its decimal digits, and a text with any other character is no number.
-/

namespace FilteringProxy.Text

theorem toNat_of_isDigit {c : Char} (digit : c.isDigit = true) :
    48 ≤ c.toNat ∧ c.toNat ≤ 57 := by
  delta Char.isDigit at digit
  simp only [ge_iff_le, Bool.and_eq_true, decide_eq_true_eq, UInt32.le_iff_toNat_le] at digit
  exact digit

theorem toLower_of_isDigit {c : Char} (digit : c.isDigit = true) : c.toLower = c := by
  have bounds := toNat_of_isDigit digit
  rcases toLower_cases c with same | ⟨low, -, -⟩
  · exact same
  · omega

theorem digit?_of_isDigit {c : Char} (digit : c.isDigit = true) :
    digit? 10 c = some (c.toNat - '0'.toNat) := by
  have bounds := toNat_of_isDigit digit
  have inside : ('0' ≤ c && c ≤ '9') = true := by
    simp only [Bool.and_eq_true, decide_eq_true_eq, Char.le_def, UInt32.le_iff_toNat_le]
    exact bounds
  have small : c.toNat - '0'.toNat < 10 := by
    have zero : '0'.toNat = 48 := rfl
    omega
  rw [digit?, if_pos inside]
  exact if_pos small

theorem foldlM_digits {t : Text} (all : t.all Char.isDigit = true) (n : Nat) :
    t.foldlM (fun n c => (digit? 10 c).map (n * 10 + ·)) n = some (Nat.ofDigitChars 10 t n) := by
  induction t generalizing n with
  | nil => rfl
  | cons c t ih =>
      rw [List.all_cons, Bool.and_eq_true] at all
      rw [List.foldlM_cons, digit?_of_isDigit all.1, Nat.ofDigitChars_cons, Nat.mul_comm 10 n]
      exact ih all.2 _

theorem isDigit_of_mem_ofNat {n : Nat} {c : Char} (member : c ∈ ofNat n) : c.isDigit = true :=
  Nat.isDigit_of_mem_toDigits (by decide) (by decide) member

theorem toNat?_ofNat (n : Nat) : toNat? 10 (ofNat n) = some n := by
  have digits : (Nat.toDigits 10 n).all Char.isDigit = true :=
    List.all_eq_true.mpr fun c member => isDigit_of_mem_ofNat member
  rw [ofNat, toNat?, foldlM_digits digits, Nat.ofDigitChars_ten_toDigits]
  exact Nat.toDigits_ne_nil

theorem toNat?_eq_none {base : Nat} {t : Text} {c : Char} (member : c ∈ t)
    (other : digit? base c = none) : toNat? base t = none := by
  have stuck (n : Nat) :
      t.foldlM (fun n c => (digit? base c).map (n * base + ·)) n = none := by
    induction t generalizing n with
    | nil => cases member
    | cons d t ih =>
        rw [List.foldlM_cons]
        rcases List.mem_cons.mp member with rfl | later
        · rw [other]
          rfl
        · cases (digit? base d).map (n * base + ·) with
          | none => rfl
          | some m => exact ih later m
  cases t with
  | nil => cases member
  | cons d t => exact stuck 0

theorem exists_digitChar {n : Nat} {c : Char} (member : c ∈ Nat.toDigits 16 n) :
    ∃ d < 16, c = Nat.digitChar d := by
  induction n using Nat.strongRecOn with
  | ind n ih =>
      rw [Nat.toDigits_eq_if (by decide)] at member
      split at member
      · rename_i small
        exact ⟨n, small, List.mem_singleton.mp member⟩
      · rename_i large
        rcases List.mem_append.mp member with front | last
        · exact ih (n / 16) (Nat.div_lt_self (by omega) (by decide)) front
        · exact ⟨n % 16, Nat.mod_lt n (by decide), List.mem_singleton.mp last⟩

end FilteringProxy.Text
