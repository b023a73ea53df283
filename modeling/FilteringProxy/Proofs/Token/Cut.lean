import FilteringProxy.Token
import Mathlib.Data.List.Basic

/-! # Cutting a text between its tokens

The tokens of a text are those of its two parts, one after the other, when the cut is at a delimiter
and does not part the sign between scheme and host.
-/

namespace FilteringProxy

namespace Token

/-- The cut between the texts parts the sign between scheme and host. -/
def Parted (a b : Text) : Prop :=
  ∃ x y : Text, x ≠ [] ∧ y ≠ [] ∧ x ++ y = schemeSeparator ∧ x <:+ a ∧ y <+: b

/-- There is a delimiter on at least one side of the cut. -/
def Delimited (a b : Text) : Prop :=
  ∀ c d, a.getLast? = some c → b.head? = some d → isDelimiter c = true ∨ isDelimiter d = true

theorem Parted.cons {a b : Text} (c : Char) (h : Parted a b) : Parted (c :: a) b := by
  obtain ⟨x, y, hx, hy, whole, suffix, front⟩ := h
  exact ⟨x, y, hx, hy, whole, suffix.trans (List.suffix_cons c a), front⟩

theorem Delimited.tail {a b : Text} {c : Char} (h : Delimited (c :: a) b) : Delimited a b := by
  intro last first atEnd atStart
  refine h last first ?_ atStart
  rw [List.getLast?_cons, atEnd, Option.getD_some]

theorem not_separator_front {c : Char} {t : Text}
    (overlap : ∀ rest, c = ':' → t = '/' :: '/' :: rest → False) :
    ¬ schemeSeparator <+: c :: t := by
  rintro ⟨rest, whole⟩
  injection whole with first rest'
  exact overlap rest first.symm rest'.symm

theorem separator_front {a b : Text} (c : Char) (whole : ¬ Parted (c :: a) b)
    (front : schemeSeparator <+: c :: (a ++ b)) : schemeSeparator <+: c :: a := by
  simp only [schemeSeparator, List.cons_prefix_cons] at front ⊢
  obtain ⟨rfl, front⟩ := front
  cases a with
  | nil =>
    exact absurd ⟨[':'], ['/', '/'], by decide, by decide, rfl, List.suffix_refl _, front⟩ whole
  | cons d a =>
      rw [List.cons_append, List.cons_prefix_cons] at front
      obtain ⟨rfl, front⟩ := front
      cases a with
      | nil =>
          exact absurd ⟨[':', '/'], ['/'], by decide, by decide, rfl, List.suffix_refl _, front⟩
            whole
      | cons e a =>
          rw [List.cons_append, List.cons_prefix_cons] at front
          exact ⟨rfl, by rw [List.cons_prefix_cons, List.cons_prefix_cons]
                         exact ⟨rfl, front.1, List.nil_prefix⟩⟩

theorem delimited_of_front {a b rest : Text} {c : Char} (whole : b = c :: rest)
    (delimiter : isDelimiter c = true) : Delimited a b := by
  intro last first _ front
  rw [whole] at front
  cases front
  exact Or.inr delimiter

theorem not_parted {a b : Text} (closed : ':' ∉ a ∨ a.getLast? = some ']') :
    ¬ Parted a b := by
  rintro ⟨x, y, hx, hy, whole, suffix, _⟩
  have front : x <+: schemeSeparator := ⟨y, whole⟩
  rcases closed with absent | bracket
  · cases x with
    | nil => exact hx rfl
    | cons c x =>
        cases (List.cons_prefix_cons.mp front).1
        exact absent (suffix.subset List.mem_cons_self)
  · have last : x.getLast? = some ']' := by
      obtain ⟨front, rfl⟩ := suffix
      rwa [List.getLast?_append_of_ne_nil front hx] at bracket
    have member : ']' ∈ schemeSeparator :=
      front.subset (List.mem_of_getLast? last)
    exact absurd member (by decide)

/-- A separator is parted when it stands in both texts together, begins in the first one and ends in
the second one. -/
theorem parted_iff {a b : Text} :
    Parted a b ↔ ∃ front behind, a ++ b = front ++ schemeSeparator ++ behind ∧
      front.length < a.length ∧ a.length < front.length + schemeSeparator.length := by
  constructor
  · rintro ⟨x, y, some_x, some_y, separator, ⟨front, rfl⟩, ⟨behind, rfl⟩⟩
    have positive := List.length_pos_of_ne_nil some_x
    have positive' := List.length_pos_of_ne_nil some_y
    refine ⟨front, behind, by simp [← separator], ?_, ?_⟩
    · rw [List.length_append]
      omega
    · rw [← separator, List.length_append, List.length_append]
      omega
  · rintro ⟨front, behind, whole, begins, ends⟩
    rw [List.append_assoc] at whole
    rcases List.append_eq_append_iff.mp whole with ⟨more, rfl, -⟩ | ⟨x, rfl, rest⟩
    · rw [List.length_append] at begins
      omega
    · rw [List.length_append] at begins ends
      rcases List.append_eq_append_iff.mp rest with ⟨y, rfl, -⟩ | ⟨more, separator, behindCut⟩
      · rw [List.length_append] at ends
        omega
      · refine ⟨x, more, ?_, ?_, separator.symm, List.suffix_append .., ?_⟩
        · rintro rfl
          simp at begins
        · rintro rfl
          rw [separator, List.append_nil] at ends
          omega
        · exact ⟨behind, behindCut.symm⟩

/-- Between two texts that are not empty there is a delimiter at the cut. -/
theorem delimited_iff {a b : Text} (some_a : a ≠ []) (some_b : b ≠ []) :
    Delimited a b ↔ (∃ c, a.getLast? = some c ∧ isDelimiter c = true) ∨
      ∃ c, b.head? = some c ∧ isDelimiter c = true := by
  obtain ⟨last, atEnd⟩ := Option.ne_none_iff_exists'.mp fun gone =>
    some_a (List.getLast?_eq_none_iff.mp gone)
  obtain ⟨first, atStart⟩ := Option.ne_none_iff_exists'.mp fun gone =>
    some_b (List.head?_eq_none_iff.mp gone)
  simp [Delimited, atEnd, atStart]

theorem extendRun_append (c : Char) {ts : List Token} (us : List Token) (h : ts ≠ []) :
    extendRun c (ts ++ us) = extendRun c ts ++ us := by
  cases ts with
  | nil => exact absurd rfl h
  | cons t ts =>
      simp only [List.cons_append, extendRun]
      split <;> rfl

theorem flatten_extendRun (c : Char) (ts : List Token) :
    (extendRun c ts).flatten = c :: ts.flatten := by
  cases ts with
  | nil => rfl
  | cons t ts =>
      simp only [extendRun]
      split <;> rfl

end Token

open Token

theorem tokenize_separator (t : Text) :
    tokenize (schemeSeparator ++ t) = schemeSeparator :: tokenize t :=
  rfl

theorem tokenize_cons {c : Char} {t : Text} (h : ¬ schemeSeparator <+: c :: t) :
    tokenize (c :: t) =
      if isDelimiter c then [c] :: tokenize t else extendRun c (tokenize t) := by
  rw [tokenize]
  rintro rest rfl rfl
  exact h ⟨rest, rfl⟩

theorem flatten_tokenize (t : Text) : (tokenize t).flatten = t := by
  induction t using tokenize.induct with
  | case1 => rfl
  | case2 rest ih => exact congrArg (schemeSeparator ++ ·) ih
  | case3 c rest overlap delimiter ih =>
      rw [tokenize_cons (not_separator_front overlap), if_pos delimiter, List.flatten_cons, ih]
      rfl
  | case4 c rest overlap run ih =>
      rw [tokenize_cons (not_separator_front overlap), if_neg run, flatten_extendRun, ih]

theorem mem_of_mem_token {t : Text} {token : Token} (member : token ∈ tokenize t) {c : Char}
    (inside : c ∈ token) : c ∈ t := by
  rw [← flatten_tokenize t]
  exact List.mem_flatten_of_mem member inside

theorem length_le_of_mem_tokenize {t : Text} {token : Token} (member : token ∈ tokenize t) :
    token.length ≤ t.length := by
  have inside := List.sublist_flatten_of_mem member
  rw [flatten_tokenize] at inside
  exact inside.length_le

theorem tokenize_ne_nil {t : Text} (h : t ≠ []) : tokenize t ≠ [] := by
  fun_cases tokenize t with
  | case1 => exact absurd rfl h
  | case2 | case3 => exact List.cons_ne_nil _ _
  | case4 c rest =>
      cases tokenize rest with
      | nil => exact List.cons_ne_nil _ _
      | cons u us =>
          simp only [extendRun]
          split <;> exact List.cons_ne_nil _ _

theorem isRun_head_tokenize {d : Char} {t : Text} (h : isDelimiter d = true) :
    ∃ u us, tokenize (d :: t) = u :: us ∧ isRun u = false := by
  by_cases front : schemeSeparator <+: d :: t
  · obtain ⟨rest, whole⟩ := front
    rw [← whole, tokenize_separator]
    exact ⟨schemeSeparator, tokenize rest, rfl, by decide⟩
  · rw [tokenize_cons front, if_pos h]
    exact ⟨[d], tokenize t, rfl, by simp only [isRun, h, Bool.not_true]⟩

theorem tokenize_delimiter {c : Char} (delimiter : isDelimiter c = true) (other : c ≠ ':')
    (t : Text) : tokenize (c :: t) = [c] :: tokenize t := by
  rw [tokenize_cons (not_separator_front fun _ same => absurd same other), if_pos delimiter]

theorem extendRun_tokenize {c : Char} {b : Text} (hc : isDelimiter c = false)
    (cut : Delimited [c] b) : extendRun c (tokenize b) = [c] :: tokenize b := by
  cases b with
  | nil => rfl
  | cons d b =>
      rcases cut c d rfl rfl with left | right
      · rw [hc] at left
        cases left
      · obtain ⟨u, us, tokens, run⟩ := isRun_head_tokenize (t := b) right
        simp only [tokens, extendRun, run, Bool.false_eq_true, if_false]

/-- The tokens of two texts in a row are those of the one and those of the other, if the cut is at a
delimiter and parts no separator. -/
theorem tokenize_append {a b : Text} (cut : Delimited a b) (whole : ¬ Parted a b) :
    tokenize (a ++ b) = tokenize a ++ tokenize b := by
  induction a using tokenize.induct with
  | case1 => rfl
  | case2 rest ih =>
      have inner := ih cut.tail.tail.tail fun parted => whole (((parted.cons _).cons _).cons _)
      exact congrArg (schemeSeparator :: ·) inner
  | case3 c rest overlap delimiter ih =>
      have inner := ih cut.tail fun parted => whole (parted.cons c)
      have front : ¬ schemeSeparator <+: c :: rest := not_separator_front overlap
      have front' : ¬ schemeSeparator <+: c :: (rest ++ b) :=
        fun separator => front (separator_front c whole separator)
      rw [List.cons_append, tokenize_cons front, tokenize_cons front', if_pos delimiter,
        if_pos delimiter, inner, List.cons_append]
  | case4 c rest overlap run ih =>
      have inner := ih cut.tail fun parted => whole (parted.cons c)
      have front : ¬ schemeSeparator <+: c :: rest := not_separator_front overlap
      have front' : ¬ schemeSeparator <+: c :: (rest ++ b) :=
        fun separator => front (separator_front c whole separator)
      rw [List.cons_append, tokenize_cons front, tokenize_cons front', if_neg run, if_neg run,
        inner]
      cases rest with
      | nil => exact extendRun_tokenize (Bool.eq_false_iff.mpr run) cut
      | cons d rest => exact extendRun_append c _ (tokenize_ne_nil (List.cons_ne_nil d rest))

end FilteringProxy
