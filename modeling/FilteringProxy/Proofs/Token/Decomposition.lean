import FilteringProxy.Proofs.Token.Cut
import Mathlib.Data.List.Chain

/-! # Which row of tokens a text is cut into

Of all ways to write a text as a row of delimiters and of runs without one, exactly one takes every
sign between scheme and host as a whole and has no two runs side by side. So a row of tokens can be
checked without cutting the text, and two texts can be cut apart from each other exactly where the
rows of both make such a row again.
-/

namespace FilteringProxy

namespace Token

/-- No character of the token is a delimiter. -/
def IsPlain (t : Token) : Prop := ∀ c ∈ t, isDelimiter c = false

/-- Delimiters and runs without one, no two runs side by side. -/
structure IsRow (ts : List Token) : Prop where
  nonempty : ∀ t ∈ ts, t ≠ []
  kinds : ∀ t ∈ ts, t = schemeSeparator ∨ (∃ c, isDelimiter c = true ∧ t = [c]) ∨ IsPlain t
  alternate : ts.IsChain fun t u => ¬(IsPlain t ∧ IsPlain u)

/-- The text is written as a row of tokens. -/
structure Decomposes (s : Text) (ts : List Token) : Prop extends IsRow ts where
  whole : ts.flatten = s
  /-- Wherever the sign between scheme and host stands in the text, it is one of the tokens. -/
  separators : ∀ front behind, s = front ++ schemeSeparator ++ behind →
    ∃ us vs, ts = us ++ schemeSeparator :: vs ∧ us.flatten = front ∧ vs.flatten = behind

variable {s a b : Text} {t : Token} {ts us : List Token} {c : Char}

/-! ## Single tokens -/

theorem isDelimiter_of_mem_separator (member : c ∈ schemeSeparator) : isDelimiter c = true := by
  have table : schemeSeparator.all isDelimiter := by decide
  exact List.all_eq_true.mp table c member

theorem not_separator_front_of_run (run : isDelimiter c = false) (t : Text) :
    ¬schemeSeparator <+: c :: t := by
  rintro ⟨rest, whole⟩
  cases whole
  cases run

theorem isRun_of_isPlain (plain : IsPlain t) (nonempty : t ≠ []) : isRun t = true := by
  cases t with
  | nil => exact absurd rfl nonempty
  | cons c t => simp [isRun, plain c List.mem_cons_self]

theorem IsRow.delimiters (row : IsRow ts) (member : t ∈ ts) (mixed : ¬IsPlain t) :
    ∀ c ∈ t, isDelimiter c = true := by
  intro c inside
  rcases row.kinds t member with rfl | ⟨e, delimiter, rfl⟩ | plain
  · exact isDelimiter_of_mem_separator inside
  · rwa [List.mem_singleton.mp inside]
  · exact absurd plain mixed

theorem IsRow.isPlain_of_mem (row : IsRow ts) (member : t ∈ ts) (inside : c ∈ t)
    (run : isDelimiter c = false) : IsPlain t := by
  by_contra mixed
  rw [row.delimiters member mixed c inside] at run
  cases run

theorem tokenize_of_isPlain (plain : IsPlain t) (nonempty : t ≠ []) : tokenize t = [t] := by
  induction t with
  | nil => exact absurd rfl nonempty
  | cons c t ih =>
      obtain ⟨run, rest⟩ := List.forall_mem_cons.mp plain
      rw [tokenize_cons (not_separator_front_of_run run t), run, if_neg Bool.false_ne_true]
      by_cases last : t = []
      · rw [last]
        rfl
      · rw [ih rest last, extendRun, if_pos (isRun_of_isPlain rest last)]

theorem tokenize_singleton (delimiter : isDelimiter c = true) : tokenize [c] = [[c]] := by
  rw [tokenize_cons, if_pos delimiter]
  · rfl
  · intro front
    have short : 3 ≤ 1 := front.length_le
    omega

theorem IsRow.tokenize_token (row : IsRow ts) (member : t ∈ ts) : tokenize t = [t] := by
  rcases row.kinds t member with rfl | ⟨c, delimiter, rfl⟩ | plain
  · rfl
  · exact tokenize_singleton delimiter
  · exact tokenize_of_isPlain plain (row.nonempty t member)

/-! ## Only one row -/

theorem IsRow.tail (row : IsRow (t :: ts)) : IsRow ts where
  nonempty := fun u member => row.nonempty u (List.mem_cons_of_mem t member)
  kinds := fun u member => row.kinds u (List.mem_cons_of_mem t member)
  alternate := (List.isChain_cons.mp row.alternate).2

theorem Decomposes.tail (d : Decomposes s (t :: ts)) : Decomposes ts.flatten ts where
  toIsRow := d.toIsRow.tail
  whole := rfl
  separators := by
    intro front behind whole
    have longer : s = (t ++ front) ++ schemeSeparator ++ behind := by
      rw [← d.whole, List.flatten_cons, whole]
      simp
    obtain ⟨us, vs, row, before, after⟩ := d.separators _ _ longer
    cases us with
    | nil =>
        have empty : t ++ front = [] := before.symm
        exact absurd (List.append_eq_nil_iff.mp empty).1 (d.nonempty t List.mem_cons_self)
    | cons u us =>
        obtain ⟨rfl, rest⟩ := List.cons.inj row
        exact ⟨us, vs, rest, List.append_cancel_left before, after⟩

theorem Decomposes.delimited (d : Decomposes s (ts ++ us)) : Delimited ts.flatten us.flatten := by
  intro last first atEnd atStart
  by_contra runs
  rw [not_or, Bool.not_eq_true, Bool.not_eq_true] at runs
  obtain ⟨front, t, rfl, inside⟩ : ∃ front t, ts = front ++ [t] ∧ last ∈ t := by
    rcases List.eq_nil_or_concat ts with rfl | ⟨front, t, rfl⟩
    · cases atEnd
    · have some_char : t ≠ [] := d.nonempty t (by simp)
      refine ⟨front, t, by simp, List.mem_of_getLast? ?_⟩
      simpa [List.getLast?_append_of_ne_nil _ some_char] using atEnd
  obtain ⟨u, behind, rfl, inside'⟩ : ∃ u behind, us = u :: behind ∧ first ∈ u := by
    cases us with
    | nil => cases atStart
    | cons u behind =>
        have some_char : u ≠ [] := d.nonempty u (by simp)
        refine ⟨u, behind, rfl, List.mem_of_mem_head? ?_⟩
        simpa [List.head?_append_of_ne_nil _ some_char] using atStart
  refine (List.isChain_append.mp d.alternate).2.2 t (by simp) u (by simp) ⟨?_, ?_⟩
  · exact d.isPlain_of_mem (by simp) inside runs.1
  · exact d.isPlain_of_mem (by simp) inside' runs.2

theorem Decomposes.not_parted (d : Decomposes s (ts ++ us)) : ¬Parted ts.flatten us.flatten := by
  rw [parted_iff, ← List.flatten_append, d.whole]
  rintro ⟨front, behind, whole, begins, ends⟩
  obtain ⟨before, after, row, rfl, -⟩ := d.separators front behind whole
  rcases List.append_eq_append_iff.mp row with ⟨more, rfl, -⟩ | ⟨more, rfl, rest⟩
  · rw [List.flatten_append, List.length_append] at begins
    omega
  · cases more with
    | nil =>
        rw [List.append_nil] at begins
        omega
    | cons u more =>
        obtain ⟨rfl, -⟩ := List.cons.inj rest
        rw [List.flatten_append, List.flatten_cons, List.length_append, List.length_append] at ends
        omega

theorem Decomposes.eq_tokenize (d : Decomposes s ts) : ts = tokenize s := by
  induction ts generalizing s with
  | nil =>
      rw [← d.whole]
      rfl
  | cons t ts ih =>
      have first : Decomposes s ([t] ++ ts) := d
      have cut := tokenize_append first.delimited first.not_parted
      rw [List.flatten_singleton, d.tokenize_token List.mem_cons_self, ← ih d.tail] at cut
      rw [← d.whole, List.flatten_cons, cut, List.singleton_append]

/-! ## The row of a text -/

theorem IsRow.cons (row : IsRow ts) (nonempty : t ≠ [])
    (kind : t = schemeSeparator ∨ (∃ c, isDelimiter c = true ∧ t = [c]) ∨ IsPlain t)
    (apart : ∀ u ∈ ts.head?, IsPlain t → ¬IsPlain u) : IsRow (t :: ts) where
  nonempty := List.forall_mem_cons.mpr ⟨nonempty, row.nonempty⟩
  kinds := List.forall_mem_cons.mpr ⟨kind, row.kinds⟩
  alternate := List.isChain_cons.mpr
    ⟨fun u first both => apart u first both.1 both.2, row.alternate⟩

theorem isPlain_cons (run : isDelimiter c = false) (plain : IsPlain t) : IsPlain (c :: t) :=
  List.forall_mem_cons.mpr ⟨run, plain⟩

/-- A row stays one when a character that is no delimiter is put before it. -/
theorem IsRow.extendRun (row : IsRow ts) (run : isDelimiter c = false) :
    IsRow (extendRun c ts) := by
  have single : IsPlain [c] := isPlain_cons run nofun
  cases ts with
  | nil => exact row.cons (List.cons_ne_nil c []) (Or.inr (Or.inr single)) nofun
  | cons t ts =>
      have member : t ∈ t :: ts := List.mem_cons_self
      rw [Token.extendRun]
      split
      · rename_i first
        have plain : IsPlain t := by
          by_contra mixed
          cases t with
          | nil => cases first
          | cons d t =>
              rw [isRun, row.delimiters member mixed d List.mem_cons_self] at first
              cases first
        refine row.tail.cons (List.cons_ne_nil c t) (Or.inr (Or.inr (isPlain_cons run plain))) ?_
        intro u next _ plain'
        exact (List.isChain_cons.mp row.alternate).1 u next ⟨plain, plain'⟩
      · rename_i first
        refine row.cons (List.cons_ne_nil c []) (Or.inr (Or.inr single)) ?_
        rintro u ⟨⟩ _ plain
        exact first (isRun_of_isPlain plain (row.nonempty t member))

theorem not_isPlain_of_mem (member : c ∈ t) (delimiter : isDelimiter c = true) : ¬IsPlain t := by
  intro plain
  rw [plain c member] at delimiter
  cases delimiter

theorem isRow_tokenize (s : Text) : IsRow (tokenize s) := by
  induction s using tokenize.induct with
  | case1 => exact ⟨List.forall_mem_nil _, List.forall_mem_nil _, .nil⟩
  | case2 rest ih =>
      refine ih.cons (List.cons_ne_nil _ _) (Or.inl rfl) fun u _ plain => ?_
      exact absurd plain (not_isPlain_of_mem List.mem_cons_self (by decide : isDelimiter ':' = true))
  | case3 c rest overlap delimiter ih =>
      rw [tokenize_cons (not_separator_front overlap), if_pos delimiter]
      refine ih.cons (List.cons_ne_nil _ _) (Or.inr (Or.inl ⟨c, delimiter, rfl⟩)) fun u _ plain => ?_
      exact absurd plain (not_isPlain_of_mem List.mem_cons_self delimiter)
  | case4 c rest overlap run ih =>
      rw [tokenize_cons (not_separator_front overlap), if_neg run]
      exact ih.extendRun (Bool.eq_false_iff.mpr run)

theorem tokenize_around_separator (front behind : Text) :
    tokenize (front ++ schemeSeparator ++ behind) =
      tokenize front ++ schemeSeparator :: tokenize behind := by
  have cut : Delimited front (schemeSeparator ++ behind) := by
    intro last first _ atStart
    cases atStart
    exact Or.inr (by decide)
  have whole : ¬Parted front (schemeSeparator ++ behind) := by
    rintro ⟨x, y, some_x, some_y, separator, -, start⟩
    cases x with
    | nil => exact some_x rfl
    | cons c x =>
        cases y with
        | nil => exact some_y rfl
        | cons d y =>
            obtain ⟨rfl, -⟩ := List.cons_prefix_cons.mp start
            injection separator with _ rest
            have inside : ':' ∈ (['/', '/'] : Text) := by
              rw [← rest]
              simp
            exact absurd inside (by decide)
  rw [List.append_assoc, tokenize_append cut whole, tokenize_separator]

/-- A delimiter behind a run is cut off on both sides, unless a separator begins with it. -/
theorem tokenize_around_delimiter (plain : IsPlain t) (delimiter : isDelimiter c = true)
    (single : ¬schemeSeparator <+: c :: s) :
    tokenize (t ++ c :: s) = tokenize t ++ [c] :: tokenize s := by
  have no_colon : ':' ∉ t := fun member => absurd (plain ':' member) (by decide)
  rw [tokenize_append (delimited_of_front rfl delimiter) (not_parted (Or.inl no_colon)),
    tokenize_cons single, if_pos delimiter]

theorem decomposes_tokenize (s : Text) : Decomposes s (tokenize s) where
  toIsRow := isRow_tokenize s
  whole := flatten_tokenize s
  separators := by
    rintro front behind rfl
    exact ⟨_, _, tokenize_around_separator front behind, flatten_tokenize front,
      flatten_tokenize behind⟩

theorem decomposes_iff : Decomposes s ts ↔ ts = tokenize s := by
  constructor
  · exact Decomposes.eq_tokenize
  · rintro rfl
    exact decomposes_tokenize s

theorem tokenize_append_iff_cut :
    tokenize (a ++ b) = tokenize a ++ tokenize b ↔ Delimited a b ∧ ¬Parted a b := by
  constructor
  · intro same
    have d : Decomposes (a ++ b) (tokenize a ++ tokenize b) := decomposes_iff.mpr same.symm
    have delimited := d.delimited
    have not_parted := d.not_parted
    rw [flatten_tokenize, flatten_tokenize] at delimited not_parted
    exact ⟨delimited, not_parted⟩
  · rintro ⟨delimited, not_parted⟩
    exact tokenize_append delimited not_parted

end Token

end FilteringProxy
