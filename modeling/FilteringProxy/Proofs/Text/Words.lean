import FilteringProxy.Proofs.Text.Split

/-! # Words

A blank ends a word whatever stands around it, so that the words of a text are those before the
blank and those after it. Characters that are dropped at the end of a text take nothing else along.
-/

namespace FilteringProxy.Text

/-! ## Runs between blanks -/

theorem runsWithout_ne_nil {p : Char → Bool} {c : Char} (h : p c = false) (t : Text) :
    runsWithout p (c :: t) ≠ [] := by
  cases t with
  | nil => simp [runsWithout, h]
  | cons d t =>
      rw [runsWithout, if_neg (Bool.eq_false_iff.mp h)]
      cases p d with
      | true => exact List.cons_ne_nil _ _
      | false => cases runsWithout p (d :: t) <;> exact List.cons_ne_nil _ _

theorem runsWithout_cons_cons {p : Char → Bool} {a d : Char} (out : p a = false) (t : Text) :
    runsWithout p (a :: d :: t) =
      if p d then [a] :: runsWithout p (d :: t)
      else
        match runsWithout p (d :: t) with
        | [] => [[a]]
        | run :: runs => (a :: run) :: runs := by
  rw [runsWithout]
  exact if_neg (Bool.eq_false_iff.mp out)

theorem runsWithout_append {p : Char → Bool} {c : Char} (h : p c = true) (s t : Text) :
    runsWithout p (s ++ c :: t) = runsWithout p s ++ runsWithout p t := by
  induction s with
  | nil => simp [runsWithout, h]
  | cons a s ih =>
      cases out : p a with
      | true => simpa [runsWithout, out] using ih
      | false =>
          cases s with
          | nil => simp [runsWithout, h, out]
          | cons d s =>
              rw [List.cons_append] at ih
              rw [List.cons_append, List.cons_append, runsWithout_cons_cons out,
                runsWithout_cons_cons out, ih]
              cases next : p d with
              | true => rfl
              | false =>
                  cases runs : runsWithout p (d :: s) with
                  | nil => exact absurd runs (runsWithout_ne_nil next s)
                  | cons run runs => rfl

theorem words_append {c : Char} (h : isBlank c = true) (s t : Text) :
    words (s ++ c :: t) = words s ++ words t :=
  runsWithout_append h s t

theorem words_cons {c : Char} (h : isBlank c = true) (t : Text) : words (c :: t) = words t := by
  simp [words, runsWithout, h]

theorem words_eq_nil {t : Text} : words t = [] ↔ ∀ c ∈ t, isBlank c = true := by
  induction t with
  | nil => simp [words, runsWithout]
  | cons c t ih =>
      cases blank : isBlank c with
      | true => simp [words_cons blank, ih, blank]
      | false => simp [words, runsWithout_ne_nil blank, blank]

theorem words_of_filled {t : Text} (nonempty : t ≠ []) (filled : ∀ c ∈ t, isBlank c = false) :
    words t = [t] := by
  induction t with
  | nil => exact absurd rfl nonempty
  | cons c t ih =>
      rw [List.forall_mem_cons] at filled
      cases t with
      | nil => simp [words, runsWithout, filled.1]
      | cons d t =>
          have next : isBlank d = false := filled.2 d List.mem_cons_self
          rw [words, runsWithout_cons_cons filled.1, next, ← words,
            ih (List.cons_ne_nil d t) filled.2]
          rfl

theorem words_dropWhile (t : Text) : words (t.dropWhile isBlank) = words t := by
  induction t with
  | nil => rfl
  | cons c t ih =>
      cases blank : isBlank c with
      | true => rw [List.dropWhile_cons_of_pos blank, ih, words_cons blank]
      | false => rw [List.dropWhile_cons_of_neg (Bool.eq_false_iff.mp blank)]

/-! ## Blanks at the end -/

theorem dropEnd_append (p : Char → Bool) (t : Text) :
    ∃ tail, t = dropEnd p t ++ tail ∧ ∀ c ∈ tail, p c = true := by
  refine ⟨(t.reverse.takeWhile p).reverse, ?_, ?_⟩
  · rw [dropEnd, ← List.reverse_append, List.takeWhile_append_dropWhile, List.reverse_reverse]
  · intro c member
    exact List.mem_takeWhile_imp (List.mem_reverse.mp member)

/-- What does not see a row of blanks at the end does not see whether they are dropped. -/
theorem apply_dropEnd {β : Type} {p : Char → Bool} {f : Text → β}
    (ends : ∀ t c u, p c = true → (∀ d ∈ u, p d = true) → f (t ++ c :: u) = f t) (t : Text) :
    f (dropEnd p t) = f t := by
  obtain ⟨tail, whole, blank⟩ := dropEnd_append p t
  cases tail with
  | nil => rw [← List.append_nil (dropEnd p t), ← whole]
  | cons c tail =>
      rw [List.forall_mem_cons] at blank
      conv_rhs => rw [whole, ends _ c tail blank.1 blank.2]

theorem words_dropEnd (t : Text) : words (dropEnd isBlank t) = words t := by
  refine apply_dropEnd (fun t c u blank blanks => ?_) t
  rw [words_append blank, words_eq_nil.mpr blanks, List.append_nil]

theorem dropEnd_eq_self {p : Char → Bool} {t : Text} (stay : ∀ c ∈ t, p c = false) :
    dropEnd p t = t := by
  obtain ⟨tail, whole, dropped⟩ := dropEnd_append p t
  cases tail with
  | nil => exact (whole.trans (List.append_nil _)).symm
  | cons c tail =>
      have stays := stay c (by rw [whole]; exact List.mem_append_right _ List.mem_cons_self)
      rw [dropped c List.mem_cons_self] at stays
      contradiction

theorem dropWhile_eq_self {p : Char → Bool} {t : Text} (stay : ∀ c ∈ t, p c = false) :
    t.dropWhile p = t := by
  cases t with
  | nil => rfl
  | cons c t => exact List.dropWhile_cons_of_neg (by simp [stay c List.mem_cons_self])

theorem trimWith_eq_self {p : Char → Bool} {t : Text} (stay : ∀ c ∈ t, p c = false) :
    trimWith p t = t := by
  rw [trimWith, dropWhile_eq_self stay, dropEnd_eq_self stay]

theorem dropEnd_append_left {p : Char → Bool} {s t : Text} (stays : ∃ c ∈ t, p c = false) :
    dropEnd p (s ++ t) = s ++ dropEnd p t := by
  obtain ⟨c, member, stays⟩ := stays
  rw [dropEnd, List.reverse_append, List.dropWhile_append, if_neg, List.reverse_append,
    List.reverse_reverse, ← dropEnd]
  intro empty
  have gone :=
    List.dropWhile_eq_nil_iff.mp (List.isEmpty_iff.mp empty) c (List.mem_reverse.mpr member)
  rw [stays] at gone
  contradiction

theorem dropEnd_dropEnd (p : Char → Bool) (t : Text) : dropEnd p (dropEnd p t) = dropEnd p t :=
  List.rdropWhile_idempotent p t

theorem getLast?_dropEnd {p : Char → Bool} {t : Text} {c : Char}
    (last : (dropEnd p t).getLast? = some c) : p c = false := by
  rw [dropEnd, List.getLast?_reverse] at last
  have kept := List.head?_dropWhile_not p t.reverse
  rwa [last] at kept

/-! ## Separators at the end -/

theorem splitOn_dropEnd (sep : Char) (t : Text) :
    ∃ n, splitOn sep t = splitOn sep (dropEnd (· == sep) t) ++ List.replicate n [] := by
  obtain ⟨tail, whole, dropped⟩ := dropEnd_append (· == sep) t
  have same : tail = List.replicate tail.length sep :=
    List.eq_replicate_of_mem fun c member => beq_iff_eq.mp (dropped c member)
  cases length : tail.length with
  | zero =>
      rw [List.length_eq_zero_iff.mp length, List.append_nil] at whole
      exact ⟨0, by rw [← whole, List.replicate_zero, List.append_nil]⟩
  | succ n =>
      rw [length, List.replicate_succ] at same
      refine ⟨n + 1, ?_⟩
      conv_lhs => rw [whole, same, splitOn_append_cons, splitOn_replicate]

theorem getLast?_splitOn_dropEnd {sep : Char} {t : Text}
    (last : (splitOn sep (dropEnd (· == sep) t)).getLast? = some []) :
    splitOn sep (dropEnd (· == sep) t) = [[]] := by
  obtain ⟨front, parts⟩ := List.getLast?_eq_some_iff.mp last
  cases front with
  | nil => rw [parts, List.nil_append]
  | cons part front =>
      have whole := join_splitOn sep (dropEnd (· == sep) t)
      rw [parts, join_append (List.cons_ne_nil _ _) (List.cons_ne_nil _ _)] at whole
      have ending : (dropEnd (· == sep) t).getLast? = some sep := by
        rw [← whole, join, List.append_nil, List.getLast?_concat]
      have stays := getLast?_dropEnd ending
      simp only [beq_self_eq_true, Bool.true_eq_false] at stays

end FilteringProxy.Text
