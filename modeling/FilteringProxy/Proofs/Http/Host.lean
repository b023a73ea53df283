import FilteringProxy.Proofs.Http.Uri

/-! # Hosts and what is written behind them

A host that is taken from an authority and written with a port or with anything else behind it is
found there again.
-/

namespace FilteringProxy.Http.Uri

theorem not_mem_hostAndPort (authority : Text) : '@' ∉ hostAndPort authority := by
  rw [hostAndPort, List.mem_reverse]
  exact Text.not_mem_upTo '@' authority.reverse

theorem hostAndPort_of_not_mem {t : Text} (plain : '@' ∉ t) : hostAndPort t = t := by
  have whole : t.reverse.takeWhile (· != '@') = t.reverse :=
    Text.upTo_of_not_mem fun member => plain (List.mem_reverse.mp member)
  rw [hostAndPort, whole, List.reverse_reverse]

/-- A host stands in brackets, or it neither begins with one nor has a colon. -/
theorem hostOf_shape (authority : Text) :
    (∃ inner, hostOf authority = '[' :: (inner ++ [']']) ∧ ']' ∉ inner) ∨
      (hostOf authority).head? ≠ some '[' ∧ ':' ∉ hostOf authority := by
  simp only [hostOf]
  split
  · rename_i rest whole
    refine Or.inl ⟨Text.upTo ']' rest, ?_, Text.not_mem_upTo ']' rest⟩
    rw [whole]
    rfl
  · rename_i no_bracket
    refine Or.inr ⟨fun first => ?_, Text.not_mem_upTo ':' _⟩
    obtain ⟨rest, shown⟩ := List.head?_eq_some_iff.mp first
    obtain ⟨behind, whole⟩ := Text.upTo_prefix ':' (hostAndPort authority)
    rw [shown] at whole
    exact no_bracket _ whole.symm

theorem not_mem_hostOf (authority : Text) : '@' ∉ hostOf authority := by
  have plain := not_mem_hostAndPort authority
  simp only [hostOf]
  split
  · rw [List.mem_append, not_or]
    exact ⟨fun member => plain ((List.takeWhile_sublist _).subset member), by decide⟩
  · exact fun member => plain ((List.takeWhile_sublist _).subset member)

theorem mem_of_mem_hostAndPort {authority : Text} {c : Char} (member : c ∈ hostAndPort authority) :
    c ∈ authority := by
  rw [hostAndPort, List.mem_reverse] at member
  exact List.mem_reverse.mp ((List.takeWhile_sublist _).subset member)

theorem mem_of_mem_hostOf {authority : Text} {c : Char} (member : c ∈ hostOf authority) :
    c ∈ authority ∨ c = ']' := by
  have part : hostAndPort authority ⊆ authority := fun c => mem_of_mem_hostAndPort
  simp only [hostOf] at member
  split at member
  · rcases List.mem_append.mp member with member | bracket
    · exact Or.inl (part ((List.takeWhile_sublist _).subset member))
    · exact Or.inr (List.mem_singleton.mp bracket)
  · exact Or.inl (part ((List.takeWhile_sublist _).subset member))

theorem hostOf_append (authority : Text) {behind : Text} (plain : '@' ∉ behind)
    (apart : behind.head? ≠ some '[') :
    hostOf (hostOf authority ++ behind) = hostOf authority ∨
      hostOf (hostOf authority ++ behind) = hostOf authority ++ Text.upTo ':' behind := by
  have whole : hostAndPort (hostOf authority ++ behind) = hostOf authority ++ behind :=
    hostAndPort_of_not_mem (by
      rw [List.mem_append, not_or]
      exact ⟨not_mem_hostOf authority, plain⟩)
  rw [hostOf, whole]
  rcases hostOf_shape authority with ⟨inner, shown, closed⟩ | ⟨no_bracket, no_colon⟩
  · left
    have regroup : '[' :: (inner ++ [']']) ++ behind = '[' :: inner ++ ']' :: behind := by
      rw [List.cons_append, List.append_assoc]
      rfl
    have absent : ']' ∉ '[' :: inner := by
      rw [List.mem_cons, not_or]
      exact ⟨by decide, closed⟩
    rw [shown, regroup]
    change Text.upTo ']' ('[' :: inner ++ ']' :: behind) ++ [']'] = _
    rw [Text.upTo_append absent, Text.upTo, List.takeWhile_cons_of_neg (by decide),
      List.append_nil]
    rfl
  · right
    split
    · rename_i rest bracket
      cases shown : hostOf authority with
      | nil =>
          rw [shown, List.nil_append] at bracket
          rw [bracket] at apart
          exact absurd rfl apart
      | cons c host =>
          rw [shown, List.cons_append, List.cons.injEq] at bracket
          rw [shown, bracket.1] at no_bracket
          exact absurd rfl no_bracket
    · exact Text.upTo_append no_colon behind

theorem hostOf_port (authority : Text) {behind : Text} (plain : '@' ∉ behind)
    (colon : behind = [] ∨ behind.head? = some ':') :
    hostOf (hostOf authority ++ behind) = hostOf authority := by
  have none_before : Text.upTo ':' behind = [] := by
    rcases colon with rfl | colon
    · rfl
    · obtain ⟨rest, rfl⟩ := List.head?_eq_some_iff.mp colon
      rfl
  have apart : behind.head? ≠ some '[' := by
    rcases colon with rfl | colon
    · exact nofun
    · rw [colon]
      decide
  rcases hostOf_append authority plain apart with same | same
  · exact same
  · rw [same, none_before, List.append_nil]

/-! ## Ports -/

/-- The class holds characters of authorities that stand for nothing but themselves. -/
structure IsPlainClass (p : Char → Bool) : Prop where
  good : ∀ c, p c = true → isAuthorityChar c = true
  marks : [':', '[', ']', '@', '%'].any p = false

theorem IsPlainClass.step {p : Char → Bool} (plain : IsPlainClass p) {c : Char} (inside : p c = true)
    (s : AuthorityScan) : s.step c = some s := by
  have apart {d : Char} (mark : d ∈ [':', '[', ']', '@', '%']) : c ≠ d := by
    rintro rfl
    exact List.any_eq_false.mp plain.marks c mark inside
  rw [AuthorityScan.step, if_neg (apart (by decide)), if_neg (apart (by decide)),
    if_neg (apart (by decide)), if_neg (apart (by decide)), if_neg (apart (by decide)),
    if_pos (plain.good c inside)]

/-- The scan does not see a row of plain characters. -/
theorem IsPlainClass.foldlM {p : Char → Bool} (plain : IsPlainClass p) {t : Text}
    (all : t.all p = true) (s : AuthorityScan) : t.foldlM AuthorityScan.step s = some s := by
  induction t with
  | nil => rfl
  | cons c t ih =>
      rw [List.all_cons, Bool.and_eq_true] at all
      rw [List.foldlM_cons, plain.step all.1]
      exact ih all.2

theorem isPlainClass_isDigit : IsPlainClass Char.isDigit where
  good := by
    intro c digit
    simp only [isAuthorityChar, Char.isAlphanum, digit, Bool.or_true, Bool.true_or]
  marks := by decide

theorem colons_step {s s' : AuthorityScan} {c : Char} (other : c ≠ ':')
    (stepped : s.step c = some s') : s'.colons ≤ s.colons := by
  rw [AuthorityScan.step, if_neg other] at stepped
  split at stepped
  · rw [Option.ite_none_left_eq_some, Option.some.injEq] at stepped
    rw [← stepped.2]
  split at stepped
  · rw [Option.ite_none_left_eq_some, Option.some.injEq] at stepped
    rw [← stepped.2]
    exact Nat.zero_le _
  split at stepped
  · cases stepped
    exact Nat.zero_le _
  split at stepped
  · cases stepped
    exact Nat.le_refl _
  · rw [Option.ite_none_right_eq_some, Option.some.injEq] at stepped
    rw [stepped.2]

theorem colons_foldlM {t : Text} {s s' : AuthorityScan} (no_colon : ':' ∉ t)
    (scanned : t.foldlM AuthorityScan.step s = some s') : s'.colons ≤ s.colons := by
  induction t generalizing s with
  | nil =>
      cases scanned
      exact Nat.le_refl _
  | cons c t ih =>
      rw [List.mem_cons, not_or] at no_colon
      rw [List.foldlM_cons] at scanned
      obtain ⟨next, stepped, rest⟩ := Option.bind_eq_some_iff.mp scanned
      exact Nat.le_trans (ih no_colon.2 rest) (colons_step (Ne.symm no_colon.1) stepped)

theorem colons_hostOf {authority : Text} {s : AuthorityScan}
    (scanned : (hostOf authority).foldlM AuthorityScan.step {} = some s) : s.colons = 0 := by
  rcases hostOf_shape authority with ⟨inner, shown, _⟩ | ⟨_, no_colon⟩
  · -- the bracket at the end sets the count to zero
    rw [shown, ← List.cons_append, List.foldlM_append] at scanned
    obtain ⟨before, _, last⟩ := Option.bind_eq_some_iff.mp scanned
    rw [List.foldlM_cons] at last
    obtain ⟨after, stepped, done⟩ := Option.bind_eq_some_iff.mp last
    cases done
    rw [AuthorityScan.step, if_neg (by decide), if_neg (by decide), if_pos rfl,
      Option.ite_none_left_eq_some, Option.some.injEq] at stepped
    rw [← stepped.2]
  · exact Nat.le_zero.mp (colons_foldlM no_colon scanned)

theorem isAuthority_port {authority digits : Text} (good : isAuthority (hostOf authority) = true)
    (all : digits.all Char.isDigit = true) :
    isAuthority (hostOf authority ++ ':' :: digits) = true := by
  unfold isAuthority at good ⊢
  cases scanned : (hostOf authority).foldlM AuthorityScan.step {} with
  | none =>
      rw [scanned] at good
      cases good
  | some s =>
      have opens : s.step ':' = some { s with colons := 1 } := by
        rw [AuthorityScan.step, if_pos rfl, colons_hostOf scanned]
        rfl
      have last : (hostOf authority ++ ':' :: digits).getLast? ≠ some '@' := by
        rw [List.getLast?_append_cons]
        intro at_end
        rcases List.mem_cons.mp (List.mem_of_getLast? at_end) with same | member
        · exact absurd same (by decide)
        · exact not_mem_of_all all (by decide) member
      rw [List.foldlM_append, scanned]
      simp only [Option.bind_eq_bind, Option.bind_some, List.foldlM_cons, opens,
        isPlainClass_isDigit.foldlM all]
      simp only [scanned, Bool.and_eq_true] at good
      simp only [good.1.1.1, good.1.2, bne_iff_ne.mpr last, Bool.and_true]
      rfl

end FilteringProxy.Http.Uri
