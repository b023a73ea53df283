import FilteringProxy.Modifier.Value
import FilteringProxy.Proofs.Text.Split
import Mathlib.Data.List.Forall2

/-! # Values in writing

A list of entries is cut at the bars that no expression holds, and each entry is read by itself. The
cut takes a slash and a bar for the end of an expression, while an expression may also end with a
slash and a flag.
-/

namespace FilteringProxy

theorem bind_eq_ok {ε α β : Type} {x : Except ε α} {f : α → Except ε β} {b : β} :
    x >>= f = .ok b ↔ ∃ a, x = .ok a ∧ f a = .ok b := by
  cases x with
  | error fault => simp [bind, Except.bind]
  | ok a => simp [bind, Except.bind]

theorem pure_eq_ok {ε α : Type} (a : α) : (pure a : Except ε α) = .ok a := rfl

theorem exists_ok {ε α : Type} {x : Except ε α} (accepted : x.toOption.isSome = true) :
    ∃ a, x = .ok a := by
  cases x with
  | error fault => simp [Except.toOption] at accepted
  | ok a => exact ⟨a, rfl⟩

/-! ## Cutting a list -/

namespace EntryList

theorem foldr_extend (t entry : Text) (entries : List Text) :
    t.foldr extend (entry :: entries) = (t ++ entry) :: entries := by
  induction t with
  | nil => rfl
  | cons c t ih => simp [ih, extend]

theorem exists_splitFrom (place : Place) (t : Text) :
    ∃ entry entries, splitFrom place t = entry :: entries := by
  have extended (c : Char) (l : List Text) : ∃ entry entries, extend c l = entry :: entries := by
    cases l <;> simp [extend]
  fun_cases splitFrom place t <;> simp [extended]

/-- In an expression only a slash is looked at. -/
theorem splitFrom_expression_append {t : Text} (inside : '/' ∉ t) (rest : Text) :
    splitFrom .expression (t ++ rest) = t.foldr extend (splitFrom .expression rest) := by
  induction t with
  | nil => rfl
  | cons c t ih =>
      simp only [List.mem_cons, not_or] at inside
      rw [List.cons_append, splitFrom, ih inside.2, List.foldr_cons]
      intro r slash
      exact absurd slash.symm inside.1

theorem splitFrom_plain_append {t : Text} (inside : '|' ∉ t) (rest : Text) :
    splitFrom .plain (t ++ rest) = t.foldr extend (splitFrom .plain rest) := by
  induction t with
  | nil => rfl
  | cons c t ih =>
      simp only [List.mem_cons, not_or] at inside
      simp [splitFrom, Ne.symm inside.1, ih inside.2]

/-- What is written behind an entry: nothing, or a bar and the rest of the list. -/
def behind : Option Text → Text
  | none => []
  | some rest => '|' :: rest

/-- The entries that are written behind an entry. -/
def entriesBehind : Option Text → List Text
  | none => []
  | some rest => split rest

theorem splitFrom_plain_behind {t : Text} (inside : '|' ∉ t) (rest : Option Text) :
    splitFrom .plain (t ++ behind rest) = t :: entriesBehind rest := by
  rw [splitFrom_plain_append inside]
  cases rest <;> simp [behind, entriesBehind, split, splitFrom, foldr_extend]

theorem splitFrom_inverted_behind {t : Text} (inside : '|' ∉ t) (slash : t.head? ≠ some '/')
    (rest : Option Text) :
    splitFrom .inverted (t ++ behind rest) = t :: entriesBehind rest := by
  rw [← splitFrom_plain_behind inside]
  cases t with
  | nil => cases rest <;> rfl
  | cons c t =>
      have bar : c ≠ '|' := fun same => inside (by simp [same])
      have plain : c ≠ '/' := fun same => slash (by simp [same])
      simp [splitFrom, bar, plain]

/-- An entry with the sign of inversion before it or not. -/
def signed (entry : Bool × Text) : Text := if entry.1 then '~' :: entry.2 else entry.2

theorem signed_append (inverted : Bool) (t rest : Text) :
    signed (inverted, t) ++ rest = signed (inverted, t ++ rest) := by
  cases inverted <;> rfl

theorem inversion_signed {entry : Bool × Text} (unsigned : entry.2.head? ≠ some '~') :
    inversion (signed entry) = entry := by
  obtain ⟨inverted, t⟩ := entry
  cases inverted with
  | true => rfl
  | false =>
      cases t with
      | nil => rfl
      | cons c t =>
          have plain : c ≠ '~' := fun same => unsigned (by simp [same])
          simp [signed, inversion, plain]

/-- The sign of inversion is a part of its entry and does not change where it ends. -/
theorem split_signed {entry : Bool × Text} (unsigned : entry.2.head? ≠ some '~') :
    split (signed entry) =
      (if entry.1 then ['~'] else []).foldr extend (splitFrom .inverted entry.2) := by
  obtain ⟨inverted, t⟩ := entry
  cases inverted with
  | true => simp [signed, split, splitFrom]
  | false =>
      cases t with
      | nil => rfl
      | cons c t =>
          have plain : c ≠ '~' := fun same => unsigned (by simp [same])
          simp [signed, split, splitFrom, plain]

theorem parse_cons {α : Type} {name : ModifierName} {check : Text → Text → Except RuleError Unit}
    {make : Text → Except RuleError α} {seen : Option Bool} {raw : Text} {rest : List Text}
    {inverted : Bool} {values : List α} :
    parse name check make seen (raw :: rest) = .ok (inverted, values) ↔
      check raw (inversion raw).2 = .ok () ∧ seen.getD (inversion raw).1 = (inversion raw).1 ∧
        ∃ value more, make (inversion raw).2 = .ok value ∧
          parse name check make (some (inversion raw).1) rest = .ok (inverted, more) ∧
            values = value :: more := by
  simp only [parse, bind_eq_ok, pure_eq_ok]
  constructor
  · intro read
    obtain ⟨_, checked, read⟩ := read
    split at read
    · obtain ⟨_, thrown, _⟩ := bind_eq_ok.mp read
      cases thrown
    · rename_i agrees
      obtain ⟨value, made, read⟩ := bind_eq_ok.mp read
      obtain ⟨⟨all, more⟩, later, whole⟩ := bind_eq_ok.mp read
      cases whole
      exact ⟨checked, by simpa using agrees, value, more, made, later, rfl⟩
  · intro parts
    obtain ⟨checked, agrees, value, more, made, later, rfl⟩ := parts
    refine ⟨(), checked, ?_⟩
    have same : ¬ (seen.getD (inversion raw).1 != (inversion raw).1) = true := by simp [agrees]
    rw [if_neg same]
    simp [made, later, bind, Except.bind]

/-- An entry with a sign is accepted and read. -/
structure IsRead {α : Type} (check : Text → Text → Except RuleError Unit)
    (make : Text → Except RuleError α) (inverted : Bool) (raw : Text) (value : α) : Prop where
  sign : (inversion raw).1 = inverted
  checked : check raw (inversion raw).2 = .ok ()
  made : make (inversion raw).2 = .ok value

theorem parse_some_eq_ok {α : Type} {name : ModifierName}
    {check : Text → Text → Except RuleError Unit} {make : Text → Except RuleError α}
    {sign inverted : Bool} {raws : List Text} {values : List α} :
    parse name check make (some sign) raws = .ok (inverted, values) ↔
      sign = inverted ∧ List.Forall₂ (IsRead check make inverted) raws values := by
  induction raws generalizing values sign with
  | nil => simp [parse]
  | cons raw raws ih =>
      rw [parse_cons, List.forall₂_cons_left_iff]
      simp only [Option.getD_some, ih]
      constructor
      · intro read
        obtain ⟨checked, rfl, value, more, made, ⟨rfl, later⟩, rfl⟩ := read
        exact ⟨rfl, value, more, ⟨rfl, checked, made⟩, later, rfl⟩
      · intro read
        obtain ⟨rfl, value, more, here, later, rfl⟩ := read
        exact ⟨here.checked, here.sign.symm, value, more, here.made, ⟨here.sign, later⟩, rfl⟩

theorem parse_none_eq_ok {α : Type} {name : ModifierName}
    {check : Text → Text → Except RuleError Unit} {make : Text → Except RuleError α}
    {inverted : Bool} {raws : List Text} {values : List α} (some_entry : raws ≠ []) :
    parse name check make none raws = .ok (inverted, values) ↔
      List.Forall₂ (IsRead check make inverted) raws values := by
  cases raws with
  | nil => exact absurd rfl some_entry
  | cons raw raws =>
      rw [parse_cons, List.forall₂_cons_left_iff]
      simp only [Option.getD_none, parse_some_eq_ok]
      constructor
      · intro read
        obtain ⟨checked, -, value, more, made, ⟨sign, later⟩, rfl⟩ := read
        exact ⟨value, more, ⟨sign, checked, made⟩, later, rfl⟩
      · intro read
        obtain ⟨value, more, here, later, rfl⟩ := read
        exact ⟨here.checked, trivial, value, more, here.made, ⟨here.sign, later⟩, rfl⟩

theorem gather_eq_ok {α γ : Type} {x : Except RuleError (Bool × List α)}
    {gather : List α → Bool → γ} (apart : Function.Injective2 gather) {inverted : Bool}
    {values : List α} :
    (x >>= fun parts => pure (gather parts.2 parts.1)) = .ok (gather values inverted) ↔
      x = .ok (inverted, values) := by
  simp only [bind_eq_ok, pure_eq_ok]
  constructor
  · intro read
    obtain ⟨⟨sign, entries⟩, found, same⟩ := read
    obtain ⟨rfl, rfl⟩ := apart (Except.ok.inj same)
    exact found
  · intro found
    exact ⟨_, found, rfl⟩

end EntryList

/-! ## Expressions in writing -/

namespace RegexLiteral

/-- The flag for either case, in front of the source of an expression. -/
def flag (eitherCase : Bool) : Text := if eitherCase then "(?i)" else []

/-- An expression as a rule writes it. -/
def write (source : Text) (eitherCase : Bool) : Text :=
  '/' :: (source ++ '/' :: if eitherCase then ['i'] else [])

theorem sourceOf?_write {source : Text} (full : source ≠ []) (eitherCase : Bool) :
    sourceOf? (write source eitherCase) = some (flag eitherCase ++ source) := by
  cases source with
  | nil => exact absurd rfl full
  | cons c cs =>
      cases eitherCase with
      | true =>
          have ending : Text.before? "/i" (c :: cs ++ ['/', 'i']) = some (c :: cs) :=
            Text.before?_append (c :: cs) "/i"
          simp only [sourceOf?, write, flag, if_true, ending]
      | false =>
          have unflagged : Text.before? "/i" (c :: cs ++ ['/']) = none := by
            apply Text.before?_eq_none
            intro ending
            obtain ⟨front, whole⟩ := ending
            have last : (c :: cs ++ ['/']).getLast? = some 'i' := by simp [← whole]
            rw [List.getLast?_concat] at last
            cases last
          have ending : Text.before? "/" (c :: cs ++ ['/']) = some (c :: cs) :=
            Text.before?_append (c :: cs) "/"
          simp only [sourceOf?, write, flag, Bool.false_eq_true, if_false, unflagged, ending]

theorem exists_write {value full : Text} (read : sourceOf? value = some full) :
    ∃ source eitherCase, value = write source eitherCase ∧ full = flag eitherCase ++ source := by
  unfold sourceOf? at read
  split at read
  · rename_i inner
    cases flagged : Text.before? "/i" inner with
    | some source =>
        have ending := Text.before?_eq_some flagged
        simp only [flagged] at read
        split at read
        · rename_i same
          cases same
          exact ⟨_, true, by simp [write, ending], (Option.some.inj read).symm⟩
        · cases read
    | none =>
        simp only [flagged] at read
        split at read
        · rename_i plain
          have ending := Text.before?_eq_some plain
          exact ⟨_, false, by simp [write, ending], (Option.some.inj read).symm⟩
        · cases read
  · cases read

theorem compile_eq_ok {source : Text} {r : RegexLiteral} :
    compile source = .ok r ↔ r.source = source := by
  constructor
  · intro compiled
    unfold compile at compiled
    split at compiled
    · cases compiled
      rfl
    · cases compiled
  · intro same
    subst same
    unfold compile
    split
    · exact congrArg Except.ok (eq_of_source rfl)
    · rename_i refused
      simp [r.compiled] at refused

theorem sourceOf?_eq_none {value : Text} (plain : '/' ∉ value) : sourceOf? value = none := by
  cases read : sourceOf? value with
  | none => rfl
  | some full =>
      obtain ⟨source, eitherCase, rfl, -⟩ := exists_write read
      exact absurd List.mem_cons_self plain

theorem behind_write {source t behind : Text} {eitherCase : Bool} (inside : '/' ∉ source)
    (before : '/' ∉ t) (same : write source eitherCase = '/' :: (t ++ '/' :: behind)) :
    behind = if eitherCase then ['i'] else [] := by
  have cut := congrArg (Text.cut? '/') (List.cons.inj same).2
  simp only [Text.cut?_append inside, Text.cut?_append before, Option.some.injEq,
    Prod.mk.injEq] at cut
  exact cut.2.symm

end RegexLiteral

end FilteringProxy
