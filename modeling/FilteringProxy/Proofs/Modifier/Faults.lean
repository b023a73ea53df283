import FilteringProxy.Proofs.Modifier.Listing

/-! # Faults of modifiers

A chain of readers fails with the fault of the first of them that fails, and a list of modifiers
with the fault of its first modifier that is refused. No modifier has the fault of a line that is no
rule at all.
-/

namespace FilteringProxy

theorem bind_eq_error {ε α β : Type} {x : Except ε α} {f : α → Except ε β} {fault : ε} :
    x >>= f = .error fault ↔ x = .error fault ∨ ∃ a, x = .ok a ∧ f a = .error fault := by
  cases x with
  | error first => simp [bind, Except.bind]
  | ok a => simp [bind, Except.bind]

/-- The reader may fail, but not because the line is no rule. -/
def ReadsModifiers {α : Type} (x : Except RuleError α) : Prop := x ≠ .error .unknownFormat

namespace ReadsModifiers

variable {α β : Type}

theorem ok (a : α) : ReadsModifiers (.ok a : Except RuleError α) := by
  simp [ReadsModifiers]

theorem thrown {fault : RuleError} (other : fault ≠ .unknownFormat) :
    ReadsModifiers (throw fault : Except RuleError α) := by
  intro same
  exact other (Except.error.inj same)

theorem bind {x : Except RuleError α} {f : α → Except RuleError β} (first : ReadsModifiers x)
    (later : ∀ a, ReadsModifiers (f a)) : ReadsModifiers (x >>= f) := by
  intro failed
  rcases bind_eq_error.mp failed with here | ⟨a, -, there⟩
  · exact first here
  · exact later a there

theorem thrown_bind {fault : RuleError} (other : fault ≠ .unknownFormat)
    (f : α → Except RuleError β) : ReadsModifiers (throw fault >>= f) := by
  intro same
  exact other (Except.error.inj same)

end ReadsModifiers

open ReadsModifiers (ok thrown thrown_bind bind)

theorem RegexLiteral.parse_readsModifiers (value : Text) : ReadsModifiers (parse value) := by
  unfold parse
  split
  · unfold compile
    split
    · exact ok _
    · exact thrown (by simp)
  · exact ok _

theorem EntryList.parse_readsModifiers {α : Type} {name : ModifierName}
    {check : Text → Text → Except RuleError Unit} {make : Text → Except RuleError α}
    (checks : ∀ raw entry, ReadsModifiers (check raw entry))
    (makes : ∀ entry, ReadsModifiers (make entry)) (seen : Option Bool) (raws : List Text) :
    ReadsModifiers (parse name check make seen raws) := by
  induction raws generalizing seen with
  | nil => exact ok _
  | cons raw rest ih =>
      rw [parse]
      generalize inversion raw = parts
      apply bind (checks _ _)
      intro _
      dsimp only
      split
      · exact thrown_bind (by simp) _
      · apply bind (makes _)
        intro value
        exact bind (ih _) fun _ => ok _

theorem DomainCondition.parse_readsModifiers (value : Text) : ReadsModifiers (parse value) := by
  refine bind (EntryList.parse_readsModifiers ?_ ?_ _ _) fun _ => ok _
  · intro raw entry
    split
    · exact thrown (by simp)
    · exact ok _
  · intro entry
    apply bind (RegexLiteral.parse_readsModifiers entry)
    intro literal
    cases literal with
    | some r => exact ok _
    | none =>
        dsimp only
        split <;> exact ok _

theorem MethodCondition.parse_readsModifiers (value : Text) : ReadsModifiers (parse value) := by
  refine bind (EntryList.parse_readsModifiers ?_ (fun _ => ok _) _ _) fun _ => ok _
  intro raw entry
  split
  · exact ok _
  · exact thrown (by simp)

theorem HeaderCondition.parse_readsModifiers (written : Text) : ReadsModifiers (parse written) := by
  unfold parse
  split
  split
  · split
    · exact ok _
    · exact thrown (by simp)
    · apply bind (RegexLiteral.parse_readsModifiers _)
      intro literal
      cases literal <;> exact ok _
  · exact thrown (by simp)

theorem ParameterChoice.parse_readsModifiers (value : Option Text) :
    ReadsModifiers (parse value) := by
  unfold parse
  split
  · exact ok _
  · exact ok _
  · dsimp only
    split
    · exact thrown_bind (by simp) _
    · apply bind (RegexLiteral.parse_readsModifiers _)
      intro literal
      cases literal <;> exact ok _

theorem HeaderRemoval.parse_readsModifiers (value : Text) : ReadsModifiers (parse value) := by
  unfold parse
  split
  split
  · split
    · exact ok _
    · exact thrown (by simp)
  · exact thrown (by simp)

theorem CookieChoice.parse_readsModifiers (value : Option Text) : ReadsModifiers (parse value) := by
  unfold parse
  split
  · exact ok _
  · exact ok _
  · apply bind (RegexLiteral.parse_readsModifiers _)
    intro literal
    cases literal with
    | some r => exact ok _
    | none =>
        dsimp only
        split
        · exact thrown_bind (by simp) _
        · exact ok _

namespace Modifier

theorem required_readsModifiers (name : ModifierName) (value : Option Text) :
    ReadsModifiers (required name value) := by
  unfold required
  split
  · exact ok _
  · exact thrown (by simp)

theorem refuseInversion_readsModifiers (name : ModifierName) (inverted : Bool) :
    ReadsModifiers (refuseInversion name inverted) := by
  unfold refuseInversion
  split
  · exact thrown (by simp)
  · exact ok _

theorem refuseValue_readsModifiers (name : ModifierName) (value : Option Text) :
    ReadsModifiers (refuseValue name value) := by
  unfold refuseValue
  split
  · exact thrown (by simp)
  · exact ok _

theorem Written.meaning_readsModifiers (w : Written) (written : Text) :
    ReadsModifiers (w.meaning written) := by
  have plain (name : ModifierName) {f : Unit → Except RuleError (Option Modifier)}
      (later : ∀ u, ReadsModifiers (f u)) :
      ReadsModifiers (refuseInversion name w.inverted >>= f) :=
    bind (refuseInversion_readsModifiers name _) later
  have valued (name : ModifierName) {f : Text → Except RuleError (Option Modifier)}
      (later : ∀ value, ReadsModifiers (f value)) :
      ReadsModifiers (required name w.value >>= f) :=
    bind (required_readsModifiers name _) later
  unfold meaning
  split_ifs with domain method party header removeparam removeheader cookie all
  · refine plain _ fun _ => valued _ fun value => ?_
    exact bind (DomainCondition.parse_readsModifiers value) fun _ => ok _
  · refine plain _ fun _ => valued _ fun value => ?_
    exact bind (MethodCondition.parse_readsModifiers value) fun _ => ok _
  · exact bind (refuseValue_readsModifiers _ _) fun _ => ok _
  · refine plain _ fun _ => valued _ fun value => ?_
    exact bind (HeaderCondition.parse_readsModifiers value) fun _ => ok _
  · refine plain _ fun _ => ?_
    exact bind (ParameterChoice.parse_readsModifiers _) fun _ => ok _
  · refine plain _ fun _ => valued _ fun value => ?_
    exact bind (HeaderRemoval.parse_readsModifiers value) fun _ => ok _
  · refine plain _ fun _ => ?_
    exact bind (CookieChoice.parse_readsModifiers _) fun _ => ok _
  · exact ok _
  · split
    · exact bind (refuseValue_readsModifiers _ _) fun _ => ok _
    · exact thrown (by simp)

theorem parse_readsModifiers (raw : Text) : ReadsModifiers (parse raw) := by
  unfold parse
  dsimp only
  split
  · exact thrown (by simp)
  · exact Written.meaning_readsModifiers _ _

end Modifier

namespace ModifierSet

/-- A list has the fault of the first of its modifiers that is refused. -/
theorem parseInto_eq_error {raws : List Text} {s : ModifierSet} {fault : RuleError} :
    parseInto s raws = .error fault ↔
      ∃ accepted raw rest, raws = accepted ++ raw :: rest ∧
        (∀ good ∈ accepted, ∃ said, Modifier.parse good = .ok said) ∧
          Modifier.parse raw = .error fault := by
  induction raws generalizing s with
  | nil => simp [parseInto]
  | cons first raws ih =>
      cases read : Modifier.parse first with
      | error other =>
          constructor
          · intro failed
            rw [parseInto, read] at failed
            cases failed
            exact ⟨[], first, raws, rfl, by simp, read⟩
          · intro refused
            obtain ⟨accepted, raw, rest, whole, good, failed⟩ := refused
            cases accepted with
            | nil =>
                cases whole
                rw [parseInto, failed]
                rfl
            | cons head accepted =>
                cases whole
                obtain ⟨said, fine⟩ := good _ List.mem_cons_self
                rw [fine] at read
                cases read
      | ok said =>
          have step : parseInto s (first :: raws) = parseInto (said.elim s s.add) raws := by
            rw [parseInto, read]
            cases said <;> rfl
          rw [step, ih]
          constructor
          · intro refused
            obtain ⟨accepted, raw, rest, rfl, good, failed⟩ := refused
            refine ⟨first :: accepted, raw, rest, rfl, ?_, failed⟩
            exact List.forall_mem_cons.mpr ⟨⟨said, read⟩, good⟩
          · intro refused
            obtain ⟨accepted, raw, rest, whole, good, failed⟩ := refused
            cases accepted with
            | nil =>
                cases whole
                rw [failed] at read
                cases read
            | cons head accepted =>
                cases whole
                exact ⟨accepted, raw, rest, rfl, (List.forall_mem_cons.mp good).2, failed⟩

theorem parse_readsModifiers (list : Text) : ReadsModifiers (parse list) := by
  intro failed
  obtain ⟨-, raw, -, -, -, refused⟩ := parseInto_eq_error.mp failed
  exact Modifier.parse_readsModifiers raw refused

end ModifierSet

end FilteringProxy
