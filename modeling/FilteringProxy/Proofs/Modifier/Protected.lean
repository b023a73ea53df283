import FilteringProxy.Filter
import FilteringProxy.Proofs.Modifier.Listing
import FilteringProxy.Proofs.Rule.Line
import FilteringProxy.Proofs.Text.Split

/-! # Protected headers in rule texts

A removal knows its header by the name that the text spells, without blanks and in lower case. So
the name of a protected header is refused however it is spelled, and a line with it adds no rule.
-/

namespace FilteringProxy

namespace HeaderRemoval

/-- The name that the value of a removal spells, with or without `request:` in front. -/
def spelledName (value : Text) : Text :=
  (Text.trim ((Text.after? "request:" value).getD value)).lower

/-- Read the name of a header of one side. -/
def ofName (side : Side) (written : Text) : Except RuleError HeaderRemoval :=
  match Http.fieldName? (Text.trim written) with
  | none => .error (.invalidModifier .removeheader .badFieldName)
  | some name =>
    if h : isProtected name = false then .ok { name, side, unprotected := h }
    else .error (.protectedHeader name)

theorem parse_eq (value : Text) :
    parse value = match Text.after? "request:" value with
      | some name => ofName .request name
      | none => ofName .response value := by
  rw [parse]
  cases Text.after? "request:" value with
  | none =>
      simp only [ofName]
      cases Http.fieldName? (Text.trim value) <;> rfl
  | some name =>
      simp only [ofName]
      cases Http.fieldName? (Text.trim name) <;> rfl

theorem name_of_ofName {side : Side} {written : Text} {c : HeaderRemoval}
    (read : ofName side written = .ok c) : c.name = (Text.trim written).lower := by
  rw [ofName] at read
  cases field : Http.fieldName? (Text.trim written) with
  | none =>
      rw [field] at read
      cases read
  | some name =>
      simp only [field] at read
      split at read
      · cases read
        rw [Http.fieldName?, Option.ite_none_right_eq_some, Option.some.injEq] at field
        exact field.2.symm
      · cases read

theorem name_of_parse {value : Text} {c : HeaderRemoval} (read : parse value = .ok c) :
    c.name = spelledName value := by
  rw [parse_eq] at read
  rw [spelledName]
  cases behind : Text.after? "request:" value with
  | none =>
      rw [behind] at read
      exact name_of_ofName read
  | some name =>
      rw [behind] at read
      exact name_of_ofName read

theorem parse_protected {value : Text} (guarded : isProtected (spelledName value) = true) :
    ∃ fault, parse value = .error fault := by
  cases read : parse value with
  | error fault => exact ⟨fault, rfl⟩
  | ok c =>
      have unprotected := c.unprotected
      rw [name_of_parse read, guarded] at unprotected
      cases unprotected

end HeaderRemoval

open HeaderRemoval (spelledName)

namespace Modifier

theorem Written.meaning_removeheader {w : Written} (named : w.name = "removeheader")
    (straight : w.inverted = false) {c : Char} {rest : Text} (value : w.value = some (c :: rest))
    (written : Text) :
    w.meaning written =
      HeaderRemoval.parse (c :: rest) >>= fun c => pure (some (.edit (.header c))) := by
  have other {t : Text} (apart : ("removeheader" : Text) ≠ t) : w.name ≠ t := named ▸ apart
  have party : ¬(w.name = ("third-party" : Text) || w.name = ("3p" : Text)) = true := by
    simp only [other (t := "third-party") (by decide), other (t := "3p") (by decide),
      decide_false, Bool.or_self, Bool.false_eq_true, not_false_eq_true]
  rw [meaning, if_neg (other (by decide)), if_neg (other (by decide)), if_neg party,
    if_neg (other (by decide)), if_neg (other (by decide)), if_pos named, value, straight]
  rfl

theorem parse_protected {raw value : Text}
    (written : Text.trim raw = ("removeheader=" : Text) ++ value)
    (guarded : isProtected (spelledName value) = true) : ∃ fault, parse raw = .error fault := by
  obtain ⟨fault, refused⟩ := HeaderRemoval.parse_protected guarded
  have apart : Written.ofText (("removeheader=" : Text) ++ value) =
      ⟨false, "removeheader", some value⟩ := rfl
  have nonempty : ("removeheader=" : Text) ++ value ≠ [] := List.cons_ne_nil _ _
  rw [parse, written]
  simp only [if_neg nonempty, apart]
  cases value with
  | nil => exact ⟨_, rfl⟩
  | cons c rest =>
      rw [Written.meaning_removeheader rfl rfl rfl, refused]
      exact ⟨fault, rfl⟩

end Modifier

theorem ModifierSet.parseInto_refused {raws : List Text} {raw : Text} (member : raw ∈ raws)
    (refused : ∃ fault, Modifier.parse raw = .error fault) (s : ModifierSet) :
    ∃ fault, parseInto s raws = .error fault := by
  cases read : parseInto s raws with
  | error fault => exact ⟨fault, rfl⟩
  | ok t =>
      obtain ⟨accepted, -⟩ := parseInto_eq_ok.mp read
      obtain ⟨said, fine⟩ := accepted raw member
      obtain ⟨fault, wrong⟩ := refused
      rw [fine] at wrong
      cases wrong

/-- The rule text of a line: what follows the two signs of an exception, or all of it. -/
def ruleText (line : Text) : Text := (Text.after? "@@" line).getD line

theorem Filter.add_refused (f : Filter) {line : Text} (list : Text)
    (refused : ∃ fault, RuleLine.parse (ruleText line) = .error fault) :
    ∃ fault, f.add line list = .error fault := by
  obtain ⟨fault, wrong⟩ := refused
  refine ⟨fault, ?_⟩
  rw [ruleText] at wrong
  rw [Filter.add, RuleSet.add]
  cases behind : Text.after? "@@" line with
  | none =>
      rw [behind, Option.getD_none] at wrong
      simp only [Trie.add, wrong]
      rfl
  | some text =>
      rw [behind, Option.getD_some] at wrong
      simp only [Trie.add, wrong]
      rfl

end FilteringProxy
