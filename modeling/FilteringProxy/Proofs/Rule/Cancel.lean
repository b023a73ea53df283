import FilteringProxy.Rule.Basic
import Mathlib.Data.List.Basic

/-! # What an exception cancels

An exception cancels a rule by what both of them say, whatever they hold for. A condition says of
which kind it is, whether it is inverted, and which values it lists; an expression is known by its
source. The order of the values does not matter. Their number does: a condition that repeats a value
says no more than one that lists it once, but the two do not count as the same.
-/

namespace FilteringProxy

namespace EntryList

theorem same_iff [BEq α] [LawfulBEq α] {a b : List α} :
    same a b = true ↔ a.length = b.length ∧ ∀ x, x ∈ a ↔ x ∈ b := by
  simp only [same, Bool.and_eq_true, beq_iff_eq, List.all_eq_true, List.contains_iff_mem,
    and_assoc]
  constructor
  · rintro ⟨length, left, right⟩
    exact ⟨length, fun x => ⟨left x, right x⟩⟩
  · rintro ⟨length, members⟩
    exact ⟨length, fun x => (members x).mp, fun x => (members x).mpr⟩

theorem mem_map_iff_mem_map {f : α → β} (injective : Function.Injective f) {a b : List α} :
    (∀ y, y ∈ a.map f ↔ y ∈ b.map f) ↔ ∀ x, x ∈ a ↔ x ∈ b := by
  constructor
  · intro images x
    have image := images (f x)
    rwa [List.mem_map_of_injective injective, List.mem_map_of_injective injective] at image
  · intro members y
    simp only [List.mem_map, members]

end EntryList

/-! ## What a condition says -/

inductive ConditionKind where
  | domain
  | method
  | content
  | party
  | header
  deriving Repr, DecidableEq

/-- A value that a condition lists. -/
inductive ConditionValue where
  /-- A domain and all domains below it. -/
  | below (domain : Text)
  /-- The text in front of any top-level name. -/
  | anyTop (stem : Text)
  | method (name : Text)
  | content (kind : ContentType)
  /-- The name of a header of the response. -/
  | field (name : Text)
  /-- Any value of that header. -/
  | present
  /-- The one value that the header must have. -/
  | exactly (text : Text)
  /-- An expression, by its source. -/
  | source (text : Text)
  deriving Repr, DecidableEq

def DomainEntry.value : DomainEntry → ConditionValue
  | below domain => .below domain
  | anyTop stem => .anyTop stem
  | pattern r => .source r.source

theorem DomainEntry.value_injective : Function.Injective value := by
  intro a b same
  cases a <;> cases b <;>
    simp only [value, ConditionValue.below.injEq, ConditionValue.anyTop.injEq,
      ConditionValue.source.injEq, reduceCtorEq] at same
  · rw [same]
  · rw [same]
  · rw [RegexLiteral.eq_of_source same]

def ValueCondition.value : ValueCondition → ConditionValue
  | any => .present
  | exactly text => .exactly text
  | pattern r => .source r.source

theorem ValueCondition.value_injective : Function.Injective value := by
  intro a b same
  cases a <;> cases b <;>
    simp only [value, ConditionValue.exactly.injEq, ConditionValue.source.injEq,
      reduceCtorEq] at same
  · rfl
  · rw [same]
  · rw [RegexLiteral.eq_of_source same]

theorem ValueCondition.value_ne_field (c : ValueCondition) (name : Text) :
    c.value ≠ .field name := by
  cases c <;> simp only [value, ne_eq, reduceCtorEq, not_false_eq_true]

namespace Condition

def kind : Condition → ConditionKind
  | domain _ => .domain
  | method _ => .method
  | content _ => .content
  | party _ => .party
  | header _ => .header

def isInverted : Condition → Bool
  | domain c => c.inverted
  | method c => c.inverted
  | content c => c.inverted
  | party c => c.inverted
  | header _ => false

/-- The values of a condition in the order in which it lists them. -/
def values : Condition → List ConditionValue
  | domain c => c.entries.map DomainEntry.value
  | method c => c.methods.map .method
  | content c => [.content c.kind]
  | party _ => []
  | header c => [.field c.name, c.value.value]

/-- The conditions say the same: they are of one kind, both are inverted or none is, and they list
the same set of values. -/
structure Agrees (a b : Condition) : Prop where
  kind : a.kind = b.kind
  inverted : a.isInverted = b.isInverted
  values : ∀ v, v ∈ a.values ↔ v ∈ b.values

theorem Agrees.refl (a : Condition) : a.Agrees a := ⟨rfl, rfl, fun _ => Iff.rfl⟩

theorem same_domain_iff {a b : DomainCondition} :
    a.same b = true ↔ (domain a).Agrees (domain b) ∧ a.entries.length = b.entries.length := by
  simp only [DomainCondition.same, Bool.and_eq_true, beq_iff_eq, EntryList.same_iff]
  constructor
  · rintro ⟨inverted, length, members⟩
    exact ⟨⟨rfl, inverted, (EntryList.mem_map_iff_mem_map DomainEntry.value_injective).mpr members⟩,
      length⟩
  · rintro ⟨agreed, length⟩
    exact ⟨agreed.inverted, length,
      (EntryList.mem_map_iff_mem_map DomainEntry.value_injective).mp agreed.values⟩

theorem same_method_iff {a b : MethodCondition} :
    a.same b = true ↔ (method a).Agrees (method b) ∧ a.methods.length = b.methods.length := by
  have injective : Function.Injective ConditionValue.method :=
    fun _ _ same => ConditionValue.method.inj same
  simp only [MethodCondition.same, Bool.and_eq_true, beq_iff_eq, EntryList.same_iff]
  constructor
  · rintro ⟨inverted, length, members⟩
    exact ⟨⟨rfl, inverted, (EntryList.mem_map_iff_mem_map injective).mpr members⟩, length⟩
  · rintro ⟨agreed, length⟩
    exact ⟨agreed.inverted, length, (EntryList.mem_map_iff_mem_map injective).mp agreed.values⟩

theorem eq_of_agrees_content {a b : ContentCondition} (agreed : (content a).Agrees (content b)) :
    a = b := by
  obtain ⟨kind, inverted⟩ := a
  cases agreed.inverted
  have listed := (agreed.values (.content kind)).mp (List.mem_singleton_self _)
  cases List.mem_singleton.mp listed
  rfl

theorem eq_of_agrees_header {a b : HeaderCondition} (agreed : (header a).Agrees (header b)) :
    a = b := by
  obtain ⟨name, value⟩ := a
  obtain ⟨other, expected⟩ := b
  have name_listed := (agreed.values (.field name)).mp List.mem_cons_self
  have value_listed := (agreed.values value.value).mp
    (List.mem_cons_of_mem _ List.mem_cons_self)
  simp only [values, List.mem_cons, List.not_mem_nil, or_false, ConditionValue.field.injEq,
    (expected.value_ne_field name).symm, value.value_ne_field other, false_or]
    at name_listed value_listed
  rw [name_listed, ValueCondition.value_injective value_listed]

theorem same_iff {a b : Condition} :
    a.same b = true ↔ a.Agrees b ∧ a.values.length = b.values.length := by
  cases a with
  | domain a =>
      cases b with
      | domain b => simp only [same, same_domain_iff, values, List.length_map]
      | _ => exact iff_of_false Bool.false_ne_true fun h => nomatch h.1.kind
  | method a =>
      cases b with
      | method b => simp only [same, same_method_iff, values, List.length_map]
      | _ => exact iff_of_false Bool.false_ne_true fun h => nomatch h.1.kind
  | content a =>
      cases b with
      | content b =>
          simp only [same, beq_iff_eq]
          constructor
          · rintro rfl
            exact ⟨.refl _, rfl⟩
          · exact fun h => eq_of_agrees_content h.1
      | _ => exact iff_of_false Bool.false_ne_true fun h => nomatch h.1.kind
  | party a =>
      cases b with
      | party b =>
          simp only [same, beq_iff_eq]
          constructor
          · rintro rfl
            exact ⟨.refl _, rfl⟩
          · exact fun h => congrArg PartyCondition.mk h.1.inverted
      | _ => exact iff_of_false Bool.false_ne_true fun h => nomatch h.1.kind
  | header a =>
      cases b with
      | header b =>
          simp only [same, beq_iff_eq]
          constructor
          · rintro rfl
            exact ⟨.refl _, rfl⟩
          · exact fun h => eq_of_agrees_header h.1
      | _ => exact iff_of_false Bool.false_ne_true fun h => nomatch h.1.kind

/-- Without repetitions, conditions that agree list equally many values. -/
theorem Agrees.length_eq {a b : Condition} (agreed : a.Agrees b) (left : a.values.Nodup)
    (right : b.values.Nodup) : a.values.length = b.values.length :=
  ((List.perm_ext_iff_of_nodup left right).mpr agreed.values).length_eq

end Condition

theorem ModifierSet.isEmpty_iff (s : ModifierSet) : s.isEmpty = true ↔ s = {} := by
  obtain ⟨required, contents, edits⟩ := s
  simp only [isEmpty, Bool.and_eq_true, List.isEmpty_iff, mk.injEq, and_assoc]

namespace Rule

/-- The exception is meant for the rule: it has no modifiers at all, or it states every condition of
the rule, up to those that count as the same, and the rule makes every edit of the exception. -/
def Covers (same : Condition → Condition → Prop) (exception rule : Rule) : Prop :=
  exception.modifiers = {} ∨
    (∀ theirs ∈ rule.modifiers.conditions, ∃ ours ∈ exception.modifiers.conditions,
      same ours theirs) ∧
    ∀ edit ∈ exception.modifiers.edits, edit ∈ rule.modifiers.edits

theorem cancels_iff_covers_same (exception rule : Rule) :
    exception.cancels rule = true ↔
      exception.Covers (fun ours theirs => ours.same theirs = true) rule := by
  simp only [cancels, Covers, Bool.or_eq_true, Bool.and_eq_true, ModifierSet.isEmpty_iff,
    List.all_eq_true, List.any_eq_true, List.contains_iff_mem]

theorem Covers.congr {same other : Condition → Condition → Prop} {exception rule : Rule}
    (equal : ∀ ours ∈ exception.modifiers.conditions, ∀ theirs ∈ rule.modifiers.conditions,
      (same ours theirs ↔ other ours theirs)) :
    exception.Covers same rule ↔ exception.Covers other rule := by
  refine or_congr_right (and_congr_left fun _ => ?_)
  refine forall₂_congr fun theirs listed => exists_congr fun ours => ?_
  exact and_congr_right fun member => equal ours member theirs listed

/-- An exception cancels a rule exactly if it covers the rule up to conditions that say the same in
equally many values. When no condition of either repeats a value, the number of values does not
matter. -/
theorem cancels_iff_covers (exception rule : Rule) :
    (exception.cancels rule = true ↔
      exception.Covers
        (fun ours theirs => ours.Agrees theirs ∧ ours.values.length = theirs.values.length)
        rule) ∧
    ((∀ c ∈ exception.modifiers.conditions ++ rule.modifiers.conditions, c.values.Nodup) →
      (exception.cancels rule = true ↔ exception.Covers Condition.Agrees rule)) := by
  simp only [cancels_iff_covers_same, Condition.same_iff, true_and]
  intro distinct
  refine Covers.congr fun ours member theirs listed => and_iff_left_of_imp fun agreed => ?_
  exact agreed.length_eq (distinct ours (List.mem_append_left _ member))
    (distinct theirs (List.mem_append_right _ listed))

/-- An exception that says all that a rule says, in another order, and makes one of its edits. -/
theorem cancels_iff_covers_reordered :
    let ours : ModifierSet :=
      { required := [.domain ⟨[.below "b.com", .anyTop "a."], false⟩,
          .method ⟨["POST", "GET"], false⟩],
        contents := [.content ⟨.image, false⟩, .content ⟨.script, false⟩],
        edits := [.cookies (.named "s")] }
    let theirs : ModifierSet :=
      { required := [.method ⟨["GET", "POST"], false⟩,
          .domain ⟨[.anyTop "a.", .below "b.com"], false⟩],
        contents := [.content ⟨.script, false⟩],
        edits := [.parameters .all, .cookies (.named "s")] }
    ModifierSet.parse "image,domain=b.com|a.*,cookie=s,script,method=post|get" = .ok ours ∧
      ModifierSet.parse "method=GET|POST,script,domain=A.*|b.com,removeparam,cookie=s" =
        .ok theirs ∧
      (∀ c ∈ ours.conditions ++ theirs.conditions, c.values.Nodup) ∧
      Covers Condition.Agrees ⟨"@@a.com", "list", ours⟩ ⟨"a.com", "list", theirs⟩ := by
  intro ours theirs
  have distinct : ∀ c ∈ ours.conditions ++ theirs.conditions, c.values.Nodup := by decide
  have cancelled : (⟨"@@a.com", "list", ours⟩ : Rule).cancels ⟨"a.com", "list", theirs⟩ = true := by
    decide
  exact ⟨rfl, rfl, distinct, ((cancels_iff_covers _ _).2 distinct).mp cancelled⟩

/-- A domain that is named twice says no more than the domain named once, but the exception does not
cancel the rule. -/
theorem not_cancels_repeated_domain :
    let ours : ModifierSet :=
      { required := [.domain ⟨[.below "a.com", .below "a.com"], false⟩] }
    let theirs : ModifierSet := { required := [.domain ⟨[.below "a.com"], false⟩] }
    let exception : Rule := ⟨"@@b.com$domain=a.com|a.com", "list", ours⟩
    let rule : Rule := ⟨"b.com$domain=a.com", "list", theirs⟩
    ModifierSet.parse "domain=a.com|a.com" = .ok ours ∧
      ModifierSet.parse "domain=a.com" = .ok theirs ∧
      ¬(exception.cancels rule = true ↔ exception.Covers Condition.Agrees rule) := by
  intro ours theirs exception rule
  have kept : exception.cancels rule = false := by decide
  have agreed : (Condition.domain ⟨[.below "a.com", .below "a.com"], false⟩).Agrees
      (.domain ⟨[.below "a.com"], false⟩) := by
    refine ⟨rfl, rfl, fun v => ?_⟩
    simp only [Condition.values, List.map_cons, List.map_nil, List.mem_cons, List.not_mem_nil,
      or_false, or_self]
  have covered : exception.Covers Condition.Agrees rule := by
    refine Or.inr ⟨fun c listed => ?_, fun e listed => nomatch listed⟩
    cases List.mem_singleton.mp listed
    exact ⟨_, List.mem_singleton_self _, agreed⟩
  refine ⟨rfl, rfl, fun claimed => ?_⟩
  rw [claimed.mpr covered] at kept
  cases kept

end Rule

end FilteringProxy
