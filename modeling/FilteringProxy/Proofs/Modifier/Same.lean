import FilteringProxy.Proofs.Modifier.Context
import FilteringProxy.Proofs.Modifier.Order
import FilteringProxy.Proofs.Rule.Cancel

/-! # Modifiers that count as the same

An exception cancels a rule when their modifiers count as the same, so what counts as the same must
do the same. Conditions may list their entries in another order and repeat other ones of them, edits
must be equal, and an expression is known by its source.
-/

namespace FilteringProxy

open Http (Request Response Exchange)

theorem EntryList.any_eq_of_same [BEq α] [LawfulBEq α] {a b : List α} (alike : same a b = true)
    (p : α → Bool) : a.any p = b.any p := by
  obtain ⟨-, members⟩ := same_iff.mp alike
  rw [Bool.eq_iff_iff, List.any_eq_true, List.any_eq_true]
  simp only [members]

/-! ## Conditions -/

namespace Condition

variable {a b c : Condition}

theorem Agrees.symm (agreed : a.Agrees b) : b.Agrees a where
  kind := agreed.kind.symm
  inverted := agreed.inverted.symm
  values v := (agreed.values v).symm

theorem Agrees.trans (first : a.Agrees b) (second : b.Agrees c) : a.Agrees c where
  kind := first.kind.trans second.kind
  inverted := first.inverted.trans second.inverted
  values v := (first.values v).trans (second.values v)

theorem same_equivalence : Equivalence fun a b : Condition => a.same b = true where
  refl a := same_iff.mpr ⟨.refl a, rfl⟩
  symm alike := by
    obtain ⟨agreed, length⟩ := same_iff.mp alike
    exact same_iff.mpr ⟨agreed.symm, length.symm⟩
  trans alike alike' := by
    obtain ⟨agreed, length⟩ := same_iff.mp alike
    obtain ⟨agreed', length'⟩ := same_iff.mp alike'
    exact same_iff.mpr ⟨agreed.trans agreed', length.trans length'⟩

/-- How conditions can count as the same: only lists of entries need not be equal. -/
inductive Listed : Condition → Condition → Prop
  | domain {entries entries' : List DomainEntry} {inverted : Bool}
      (alike : EntryList.same entries entries' = true) :
      Listed (.domain ⟨entries, inverted⟩) (.domain ⟨entries', inverted⟩)
  | method {methods methods' : List Text} {inverted : Bool}
      (alike : EntryList.same methods methods' = true) :
      Listed (.method ⟨methods, inverted⟩) (.method ⟨methods', inverted⟩)
  | equal (c : Condition) : Listed c c

theorem listed_of_same (alike : a.same b = true) : a.Listed b := by
  cases a with
  | domain a =>
      cases b with
      | domain b =>
          obtain ⟨entries, inverted⟩ := a
          obtain ⟨entries', inverted'⟩ := b
          simp only [same, DomainCondition.same, Bool.and_eq_true, beq_iff_eq] at alike
          obtain ⟨rfl, entries⟩ := alike
          exact .domain entries
      | method | content | party | header => cases alike
  | method a =>
      cases b with
      | method b =>
          obtain ⟨methods, inverted⟩ := a
          obtain ⟨methods', inverted'⟩ := b
          simp only [same, MethodCondition.same, Bool.and_eq_true, beq_iff_eq] at alike
          obtain ⟨rfl, methods⟩ := alike
          exact .method methods
      | domain | content | party | header => cases alike
  | content a =>
      cases b with
      | content b =>
          cases eq_of_beq alike
          exact .equal _
      | domain | method | party | header => cases alike
  | party a =>
      cases b with
      | party b =>
          cases eq_of_beq alike
          exact .equal _
      | domain | method | content | header => cases alike
  | header a =>
      cases b with
      | header b =>
          cases eq_of_beq alike
          exact .equal _
      | domain | method | content | party => cases alike

theorem holdsForRequest_of_same (alike : a.same b = true) (r : Request) :
    a.holdsForRequest r = b.holdsForRequest r := by
  cases listed_of_same alike with
  | domain entries =>
      simp only [holdsForRequest, DomainCondition.holds, EntryList.any_eq_of_same entries]
  | method methods =>
      simp only [holdsForRequest, MethodCondition.holds, EntryList.any_eq_of_same methods]
  | equal => rfl

theorem holdsForExchange_of_same (alike : a.same b = true) (e : Exchange) :
    a.holdsForExchange e = b.holdsForExchange e := by
  have request := holdsForRequest_of_same alike e.request
  cases listed_of_same alike with
  | domain | method => exact request
  | equal => rfl

/-- A condition may be put in the place of one that counts as the same. -/
theorem same_congr_left (alike : a.same b = true) (c : Condition) : a.same c = b.same c := by
  rw [Bool.eq_iff_iff]
  constructor
  · exact same_equivalence.trans (same_equivalence.symm alike)
  · exact same_equivalence.trans alike

theorem same_congr_right (alike : a.same b = true) (c : Condition) : c.same a = c.same b := by
  rw [Bool.eq_iff_iff]
  constructor
  · intro with_a
    exact same_equivalence.trans with_a alike
  · intro with_b
    exact same_equivalence.trans with_b (same_equivalence.symm alike)

end Condition

/-! ## Single modifiers -/

namespace Modifier

/-- No request, response or exchange tells the modifiers apart. -/
inductive Alike : Modifier → Modifier → Prop
  | condition {a b : Condition} (request : ∀ r, a.holdsForRequest r = b.holdsForRequest r)
      (exchange : ∀ e, a.holdsForExchange e = b.holdsForExchange e) :
      Alike (.condition a) (.condition b)
  | edit {a b : Edit} (request : ∀ r, a.onRequest r = b.onRequest r)
      (response : ∀ r, a.onResponse r = b.onResponse r) : Alike (.edit a) (.edit b)

theorem same_equivalence : Equivalence fun a b : Modifier => a.same b = true where
  refl a := by
    cases a with
    | condition a => exact Condition.same_equivalence.refl a
    | edit e => exact beq_self_eq_true e
  symm {a b} alike := by
    cases a with
    | condition a =>
        cases b with
        | condition b => exact Condition.same_equivalence.symm alike
        | edit f => cases alike
    | edit e =>
        cases b with
        | condition b => cases alike
        | edit f =>
            cases eq_of_beq alike
            exact alike
  trans {a b c} alike alike' := by
    cases a with
    | condition a =>
        cases b with
        | condition b =>
            cases c with
            | condition c => exact Condition.same_equivalence.trans alike alike'
            | edit g => cases alike'
        | edit f => cases alike
    | edit e =>
        cases b with
        | condition b => cases alike
        | edit f =>
            cases eq_of_beq alike
            exact alike'

theorem alike_of_same {a b : Modifier} (alike : a.same b = true) : a.Alike b := by
  cases a with
  | condition a =>
      cases b with
      | condition b =>
          exact .condition (Condition.holdsForRequest_of_same alike)
            (Condition.holdsForExchange_of_same alike)
      | edit f => cases alike
  | edit e =>
      cases b with
      | condition b => cases alike
      | edit f =>
          cases eq_of_beq alike
          exact .edit (fun _ => rfl) fun _ => rfl

end Modifier

/-! ## Sets of modifiers -/

namespace ModifierSet

section

variable {same : α → α → Bool}

theorem sameAll_iff_forall₂ {as bs : List α} :
    sameAll same as bs = true ↔ List.Forall₂ (fun a b => same a b = true) as bs := by
  induction as generalizing bs with
  | nil => cases bs <;> simp [sameAll]
  | cons a as ih => cases bs <;> simp [sameAll, ih]

theorem sameAll_equivalence (equivalence : Equivalence fun a b => same a b = true) :
    Equivalence fun as bs => sameAll same as bs = true where
  refl as := by
    rw [sameAll_iff_forall₂, List.forall₂_same]
    exact fun a _ => equivalence.refl a
  symm alike := by
    rw [sameAll_iff_forall₂] at alike ⊢
    exact (alike.imp fun a b => equivalence.symm).flip
  trans {as bs cs} alike alike' := by
    rw [sameAll_iff_forall₂] at alike alike' ⊢
    induction alike generalizing cs with
    | nil => exact alike'
    | cons here _ ih =>
        cases alike' with
        | cons here' later' => exact .cons (equivalence.trans here here') (ih later')

theorem map_eq_of_sameAll {answer : α → β} {as bs : List α} (alike : sameAll same as bs = true)
    (respected : ∀ a b, same a b = true → answer a = answer b) : as.map answer = bs.map answer := by
  induction sameAll_iff_forall₂.mp alike with
  | nil => rfl
  | cons here later ih =>
      rw [List.map_cons, List.map_cons, respected _ _ here, ih (sameAll_iff_forall₂.mpr later)]

end

variable {s t : ModifierSet}

theorem same_iff :
    s.same t = true ↔ sameAll Condition.same s.required t.required = true ∧
      sameAll Condition.same s.contents t.contents = true ∧ s.edits = t.edits := by
  simp [same, and_assoc]

theorem same_equivalence : Equivalence fun s t : ModifierSet => s.same t = true := by
  have conditions := sameAll_equivalence Condition.same_equivalence
  constructor
  · intro s
    exact same_iff.mpr ⟨conditions.refl _, conditions.refl _, rfl⟩
  · intro s t alike
    obtain ⟨required, contents, edits⟩ := same_iff.mp alike
    exact same_iff.mpr ⟨conditions.symm required, conditions.symm contents, edits.symm⟩
  · intro s t u alike alike'
    obtain ⟨required, contents, edits⟩ := same_iff.mp alike
    obtain ⟨required', contents', edits'⟩ := same_iff.mp alike'
    exact same_iff.mpr ⟨conditions.trans required required', conditions.trans contents contents',
      edits.trans edits'⟩

theorem map_required_of_same (alike : s.same t = true) (answer : Condition → β)
    (respected : ∀ a b : Condition, a.same b = true → answer a = answer b) :
    s.required.map answer = t.required.map answer :=
  map_eq_of_sameAll (same_iff.mp alike).1 respected

theorem map_contents_of_same (alike : s.same t = true) (answer : Condition → β)
    (respected : ∀ a b : Condition, a.same b = true → answer a = answer b) :
    s.contents.map answer = t.contents.map answer :=
  map_eq_of_sameAll (same_iff.mp alike).2.1 respected

theorem map_conditions_of_same (alike : s.same t = true) (answer : Condition → β)
    (respected : ∀ a b : Condition, a.same b = true → answer a = answer b) :
    s.conditions.map answer = t.conditions.map answer := by
  simp [conditions, map_required_of_same alike answer respected,
    map_contents_of_same alike answer respected]

theorem holdsWhen_of_same (alike : s.same t = true) {holds : Condition → Bool}
    (respected : ∀ a b : Condition, a.same b = true → holds a = holds b) :
    s.holdsWhen holds = t.holdsWhen holds :=
  holdsWhen_of_map_eq (map_required_of_same alike holds respected)
    (map_contents_of_same alike holds respected)

theorem isEmpty_of_same (alike : s.same t = true) : s.isEmpty = t.isEmpty := by
  have required := congrArg List.isEmpty (map_required_of_same alike (fun _ => ()) fun _ _ _ => rfl)
  have contents := congrArg List.isEmpty (map_contents_of_same alike (fun _ => ()) fun _ _ _ => rfl)
  rw [List.isEmpty_map, List.isEmpty_map] at required contents
  rw [isEmpty, isEmpty, required, contents, (same_iff.mp alike).2.2]

theorem interchangeable_of_same (alike : s.same t = true) : s.Interchangeable t where
  holdsForRequest r := holdsWhen_of_same alike fun _ _ same =>
    Condition.holdsForRequest_of_same same r
  holdsForExchange e := holdsWhen_of_same alike fun _ _ same =>
    Condition.holdsForExchange_of_same same e
  onRequest r := by rw [onRequest, onRequest, (same_iff.mp alike).2.2]
  onResponse r := by rw [onResponse, onResponse, (same_iff.mp alike).2.2]
  blocks rule := by rw [Rule.blocks, Rule.blocks, (same_iff.mp alike).2.2]
  cancels exception rule := by
    have stated (theirs : Condition) :
        s.conditions.any (·.same theirs) = t.conditions.any (·.same theirs) := by
      have answers := map_conditions_of_same alike (·.same theirs) fun _ _ same =>
        Condition.same_congr_left same theirs
      have any := congrArg (List.any · id) answers
      simpa only [List.any_map, Function.id_comp] using any
    simp only [Rule.cancels, isEmpty_of_same alike, stated, (same_iff.mp alike).2.2]
  cancelled exception rule := by
    have answers := map_conditions_of_same alike
      (fun theirs => exception.modifiers.conditions.any (·.same theirs))
      fun _ _ same => by simp only [Condition.same_congr_right same]
    have all := congrArg (List.all · id) answers
    simp only [List.all_map, Function.id_comp] at all
    simp only [Rule.cancels, all, (same_iff.mp alike).2.2]

end ModifierSet

/-- What counts as the same is an equivalence, of single modifiers and of sets, and nothing tells
apart what counts as the same. -/
theorem Modifier.same_sound :
    (Equivalence (fun a b : Modifier => a.same b = true) ∧
      ∀ a b : Modifier, a.same b = true → a.Alike b) ∧
    Equivalence (fun s t : ModifierSet => s.same t = true) ∧
      ∀ s t : ModifierSet, s.same t = true → s.Interchangeable t :=
  ⟨⟨same_equivalence, fun _ _ => alike_of_same⟩,
    ModifierSet.same_equivalence, fun _ _ => ModifierSet.interchangeable_of_same⟩

/-- Lists in another order that repeat other entries, in sets that are not equal. -/
theorem Modifier.same_sound_repeated :
    let first : Condition := .domain ⟨[.below "a.com", .anyTop "b.", .below "a.com"], true⟩
    let second : Condition := .domain ⟨[.anyTop "b.", .below "a.com", .anyTop "b."], true⟩
    let s : ModifierSet :=
      { required := [first, .method ⟨["GET", "POST"], false⟩],
        contents := [.content ⟨.script, false⟩], edits := [.cookies (.named "s")] }
    let t : ModifierSet :=
      { required := [second, .method ⟨["POST", "GET"], false⟩],
        contents := [.content ⟨.script, false⟩], edits := [.cookies (.named "s")] }
    ModifierSet.parse "domain=~a.com|~b.*|~A.com,method=get|post,script,cookie=s" = .ok s ∧
      ModifierSet.parse "cookie=s,script,domain=~B.*|~a.com|~b.*,method=POST|GET" = .ok t ∧
      s ≠ t ∧ (condition first).Alike (.condition second) ∧ s.Interchangeable t := by
  intro first second s t
  obtain ⟨⟨-, modifiers⟩, -, sets⟩ := same_sound
  have apart : s ≠ t := by decide
  have alike : (condition first).same (.condition second) = true := by decide
  have same : s.same t = true := by decide
  exact ⟨rfl, rfl, apart, modifiers _ _ alike, sets s t same⟩

end FilteringProxy
