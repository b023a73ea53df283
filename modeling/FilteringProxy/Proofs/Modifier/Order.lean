import FilteringProxy.Proofs.Modifier.Listing
import FilteringProxy.Proofs.RuleSet.Verdict

/-! # Modifiers in another order

A list of modifiers is accepted if each of its entries is, and what the entries say is sorted into
groups. So the same entries in another order are accepted or refused together, and give groups that
hold the same in another order. No use of a set can tell such groups apart: conditions are asked for
all or for any of them, and edits commute.
-/

namespace FilteringProxy

open Http (Request Response Exchange)

namespace ModifierSet

/-! ## Groups in another order -/

/-- The groups of the sets hold the same modifiers. -/
structure Reordered (s t : ModifierSet) : Prop where
  required : s.required.Perm t.required
  contents : s.contents.Perm t.contents
  edits : s.edits.Perm t.edits

/-- The sets cannot be told apart: they apply to the same exchanges, edit them in the same way, and
rules with the one set or the other block, cancel and are cancelled alike. -/
structure Interchangeable (s t : ModifierSet) : Prop where
  holdsForRequest (r : Request) : s.holdsForRequest r = t.holdsForRequest r
  holdsForExchange (e : Exchange) : s.holdsForExchange e = t.holdsForExchange e
  onRequest (r : Request) : s.onRequest r = t.onRequest r
  onResponse (r : Response) : s.onResponse r = t.onResponse r
  blocks (rule : Rule) :
    { rule with modifiers := s }.blocks = { rule with modifiers := t }.blocks
  cancels (exception rule : Rule) :
    { exception with modifiers := s }.cancels rule =
      { exception with modifiers := t }.cancels rule
  cancelled (exception rule : Rule) :
    exception.cancels { rule with modifiers := s } =
      exception.cancels { rule with modifiers := t }

namespace Reordered

variable {s t : ModifierSet}

theorem conditions (same : s.Reordered t) : s.conditions.Perm t.conditions :=
  same.required.append same.contents

theorem isEmpty (same : s.Reordered t) : s.isEmpty = t.isEmpty := by
  simp only [ModifierSet.isEmpty, same.required.isEmpty_eq, same.contents.isEmpty_eq,
    same.edits.isEmpty_eq]

theorem holdsWhen (same : s.Reordered t) (holds : Condition → Bool) :
    s.holdsWhen holds = t.holdsWhen holds := by
  simp only [ModifierSet.holdsWhen, same.required.all_eq, same.contents.any_eq,
    same.contents.isEmpty_eq]

theorem onRequest (same : s.Reordered t) (r : Request) : s.onRequest r = t.onRequest r := by
  have edited : (s.onRequest r).1 = (t.onRequest r).1 := by
    rw [fst_onRequest, fst_onRequest]
    exact same.edits.foldl_eq' (fun e _ f _ r => Edit.strip_comm e f r) r
  exact Tells.eq_of_fst (fun reduced => reduced.lighter.ne) (s.onRequest_tells r)
    (t.onRequest_tells r) edited

theorem onResponse (same : s.Reordered t) (r : Response) : s.onResponse r = t.onResponse r := by
  have edited : (s.onResponse r).1 = (t.onResponse r).1 := by
    rw [fst_onResponse, fst_onResponse]
    exact same.edits.foldl_eq' (fun e _ f _ r => Edit.stripResponse_comm e f r) r
  exact Tells.eq_of_fst Lighter.ne (s.onResponse_tells r) (t.onResponse_tells r) edited

theorem interchangeable (same : s.Reordered t) : s.Interchangeable t where
  holdsForRequest r := same.holdsWhen _
  holdsForExchange e := same.holdsWhen _
  onRequest := same.onRequest
  onResponse := same.onResponse
  blocks rule := same.edits.isEmpty_eq
  cancels exception rule := by
    simp only [Rule.cancels, same.isEmpty, same.conditions.any_eq, same.edits.all_eq]
  cancelled exception rule := by
    have contained (e : Edit) : s.edits.contains e = t.edits.contains e :=
      same.edits.contains_eq
    simp only [Rule.cancels, same.conditions.all_eq, funext contained]

end Reordered

/-! ## Entries in another order -/

/-- The text of a list of modifiers. -/
def write (texts : List Text) : Text := Text.join [','] texts

theorem splitOn_write_perm {texts others : List Text} (perm : texts.Perm others) :
    (Text.splitOn ',' (write texts)).Perm (Text.splitOn ',' (write others)) := by
  by_cases empty : texts = []
  · subst empty
    rw [perm.nil_eq]
  · have some_text : others ≠ [] := fun none_left => empty (none_left ▸ perm).eq_nil
    rw [write, write, Text.splitOn_join_eq_flatMap empty, Text.splitOn_join_eq_flatMap some_text]
    exact perm.flatMap_right _

theorem reordered_of_perm {texts others : List Text} (perm : texts.Perm others) {s t : ModifierSet}
    (read : parse (write texts) = .ok s) (read' : parse (write others) = .ok t) :
    s.Reordered t := by
  have entries := splitOn_write_perm perm
  obtain ⟨-, rfl⟩ := parse_eq_ok.mp read
  obtain ⟨-, rfl⟩ := parse_eq_ok.mp read'
  constructor
  · exact (entries.filterMap _).filterMap _
  · exact (entries.filterMap _).filterMap _
  · exact (entries.filterMap _).filterMap _

/-- Lists of the same modifiers in any order are accepted or refused together, and sets that were
read from them cannot be told apart. -/
theorem interchangeable_of_perm {texts others : List Text} (perm : texts.Perm others) :
    ((∃ s, parse (write texts) = .ok s) ↔ ∃ t, parse (write others) = .ok t) ∧
      ∀ s t, parse (write texts) = .ok s → parse (write others) = .ok t →
        s.Interchangeable t := by
  constructor
  · simp only [exists_parse_iff, (splitOn_write_perm perm).mem_iff]
  · intro s t read read'
    exact (reordered_of_perm perm read read').interchangeable

/-- Conditions of both groups and edits of all kinds, from either end. -/
theorem interchangeable_of_perm_reversed :
    let texts : List Text :=
      ["script", "removeparam=a", "~image", "cookie=s", "domain=a.com|b.com", "cookie",
        "removeheader=request:x-a", "all", "3p"]
    ∃ s t, parse (write texts) = .ok s ∧ parse (write texts.reverse) = .ok t ∧ s ≠ t ∧
      s.Interchangeable t := by
  intro texts
  have accepted : (parse (write texts)).toOption.isSome = true := by decide +kernel
  have apart : parse (write texts) ≠ parse (write texts.reverse) := by decide +kernel
  obtain ⟨s, read⟩ := exists_ok accepted
  obtain ⟨together, alike⟩ := interchangeable_of_perm texts.reverse_perm.symm
  obtain ⟨t, read'⟩ := together.mp ⟨s, read⟩
  refine ⟨s, t, read, read', ?_, alike s t read read'⟩
  rintro rfl
  exact apart (read.trans read'.symm)

end ModifierSet

end FilteringProxy
