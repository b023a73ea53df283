import FilteringProxy.Proofs.RuleSet.Order

/-! # More lines

A later entry can replace an earlier one of its trie, but only at the same place and with the same
modifiers. So a look-up among more entries finds all the modifiers that it found before. Whether a
request is blocked is a matter of modifiers alone: more rules let no blocked request through, and
more exceptions block none.
-/

namespace FilteringProxy

open Http (Request)

namespace Trie

namespace Entry

theorem key_eq_of_isSingle {e f : Entry} (single : e.place.isSingle = true)
    (same : f.place = e.place) : f.key = e.key := by
  have single' : f.place.isSingle = true := same ▸ single
  rw [key, key, same, key_of_isSingle e single, key_of_isSingle f single']

/-- Whatever was filed, an entry with its place and its modifiers is current. -/
theorem exists_current_key {entries : List Entry} {e : Entry} (member : e ∈ entries) :
    ∃ f ∈ current place entries, f.key = e.key := by
  induction entries generalizing e with
  | nil => cases member
  | cons a later ih =>
      simp only [current]
      rcases List.mem_cons.mp member with rfl | member
      · split
        · rename_i replaced
          obtain ⟨single, other⟩ := Bool.and_eq_true_iff.mp replaced
          obtain ⟨b, inside, same⟩ := List.any_eq_true.mp other
          obtain ⟨f, current, equal⟩ := ih inside
          exact ⟨f, current, equal.trans (key_eq_of_isSingle single (eq_of_beq same))⟩
        · exact ⟨e, List.mem_cons_self, rfl⟩
      · obtain ⟨f, current, equal⟩ := ih member
        split
        · exact ⟨f, current, equal⟩
        · exact ⟨f, List.mem_cons_of_mem a current, equal⟩

end Entry

/-- A look-up finds the modifiers of all entries that the target reaches, replaced ones included. -/
theorem mem_modifiers_findWhere (entries : List Entry) (u : Http.Uri) (holds : ModifierSet → Bool)
    (m : ModifierSet) :
    m ∈ ((ofEntries entries).findWhere u (holds ·.modifiers)).map (·.modifiers) ↔
      holds m = true ∧ ∃ e ∈ entries, e.rule.modifiers = m ∧
        ∃ host, u.host? = some host ∧ e.place.Reached u host.lower := by
  simp only [List.mem_map, mem_findWhere]
  constructor
  · rintro ⟨rule, ⟨accepted, e, current, rfl, target⟩, rfl⟩
    exact ⟨accepted, e, (Entry.current_sublist _ _).subset current, rfl, target⟩
  · rintro ⟨accepted, e, member, rfl, target⟩
    obtain ⟨f, current, same⟩ := Entry.exists_current_key member
    obtain ⟨place, modifiers⟩ := Prod.mk.inj same
    rw [← modifiers] at accepted
    rw [← place] at target
    exact ⟨f.rule, ⟨accepted, f, current, rfl, target⟩, modifiers⟩

theorem modifiers_findWhere_subset {fewer more : List Addition} (sub : fewer ⊆ more)
    (u : Http.Uri) (holds : ModifierSet → Bool) :
    ((ofEntries (fewer.flatMap Addition.entries)).findWhere u (holds ·.modifiers)).map
        (·.modifiers) ⊆
      ((ofEntries (more.flatMap Addition.entries)).findWhere u (holds ·.modifiers)).map
        (·.modifiers) := by
  intro m found
  rw [mem_modifiers_findWhere] at found ⊢
  obtain ⟨accepted, e, member, rest⟩ := found
  obtain ⟨addition, added, entry⟩ := List.mem_flatMap.mp member
  exact ⟨accepted, e, List.mem_flatMap.mpr ⟨addition, sub added, entry⟩, rest⟩

end Trie

namespace RuleSet

/-- The request is blocked. -/
def Blocks (s : RuleSet) (r : Request) : Prop := ∃ rule, (s.onRequest r).2 = .block rule

theorem blocks_iff_mem (s : RuleSet) (r : Request) :
    s.Blocks r ↔ ∃ rule ∈ s.rulesForRequest r, rule.blocks = true := by
  have decided := s.onRequest_decides r
  rw [Blocks]
  cases decision : s.onRequest r with | mk edited verdict =>
    rw [decision] at decided
    cases decided with
    | block found =>
        exact iff_of_true ⟨_, rfl⟩ ⟨_, List.mem_of_find?_eq_some found, List.find?_some found⟩
    | allow none_blocks | modified none_blocks | redirect none_blocks =>
        refine iff_of_false (fun ⟨_, other⟩ => nomatch other) fun ⟨rule, member, blocks⟩ => ?_
        exact List.find?_eq_none.mp none_blocks rule member blocks

/-- A request is blocked by modifiers without edits that no modifiers of an exception cancel. -/
theorem blocks_iff (s : RuleSet) (r : Request) :
    s.Blocks r ↔
      ∃ m ∈ (s.regular.findForRequest r).map (·.modifiers), m.edits = [] ∧
        ∀ x ∈ (s.exceptions.findForRequest r).map (·.modifiers), x.cancels m = false := by
  have survived (rule : Rule) : rule ∈ s.rulesForRequest r ↔
      rule ∈ s.regular.findForRequest r ∧
        ∀ x ∈ s.exceptions.findForRequest r, x.modifiers.cancels rule.modifiers = false := by
    rw [rulesForRequest, survivors, List.mem_filter, Bool.not_eq_true', List.any_eq_false]
    simp only [Bool.not_eq_true]
    rfl
  simp only [blocks_iff_mem, survived, Rule.blocks, List.isEmpty_iff, List.mem_map,
    exists_exists_and_eq_and, forall_exists_index, and_imp, forall_apply_eq_imp_iff₂]
  exact exists_congr fun rule => and_right_comm.trans and_assoc

/-- With more rules and fewer exceptions, a blocked request stays blocked. -/
theorem Blocks.of_subset {lines others : List ListedLine} {r : Request}
    (rules : lines.filterMap ListedLine.regular? ⊆ others.filterMap ListedLine.regular?)
    (exceptions : others.filterMap ListedLine.exception? ⊆ lines.filterMap ListedLine.exception?)
    (blocked : (ofLines lines).Blocks r) : (ofLines others).Blocks r := by
  rw [blocks_iff, ofLines_eq] at blocked ⊢
  obtain ⟨m, found, blocks, uncancelled⟩ := blocked
  refine ⟨m, ?_, blocks, fun x cancelling => uncancelled x ?_⟩
  · exact Trie.modifiers_findWhere_subset rules r.uri (·.holdsForRequest r) found
  · exact Trie.modifiers_findWhere_subset exceptions r.uri (·.holdsForRequest r) cancelling

/-- One more line that is no exception lets no blocked request through, and one more exception
blocks no request, whatever the line says and whether or not it is refused. -/
theorem blocks_mono (lines : List ListedLine) (line : ListedLine) (r : Request) :
    (Text.startsWith line.text "@@" = false →
      (ofLines lines).Blocks r → (ofLines (lines ++ [line])).Blocks r) ∧
    (Text.startsWith line.text "@@" = true →
      ¬(ofLines lines).Blocks r → ¬(ofLines (lines ++ [line])).Blocks r) := by
  have kept (read : ListedLine → Option Trie.Addition) :
      lines.filterMap read ⊆ (lines ++ [line]).filterMap read := by
    rw [List.filterMap_append]
    exact List.subset_append_left _ _
  have unchanged {read : ListedLine → Option Trie.Addition} (nothing : read line = none) :
      (lines ++ [line]).filterMap read ⊆ lines.filterMap read := by
    rw [List.filterMap_append, List.filterMap_cons_none nothing, List.filterMap_nil,
      List.append_nil]
    exact List.Subset.refl _
  constructor
  · intro regular
    have no_exception : line.exception? = none := by
      rw [ListedLine.exception?, Option.not_isSome_iff_eq_none.mp (Bool.eq_false_iff.mp regular)]
      rfl
    exact Blocks.of_subset (kept _) (unchanged no_exception)
  · intro exception unblocked blocked
    obtain ⟨rest, behind⟩ := Option.isSome_iff_exists.mp exception
    have no_rule : line.regular? = none := by
      rw [ListedLine.regular?, behind]
    exact unblocked (blocked.of_subset (unchanged no_rule) (kept _))

/-- A hosts line that replaces the one by which a request is blocked, and an exception for the same
host that replaces the one by which a request is let through. -/
theorem blocks_mono_hosts :
    let r : Request :=
      { method := "GET", uri := ⟨some "http", "a.com", "/", none⟩, version := .http11,
        headers := {} }
    let blocking : List ListedLine := [⟨"0.0.0.0 a.com", "first"⟩]
    let excepting : List ListedLine := [⟨"||a.com^", "first"⟩, ⟨"@@0.0.0.0 a.com", "first"⟩]
    let hosts : ListedLine := ⟨"127.0.0.1 A.com b.com # again", "second"⟩
    let exception : ListedLine := ⟨"@@127.0.0.1 A.com", "second"⟩
    (ofLines (blocking ++ [hosts])).Blocks r ∧ ¬(ofLines (excepting ++ [exception])).Blocks r := by
  intro r blocking excepting hosts exception
  have verdicts : ((ofLines blocking).onRequest r).2 = .block ⟨"0.0.0.0 a.com", "first", {}⟩ ∧
      ((ofLines excepting).onRequest r).2 = .allow := by decide +kernel
  have unblocked : ¬(ofLines excepting).Blocks r := by
    rintro ⟨rule, verdict⟩
    rw [verdicts.2] at verdict
    cases verdict
  exact ⟨(blocks_mono blocking hosts r).1 rfl ⟨_, verdicts.1⟩,
    (blocks_mono excepting exception r).2 rfl unblocked⟩

end RuleSet

end FilteringProxy
