import FilteringProxy.Proofs.Trie.Lookup

/-! # Entries in another order

A later entry replaces an earlier one only at the name of a host, and the rules of hosts lines have
no modifiers. So the order of the entries decides which line a rule reports, but not which modifiers
a look-up finds.
-/

namespace FilteringProxy

namespace Trie

namespace Entry

/-- The order does not matter for what is current, if nothing is replaced but by its equal. -/
theorem current_perm {place : α → Place} {l m : List α} (perm : l.Perm m)
    (replaced : ∀ a ∈ l, ∀ b ∈ l, (place a).isSingle = true → place a = place b → a = b) :
    (current place l).Perm (current place m) := by
  induction perm with
  | nil => exact .refl _
  | @cons a l m perm ih =>
      have rest := ih fun b hb c hc =>
        replaced b (List.mem_cons_of_mem a hb) c (List.mem_cons_of_mem a hc)
      have same : l.any (place · == place a) = m.any (place · == place a) := perm.any_eq
      simp only [current, same]
      split
      · exact rest
      · exact rest.cons a
  | swap a b l =>
      have skip {x y : α} (apart : ¬((place x).isSingle = true ∧ place x = place y)) :
          ((place x).isSingle && (y :: l).any (place · == place x)) =
            ((place x).isSingle && l.any (place · == place x)) := by
        rw [List.any_cons]
        cases single : (place x).isSingle with
        | false => rfl
        | true => rw [beq_false_of_ne fun same => apart ⟨single, same.symm⟩, Bool.false_or]
      by_cases twins : (place b).isSingle = true ∧ place b = place a
      · have equal := replaced b List.mem_cons_self a (List.mem_cons_of_mem b List.mem_cons_self)
          twins.1 twins.2
        rw [equal]
      · have twins' : ¬((place a).isSingle = true ∧ place a = place b) := fun h =>
          twins ⟨h.2 ▸ h.1, h.2.symm⟩
        have here := skip twins
        have there := skip twins'
        simp only [current] at here there ⊢
        rw [here, there]
        split <;> split
        · exact .refl _
        · exact .refl _
        · exact .refl _
        · exact .swap a b _
  | trans first second ih ih' =>
      exact (ih replaced).trans (ih' fun a ha b hb =>
        replaced a (first.symm.subset ha) b (first.symm.subset hb))

/-- What a look-up can see of an entry: where it is filed and its modifiers. -/
def key (e : Entry) : Place × ModifierSet := (e.place, e.rule.modifiers)

theorem key_of_isSingle (e : Entry) (single : e.place.isSingle = true) : e.rule.modifiers = {} := by
  cases e with
  | host name raw list => rfl
  | pattern anchor address rule => cases anchor <;> cases single

theorem map_key_current_perm {entries others : List Entry} (perm : entries.Perm others) :
    ((current place entries).map key).Perm ((current place others).map key) := by
  have keys (l : List Entry) : (current place l).map key = current Prod.fst (l.map key) :=
    map_current key Prod.fst l
  rw [keys, keys]
  refine current_perm (perm.map key) fun a ha b hb single same => ?_
  obtain ⟨e, _, rfl⟩ := List.mem_map.mp ha
  obtain ⟨f, _, rfl⟩ := List.mem_map.mp hb
  have same_place : e.place = f.place := same
  have single' : f.place.isSingle = true := same_place ▸ single
  refine Prod.ext same ?_
  change e.rule.modifiers = f.rule.modifiers
  rw [key_of_isSingle e single, key_of_isSingle f single']

end Entry

theorem modifiers_findWhere_perm {entries others : List Entry} (perm : entries.Perm others)
    (u : Http.Uri) (holds : ModifierSet → Bool) :
    (((ofEntries entries).findWhere u (holds ·.modifiers)).map (·.modifiers)).Perm
      (((ofEntries others).findWhere u (holds ·.modifiers)).map (·.modifiers)) := by
  classical
  let reached (place : Place) : Bool := ∃ host, u.host? = some host ∧ place.Reached u host.lower
  have found (l : List Entry) := findWhere_perm l u (holds ·.modifiers) (reached ·.place)
    fun e => decide_eq_true_iff
  have keys (l : List Entry) : (((Entry.current Entry.place l).filter fun e =>
      reached e.place && holds e.rule.modifiers).map Entry.rule).map (·.modifiers) =
      (((Entry.current Entry.place l).map Entry.key).filter fun k =>
        reached k.1 && holds k.2).map Prod.snd := by
    simp only [List.map_map, List.filter_map, Function.comp_def, Entry.key]
  have left := (found entries).map (·.modifiers)
  have right := (found others).map (·.modifiers)
  rw [keys] at left right
  exact left.trans ((((Entry.map_key_current_perm perm).filter _).map _).trans right.symm)

end Trie

end FilteringProxy
