import FilteringProxy.Proofs.Trie.Filing
import Mathlib.Data.List.Perm.Basic
import Mathlib.Data.List.Nodup

/-! # What a look-up finds

A look-up finds the rules of all places that the target reaches, each of them once. So what it finds
is, up to order, what remains when the entries of the trie are gone through one by one.
-/

namespace FilteringProxy

open Http (Request Exchange Uri)

namespace Trie

/-- The tokens of a target that addresses are compared with; the host is given in lower case. -/
def targetTokens (u : Uri) (host : Text) : List Token :=
  tokenize (lookupText (u.scheme.getD "http") host (u.pathAndQuery?.getD "/"))

/-- The rows of tokens that begin where a label of the host does, from the token with number `i` on,
after `before`, when the host has `count` tokens. -/
def labelRows (count : Nat) : Nat → Option Token → List Token → List (List Token)
  | _, _, [] => []
  | i, before, token :: rest =>
    (if beginsLabel count i before then [token :: rest] else []) ++
      labelRows count (i + 1) (some token) rest

/-- The target reaches the place: what is filed there applies to it. -/
def Place.Reached (u : Uri) (host : Text) : Place → Prop
  | .host name => name = host
  | .everything => True
  | .address path => Node.Matches true path (targetTokens u host)
  | .domain path =>
    ∃ row ∈ labelRows (tokenize host).length 0 none (targetTokens u host),
      Node.Matches false path row
  | .anywhere path =>
    ∃ row, row ≠ [] ∧ row <:+ targetTokens u host ∧ Node.Matches false path row

/-! ## All candidates -/

theorem mem_walkFrom (t : Trie) (count i : Nat) (before : Option Token) (tokens : List Token)
    (s : Stored) :
    s ∈ t.walkFrom count i before tokens ↔
      (∃ row ∈ labelRows count i before tokens, s ∈ t.domain.walk false row) ∨
        ∃ row, row ≠ [] ∧ row <:+ tokens ∧ s ∈ t.anywhere.walk false row := by
  induction tokens generalizing i before with
  | nil =>
      simp only [walkFrom, labelRows, List.not_mem_nil, false_and, exists_false, false_or,
        false_iff, List.suffix_nil]
      rintro ⟨row, nonempty, empty, _⟩
      exact nonempty empty
  | cons token rest ih =>
      simp only [walkFrom, labelRows, List.mem_append, ih, List.suffix_cons_iff, or_and_right,
        exists_or]
      constructor
      · rintro ((label | here) | later | later)
        · split at label
          · rename_i begins
            refine Or.inl (Or.inl ⟨token :: rest, ?_, label⟩)
            rw [if_pos begins]
            exact List.mem_singleton_self _
          · cases label
        · exact Or.inr ⟨token :: rest, List.cons_ne_nil _ _, Or.inl ⟨rfl, here⟩⟩
        · exact Or.inl (Or.inr later)
        · obtain ⟨row, nonempty, suffix, found⟩ := later
          exact Or.inr ⟨row, nonempty, Or.inr ⟨suffix, found⟩⟩
      · rintro ((⟨row, label, found⟩ | later) | ⟨row, nonempty, ⟨rfl, found⟩ | ⟨suffix, found⟩⟩)
        · split at label
          · rename_i begins
            cases List.mem_singleton.mp label
            refine Or.inl (Or.inl ?_)
            rw [if_pos begins]
            exact found
          · cases label
        · exact Or.inr (Or.inl later)
        · exact Or.inl (Or.inr found)
        · exact Or.inr (Or.inr ⟨row, nonempty, suffix, found⟩)

/-- The candidates for a target are what the trie holds at the places that it reaches. -/
theorem mem_candidates (t : Trie) (u : Uri) (s : Stored) :
    s ∈ t.candidates u ↔
      ∃ host, u.host? = some host ∧
        ∃ place, Place.Reached u host.lower place ∧ s ∈ t.heldAt place := by
  cases named : u.host? with
  | none => simp only [candidates, named, List.not_mem_nil, reduceCtorEq, false_and, exists_false]
  | some host =>
      simp only [candidates, named, List.mem_append, Node.mem_walk, mem_walkFrom,
        Option.some.injEq, exists_eq_left']
      constructor
      · rintro (((name | all) | ⟨path, found, matched⟩) |
          ⟨row, label, path, found, matched⟩ | ⟨row, nonempty, suffix, path, found, matched⟩)
        · exact ⟨.host host.lower, rfl, name⟩
        · exact ⟨.everything, trivial, all⟩
        · exact ⟨.address path, matched, found⟩
        · exact ⟨.domain path, ⟨row, label, matched⟩, found⟩
        · exact ⟨.anywhere path, ⟨row, nonempty, suffix, matched⟩, found⟩
      · rintro ⟨place, reached, found⟩
        cases place with
        | host name =>
            cases reached
            exact Or.inl (Or.inl (Or.inl found))
        | everything => exact Or.inl (Or.inl (Or.inr found))
        | address path => exact Or.inl (Or.inr ⟨path, found, reached⟩)
        | domain path =>
            obtain ⟨row, label, matched⟩ := reached
            exact Or.inr (Or.inl ⟨row, label, path, found, matched⟩)
        | anywhere path =>
            obtain ⟨row, nonempty, suffix, matched⟩ := reached
            exact Or.inr (Or.inr ⟨row, nonempty, suffix, path, found, matched⟩)

theorem candidates_empty (u : Uri) : ({} : Trie).candidates u = [] := by
  refine List.eq_nil_iff_forall_not_mem.mpr fun s member => ?_
  obtain ⟨_, _, place, _, held⟩ := (mem_candidates {} u s).mp member
  rw [heldAt_empty] at held
  cases held

/-! ## Each rule once -/

theorem mem_of_mem_distinct {seen : List Nat} {l : List Stored} {s : Stored}
    (h : s ∈ distinct seen l) : s ∈ l ∧ s.number ∉ seen := by
  induction l generalizing seen with
  | nil => cases h
  | cons a rest ih =>
      simp only [distinct, List.contains_eq_mem, decide_eq_true_eq] at h
      split at h
      · exact ⟨List.mem_cons_of_mem a (ih h).1, (ih h).2⟩
      · rename_i new
        rcases List.mem_cons.mp h with rfl | later
        · exact ⟨List.mem_cons_self, new⟩
        · exact ⟨List.mem_cons_of_mem a (ih later).1,
            fun old => (ih later).2 (List.mem_cons_of_mem _ old)⟩

theorem nodup_distinct (seen : List Nat) (l : List Stored) :
    ((distinct seen l).map (·.number)).Nodup := by
  induction l generalizing seen with
  | nil => exact List.nodup_nil
  | cons a rest ih =>
      simp only [distinct]
      split
      · exact ih seen
      · refine List.nodup_cons.mpr ⟨fun again => ?_, ih _⟩
        obtain ⟨s, member, same⟩ := List.mem_map.mp again
        exact (mem_of_mem_distinct member).2 (same ▸ List.mem_cons_self)

/-- Nothing is dropped but repetitions, when equal numbers mean the same rule. -/
theorem mem_distinct {seen : List Nat} {l : List Stored} {s : Stored} (member : s ∈ l)
    (new : s.number ∉ seen) (unique : ∀ a ∈ l, a.number = s.number → a = s) :
    s ∈ distinct seen l := by
  induction l generalizing seen with
  | nil => cases member
  | cons a rest ih =>
      have uniqueRest : ∀ b ∈ rest, b.number = s.number → b = s :=
        fun b hb => unique b (List.mem_cons_of_mem a hb)
      simp only [distinct, List.contains_eq_mem, decide_eq_true_eq]
      by_cases same : a.number = s.number
      · cases unique a List.mem_cons_self same
        rw [if_neg new]
        exact List.mem_cons_self
      · have later : s ∈ rest := by
          rcases List.mem_cons.mp member with rfl | later
          · exact absurd rfl same
          · exact later
        split
        · exact ih later new uniqueRest
        · refine List.mem_cons_of_mem a (ih later ?_ uniqueRest)
          intro old
          rcases List.mem_cons.mp old with equal | old
          · exact same equal.symm
          · exact new old

/-! ## The look-up as a scan -/

theorem unique_number {entries : List Entry} {e f : Entry × Nat} (he : e ∈ entries.zipIdx)
    (hf : f ∈ entries.zipIdx) (same : e.2 = f.2) : e = f := by
  have first : entries[e.2]? = some e.1 := List.mem_zipIdx_iff_getElem?.mp he
  have second : entries[f.2]? = some f.1 := List.mem_zipIdx_iff_getElem?.mp hf
  rw [← same, first] at second
  exact Prod.ext (Option.some.inj second) same

theorem nodup_stored {entries : List Entry} {l : List (Entry × Nat)}
    (sub : l.Sublist entries.zipIdx) : (l.map storedOf).Nodup := by
  have distinct : entries.zipIdx.Nodup := by
    refine List.Nodup.of_map Prod.snd ?_
    rw [List.zipIdx_map_snd]
    exact List.nodup_range'
  refine (distinct.sublist sub).map_on fun e he f hf same => ?_
  exact unique_number (sub.subset he) (sub.subset hf) (congrArg Stored.number same)

/-- Up to order, a look-up finds the rules of the current entries that the target reaches and that
accept the exchange. -/
theorem findWhere_perm (entries : List Entry) (u : Uri) (accepts : Rule → Bool)
    (reached : Entry → Bool)
    (meaning : ∀ e, reached e = true ↔ ∃ host, u.host? = some host ∧ e.place.Reached u host.lower) :
    ((ofEntries entries).findWhere u accepts).Perm
      (((Entry.current Entry.place entries).filter fun e => reached e && accepts e.rule).map
        Entry.rule) := by
  let numbered := Entry.current (·.1.place) entries.zipIdx
  have sub : numbered.Sublist entries.zipIdx := Entry.current_sublist _ _
  let scanned := (numbered.filter fun e => reached e.1 && accepts e.1.rule).map storedOf
  have scan : scanned.map (·.rule) =
      ((Entry.current Entry.place entries).filter fun e => reached e && accepts e.rule).map
        Entry.rule := by
    have forget : numbered.map Prod.fst = Entry.current Entry.place entries := by
      have plain := Entry.map_current Prod.fst Entry.place entries.zipIdx
      rwa [List.zipIdx_map_fst] at plain
    simp only [scanned, ← forget, List.filter_map, List.map_map, Function.comp_def, storedOf]
  have candidate (s : Stored) : s ∈ (ofEntries entries).candidates u ↔
      ∃ e ∈ numbered, reached e.1 = true ∧ storedOf e = s := by
    simp only [mem_candidates, mem_heldAt, meaning]
    constructor
    · rintro ⟨host, named, place, at_place, e, member, rfl, stored⟩
      exact ⟨e, member, ⟨host, named, at_place⟩, stored⟩
    · rintro ⟨e, member, ⟨host, named, at_place⟩, stored⟩
      exact ⟨host, named, e.1.place, at_place, e, member, rfl, stored⟩
  have same (s : Stored) :
      s ∈ distinct [] (((ofEntries entries).candidates u).filter (accepts ·.rule)) ↔
        s ∈ scanned := by
    simp only [scanned, List.mem_map, List.mem_filter, Bool.and_eq_true]
    constructor
    · intro found
      obtain ⟨member, accepted⟩ := List.mem_filter.mp (mem_of_mem_distinct found).1
      obtain ⟨e, current, hit, rfl⟩ := (candidate s).mp member
      exact ⟨e, ⟨current, hit, accepted⟩, rfl⟩
    · rintro ⟨e, ⟨current, hit, accepted⟩, rfl⟩
      refine mem_distinct (List.mem_filter.mpr ⟨(candidate _).mpr ⟨e, current, hit, rfl⟩, accepted⟩)
        List.not_mem_nil fun a ha number => ?_
      obtain ⟨f, other, _, rfl⟩ := (candidate a).mp (List.mem_filter.mp ha).1
      exact congrArg storedOf (unique_number (sub.subset other) (sub.subset current) number)
  have perm := (List.perm_ext_iff_of_nodup (List.Nodup.of_map _ (nodup_distinct _ _))
    (nodup_stored (List.filter_sublist.trans sub))).mpr same
  rw [← scan]
  exact perm.map (·.rule)

theorem mem_findWhere (entries : List Entry) (u : Uri) (accepts : Rule → Bool) (rule : Rule) :
    rule ∈ (ofEntries entries).findWhere u accepts ↔
      accepts rule = true ∧ ∃ e ∈ Entry.current Entry.place entries, e.rule = rule ∧
        ∃ host, u.host? = some host ∧ e.place.Reached u host.lower := by
  classical
  let reached (e : Entry) : Bool := ∃ host, u.host? = some host ∧ e.place.Reached u host.lower
  rw [(findWhere_perm entries u accepts reached fun e => decide_eq_true_iff).mem_iff]
  simp only [List.mem_map, List.mem_filter, Bool.and_eq_true, reached, decide_eq_true_eq]
  constructor
  · rintro ⟨e, ⟨current, target, accepted⟩, rfl⟩
    exact ⟨accepted, e, current, rfl, target⟩
  · rintro ⟨accepted, e, current, rfl, target⟩
    exact ⟨e, ⟨current, target, accepted⟩, rfl⟩

end Trie

end FilteringProxy
