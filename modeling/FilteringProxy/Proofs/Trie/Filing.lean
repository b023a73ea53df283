import FilteringProxy.Proofs.Trie.Walk
import FilteringProxy.Trie.Basic
import Mathlib.Data.List.Induction

/-! # What a trie holds

A trie is compared with the row of entries that were filed in it. Each entry has one place, and the
view `Trie.heldAt` tells what is filed at a place: the entries of that place in order, or, for the
name of a host, the last of them. Later modules look at a trie only through this view.
-/

namespace FilteringProxy

namespace Trie

/-- A rule as it is filed in a trie. -/
inductive Entry where
  /-- The rule of a hosts line for one of its names. -/
  | host (name raw list : Text)
  /-- The rule of any other line. -/
  | pattern (anchor : Anchor) (address : Text) (rule : Rule)

/-- A place of a trie. -/
inductive Place where
  | host (name : Text)
  | everything
  | address (path : List Edge)
  | domain (path : List Edge)
  | anywhere (path : List Edge)
  deriving DecidableEq

/-- The place holds one rule only, the last that was filed there. -/
def Place.isSingle : Place → Bool
  | .host _ => true
  | _ => false

namespace Entry

def rule : Entry → Rule
  | host _ raw list => { raw, list }
  | pattern _ _ rule => rule

def place : Entry → Place
  | host name _ _ => .host name.lower
  | pattern .everything _ _ => .everything
  | pattern .address address _ => .address (Edge.ofAddress address)
  | pattern .domain address _ => .domain (Edge.ofAddress address)
  | pattern .anywhere address _ => .anywhere (Edge.ofAddress address)

/-- The entries that no later one replaces. -/
def current (place : α → Place) : List α → List α
  | [] => []
  | a :: later =>
    if (place a).isSingle && later.any (place · == place a) then current place later
    else a :: current place later

theorem current_sublist (place : α → Place) (l : List α) : (current place l).Sublist l := by
  induction l with
  | nil => exact .slnil
  | cons a later ih =>
      simp only [current]
      split
      · exact ih.cons a
      · exact ih.cons_cons a

theorem map_current (f : β → α) (place : α → Place) (l : List β) :
    (current (place ∘ f) l).map f = current place (l.map f) := by
  induction l with
  | nil => rfl
  | cons b later ih =>
      simp only [current, List.map_cons, List.any_map, Function.comp_def, Function.comp_apply]
      split
      · exact ih
      · rw [List.map_cons]
        exact congrArg _ ih

theorem current_concat (place : α → Place) (l : List α) (a : α) :
    current place (l ++ [a]) =
      (current place l).filter (fun b => !((place b).isSingle && place b == place a)) ++ [a] := by
  induction l with
  | nil => simp only [List.nil_append, current, List.any_nil, Bool.and_false, Bool.false_eq_true,
      if_false, List.filter_nil]
  | cons b later ih =>
      simp only [List.cons_append, current, List.any_append, List.any_cons, List.any_nil,
        Bool.or_false, ih]
      cases single : (place b).isSingle with
      | false =>
          simp only [Bool.false_and, Bool.false_eq_true, if_false, List.filter_cons, single,
            Bool.not_false, if_true, List.cons_append]
      | true =>
          cases replaced : later.any (place · == place b) with
          | true => simp only [Bool.true_and, Bool.true_or, if_true]
          | false =>
              by_cases same : place a = place b
              · simp only [same, beq_self_eq_true, Bool.or_true, Bool.and_self, if_true,
                  Bool.and_false, Bool.false_eq_true, if_false, List.filter_cons, single,
                  Bool.not_true]
              · have other : (place a == place b) = false := beq_false_of_ne same
                have other' : (place b == place a) = false := beq_false_of_ne (Ne.symm same)
                simp only [other, Bool.or_self, Bool.and_false, Bool.false_eq_true, if_false,
                  List.filter_cons, other', Bool.not_false, if_true, List.cons_append]

/-- What is current at one place, when an entry is added: the entry joins what was there or replaces
it, or it belongs to another place. -/
theorem filter_current_concat (place : α → Place) (l : List α) (a : α) (here : Place) :
    (current place (l ++ [a])).filter (place · = here) =
      if place a = here then
        (if here.isSingle then [] else (current place l).filter (place · = here)) ++ [a]
      else (current place l).filter (place · = here) := by
  rw [current_concat, List.filter_append, List.filter_filter, List.filter_cons, List.filter_nil]
  by_cases same : place a = here
  · subst same
    rw [if_pos (decide_eq_true rfl), if_pos rfl]
    refine congrArg (· ++ [a]) ?_
    cases single : (place a).isSingle with
    | true =>
        rw [if_pos rfl]
        refine List.filter_eq_nil_iff.mpr fun b _ kept => ?_
        simp only [Bool.and_eq_true, decide_eq_true_eq, Bool.not_eq_true'] at kept
        simp only [kept.1, single, beq_self_eq_true, Bool.and_self, Bool.true_eq_false,
          and_false] at kept
    | false =>
        rw [if_neg Bool.false_ne_true]
        refine List.filter_congr fun b _ => ?_
        by_cases at_place : place b = place a
        · simp only [at_place, single, Bool.false_and, Bool.not_false, Bool.and_true]
        · simp only [at_place, decide_false, Bool.false_and]
  · have elsewhere : ¬decide (place a = here) = true := fun kept => same (of_decide_eq_true kept)
    rw [if_neg elsewhere, if_neg same, List.append_nil]
    refine List.filter_congr fun b _ => ?_
    by_cases at_place : place b = here
    · have other : (place b == place a) = false :=
        beq_false_of_ne fun twin => same (twin.symm.trans at_place)
      simp only [other, Bool.and_false, Bool.not_false, Bool.and_true]
    · simp only [at_place, decide_false, Bool.false_and]

/-- The entries that a line stands for. -/
def ofLine (line : RuleLine) (raw list : Text) : List Entry :=
  match line with
  | .hosts names => names.map (.host · raw list)
  | .pattern anchor address modifiers => [.pattern anchor address { raw, list, modifiers }]

end Entry

def file (t : Trie) : Entry → Trie
  | .host name raw list => t.addHost { raw, list } name
  | .pattern anchor address rule => t.addPattern anchor (Edge.ofAddress address) rule

def ofEntries (entries : List Entry) : Trie := entries.foldl file {}

/-- What is filed at a place. -/
def heldAt (t : Trie) : Place → List Stored
  | .host name => ((t.hosts.find? (·.1 == name)).map (·.2)).toList
  | .everything => t.everything
  | .address path => t.address.valuesAt path
  | .domain path => t.domain.valuesAt path
  | .anywhere path => t.anywhere.valuesAt path

theorem addLine_eq (t : Trie) (line : RuleLine) (raw list : Text) :
    t.addLine line raw list =
      ((Entry.ofLine line raw list).foldl file t, (Entry.ofLine line raw list).length) := by
  cases line with
  | hosts names =>
      simp only [addLine, Entry.ofLine, List.foldl_map, List.length_map]
      rfl
  | pattern anchor address modifiers => rfl

theorem ofEntries_concat (entries : List Entry) (e : Entry) :
    ofEntries (entries ++ [e]) = (ofEntries entries).file e := by
  simp only [ofEntries, List.foldl_append, List.foldl_cons, List.foldl_nil]

theorem next_file (t : Trie) (e : Entry) : (t.file e).next = t.next + 1 := by
  cases e with
  | host => rfl
  | pattern anchor => cases anchor <;> rfl

theorem next_ofEntries (entries : List Entry) : (ofEntries entries).next = entries.length := by
  induction entries using List.reverseRecOn with
  | nil => rfl
  | append_singleton entries e ih =>
      rw [ofEntries_concat, next_file, ih, List.length_append, List.length_singleton]

/-- Filing changes one place: it adds to it, or replaces what a place for one rule holds. -/
theorem heldAt_file (t : Trie) (e : Entry) (place : Place) :
    (t.file e).heldAt place =
      if e.place = place then
        (if place.isSingle then [] else t.heldAt place) ++ [⟨t.next, e.rule⟩]
      else t.heldAt place := by
  cases e with
  | host name raw list =>
      cases place with
      | host other =>
          simp only [file, addHost, heldAt, List.find?_cons, Entry.place, Place.host.injEq,
            Place.isSingle, if_true, List.nil_append, Entry.rule]
          by_cases same : name.lower = other
          · simp only [same, beq_self_eq_true, if_true, Option.map_some, Option.toList_some]
          · simp only [beq_false_of_ne same, same, if_false]
      | everything | address | domain | anywhere => rfl
  | pattern anchor address rule =>
      cases anchor <;> cases place <;>
        simp only [file, addPattern, heldAt, Entry.place, Place.isSingle, Entry.rule,
          Node.valuesAt_insert, Place.address.injEq, Place.domain.injEq, Place.anywhere.injEq,
          reduceCtorEq, if_true, if_false, Bool.false_eq_true, eq_comm]

/-- The stored rule of an entry with its number. -/
def storedOf (numbered : Entry × Nat) : Stored := ⟨numbered.2, numbered.1.rule⟩

theorem heldAt_empty (place : Place) : ({} : Trie).heldAt place = [] := by
  cases place with
  | host | everything => rfl
  | address path | domain path | anywhere path => exact Node.valuesAt_empty path

/-- A trie holds at each place the current entries of that place, in the order of filing and with
the numbers that they have in it. -/
theorem heldAt_ofEntries (entries : List Entry) (place : Place) :
    (ofEntries entries).heldAt place =
      ((Entry.current (·.1.place) entries.zipIdx).filter (·.1.place = place)).map storedOf := by
  induction entries using List.reverseRecOn with
  | nil => exact heldAt_empty place
  | append_singleton entries e ih =>
      rw [ofEntries_concat, heldAt_file, next_ofEntries, List.zipIdx_append, List.zipIdx_singleton,
        Entry.filter_current_concat, Nat.zero_add, ih]
      by_cases here : e.place = place
      · rw [if_pos here, if_pos here, List.map_append]
        cases place.isSingle <;> rfl
      · rw [if_neg here, if_neg here]

theorem mem_heldAt (entries : List Entry) (place : Place) (s : Stored) :
    s ∈ (ofEntries entries).heldAt place ↔
      ∃ e ∈ Entry.current (·.1.place) entries.zipIdx, e.1.place = place ∧ storedOf e = s := by
  simp only [heldAt_ofEntries, List.mem_map, List.mem_filter, decide_eq_true_eq, and_assoc]

/-! ## Lines one after another -/

theorem add_of_refused {line : Text} {fault : RuleError}
    (refused : RuleLine.parse line = .error fault) (t : Trie) (raw list : Text) :
    t.add line raw list = .error fault := by
  rw [add, refused]
  rfl

theorem add_of_parse {line : Text} {read : RuleLine} (parsed : RuleLine.parse line = .ok read)
    (t : Trie) (raw list : Text) : t.add line raw list = .ok (t.addLine read raw list) := by
  rw [add, parsed]
  rfl

/-- A line to be added to a trie, with the text and the list that its rules report. -/
structure Addition where
  line : Text
  raw : Text
  list : Text

/-- The entries that an addition makes; none if the line is refused. -/
def Addition.entries (a : Addition) : List Entry :=
  match RuleLine.parse a.line with
  | .ok line => Entry.ofLine line a.raw a.list
  | .error _ => []

/-- The trie after an addition; a line that is refused changes nothing. -/
def addition (t : Trie) (a : Addition) : Trie :=
  match t.add a.line a.raw a.list with
  | .ok (added, _) => added
  | .error _ => t

/-- The trie after a row of additions. -/
def ofAdditions (additions : List Addition) : Trie := additions.foldl addition {}

theorem addition_eq (t : Trie) (a : Addition) : t.addition a = a.entries.foldl file t := by
  simp only [addition, add, Addition.entries]
  cases RuleLine.parse a.line with
  | error fault => rfl
  | ok line => exact congrArg Prod.fst (addLine_eq t line a.raw a.list)

theorem ofAdditions_eq (additions : List Addition) :
    ofAdditions additions = ofEntries (additions.flatMap Addition.entries) := by
  have step : addition = fun t a => (Addition.entries a).foldl file t := by
    funext t a
    exact addition_eq t a
  rw [ofAdditions, ofEntries, List.foldl_flatMap, step]

end Trie

end FilteringProxy
