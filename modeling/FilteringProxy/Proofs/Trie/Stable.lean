import FilteringProxy.Proofs.Reordering
import FilteringProxy.Proofs.Rule.Line
import FilteringProxy.Proofs.Trie.Visit

/-! # Which orders of lines matter

Two lines meet in a trie when their rules are filed in the same bucket, or when both name the same
host. Lines that do not meet can be added in any order: look-ups find the same rules in the same
order. The rules of one bucket are found in the order in which they were added.
-/

namespace FilteringProxy

namespace Edge

/-- The token that an address has for an edge. -/
def written : Edge → Token
  | separator => ['^']
  | wildcard => ['*']
  | token t => t

theorem written_ofToken (t : Token) : (ofToken t).written = t := by
  simp only [ofToken]
  split
  · rename_i sign
    exact sign.symm
  · split
    · rename_i sign
      exact sign.symm
    · rfl

theorem ofAddress_eq_iff {s t : Text} : ofAddress s = ofAddress t ↔ tokenize s = tokenize t := by
  have injective : Function.Injective ofToken := Function.LeftInverse.injective written_ofToken
  exact (List.map_injective_iff.mpr injective).eq_iff

end Edge

namespace RuleLine

/-- The rules of the lines are filed in one bucket, under the same anchor and the same tokens of the
address, or the lines name a host in common. -/
def Meets : RuleLine → RuleLine → Prop
  | hosts names, hosts others => ∃ name ∈ names, ∃ other ∈ others, name.lower = other.lower
  | pattern anchor address _, pattern anchor' address' _ =>
    anchor = anchor' ∧ tokenize address = tokenize address'
  | _, _ => False

instance : DecidableRel Meets
  | hosts names, hosts others =>
    inferInstanceAs (Decidable (∃ name ∈ names, ∃ other ∈ others, name.lower = other.lower))
  | pattern anchor address _, pattern anchor' address' _ =>
    inferInstanceAs (Decidable (anchor = anchor' ∧ tokenize address = tokenize address'))
  | hosts _, pattern _ _ _ => isFalse not_false
  | pattern _ _ _, hosts _ => isFalse not_false

end RuleLine

namespace Trie

open RuleLine (Meets)

/-- Entries of one place are from lines that meet. -/
theorem meets_of_place {line other : RuleLine} {written written' raw raw' list list' : Text}
    (read : RuleLine.parse written = .ok line) (read' : RuleLine.parse written' = .ok other)
    {e f : Entry} (from_line : e ∈ Entry.ofLine line raw list)
    (from_other : f ∈ Entry.ofLine other raw' list') (same : e.place = f.place) :
    line.Meets other := by
  cases line with
  | hosts names =>
      obtain ⟨name, named, rfl⟩ := List.mem_map.mp from_line
      cases other with
      | hosts others =>
          obtain ⟨name', named', rfl⟩ := List.mem_map.mp from_other
          exact ⟨name, named, name', named', Place.host.inj same⟩
      | pattern anchor address modifiers =>
          cases List.mem_singleton.mp from_other
          cases anchor <;> cases same
  | pattern anchor address modifiers =>
      cases List.mem_singleton.mp from_line
      cases other with
      | hosts others =>
          obtain ⟨name', named', rfl⟩ := List.mem_map.mp from_other
          cases anchor <;> cases same
      | pattern anchor' address' modifiers' =>
          cases List.mem_singleton.mp from_other
          cases anchor with
          | everything =>
              cases anchor' with
              | everything =>
                  obtain rfl := RuleLine.address_of_everything read
                  obtain rfl := RuleLine.address_of_everything read'
                  exact ⟨rfl, rfl⟩
              | _ => cases same
          | address =>
              cases anchor' with
              | address => exact ⟨rfl, Edge.ofAddress_eq_iff.mp (Place.address.inj same)⟩
              | _ => cases same
          | domain =>
              cases anchor' with
              | domain => exact ⟨rfl, Edge.ofAddress_eq_iff.mp (Place.domain.inj same)⟩
              | _ => cases same
          | anywhere =>
              cases anchor' with
              | anywhere => exact ⟨rfl, Edge.ofAddress_eq_iff.mp (Place.anywhere.inj same)⟩
              | _ => cases same

namespace Addition

/-- Both additions are accepted, and their lines meet. -/
def Meets (a b : Addition) : Prop :=
  match RuleLine.parse a.line, RuleLine.parse b.line with
  | .ok line, .ok other => line.Meets other
  | _, _ => False

instance : DecidableRel Meets := fun a b => by
  unfold Meets
  exact match RuleLine.parse a.line, RuleLine.parse b.line with
    | .ok line, .ok other => inferInstanceAs (Decidable (line.Meets other))
    | .error _, _ => isFalse not_false
    | .ok _, .error _ => isFalse not_false

/-- The addition files an entry at the place. -/
def filesAt (p : Place) (a : Addition) : Bool := a.entries.any (·.place = p)

theorem meets_of_filesAt {a b : Addition} {p : Place} (here : a.filesAt p = true)
    (there : b.filesAt p = true) : a.Meets b := by
  obtain ⟨e, member, place⟩ := List.any_eq_true.mp here
  obtain ⟨f, member', place'⟩ := List.any_eq_true.mp there
  have same : e.place = f.place := (of_decide_eq_true place).trans (of_decide_eq_true place').symm
  unfold entries at member member'
  unfold Meets
  cases read : RuleLine.parse a.line with
  | error fault =>
      rw [read] at member
      cases member
  | ok line =>
      cases read' : RuleLine.parse b.line with
      | error fault =>
          rw [read'] at member'
          cases member'
      | ok other =>
          rw [read] at member
          rw [read'] at member'
          exact meets_of_place read read' member member' same

end Addition

theorem filter_entries (p : Place) (additions : List Addition) :
    (additions.flatMap Addition.entries).filter (·.place = p) =
      (additions.filter (Addition.filesAt p)).flatMap fun a => a.entries.filter (·.place = p) := by
  rw [List.filter_flatMap]
  induction additions with
  | nil => rfl
  | cons a additions ih =>
      rw [List.flatMap_cons, ih, List.filter_cons]
      by_cases here : a.filesAt p = true
      · rw [if_pos here, List.flatMap_cons]
      · have nothing : a.entries.filter (·.place = p) = [] :=
          List.filter_eq_nil_iff.mpr (List.any_eq_false.mp (Bool.eq_false_iff.mpr here))
        rw [if_neg here, nothing, List.nil_append]

theorem Entry.filter_current (place : α → Place) (l : List α) (here : Place) :
    (current place l).filter (place · = here) = current place (l.filter (place · = here)) := by
  induction l with
  | nil => rfl
  | cons a later ih =>
      rw [List.filter_cons]
      by_cases at_place : place a = here
      · have replaced : (later.filter (place · = here)).any (place · == place a) =
            later.any (place · == place a) := by
          rw [List.any_filter]
          refine congrArg (List.any later) (funext fun b => ?_)
          by_cases twin : place b = here
          · rw [decide_eq_true twin, Bool.true_and]
          · rw [decide_eq_false twin, Bool.false_and, beq_false_of_ne (at_place ▸ twin)]
        rw [if_pos (decide_eq_true at_place)]
        simp only [current, replaced]
        split
        · exact ih
        · rw [List.filter_cons, if_pos (decide_eq_true at_place), ih]
      · have elsewhere : ¬decide (place a = here) = true := fun h => at_place (of_decide_eq_true h)
        rw [if_neg elsewhere, ← ih, current]
        split
        · rfl
        · exact List.filter_cons_of_neg elsewhere

theorem map_rule_filedAt (entries : List Entry) (p : Place) :
    (filedAt entries p).map (·.1.rule) =
      (Entry.current Entry.place (entries.filter (·.place = p))).map Entry.rule := by
  have plain := Entry.map_current Prod.fst Entry.place entries.zipIdx
  rw [List.zipIdx_map_fst] at plain
  rw [← Entry.filter_current, ← plain, List.filter_map, List.map_map]
  rfl

theorem map_rule_found (entries : List Entry) (bound : Nat) (u : Http.Uri) (accepts : Rule → Bool) :
    (found entries bound u accepts).map (·.1.rule) =
      (firstVisits [] (visits bound u)).flatMap fun p =>
        ((filedAt entries p).map (·.1.rule)).filter accepts := by
  simp only [found, List.map_flatMap, List.filter_map]
  rfl

/-- Two numbered entries that are found one after the other: if they are of one place, they were
filed in this order. -/
theorem pairwise_found (entries : List Entry) (bound : Nat) (u : Http.Uri)
    (accepts : Rule → Bool) :
    (found entries bound u accepts).Pairwise fun e f => e.1.place = f.1.place → e.2 < f.2 := by
  refine List.pairwise_flatMap.mpr ⟨fun p _ => ?_, ?_⟩
  · refine ((pairwise_filedAt entries p).filter _).imp ?_
    intro e f before _
    exact before
  · refine (nodup_firstVisits [] _).1.imp fun apart e here f there same => ?_
    have place := (mem_filedAt (List.mem_of_mem_filter here)).2
    have place' := (mem_filedAt (List.mem_of_mem_filter there)).2
    exact absurd (place.symm.trans (same.trans place')) apart

/-- Look-ups depend on the order of additions only where lines meet, and the rules of one place are
found in the order in which they were filed. -/
theorem lookup_order_stable (additions : List Addition) (r : Http.Request) :
    (∀ others, Reordering Addition.Meets additions others →
      (ofAdditions others).findForRequest r = (ofAdditions additions).findForRequest r) ∧
    ∃ found : List (Entry × Nat),
      (ofAdditions additions).findForRequest r = found.map (·.1.rule) ∧
      (∀ e ∈ found, e ∈ (additions.flatMap Addition.entries).zipIdx) ∧
      found.Pairwise fun e f => e.1.place = f.1.place → e.2 < f.2 := by
  simp only [ofAdditions_eq]
  constructor
  · intro others reordered
    let first := ofEntries (others.flatMap Addition.entries)
    let second := ofEntries (additions.flatMap Addition.entries)
    have deep : first.depth ≤ max first.depth second.depth := Nat.le_max_left ..
    have deep' : second.depth ≤ max first.depth second.depth := Nat.le_max_right ..
    rw [findForRequest, findForRequest, findWhere_eq deep, findWhere_eq deep', map_rule_found,
      map_rule_found]
    refine List.flatMap_congr fun p _ => ?_
    rw [map_rule_filedAt, map_rule_filedAt, filter_entries, filter_entries,
      reordered.filter_eq fun a b => Addition.meets_of_filesAt]
  · refine ⟨_, findWhere_eq (Nat.le_refl _) _ _, fun e member => ?_, pairwise_found ..⟩
    obtain ⟨p, _, filed⟩ := List.mem_flatMap.mp member
    exact (mem_filedAt (List.mem_of_mem_filter filed)).1

/-- A hosts line that is moved in front of a rule, and what a look-up finds. -/
theorem lookup_order_stable_hosts_first :
    let script : Addition := ⟨"||a.com^$method=get", "||a.com^$method=get", "easy"⟩
    let plain : Addition := ⟨"||a.com^", "||a.com^", "easy"⟩
    let hosts : Addition := ⟨"0.0.0.0 a.com b.com", "0.0.0.0 a.com b.com", "hosts"⟩
    let r : Http.Request :=
      { method := "GET", uri := ⟨some "http", "A.com", "/", none⟩, version := .http11,
        headers := {} }
    Reordering Addition.Meets [script, hosts, plain] [hosts, script, plain] ∧
      ((ofAdditions [hosts, script, plain]).findForRequest r).map (·.raw) =
        ["0.0.0.0 a.com b.com", "||a.com^$method=get", "||a.com^"] := by
  intro script plain hosts r
  have apart : ¬script.Meets hosts := by decide +kernel
  have reordered := Reordering.swap apart [plain]
  refine ⟨reordered, ?_⟩
  rw [(lookup_order_stable [script, hosts, plain] r).1 _ reordered]
  decide +kernel

end Trie

end FilteringProxy
