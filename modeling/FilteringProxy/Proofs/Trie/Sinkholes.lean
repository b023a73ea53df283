import FilteringProxy.Proofs.RuleSet.Verdict
import FilteringProxy.Proofs.Rule.HostsLine
import FilteringProxy.Proofs.Rule.Line
import FilteringProxy.Proofs.Trie.Lookup

/-! # The names of the machine itself

Hosts files give names to the machine itself, and a list is not to block them. A hosts line leaves
such a name out before the name is put in lower case, so a capital letter keeps it in: it is left
out only as it is usually written, up to what follows `ip6-`.
-/

namespace FilteringProxy

open Http (Request)

/-! ## Letter case of the names -/

theorem Unicode.isWord_toLower (c : Char) :
    Unicode.isWord c.toLower.toNat = Unicode.isWord c.toNat := by
  rcases Text.toLower_cases c with same | ⟨low, high, moved⟩
  · rw [same]
  · have capital : Unicode.isWord c.toNat = true := by
      simp [Unicode.isWord, low, high, show c.toNat < 128 by omega]
    have small : Unicode.isWord (c.toNat + 32) = true := by
      have bounds : c.toNat + 32 < 128 ∧ 97 ≤ c.toNat + 32 ∧ c.toNat + 32 ≤ 122 := by omega
      simp [Unicode.isWord, bounds]
    rw [moved, capital, small]

namespace RuleLine

/-- The names of the machine itself that are listed one by one. -/
def sinkholeNames : List Text :=
  ["0.0.0.0", "broadcasthost", "local", "localhost", "localhost.localdomain"]

theorem isSinkholeName_iff (name : Text) :
    isSinkholeName name = true ↔
      name ∈ sinkholeNames ∨
        ∃ c rest, name = ("ip6-" : Text) ++ c :: rest ∧
          ∀ d ∈ c :: rest, Unicode.isWord d.toNat = true := by
  rw [isSinkholeName, Bool.or_eq_true, List.contains_iff_mem]
  refine or_congr Iff.rfl ?_
  constructor
  · intro word
    cases behind : Text.after? "ip6-" name with
    | none =>
        rw [behind] at word
        contradiction
    | some rest =>
        rw [behind] at word
        cases rest with
        | nil => contradiction
        | cons c rest => exact ⟨c, rest, Text.after?_eq_some behind, List.all_eq_true.mp word⟩
  · rintro ⟨c, rest, rfl, word⟩
    rw [Text.after?_append]
    exact List.all_eq_true.mpr word

theorem lower_of_mem_sinkholeNames {name : Text} (member : name ∈ sinkholeNames) :
    name.lower = name ∧ name.startsWith "ip6-" = false := by
  revert name
  decide

/-- A name of the machine itself is known for one if it has no capital letters, or none before what
follows `ip6-`. -/
theorem isSinkholeName_of_lower {name : Text} (sinkhole : isSinkholeName name.lower = true) :
    isSinkholeName name = true ↔ name.lower = name ∨ name.startsWith "ip6-" = true := by
  constructor
  · intro known
    rcases (isSinkholeName_iff name).mp known with listed | ⟨c, rest, rfl, -⟩
    · exact Or.inl (lower_of_mem_sinkholeNames listed).1
    · exact Or.inr rfl
  · rintro (small | front)
    · rwa [small] at sinkhole
    · obtain ⟨rest, behind⟩ := Option.isSome_iff_exists.mp front
      obtain rfl := Text.after?_eq_some behind
      have lowered : Text.lower (("ip6-" : Text) ++ rest) = ("ip6-" : Text) ++ rest.lower := rfl
      rw [lowered] at sinkhole
      rcases (isSinkholeName_iff _).mp sinkhole with listed | ⟨c, tail, same, word⟩
      · cases (lower_of_mem_sinkholeNames listed).2
      · have letters := List.append_cancel_left same
        rw [← letters] at word
        cases rest with
        | nil => cases letters
        | cons d rest =>
            refine (isSinkholeName_iff _).mpr (Or.inr ⟨d, rest, rfl, fun e member => ?_⟩)
            rw [← Unicode.isWord_toLower]
            exact word _ (List.mem_map_of_mem member)

end RuleLine

namespace Trie

/-! ## The names that a trie keeps -/

/-- The name under which a host is kept. -/
def Entry.key? : Entry → Option Text
  | .host name _ _ => some name.lower
  | .pattern _ _ _ => none

theorem keys_file (t : Trie) (e : Entry) :
    (t.file e).hosts.map (·.1) = e.key?.toList ++ t.hosts.map (·.1) := by
  cases e with
  | host name raw list => rfl
  | pattern anchor address rule => cases anchor <;> rfl

theorem mem_keys_ofEntries (entries : List Entry) (key : Text) :
    key ∈ (ofEntries entries).hosts.map (·.1) ↔ ∃ e ∈ entries, e.key? = some key := by
  induction entries using List.reverseRecOn with
  | nil => simp [ofEntries]
  | append_singleton entries e ih =>
      rw [ofEntries_concat, keys_file, List.mem_append, ih, Option.mem_toList]
      simp [or_and_right, exists_or, or_comm]

namespace Addition

/-- The names on a hosts line before its comment; no names on any other line. -/
def names (a : Addition) : List Text :=
  match RuleLine.hostsPart? a.line with
  | some part => RuleLine.uncommented part
  | none => []

/-- The line is a hosts line. -/
def isHosts (a : Addition) : Bool := (RuleLine.hostsPart? a.line).isSome

theorem entries_of_isHosts {a : Addition} (hosts : a.isHosts = true) :
    a.entries = (a.names.filter (!RuleLine.isSinkholeName ·)).map (.host · a.raw a.list) := by
  obtain ⟨part, read⟩ := Option.isSome_iff_exists.mp hosts
  rw [entries, RuleLine.parse_hosts read, names, read]
  rfl

theorem key?_of_not_isHosts {a : Addition} (other : a.isHosts = false) {e : Entry}
    (member : e ∈ a.entries) : e.key? = none := by
  rw [entries] at member
  cases read : RuleLine.parse a.line with
  | error fault =>
      rw [read] at member
      cases member
  | ok line =>
      rw [read] at member
      cases RuleLine.parse_eq_ok.mp read with
      | hosts named =>
          rw [isHosts, named] at other
          cases other
      | pattern unnamed cut full set =>
          cases List.mem_singleton.mp member
          rfl

theorem exists_key_iff (a : Addition) (key : Text) :
    (∃ e ∈ a.entries, e.key? = some key) ↔
      ∃ name ∈ a.names, RuleLine.isSinkholeName name = false ∧ name.lower = key := by
  cases hosts : a.isHosts with
  | true =>
      simp [entries_of_isHosts hosts, Entry.key?, and_assoc]
  | false =>
      have absent : RuleLine.hostsPart? a.line = none :=
        Option.not_isSome_iff_eq_none.mp (Bool.eq_false_iff.mp hosts)
      simp only [names, absent, List.not_mem_nil, false_and, exists_false, iff_false]
      rintro ⟨e, member, kept⟩
      rw [key?_of_not_isHosts hosts member] at kept
      cases kept

end Addition

/-- The names that a trie keeps are those of hosts lines in lower case, but for the names that a
line leaves out. -/
theorem mem_keys_iff (additions : List Addition) (key : Text) :
    key ∈ (ofAdditions additions).hosts.map (·.1) ↔
      ∃ a ∈ additions, ∃ name ∈ a.names,
        RuleLine.isSinkholeName name = false ∧ name.lower = key := by
  simp only [ofAdditions_eq, mem_keys_ofEntries, ← Addition.exists_key_iff, List.mem_flatMap]
  constructor
  · rintro ⟨e, ⟨a, added, member⟩, kept⟩
    exact ⟨a, added, e, member, kept⟩
  · rintro ⟨a, added, e, member, kept⟩
    exact ⟨e, ⟨a, added, member⟩, kept⟩

/-! ## What is found for such a name -/

/-- What is found comes from a line of the trie, and from a hosts line only under the host. -/
theorem origin_of_mem_findWhere {additions : List Addition} {u : Http.Uri} {accepts : Rule → Bool}
    {rule : Rule} (found : rule ∈ (ofAdditions additions).findWhere u accepts) :
    ∃ a ∈ additions, ∃ e ∈ a.entries, e.rule = rule ∧
      ∃ host, u.host? = some host ∧ ∀ key, e.key? = some key → key = host.lower := by
  rw [ofAdditions_eq] at found
  obtain ⟨_, e, current, rfl, host, named, reached⟩ := (mem_findWhere ..).mp found
  obtain ⟨a, added, member⟩ :=
    List.mem_flatMap.mp ((Entry.current_sublist _ _).subset current)
  refine ⟨a, added, e, member, rfl, host, named, fun key kept => ?_⟩
  cases e with
  | host name raw list =>
      cases kept
      exact reached
  | pattern anchor address rule => cases kept

/-- No hosts line of the additions gets a name of the machine itself into the trie, and so none
blocks a request to a host of such a name. -/
structure LeavesOutSinkholes (additions : List Addition) : Prop where
  keys : ∀ key ∈ (ofAdditions additions).hosts.map (·.1), RuleLine.isSinkholeName key = false
  blocks : ∀ (exceptions : Trie) (r : Request) (host : Text) (rule : Rule),
    r.uri.host? = some host → RuleLine.isSinkholeName host.lower = true →
      (RuleSet.onRequest ⟨ofAdditions additions, exceptions⟩ r).2 = .block rule →
        ∃ a ∈ additions, a.isHosts = false ∧ ∃ e ∈ a.entries, e.rule = rule

theorem LeavesOutSinkholes.of_keys {additions : List Addition}
    (keys : ∀ key ∈ (ofAdditions additions).hosts.map (·.1),
      RuleLine.isSinkholeName key = false) : LeavesOutSinkholes additions where
  keys := keys
  blocks := by
    intro exceptions r host rule named sinkhole verdict
    have decided := RuleSet.onRequest_decides ⟨ofAdditions additions, exceptions⟩ r
    cases decision : RuleSet.onRequest ⟨ofAdditions additions, exceptions⟩ r with | mk edited v =>
      rw [decision] at decided verdict
      cases verdict
      cases decided with
      | block survives =>
          have found := (List.mem_filter.mp (List.mem_of_find?_eq_some survives)).1
          obtain ⟨a, added, e, member, told, host', named', only⟩ := origin_of_mem_findWhere found
          cases named.symm.trans named'
          refine ⟨a, added, ?_, e, member, told⟩
          by_contra hosts
          rw [Bool.not_eq_false] at hosts
          have line := member
          rw [Addition.entries_of_isHosts hosts] at line
          obtain ⟨name, -, rfl⟩ := List.mem_map.mp line
          have kept : name.lower ∈ (ofAdditions additions).hosts.map (·.1) := by
            rw [ofAdditions_eq, mem_keys_ofEntries]
            exact ⟨_, List.mem_flatMap.mpr ⟨a, added, member⟩, rfl⟩
          have plain := keys _ kept
          rw [only _ rfl, sinkhole] at plain
          contradiction

/-- The names of the machine itself stay out exactly if the hosts lines write them without capital
letters, apart from what follows `ip6-`. -/
theorem leavesOutSinkholes_iff (additions : List Addition) :
    LeavesOutSinkholes additions ↔
      ∀ a ∈ additions, ∀ name ∈ a.names, RuleLine.isSinkholeName name.lower = true →
        name.lower = name ∨ name.startsWith "ip6-" = true := by
  constructor
  · intro out a added name named sinkhole
    rw [← RuleLine.isSinkholeName_of_lower sinkhole]
    by_contra unknown
    rw [Bool.not_eq_true] at unknown
    have plain := out.keys _ ((mem_keys_iff _ _).mpr ⟨a, added, name, named, unknown, rfl⟩)
    rw [sinkhole] at plain
    contradiction
  · intro written
    refine .of_keys fun key kept => ?_
    obtain ⟨a, added, name, named, unknown, rfl⟩ := (mem_keys_iff _ _).mp kept
    by_contra sinkhole
    rw [Bool.not_eq_false] at sinkhole
    have usual := written a added name named sinkhole
    rw [(RuleLine.isSinkholeName_of_lower sinkhole).mpr usual] at unknown
    contradiction

/-- A capital letter gets the machine itself blocked. -/
theorem localhost_blocked_by_capitals :
    let additions : List Addition := [⟨"0.0.0.0 LocalHost", "0.0.0.0 LocalHost", "list"⟩]
    let r : Request :=
      { method := "GET", uri := ⟨some "http", "localhost", "/", none⟩, version := .http11,
        headers := {} }
    Http.Uri.parse? "http://localhost/" = some r.uri ∧
      (ofAdditions additions).hosts.map (·.1) = ["localhost"] ∧
      (RuleSet.onRequest ⟨ofAdditions additions, {}⟩ r).2 =
        .block ⟨"0.0.0.0 LocalHost", "list", {}⟩ ∧
      ¬LeavesOutSinkholes additions := by
  intro additions r
  have keys : (ofAdditions additions).hosts.map (·.1) = ["localhost"] := by decide +kernel
  refine ⟨by decide, keys, by decide +kernel, fun out => ?_⟩
  have plain := out.keys "localhost" (keys ▸ List.mem_singleton_self _)
  contradiction

end Trie

end FilteringProxy
