import FilteringProxy.Proofs.Text.Case
import FilteringProxy.Proofs.Trie.Labels
import FilteringProxy.Proxy.TransparentHosts

/-! # What the set of transparent hosts holds

A host belongs to the set when its name is a member or ends with a full stop and a member. Looking a
host up does not change the set and adding one takes nothing away, so after any row of uses the
members are the names that were there at first and those that were added.
-/

namespace FilteringProxy

/-- A use of the set: somebody asks for a host or adds one. -/
inductive HostUse where
  | contains (host : Text)
  | add (host : Text)

namespace TransparentHosts

variable {s t : TransparentHosts} {host name : Text}

/-- The set after a use, and what was answered. -/
def use (s : TransparentHosts) : HostUse → TransparentHosts × Bool
  | .contains host => (s, s.contains host)
  | .add host => s.add host

/-- The set after a row of uses. -/
def play (s : TransparentHosts) (uses : List HostUse) : TransparentHosts :=
  uses.foldl (fun s u => (s.use u).1) s

/-! ## Matching -/

theorem mem_parents {t domain : Text} :
    domain ∈ parents t ↔ domain ≠ [] ∧ '.' :: domain <:+ t := by
  induction t with
  | nil => simp [parents]
  | cons c t ih =>
      rw [parents, List.suffix_cons_iff, List.cons.injEq]
      split
      · rename_i stop
        simp only [Bool.and_eq_true, decide_eq_true_eq] at stop
        obtain ⟨rfl, some_rest⟩ := stop
        rw [List.mem_cons, ih]
        constructor
        · rintro (rfl | ⟨some_domain, suffix⟩)
          · exact ⟨some_rest, Or.inl ⟨rfl, rfl⟩⟩
          · exact ⟨some_domain, Or.inr suffix⟩
        · rintro ⟨some_domain, ⟨_, rfl⟩ | suffix⟩
          · exact Or.inl rfl
          · exact Or.inr ⟨some_domain, suffix⟩
      · rename_i no_stop
        rw [ih]
        refine and_congr_right fun some_domain => ⟨Or.inr, ?_⟩
        rintro (⟨rfl, rfl⟩ | suffix)
        · simp only [decide_true, Bool.true_and, decide_eq_true_eq] at no_stop
          exact absurd some_domain no_stop
        · exact suffix

theorem getLast?_normalize (host : Text) : (normalize host).getLast? ≠ some '.' := by
  rw [normalize, Text.getLast?_lower, Text.dropEnd, List.getLast?_reverse]
  intro last
  obtain ⟨c, head, lowered⟩ := Option.map_eq_some_iff.mp last
  obtain rfl := Text.eq_of_toLower (by decide) lowered
  have stop := List.head?_dropWhile_not (· == '.') (Text.trim host).reverse
  rw [head] at stop
  cases stop

theorem contains_iff {s : TransparentHosts} {host : Text} :
    s.contains host = true ↔ ∃ name ∈ s.names, IsWithin (normalize host) name := by
  have parent_iff (name : Text) :
      name ∈ parents (normalize host) ↔ '.' :: name <:+ normalize host := by
    rw [mem_parents, and_iff_right_iff_imp]
    rintro ⟨front, whole⟩ rfl
    refine getLast?_normalize host ?_
    rw [← whole]
    exact List.getLast?_concat ..
  simp only [contains, has, List.any_eq_true, List.mem_cons, parent_iff, List.contains_iff_mem,
    IsWithin]
  constructor
  · rintro ⟨name, rfl | below, member⟩
    · exact ⟨_, member, Or.inl rfl⟩
    · exact ⟨name, member, Or.inr below⟩
  · rintro ⟨name, member, rfl | below⟩
    · exact ⟨_, Or.inl rfl, member⟩
    · exact ⟨name, Or.inr below, member⟩

/-! ## Members -/

theorem mem_insert {s : TransparentHosts} {name added : Text} :
    name ∈ (s.insert added).names ↔ name ∈ s.names ∨ name = added := by
  rw [insert]
  split
  · rename_i present
    rw [iff_self_or]
    rintro rfl
    exact List.contains_iff_mem.mp present
  · rw [List.mem_append, List.mem_singleton]

theorem mem_foldl_insert {s : TransparentHosts} {names : List Text} {name : Text} :
    name ∈ (names.foldl insert s).names ↔ name ∈ s.names ∨ name ∈ names := by
  induction names generalizing s with
  | nil => simp only [List.foldl_nil, List.not_mem_nil, or_false]
  | cons first names ih => rw [List.foldl_cons, ih, mem_insert, List.mem_cons, or_assoc]

theorem mem_ofList {hosts : List Text} {name : Text} :
    name ∈ (ofList hosts).names ↔ name ≠ [] ∧ ∃ host ∈ hosts, normalize host = name := by
  rw [ofList, mem_foldl_insert, List.mem_filter, List.mem_map, decide_eq_true_eq, and_comm]
  exact or_iff_right nofun

/-! ## Uses -/

theorem contains_add (s : TransparentHosts) (host : Text) :
    (s.add host).1.contains host = true :=
  contains_iff.mpr ⟨normalize host, mem_insert.mpr (Or.inr rfl), Or.inl rfl⟩

theorem add_snd_iff : (s.add host).2 = true ↔ normalize host ∉ s.names := by
  simp [add, has]

theorem mem_use {u : HostUse} :
    name ∈ (s.use u).1.names ↔ name ∈ s.names ∨ ∃ host, u = .add host ∧ normalize host = name := by
  cases u with
  | contains host => simp [use]
  | add host => simp [use, add, mem_insert, eq_comm]

theorem mem_play {uses : List HostUse} :
    name ∈ (s.play uses).names ↔
      name ∈ s.names ∨ ∃ host, .add host ∈ uses ∧ normalize host = name := by
  induction uses generalizing s with
  | nil => simp [play]
  | cons u uses ih =>
      have step : s.play (u :: uses) = (s.use u).1.play uses := rfl
      rw [step, ih, mem_use, or_assoc]
      refine or_congr_right ?_
      constructor
      · rintro (⟨host, rfl, same⟩ | ⟨host, later, same⟩)
        · exact ⟨host, List.mem_cons_self, same⟩
        · exact ⟨host, List.mem_cons_of_mem u later, same⟩
      · rintro ⟨host, member, same⟩
        rcases List.mem_cons.mp member with here | later
        · exact Or.inl ⟨host, here.symm, same⟩
        · exact Or.inr ⟨host, later, same⟩

/-- With more members a set holds every host that it held. -/
theorem contains_of_subset (more : s.names ⊆ t.names) (held : s.contains host = true) :
    t.contains host = true := by
  obtain ⟨name, member, within⟩ := contains_iff.mp held
  exact contains_iff.mpr ⟨name, more member, within⟩

/-- What a set holds that was made from a row of hosts and then used in any way: a host whose
compared form is a member or ends with a full stop and a member. The members are the names that the
set was made from, except a name of nothing, and those that were added. A host that was added is
held, a host that is held stays so, and adding tells whether the name was no member. -/
theorem holds_names_and_below (seeds : List Text) (uses : List HostUse) :
    let s := (ofList seeds).play uses
    (∀ host, s.contains host = true ↔
      ∃ name ∈ s.names, normalize host = name ∨ '.' :: name <:+ normalize host) ∧
    (∀ name, name ∈ s.names ↔
      (name ≠ [] ∧ ∃ seed ∈ seeds, normalize seed = name) ∨
        ∃ host, .add host ∈ uses ∧ normalize host = name) ∧
    (∀ host, (s.add host).1.contains host = true) ∧
    (∀ host later, s.contains host = true → (s.play later).contains host = true) ∧
    ∀ host, (s.add host).2 = true ↔ normalize host ∉ s.names := by
  intro s
  refine ⟨fun host => contains_iff, fun name => ?_, s.contains_add, fun host later => ?_,
    fun host => add_snd_iff⟩
  · rw [mem_play, mem_ofList]
  · intro held
    exact contains_of_subset (fun name member => mem_play.mpr (Or.inl member)) held

/-- Full stops at the end and capitals do not count, a name of nothing that was added is above no
host, and what only ends alike is not held. -/
theorem holds_names_and_below_bank :
    let s := (ofList ["Bank.Example.", " . "]).play [.add "..", .contains "api.shop.com"]
    s.contains "www..BANK.example." = true ∧
      (s.play [.add "shop.com"]).contains "www..BANK.example." = true ∧
      s.contains "my-bank.example" = false ∧ s.contains "a" = false := by
  intro s
  have holds := holds_names_and_below ["Bank.Example.", " . "] [.add "..", .contains "api.shop.com"]
  have names : s.names = ["bank.example", ""] := by decide
  have held : s.contains "www..BANK.example." = true := by
    refine (holds.1 _).mpr ⟨"bank.example", by rw [names]; decide, Or.inr ⟨"www.", by decide⟩⟩
  refine ⟨held, holds.2.2.2.1 _ _ held, ?_, ?_⟩
  · decide
  · decide

end TransparentHosts

end FilteringProxy
