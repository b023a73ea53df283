import FilteringProxy.Certificate.Cache
import Mathlib.Data.List.Dedup
import Mathlib.Data.List.Induction
import Mathlib.Data.List.Perm.Subperm

/-! # What a cache remembers

A cache is compared with the log of its uses. The log alone tells which value a host may get, and
which hosts were used since another one was; so it tells what a cache holds at most, and what it
must still hold.
-/

namespace FilteringProxy

/-- A use of a cache at some time. -/
inductive CacheUse (α : Type) where
  | get (time : Nat) (host : Text)
  | put (time : Nat) (host : Text) (value : α) (expires : Nat)
  | sweep (time : Nat)
  | purge (time : Nat)

/-- What a use came to, as those see it who use the cache. -/
inductive CacheNote (α : Type) where
  | hit (host : Text)
  | missed (host : Text)
  | stored (host : Text) (value : α) (expires : Nat)
  | swept
  | purged

def CacheUse.time : CacheUse α → Nat
  | get time _ | put time _ _ _ | sweep time | purge time => time

namespace CacheNote

/-- The host whose entry is the last used one from now on. -/
def touched? : CacheNote α → Option Text
  | hit host | stored host _ _ => some host
  | missed _ | swept | purged => none

/-- Value and expiry that were stored last for the host, unless all was purged since. The log begins
with the last note. -/
def stored? (host : Text) : List (CacheNote α) → Option (α × Nat)
  | [] => none
  | stored other value expires :: log =>
    if other = host then some (value, expires) else stored? host log
  | purged :: _ => none
  | _ :: log => stored? host log

/-- The hosts that were put or hit since the given one was. -/
def touchedSince (host : Text) (log : List (CacheNote α)) : List Text :=
  (log.filterMap touched?).takeWhile (· != host)

end CacheNote

namespace Cache

open CacheNote

def use (c : Cache α) : CacheUse α → Cache α × CacheNote α
  | .get time host =>
    match c.get time host with
    | (c, some _) => (c, .hit host)
    | (c, none) => (c, .missed host)
  | .put _ host value expires => (c.put host value expires, .stored host value expires)
  | .sweep time => ((c.sweep time).1, .swept)
  | .purge _ => (c.purge, .purged)

/-- A new cache after a row of uses, and the log of them, the last note first. -/
def play (capacity : Nat) (uses : List (CacheUse α)) : Cache α × List (CacheNote α) :=
  uses.foldl (fun (c, log) u => ((c.use u).1, (c.use u).2 :: log)) ({ capacity }, [])

theorem play_concat (capacity : Nat) (uses : List (CacheUse α)) (u : CacheUse α) :
    play capacity (uses ++ [u]) =
      (((play capacity uses).1.use u).1,
        ((play capacity uses).1.use u).2 :: (play capacity uses).2) := by
  simp only [play, List.foldl_append, List.foldl_cons, List.foldl_nil]

end Cache

/-! ## Logs -/

namespace CacheNote

variable {log : List (CacheNote α)} {host other : Text}

theorem touchedSince_of_touched? {note : CacheNote α} (touched : note.touched? = some other)
    (apart : other ≠ host) :
    touchedSince host (note :: log) = other :: touchedSince host log := by
  simp only [touchedSince, List.filterMap_cons_some touched, List.takeWhile_cons,
    bne_iff_ne.mpr apart, if_true]

theorem touchedSince_of_untouched {note : CacheNote α} (untouched : note.touched? = none) :
    touchedSince host (note :: log) = touchedSince host log := by
  rw [touchedSince, List.filterMap_cons_none untouched]
  rfl

theorem subset_touchedSince {note : CacheNote α} (apart : note.touched? ≠ some host) :
    touchedSince host log ⊆ touchedSince host (note :: log) := by
  cases touched : note.touched? with
  | none => rw [touchedSince_of_untouched touched]; exact List.Subset.refl _
  | some other =>
      rw [touchedSince_of_touched? touched (by rintro rfl; exact apart touched)]
      exact List.subset_cons_self _ _

end CacheNote

namespace Cache

open CacheNote

/-! ## Entries -/

variable {c : Cache α} {host : Text}

theorem mem_others {e : CacheEntry α} : e ∈ c.others host ↔ e ∈ c.entries ∧ e.host ≠ host := by
  rw [others, List.mem_filter, bne_iff_ne]

theorem others_sublist (c : Cache α) (host : Text) : (c.others host).Sublist c.entries :=
  List.filter_sublist

theorem find?_eq_none : c.find? host = none ↔ ∀ e ∈ c.entries, e.host ≠ host := by
  simp only [find?, List.find?_eq_none, beq_iff_eq, ne_eq]

theorem mem_of_find? {e : CacheEntry α} (found : c.find? host = some e) :
    e ∈ c.entries ∧ e.host = host :=
  ⟨List.mem_of_find?_eq_some found, eq_of_beq (List.find?_some found :)⟩

theorem eq_of_host (unique : (c.entries.map (·.host)).Nodup) {e f : CacheEntry α}
    (member : e ∈ c.entries) (member' : f ∈ c.entries) (same : e.host = f.host) : e = f :=
  List.inj_on_of_nodup_map unique member member' same

theorem find?_of_mem (unique : (c.entries.map (·.host)).Nodup) {e : CacheEntry α}
    (member : e ∈ c.entries) : c.find? e.host = some e := by
  cases found : c.find? e.host with
  | none => exact absurd rfl (find?_eq_none.mp found e member)
  | some f =>
      obtain ⟨member', same⟩ := mem_of_find? found
      rw [eq_of_host unique member' member same]

theorem get_of_mem (unique : (c.entries.map (·.host)).Nodup) {e : CacheEntry α}
    (member : e ∈ c.entries) (now : Nat) :
    (c.get now e.host).2 = if e.isFresh now then some e.value else none := by
  rw [get, find?_of_mem unique member]
  dsimp only
  split <;> rfl

theorem isSome_get_of_mem (unique : (c.entries.map (·.host)).Nodup) {e : CacheEntry α}
    (member : e ∈ c.entries) (now : Nat) : (c.get now e.host).2.isSome = e.isFresh now := by
  rw [get_of_mem unique member]
  cases e.isFresh now with
  | true => rfl
  | false => rfl

theorem get_eq_some {now : Nat} {value : α} (given : (c.get now host).2 = some value) :
    ∃ e ∈ c.entries, e.host = host ∧ e.value = value ∧ now < e.expires := by
  rw [get] at given
  cases found : c.find? host with
  | none =>
      rw [found] at given
      cases given
  | some e =>
      obtain ⟨member, same⟩ := mem_of_find? found
      simp only [found] at given
      split at given
      · rename_i fresh
        exact ⟨e, member, same, Option.some.inj given, of_decide_eq_true fresh⟩
      · cases given

theorem length_le_length_dedup {l l' : List Text} (distinct : l.Nodup) (subset : l ⊆ l') :
    l.length ≤ l'.dedup.length :=
  (List.subperm_of_subset distinct fun _ member => List.mem_dedup.mpr (subset member)).length_le

/-! ## One use -/

variable {log : List (CacheNote α)} {note : CacheNote α} {now time : Nat} {e : CacheEntry α}

/-- What the log says about a cache at some time. -/
structure Tracks (now : Nat) (log : List (CacheNote α)) (c : Cache α) : Prop where
  bounded : c.entries.length ≤ c.capacity
  unique : (c.entries.map (·.host)).Nodup
  told : ∀ e ∈ c.entries, stored? e.host log = some (e.value, e.expires)
  recent : c.entries.Pairwise fun f e => f.host ∈ touchedSince e.host log
  kept : ∀ host value expires, stored? host log = some (value, expires) → now < expires →
    (∃ e ∈ c.entries, e.host = host) ∨ c.capacity ≤ (touchedSince host log).dedup.length

theorem Tracks.start (now capacity : Nat) :
    Tracks now ([] : List (CacheNote α)) { capacity } where
  bounded := Nat.zero_le _
  unique := List.nodup_nil
  told _ member := nomatch member
  recent := List.Pairwise.nil
  kept _ _ _ stored := nomatch stored

/-- The entry of a used host stands in front of the others, and each of these was used before it. -/
theorem Tracks.recent_raise (t : Tracks now log c) (touched : note.touched? = some e.host) :
    (e :: c.others e.host).Pairwise fun f e => f.host ∈ touchedSince e.host (note :: log) := by
  refine List.pairwise_cons.mpr ⟨fun f member => ?_, ?_⟩
  · have apart := (mem_others.mp member).2
    rw [touchedSince_of_touched? touched apart.symm]
    exact List.mem_cons_self
  · refine (t.recent.sublist (others_sublist c _)).imp_of_mem fun _ member earlier => ?_
    have apart := (mem_others.mp member).2
    rw [touchedSince_of_touched? touched apart.symm]
    exact List.mem_cons_of_mem _ earlier

theorem Tracks.unique_raise (t : Tracks now log c) (e : CacheEntry α) :
    ((e :: c.others e.host).map (·.host)).Nodup := by
  rw [List.map_cons, List.nodup_cons]
  refine ⟨fun member => ?_, t.unique.sublist ((others_sublist c _).map _)⟩
  obtain ⟨f, member, same⟩ := List.mem_map.mp member
  exact (mem_others.mp member).2 same

theorem Tracks.kept_of_apart (t : Tracks now log c) {host : Text} {value : α} {expires : Nat}
    (apart : note.touched? ≠ some host) (stored : stored? host log = some (value, expires))
    (fresh : now < expires) :
    (∃ e ∈ c.entries, e.host = host) ∨
      c.capacity ≤ (touchedSince host (note :: log)).dedup.length :=
  (t.kept host value expires stored fresh).imp_right fun many =>
    Nat.le_trans many <| length_le_length_dedup (List.nodup_dedup _) <|
      List.Subset.trans (List.dedup_subset _) (subset_touchedSince apart)

theorem Tracks.drop (t : Tracks now log c) {kept : List (CacheEntry α)}
    (sublist : kept.Sublist c.entries) (expired : ∀ e ∈ c.entries, e ∉ kept → ¬ now < e.expires)
    (untouched : note.touched? = none)
    (silent : ∀ host, stored? host (note :: log) = stored? host log) :
    Tracks now (note :: log) { c with entries := kept } where
  bounded := Nat.le_trans sublist.length_le t.bounded
  unique := t.unique.sublist (sublist.map _)
  told e member := (silent e.host).trans (t.told e (sublist.subset member))
  recent := by
    simp only [touchedSince_of_untouched untouched]
    exact t.recent.sublist sublist
  kept host value expires stored fresh := by
    rw [silent] at stored
    have apart : note.touched? ≠ some host := by rw [untouched]; exact nofun
    refine (t.kept_of_apart apart stored fresh).imp_left fun ⟨e, member, same⟩ => ?_
    refine ⟨e, ?_, same⟩
    by_contra gone
    have told := t.told e member
    rw [same, stored] at told
    cases told
    exact expired e member gone fresh

theorem Tracks.hit (t : Tracks now log c) (member : e ∈ c.entries) :
    Tracks now (.hit e.host :: log) { c with entries := e :: c.others e.host } where
  bounded := by
    refine Nat.le_trans ?_ t.bounded
    refine List.length_filter_lt_length_iff_exists.mpr ⟨e, member, ?_⟩
    simp only [bne_self_eq_false, Bool.false_eq_true, not_false_eq_true]
  unique := t.unique_raise e
  told f := by
    rw [List.mem_cons]
    rintro (rfl | member')
    · exact t.told f member
    · exact t.told f (mem_others.mp member').1
  recent := t.recent_raise rfl
  kept host value expires stored fresh := by
    by_cases same : e.host = host
    · exact .inl ⟨e, List.mem_cons_self, same⟩
    · have apart : (.hit e.host : CacheNote α).touched? ≠ some host := fun h =>
        same (Option.some.inj h)
      refine (t.kept_of_apart apart stored fresh).imp_left fun ⟨f, member', of⟩ => ?_
      refine ⟨f, List.mem_cons_of_mem _ (mem_others.mpr ⟨member', ?_⟩), of⟩
      rw [of]
      exact Ne.symm same

/-- Who does not find room among the first entries was used before all of them. -/
theorem mem_take_or_crowded {l : List (CacheEntry α)} {n : Nat}
    (unique : (l.map (·.host)).Nodup)
    (recent : l.Pairwise fun f e => f.host ∈ touchedSince e.host log) (member : e ∈ l) :
    (∃ f ∈ l.take n, f.host = e.host) ∨ n ≤ (touchedSince e.host log).dedup.length := by
  rw [← List.take_append_drop n l] at recent member
  rcases List.mem_append.mp member with stays | goes
  · exact .inl ⟨e, stays, rfl⟩
  · have room : n < l.length := by
      have := List.length_pos_of_mem goes
      rw [List.length_drop] at this
      omega
    have earlier : (l.take n).map (·.host) ⊆ touchedSince e.host log := by
      intro host member
      obtain ⟨f, stays, rfl⟩ := List.mem_map.mp member
      exact (List.pairwise_append.mp recent).2.2 f stays e goes
    right
    calc n = ((l.take n).map (·.host)).length := by
          rw [List.length_map, List.length_take_of_le (Nat.le_of_lt room)]
      _ ≤ (touchedSince e.host log).dedup.length :=
          length_le_length_dedup (unique.sublist ((List.take_sublist n l).map _)) earlier

theorem Tracks.put (t : Tracks now log c) (host : Text) (value : α) (expires : Nat) :
    Tracks now (.stored host value expires :: log) (c.put host value expires) where
  bounded := List.length_take_le _ _
  unique := (t.unique_raise ⟨host, value, expires⟩).sublist ((List.take_sublist _ _).map _)
  told f member := by
    rcases List.mem_cons.mp (List.mem_of_mem_take member) with rfl | member
    · exact if_pos rfl
    · obtain ⟨member, apart⟩ := mem_others.mp member
      exact (if_neg (Ne.symm apart)).trans (t.told f member)
  recent := (t.recent_raise (e := ⟨host, value, expires⟩) rfl).sublist (List.take_sublist _ _)
  kept other value' expires' stored fresh := by
    have raised : (∃ e ∈ ⟨host, value, expires⟩ :: c.others host, e.host = other) ∨
        c.capacity ≤ (touchedSince other (.stored host value expires :: log)).dedup.length := by
      by_cases same : host = other
      · exact .inl ⟨_, List.mem_cons_self, same⟩
      · have apart : (CacheNote.stored host value expires).touched? ≠ some other := fun h =>
          same (Option.some.inj h)
        rw [stored?, if_neg same] at stored
        refine (t.kept_of_apart apart stored fresh).imp_left fun ⟨e, member, of⟩ => ?_
        refine ⟨e, List.mem_cons_of_mem _ (mem_others.mpr ⟨member, ?_⟩), of⟩
        rw [of]
        exact Ne.symm same
    refine raised.elim (fun ⟨e, member, of⟩ => ?_) .inr
    rw [← of]
    exact mem_take_or_crowded (t.unique_raise _) (t.recent_raise rfl) member

theorem Tracks.later (t : Tracks now log c) (later : now ≤ time) : Tracks time log c :=
  { t with kept := fun host value expires stored fresh =>
      t.kept host value expires stored (Nat.lt_of_le_of_lt later fresh) }

theorem Tracks.get (t : Tracks now log c) (host : Text) :
    Tracks now ((c.use (.get now host)).2 :: log) (c.use (.get now host)).1 := by
  cases found : c.find? host with
  | none =>
      simp only [Cache.use, Cache.get, found]
      exact t.drop (List.Sublist.refl _) (fun _ member gone => absurd member gone) rfl fun _ => rfl
  | some e =>
      obtain ⟨member, rfl⟩ := mem_of_find? found
      by_cases fresh : e.isFresh now
      · simp only [Cache.use, Cache.get, found, fresh, if_true]
        exact t.hit member
      · simp only [Cache.use, Cache.get, found, fresh]
        refine t.drop (others_sublist c _) (fun f member' gone alive => fresh ?_) rfl fun _ => rfl
        have same : f.host = e.host := by
          by_contra apart
          exact gone (mem_others.mpr ⟨member', apart⟩)
        rw [← eq_of_host t.unique member' member same]
        exact decide_eq_true alive

theorem Tracks.sweep (t : Tracks now log c) : Tracks now (.swept :: log) (c.sweep now).1 :=
  t.drop List.filter_sublist
    (fun _ member gone alive => gone (List.mem_filter.mpr ⟨member, decide_eq_true alive⟩)) rfl
    fun _ => rfl

theorem Tracks.purge : Tracks now (.purged :: log) c.purge where
  bounded := Nat.zero_le _
  unique := List.nodup_nil
  told := nofun
  recent := List.Pairwise.nil
  kept := nofun

theorem Tracks.use (t : Tracks now log c) (u : CacheUse α) (later : now ≤ u.time) :
    Tracks u.time ((c.use u).2 :: log) (c.use u).1 := by
  cases u with
  | get time host => exact (t.later later).get host
  | put time host value expires => exact (t.later later).put host value expires
  | sweep time => exact (t.later later).sweep
  | purge time => exact .purge

theorem use_capacity (c : Cache α) (u : CacheUse α) : (c.use u).1.capacity = c.capacity := by
  cases u with
  | get time host =>
      cases found : c.find? host with
      | none => simp only [use, get, found]
      | some e =>
          by_cases fresh : e.isFresh time
          · simp only [use, get, found, fresh, if_true]
          · simp only [use, get, found, fresh]
            rfl
  | put time host value expires => rfl
  | sweep time => rfl
  | purge time => rfl

/-! ## Runs -/

theorem play_capacity (capacity : Nat) (uses : List (CacheUse α)) :
    (play capacity uses).1.capacity = capacity := by
  induction uses using List.reverseRecOn with
  | nil => rfl
  | append_singleton uses u ih => rw [play_concat, use_capacity, ih]

theorem play_tracks (capacity : Nat) (uses : List (CacheUse α)) (now : Nat)
    (ordered : (uses.map CacheUse.time ++ [now]).Pairwise (· ≤ ·)) :
    Tracks now (play capacity uses).2 (play capacity uses).1 := by
  induction uses using List.reverseRecOn generalizing now with
  | nil => exact .start now capacity
  | append_singleton uses u ih =>
      -- the invariant holds at the time of the last use, and then at every later one
      rw [List.map_append, List.map_singleton] at ordered
      obtain ⟨before, -, last⟩ := List.pairwise_append.mp ordered
      have later : u.time ≤ now := last _ List.mem_concat_self _ (List.mem_singleton_self now)
      rw [play_concat]
      exact ((ih u.time before).use u (Nat.le_refl _)).later later

/-- A cache is bounded and holds each host once. It gives out what was stored last, until that
expires; it misses that only if as many hosts as it may hold were used since. A sweep takes away
what would not be given out, and leaves the rest in its order. -/
theorem play_least_recently_used (capacity : Nat) (uses : List (CacheUse α)) (now : Nat)
    (ordered : (uses.map CacheUse.time ++ [now]).Pairwise (· ≤ ·)) :
    let (c, log) := play capacity uses
    c.entries.length ≤ capacity ∧ (c.entries.map (·.host)).Nodup ∧
      (∀ host value, (c.get now host).2 = some value →
        ∃ expires, stored? host log = some (value, expires) ∧ now < expires) ∧
      (∀ host value expires, stored? host log = some (value, expires) → now < expires →
        (c.get now host).2 = none → capacity ≤ (touchedSince host log).dedup.length) ∧
      (c.sweep now).1.entries = c.entries.filter (fun e => (c.get now e.host).2.isSome) ∧
      (c.sweep now).2 = (c.entries.filter fun e => (c.get now e.host).2.isNone).length := by
  have tracks := play_tracks capacity uses now ordered
  have limit := play_capacity capacity uses
  generalize play capacity uses = state at tracks limit
  obtain ⟨c, log⟩ := state
  dsimp only at tracks limit ⊢
  refine ⟨limit ▸ tracks.bounded, tracks.unique, ?_, ?_, ?_, ?_⟩
  · intro host value given
    obtain ⟨e, member, rfl, rfl, fresh⟩ := get_eq_some given
    exact ⟨e.expires, tracks.told e member, fresh⟩
  · intro host value expires stored fresh missed
    refine limit ▸ (tracks.kept host value expires stored fresh).resolve_left ?_
    rintro ⟨e, member, rfl⟩
    cases stored.symm.trans (tracks.told e member)
    rw [get_of_mem tracks.unique member, CacheEntry.isFresh,
      if_pos (decide_eq_true fresh)] at missed
    cases missed
  · exact List.filter_congr fun e member => (isSome_get_of_mem tracks.unique member now).symm
  · refine congrArg List.length (List.filter_congr fun e member => ?_)
    rw [← isSome_get_of_mem tracks.unique member now, Option.not_isSome]

/-- Two hosts were used after a third one, so it is not kept beside them. -/
theorem play_least_recently_used_third :
    2 ≤ (touchedSince ['b'] (play 2 [.put 1 ['a'] 10 9, .put 2 ['b'] 20 9, .get 3 ['a'],
      .put 4 ['c'] 30 9]).2).dedup.length :=
  (play_least_recently_used 2 [.put 1 ['a'] 10 9, .put 2 ['b'] 20 9, .get 3 ['a'],
    .put 4 ['c'] 30 9] 5 (by decide)).2.2.2.1 ['b'] 20 9 (by decide) (by decide) (by decide)

end Cache

end FilteringProxy
