import FilteringProxy.Certificate.Shared
import FilteringProxy.Proofs.Certificate.Validity

/-! # What a purge cannot reach

When another authority is loaded, the cache is purged so that no certificate of the old one is given
out any more. A call that has read the old authority by then and has not stored its certificate yet
stores it behind the purge, and later calls get it. Nothing else can bring an old certificate back.
-/

namespace FilteringProxy

theorem Leaf.ofHost?_of_issue_error {root : Root} {number date : Nat} {host : Text}
    {error : CertificateError} (refused : issue root number date host = .error error) :
    SubjectName.ofHost? host = none := by
  cases named : SubjectName.ofHost? host with
  | none => rfl
  | some name =>
      rw [issue, named] at refused
      cases refused

/-! ## One step of a call -/

namespace Cache

variable {c : Cache α} {e : CacheEntry α}

theorem mem_get {now : Nat} {host : Text} (member : e ∈ (c.get now host).1.entries) :
    e ∈ c.entries := by
  cases asked : (c.get now host).2 with
  | none =>
      rw [get_fst_of_missed asked] at member
      exact (mem_others.mp member).1
  | some value =>
      obtain ⟨f, inside, _, _, _, kept⟩ := get_of_hit asked
      rw [kept] at member
      rcases List.mem_cons.mp member with rfl | other
      · exact inside
      · exact (mem_others.mp other).1

theorem mem_put {host : Text} {value : α} {expires : Nat}
    (member : e ∈ (c.put host value expires).entries) :
    e = ⟨host, value, expires⟩ ∨ e ∈ c.entries :=
  (List.mem_cons.mp (List.mem_of_mem_take member)).imp_right fun other => (mem_others.mp other).1

theorem capacity_get (c : Cache α) (now : Nat) (host : Text) :
    (c.get now host).1.capacity = c.capacity := by
  cases asked : (c.get now host).2 with
  | none => rw [get_fst_of_missed asked]
  | some value =>
      obtain ⟨_, _, _, _, _, kept⟩ := get_of_hit asked
      rw [kept]

theorem get_put (room : 0 < c.capacity) {now expires : Nat} (fresh : now < expires) (host : Text)
    (value : α) : ((c.put host value expires).get now host).2 = some value := by
  cases size : c.capacity with
  | zero => exact absurd size (Nat.ne_of_gt room)
  | succ n => simp [get, put, find?, size, CacheEntry.isFresh, fresh]

end Cache

namespace CallStage

variable {i : Issuer} {root : Except CertificateError Root} {now : Nat} {host : Text}

/-- What the next step of a call may come to. -/
inductive Goes (i : Issuer) (root : Except CertificateError Root) (now : Nat) (host : Text) :
    CallStage → Issuer × CallStage → Prop where
  | hit (leaf : Leaf) (found : (i.cache.get now host).2 = some leaf) :
      Goes i root now host .begun
        ({ i with cache := (i.cache.get now host).1 }, .answered (.ok leaf))
  | miss (nothing : (i.cache.get now host).2 = none) :
      Goes i root now host .begun ({ i with cache := (i.cache.get now host).1 }, .missed)
  | fail (error : CertificateError)
      (unmade : (root.bind fun signer => Leaf.issue signer i.issued now host) = .error error) :
      Goes i root now host .missed (i, .answered (.error error))
  | sign (signer : Root) (leaf : Leaf) (loaded : root = .ok signer)
      (made : Leaf.issue signer i.issued now host = .ok leaf) :
      Goes i root now host .missed ({ i with issued := i.issued + 1 }, .signed leaf)
  | store (leaf : Leaf) :
      Goes i root now host (.signed leaf)
        ({ i with cache := i.cache.put host leaf (Issuer.keptUntil now) }, .answered (.ok leaf))
  | rest (answer : Except CertificateError Leaf) :
      Goes i root now host (.answered answer) (i, .answered answer)

theorem next_goes (i : Issuer) (root : Except CertificateError Root) (now : Nat) (host : Text)
    (stage : CallStage) : Goes i root now host stage (stage.next i root now host) := by
  cases stage with
  | begun =>
      unfold next
      have hit := @Goes.hit i root now host
      have miss := @Goes.miss i root now host
      generalize i.cache.get now host = asked at hit miss ⊢
      obtain ⟨cache, _ | leaf⟩ := asked
      · exact miss rfl
      · exact hit leaf rfl
  | missed =>
      cases root with
      | error e => exact .fail e rfl
      | ok signer =>
          dsimp only [next]
          cases made : Leaf.issue signer i.issued now host with
          | error e => exact .fail e made
          | ok leaf => exact .sign signer leaf rfl made
  | signed leaf => exact .store leaf
  | answered answer => exact .rest answer

/-- How many steps the call has left at most. -/
def left : CallStage → Nat
  | begun => 3
  | missed => 2
  | signed _ => 1
  | answered _ => 0

theorem Goes.left {stage : CallStage} {result : Issuer × CallStage}
    (goes : Goes i root now host stage result) : result.2.left ≤ stage.left - 1 := by
  cases goes <;> simp only [CallStage.left] <;> omega

theorem answered_of_left {stage : CallStage} (none_left : stage.left = 0) :
    ∃ answer, stage = .answered answer := by
  cases stage with
  | answered answer => exact ⟨answer, rfl⟩
  | begun | missed | signed leaf => cases none_left

end CallStage

/-- The steps of a call that nothing comes between are what a call does to an issuer of its own. -/
theorem Issuer.get_eq_next (i : Issuer) (root : Except CertificateError Root) (clock : Clock)
    (host : Text) :
    let first := CallStage.begun.next i root clock.lookup host
    let second := first.2.next first.1 root clock.date host
    second.2.next second.1 root clock.store host =
      ((i.get root clock host).1, .answered (i.get root clock host).2) := by
  intro first second
  simp only [second, first, CallStage.next, Issuer.get]
  generalize i.cache.get clock.lookup host = asked
  obtain ⟨cache, _ | leaf⟩ := asked
  · cases root with
    | error e => rfl
    | ok signer =>
        dsimp only
        cases Leaf.issue signer i.issued clock.date host <;> rfl
  · rfl

/-- The event is a step of the call with this place. -/
def IssuerEvent.goes (place : Nat) : IssuerEvent → Bool
  | go other _ => other = place
  | _ => false

namespace SharedIssuer

variable {s : SharedIssuer}

def start (capacity : Nat) : SharedIssuer := { issuer := { cache := { capacity } } }

/-- What one event may make of the issuer and its calls. -/
inductive Moves (s : SharedIssuer) : IssuerEvent → SharedIssuer → Prop where
  | call (host : Text) : Moves s (.call host) { s with calls := s.calls ++ [{ host }] }
  | go {place now : Nat} {c : CertificateCall} {result : Issuer × CallStage}
      (known : s.calls[place]? = some c)
      (goes : CallStage.Goes s.issuer s.root now c.host c.stage result) :
      Moves s (.go place now)
        { s with issuer := result.1, calls := s.calls.set place { c with stage := result.2 } }
  | idle {place now : Nat} (unknown : s.calls[place]? = none) : Moves s (.go place now) s
  | load (root : Except CertificateError Root) : Moves s (.load root) { s with root }
  | keep {event : IssuerEvent} {kept : List (CacheEntry Leaf)}
      (fewer : kept.Sublist s.issuer.cache.entries)
      (quiet : event = .purge ∧ kept = [] ∨ ∃ now, event = .sweep now) :
      Moves s event
        { s with issuer := { s.issuer with cache := { s.issuer.cache with entries := kept } } }

theorem step_moves (s : SharedIssuer) (event : IssuerEvent) : s.Moves event (s.step event) := by
  cases event with
  | call host => exact .call host
  | go place now =>
      cases known : s.calls[place]? with
      | none =>
          simp only [step, known]
          exact .idle known
      | some c =>
          simp only [step, known]
          exact .go known (CallStage.next_goes s.issuer s.root now c.host c.stage)
  | load root => exact .load root
  | purge => exact .keep (List.nil_sublist _) (Or.inl ⟨rfl, rfl⟩)
  | sweep now => exact .keep List.filter_sublist (Or.inr ⟨now, rfl⟩)

theorem run_append (s : SharedIssuer) (events more : List IssuerEvent) :
    s.run (events ++ more) = (s.run events).run more :=
  List.foldl_append

/-- What every event keeps up, a run does. -/
theorem run_invariant {P : SharedIssuer → Prop} {events : List IssuerEvent}
    (kept : ∀ s t event, event ∈ events → P s → s.Moves event t → P t) (holds : P s) :
    P (s.run events) := by
  induction events generalizing s with
  | nil => exact holds
  | cons event events ih =>
      apply ih
      · intro s t event member
        exact kept s t event (List.mem_cons_of_mem _ member)
      · exact kept s _ event List.mem_cons_self holds (s.step_moves event)

/-! ## Calls come to an end -/

/-- The call with this place is for the host and has few steps left. -/
def HasLeft (s : SharedIssuer) (place : Nat) (host : Text) (n : Nat) : Prop :=
  ∃ stage, s.calls[place]? = some ⟨host, stage⟩ ∧ stage.left ≤ n

theorem HasLeft.moves {place n : Nat} {host : Text} {event : IssuerEvent} {t : SharedIssuer}
    (known : s.HasLeft place host n) (moves : s.Moves event t) :
    t.HasLeft place host (if event.goes place then n - 1 else n) := by
  obtain ⟨stage, here, few⟩ := known
  have inside := (List.getElem?_eq_some_iff.mp here).1
  cases moves with
  | call other => exact ⟨stage, (List.getElem?_append_left inside).trans here, few⟩
  | @go other now c result there goes =>
      by_cases same : other = place
      · subst same
        obtain rfl := Option.some.inj (there.symm.trans here)
        refine ⟨result.2, List.getElem?_set_self inside, ?_⟩
        rw [IssuerEvent.goes, decide_eq_true rfl, if_pos rfl]
        exact Nat.le_trans goes.left (Nat.sub_le_sub_right few 1)
      · refine ⟨stage, (List.getElem?_set_ne same).trans here, ?_⟩
        rwa [IssuerEvent.goes, decide_eq_false same, if_neg Bool.false_ne_true]
  | @idle other now unknown =>
      have apart : other ≠ place := by
        rintro rfl
        rw [unknown] at here
        cases here
      refine ⟨stage, here, ?_⟩
      rwa [IssuerEvent.goes, decide_eq_false apart, if_neg Bool.false_ne_true]
  | load root => exact ⟨stage, here, few⟩
  | keep fewer quiet => rcases quiet with ⟨rfl, _⟩ | ⟨_, rfl⟩ <;> exact ⟨stage, here, few⟩

theorem HasLeft.run {place n : Nat} {host : Text} (known : s.HasLeft place host n)
    (events : List IssuerEvent) :
    (s.run events).HasLeft place host (n - events.countP (·.goes place)) := by
  induction events generalizing s n with
  | nil => exact known
  | cons event events ih =>
      have later := ih (known.moves (s.step_moves event))
      rw [List.countP_cons]
      by_cases own : event.goes place = true
      · rw [if_pos own] at later ⊢
        rwa [Nat.add_comm, ← Nat.sub_sub]
      · rwa [if_neg own] at later ⊢

theorem answered_run {place : Nat} {host : Text} {answer : Except CertificateError Leaf}
    (known : s.calls[place]? = some ⟨host, .answered answer⟩) (events : List IssuerEvent) :
    (s.run events).calls[place]? = some ⟨host, .answered answer⟩ := by
  apply run_invariant (P := fun s => s.calls[place]? = some ⟨host, .answered answer⟩) ?_ known
  intro s t event _ here moves
  have inside := (List.getElem?_eq_some_iff.mp here).1
  cases moves with
  | call other => exact (List.getElem?_append_left inside).trans here
  | @go other now c result there goes =>
      by_cases same : other = place
      · subst same
        obtain rfl := Option.some.inj (there.symm.trans here)
        cases goes
        exact List.getElem?_set_self inside
      · exact (List.getElem?_set_ne same).trans here
  | idle unknown => exact here
  | load root => exact here
  | keep fewer quiet => exact here

/-! ## Certificates of one authority -/

/-- The call is answered with a certificate of the authority for its host, unless there is none for
such a host at all. -/
def AnsweredBy (root : Root) (host : Text) (answer : Except CertificateError Leaf) : Prop :=
  (∃ leaf, answer = .ok leaf ∧ leaf.IsFor host root) ∨ SubjectName.ofHost? host = none

/-- What a call holds is of the authority, and so is its answer, if that matters. -/
def HoldsOnly (root : Root) (host : Text) (matters : Prop) : CallStage → Prop
  | .begun => True
  | .missed => True
  | .signed leaf => leaf.IsFor host root
  | .answered answer => matters → AnsweredBy root host answer

/-- All that can be given out to calls from the one with number `first` on is of one authority. -/
structure Loyal (root : Root) (first : Nat) (s : SharedIssuer) : Prop where
  loaded : s.root = .ok root
  kept : ∀ e ∈ s.issuer.cache.entries, e.value.IsFor e.host root
  calls : ∀ place c, s.calls[place]? = some c → HoldsOnly root c.host (first ≤ place) c.stage

variable {root : Root} {first : Nat}

/-- A step of a call puts nothing else into the cache or into the call. -/
theorem Loyal.goes {place now : Nat} {c : CertificateCall} {result : Issuer × CallStage}
    (loyal : Loyal root first s) (known : s.calls[place]? = some c)
    (goes : CallStage.Goes s.issuer s.root now c.host c.stage result) :
    (∀ e ∈ result.1.cache.entries, e.value.IsFor e.host root) ∧
      HoldsOnly root c.host (first ≤ place) result.2 := by
  have mine := loyal.calls place c known
  obtain ⟨host, stage⟩ := c
  cases goes with
  | hit leaf found =>
      obtain ⟨e, member, rfl, rfl, _⟩ := Cache.get_eq_some found
      exact ⟨fun e member => loyal.kept e (Cache.mem_get member),
        fun _ => Or.inl ⟨e.value, rfl, loyal.kept e member⟩⟩
  | miss nothing => exact ⟨fun e member => loyal.kept e (Cache.mem_get member), trivial⟩
  | fail error unmade =>
      simp only [loyal.loaded, Except.bind] at unmade
      exact ⟨loyal.kept, fun _ => Or.inr (Leaf.ofHost?_of_issue_error unmade)⟩
  | sign signer leaf loaded made =>
      obtain rfl := Except.ok.inj (loyal.loaded.symm.trans loaded)
      exact ⟨loyal.kept, (Leaf.of_issue made).1⟩
  | store leaf =>
      refine ⟨fun e member => ?_, fun _ => Or.inl ⟨leaf, rfl, mine⟩⟩
      rcases Cache.mem_put member with rfl | old
      · exact mine
      · exact loyal.kept e old
  | rest answer => exact ⟨loyal.kept, mine⟩

theorem Loyal.moves {event : IssuerEvent} {t : SharedIssuer} (loyal : Loyal root first s)
    (quiet : ∀ other, event ≠ .load other) (moves : s.Moves event t) : Loyal root first t := by
  cases moves with
  | call host =>
      refine { loyal with calls := fun place c known => ?_ }
      rw [List.getElem?_append] at known
      split at known
      · exact loyal.calls place c known
      · obtain rfl := List.mem_singleton.mp (List.mem_of_getElem? known)
        exact trivial
  | @go place now c result known goes =>
      obtain ⟨kept, mine⟩ := loyal.goes known goes
      refine ⟨loyal.loaded, kept, fun other d there => ?_⟩
      rw [List.getElem?_set] at there
      split at there
      · rename_i same
        subst same
        rw [Option.ite_none_right_eq_some] at there
        obtain rfl := Option.some.inj there.2
        exact mine
      · exact loyal.calls other d there
  | idle unknown => exact loyal
  | load other => exact absurd rfl (quiet other)
  | keep fewer _ =>
      exact { loyal with kept := fun e member => loyal.kept e (fewer.subset member) }

theorem Loyal.run {events : List IssuerEvent} (loyal : Loyal root first s)
    (quiet : ∀ other, .load other ∉ events) : Loyal root first (s.run events) := by
  apply run_invariant (P := Loyal root first) ?_ loyal
  intro s t event member loyal moves
  apply loyal.moves _ moves
  rintro other rfl
  exact quiet other member

/-! ## What any schedule keeps up -/

theorem capacity_run (s : SharedIssuer) (events : List IssuerEvent) :
    (s.run events).issuer.cache.capacity = s.issuer.cache.capacity := by
  apply run_invariant (P := fun t => t.issuer.cache.capacity = s.issuer.cache.capacity) ?_ rfl
  intro t u event _ same moves
  cases moves with
  | call | idle | load | keep => exact same
  | @go place now c result known goes =>
      obtain ⟨host, stage⟩ := c
      cases goes with
      | hit | miss => exact (Cache.capacity_get ..).trans same
      | fail | sign | store | rest => exact same

theorem root_run {events : List IssuerEvent} (quiet : ∀ other, .load other ∉ events) :
    (s.run events).root = s.root := by
  apply run_invariant (P := fun t => t.root = s.root) ?_ rfl
  intro t u event member same moves
  cases moves with
  | call | go | idle | keep => exact same
  | load other => exact absurd member (quiet other)

/-- A certificate that waits to be stored could be issued for its host. -/
theorem issuable_run (capacity : Nat) (events : List IssuerEvent) :
    ∀ c ∈ ((start capacity).run events).calls, ∀ leaf, c.stage = .signed leaf →
      SubjectName.ofHost? c.host ≠ none := by
  apply run_invariant (P := fun s => ∀ c ∈ s.calls, ∀ leaf, c.stage = .signed leaf →
    SubjectName.ofHost? c.host ≠ none)
  · intro s t event _ good moves
    cases moves with
    | call host =>
        intro c member leaf signed
        rcases List.mem_append.mp member with old | new
        · exact good c old leaf signed
        · rw [List.mem_singleton.mp new] at signed
          cases signed
    | @go place now c result known goes =>
        intro d member leaf signed
        rcases List.mem_or_eq_of_mem_set member with old | rfl
        · exact good d old leaf signed
        · obtain ⟨host, stage⟩ := c
          cases goes with
          | sign signer leaf loaded made =>
              obtain ⟨name, stands, _⟩ := (Leaf.of_issue made).1.named
              rw [SubjectName.ofHost?_eq_some_iff.mpr stands]
              exact Option.some_ne_none name
          | hit | miss | fail | store | rest => cases signed
    | idle | load | keep => exact good
  · intro c member
    cases member

/-! ## Purging -/

/-- As long as no other authority is loaded, each call that begins from now on is answered by this
one, once it has taken its three steps, whatever else happens meanwhile. -/
def ServedBy (s : SharedIssuer) (root : Root) : Prop :=
  ∀ earlier later : List IssuerEvent, (∀ other, .load other ∉ earlier ++ later) →
    ∀ place c, s.calls.length ≤ place → (s.run earlier).calls[place]? = some c →
      3 ≤ later.countP (·.goes place) →
        ∃ answer, (s.run (earlier ++ later)).calls[place]? = some ⟨c.host, .answered answer⟩ ∧
          AnsweredBy root c.host answer

theorem Loyal.servedBy (loyal : Loyal root s.calls.length s) : s.ServedBy root := by
  intro earlier later quiet place c late known steps
  have left : (s.run earlier).HasLeft place c.host 3 :=
    ⟨c.stage, known, by cases c.stage <;> simp only [CallStage.left] <;> omega⟩
  obtain ⟨stage, here, few⟩ := left.run later
  rw [Nat.sub_eq_zero_of_le steps, Nat.le_zero] at few
  obtain ⟨answer, rfl⟩ := CallStage.answered_of_left few
  rw [run_append]
  refine ⟨answer, here, ?_⟩
  have after := loyal.run quiet
  rw [run_append] at after
  exact after.calls place _ here late

theorem ServedBy.of_answered (served : s.ServedBy root) {events : List IssuerEvent}
    (quiet : ∀ other, .load other ∉ events) {place : Nat} (late : s.calls.length ≤ place)
    {host : Text} {answer : Except CertificateError Leaf}
    (given : (s.run events).calls[place]? = some ⟨host, .answered answer⟩) :
    AnsweredBy root host answer := by
  let idle : List IssuerEvent := [.go place 0, .go place 0, .go place 0]
  have still : ∀ other, .load other ∉ events ++ idle := by
    intro other member
    rcases List.mem_append.mp member with old | new
    · exact quiet other old
    · simp [idle] at new
  obtain ⟨same, told, mine⟩ := served events idle still place _ late given
    (by simp [idle, IssuerEvent.goes])
  rw [run_append, answered_run given idle] at told
  cases told
  exact mine

/-- A call stores the certificate that it holds, and the next call for its host gets that. -/
theorem overtaken (room : 0 < s.issuer.cache.capacity) {place : Nat} {host : Text} {leaf : Leaf}
    (known : s.calls[place]? = some ⟨host, .signed leaf⟩) :
    (s.run [.go place 0, .call host, .go s.calls.length 0]).calls[s.calls.length]? =
      some ⟨host, .answered (.ok leaf)⟩ := by
  let t : SharedIssuer :=
    { s with
      issuer := { s.issuer with cache := s.issuer.cache.put host leaf (Issuer.keptUntil 0) }
      calls := s.calls.set place ⟨host, .answered (.ok leaf)⟩ ++ [{ host }] }
  have stored : s.run [.go place 0, .call host] = t := by
    simp only [run, List.foldl_cons, List.foldl_nil, step, known, CallStage.next, t]
  have begun : t.calls[s.calls.length]? = some { host } := by
    simp [t]
  have inside : s.calls.length < t.calls.length := (List.getElem?_eq_some_iff.mp begun).1
  have found := Cache.get_put room (by decide : 0 < Issuer.keptUntil 0) host leaf
  have given : (t.step (.go s.calls.length 0)).calls[s.calls.length]? =
      some ⟨host, .answered (.ok leaf)⟩ := by
    simp only [step, begun, CallStage.next, t]
    generalize (s.issuer.cache.put host leaf (Issuer.keptUntil 0)).get 0 host = asked at found ⊢
    obtain ⟨cache, answer⟩ := asked
    obtain rfl : answer = some leaf := found
    exact List.getElem?_set_self inside
  have whole := run_append s [.go place 0, .call host] [.go s.calls.length 0]
  rw [stored] at whole
  exact whole ▸ given

/-- An authority is loaded and then the cache is purged. From then on all calls are answered by this
authority exactly if no call that has begun before holds a certificate of another one. -/
theorem purge_final_iff {capacity : Nat} (room : 0 < capacity) (before between : List IssuerEvent)
    (root : Root) (quiet : ∀ other, .load other ∉ between) :
    let s := (start capacity).run (before ++ .load (.ok root) :: between ++ [.purge])
    s.ServedBy root ↔
      ∀ c ∈ s.calls, ∀ leaf, c.stage = .signed leaf → leaf.IsFor c.host root := by
  intro s
  have last : s = ((((start capacity).run before).step (.load (.ok root))).run between).step
      .purge := by
    simp only [s, run, List.append_assoc, List.cons_append, List.foldl_append, List.foldl_cons,
      List.foldl_nil]
  have loaded : s.root = .ok root := by
    rw [last]
    exact root_run quiet
  have empty : s.issuer.cache.entries = [] := by
    rw [last]
    rfl
  have size : s.issuer.cache.capacity = capacity := capacity_run (start capacity) _
  constructor
  · intro served c member leaf signed
    have issuable := issuable_run capacity _ c member leaf signed
    obtain ⟨place, known⟩ := List.getElem?_of_mem member
    obtain ⟨host, stage⟩ := c
    obtain rfl : stage = .signed leaf := signed
    have given := overtaken (size ▸ room) known
    have mine := served.of_answered (by simp) (Nat.le_refl _) given
    rcases mine with ⟨_, ⟨⟩, mine⟩ | unissuable
    · exact mine
    · exact absurd unissuable issuable
  · intro held
    apply Loyal.servedBy
    refine ⟨loaded, ?_, ?_⟩
    · rw [empty]
      exact fun e member => nomatch member
    · intro place c known
      obtain ⟨host, stage⟩ := c
      cases stage with
      | begun | missed => trivial
      | signed leaf => exact held _ (List.mem_of_getElem? known) leaf rfl
      | answered answer =>
          intro late
          exact absurd (List.getElem?_eq_some_iff.mp known).1 (Nat.not_lt.mpr late)

/-- One call is over before the other authority is loaded, and another has only missed the cache by
then. -/
theorem purge_final_iff_missed :
    let old := Root.generate 0 0
    let root := Root.generate 1 0
    let before : List IssuerEvent :=
      [.load (.ok old), .call "a.com", .go 0 0, .go 0 0, .go 0 0, .call "b.com", .go 1 0]
    ((start 2).run (before ++ .load (.ok root) :: [.go 1 0] ++ [.purge])).ServedBy root := by
  intro old root before
  refine (purge_final_iff (by decide) before [.go 1 0] root (by simp)).mpr ?_
  obtain ⟨answer, leaf, calls, made⟩ : ∃ answer leaf,
      ((start 2).run (before ++ .load (.ok root) :: [.go 1 0] ++ [.purge])).calls =
          [⟨"a.com", .answered answer⟩, ⟨"b.com", .signed leaf⟩] ∧
        Leaf.issue root 1 0 "b.com" = .ok leaf := ⟨_, _, rfl, rfl⟩
  rw [calls]
  intro c member other signed
  simp only [List.mem_cons, List.not_mem_nil, or_false] at member
  rcases member with rfl | rfl
  · cases signed
  · cases signed
    exact (Leaf.of_issue made).1

/-- A call has issued a certificate of the old authority when the new one is loaded and the cache is
purged, and stores it then. Who asks next, after all this, is given the old certificate. -/
theorem old_certificate_after_purge :
    let old := Root.generate 0 0
    let root := Root.generate 1 0
    let s := (start 2).run
      [.load (.ok old), .call "a.com", .go 0 0, .go 0 0, .load (.ok root), .purge]
    ¬s.ServedBy root ∧
      ∃ leaf, (s.run [.go 0 1, .call "a.com", .go 1 2]).calls[1]? =
          some ⟨"a.com", .answered (.ok leaf)⟩ ∧
        leaf.certificate.signer = old.key ∧ old.key ≠ root.key := by
  intro old root s
  obtain ⟨leaf, given, signer⟩ : ∃ leaf, (s.run [.go 0 1, .call "a.com", .go 1 2]).calls[1]? =
      some ⟨"a.com", .answered (.ok leaf)⟩ ∧ leaf.certificate.signer = old.key := ⟨_, rfl, rfl⟩
  have apart : old.key ≠ root.key := by decide
  refine ⟨fun served => ?_, leaf, given, signer, apart⟩
  rcases served.of_answered (by simp) (by decide) given with ⟨_, ⟨⟩, mine⟩ | unissuable
  · exact apart (signer.symm.trans mine.signer)
  · exact absurd unissuable (by decide)

end SharedIssuer

end FilteringProxy
