import FilteringProxy.Certificate.Issuer
import FilteringProxy.Proofs.Certificate.Recency

/-! # Certificates are right and still valid when they are given out

A certificate is dated before it is stored, and the cache counts its time from when it is stored. So
what is kept may be given out a little longer than it was meant to, by as much as issuing took. The
rest of the reserve is left.
-/

namespace FilteringProxy

/-! ## Dates -/

theorem dateOf_mono {s t : Int} (le : s ≤ t) : dateOf s ≤ dateOf t :=
  Int.ediv_le_ediv (by decide) le

/-! ## The name of a host -/

/-- The name that stands for a host: the address that the text spells, or else the text as it is. -/
inductive SubjectName.StandsFor (host : Text) : SubjectName → Prop where
  | address {bytes : List Nat} (spelled : Url.addressBytes? host = some bytes) :
      StandsFor host (.address bytes)
  | host (no_address : Url.addressBytes? host = none) (ascii : ∀ c ∈ host, c.toNat < 128) :
      StandsFor host (.host host)

theorem SubjectName.ofHost?_eq_some_iff {host : Text} {name : SubjectName} :
    ofHost? host = some name ↔ StandsFor host name := by
  rw [ofHost?]
  constructor
  · intro named
    split at named
    · rename_i bytes spelled
      cases named
      exact .address spelled
    · rename_i no_address
      rw [Option.ite_none_right_eq_some] at named
      obtain ⟨ascii, ⟨⟩⟩ := named
      exact .host no_address fun c member => of_decide_eq_true (List.all_eq_true.mp ascii c member)
  · intro stands
    cases stands with
    | address spelled => rw [spelled]
    | host no_address ascii =>
        have all : host.all (·.toNat < 128) = true :=
          List.all_eq_true.mpr fun c member => decide_eq_true (ascii c member)
        rw [no_address]
        exact if_pos all

example : SubjectName.ofHost? "127.0.0.1" = some (.address [127, 0, 0, 1]) := by
  decide

namespace Leaf

variable {root : Root} {number date : Nat} {host : Text} {leaf : Leaf}

/-- A leaf names the host and nothing else, and the authority that signs it. -/
structure IsFor (leaf : Leaf) (host : Text) (root : Root) : Prop where
  named : ∃ name, SubjectName.StandsFor host name ∧ leaf.certificate.names = [name]
  signer : leaf.certificate.signer = root.key
  issuer : leaf.certificate.issuer = root.certificate.subject

theorem of_issue (issued : issue root number date host = .ok leaf) :
    leaf.IsFor host root ∧ leaf.certificate.notBefore = dateOf (date - leeway) ∧
      leaf.certificate.notAfter = dateOf (date + lifetime) := by
  rw [issue] at issued
  cases named : SubjectName.ofHost? host with
  | none =>
      rw [named] at issued
      contradiction
  | some name =>
      rw [named] at issued
      obtain rfl := Except.ok.inj issued
      exact ⟨⟨⟨name, SubjectName.ofHost?_eq_some_iff.mp named, rfl⟩, rfl, rfl⟩, rfl, rfl⟩

theorem isValidAt_of_issue (issued : issue root number date host = .ok leaf) {time : Nat}
    (begun : date ≤ time + leeway) (lasts : time ≤ date + lifetime) :
    leaf.certificate.isValidAt time := by
  obtain ⟨-, first, last⟩ := of_issue issued
  rw [Certificate.isValidAt, first, last, Bool.and_eq_true, decide_eq_true_eq, decide_eq_true_eq]
  constructor
  · apply dateOf_mono
    omega
  · apply dateOf_mono
    omega

end Leaf

/-! ## The cache after a miss -/

namespace Cache

variable {c : Cache α} {host : Text}

theorem others_of_find?_eq_none (missing : c.find? host = none) : c.others host = c.entries :=
  List.filter_eq_self.mpr fun e member => bne_iff_ne.mpr (find?_eq_none.mp missing e member)

theorem get_of_find?_eq_none {now : Nat} (missing : c.find? host = none) :
    (c.get now host).2 = none := by
  simp only [get, missing]

theorem get_of_hit {now : Nat} {value : α} (hit : (c.get now host).2 = some value) :
    ∃ e ∈ c.entries, e.host = host ∧ e.value = value ∧ now < e.expires ∧
      (c.get now host).1 = { c with entries := e :: c.others host } := by
  cases found : c.find? host with
  | none => simp [get, found] at hit
  | some e =>
      obtain ⟨member, same⟩ := mem_of_find? found
      cases fresh : e.isFresh now with
      | false => simp [get, found, fresh] at hit
      | true =>
          refine ⟨e, member, same, ?_, of_decide_eq_true fresh, ?_⟩
          · simpa [get, found, fresh] using hit
          · simp [get, found, fresh]

theorem get_fst_of_missed {now : Nat} (missed : (c.get now host).2 = none) :
    (c.get now host).1 = { c with entries := c.others host } := by
  cases found : c.find? host with
  | none => simp only [get, found, others_of_find?_eq_none found]
  | some e =>
      cases fresh : e.isFresh now with
      | true => simp [get, found, fresh] at missed
      | false => simp [get, found, fresh]

theorem put_others (host : Text) (value : α) (expires : Nat) :
    ({ c with entries := c.others host } : Cache α).put host value expires =
      c.put host value expires := by
  simp only [put, others, List.filter_filter, Bool.and_self]

theorem find?_others (c : Cache α) (host : Text) :
    ({ c with entries := c.others host } : Cache α).find? host = none :=
  find?_eq_none.mpr fun _ member => (mem_others.mp member).2

end Cache

namespace Issuer

/-! ## One call -/

/-- What a call may come to. -/
inductive Answers (i : Issuer) (root : Except CertificateError Root) (clock : Clock) (host : Text) :
    Issuer × Except CertificateError Leaf → Prop where
  | kept (e : CacheEntry Leaf) (member : e ∈ i.cache.entries) (same : e.host = host)
      (fresh : clock.lookup < e.expires) (hit : (i.cache.get clock.lookup host).2 = some e.value) :
      Answers i root clock host
        ({ i with cache := { i.cache with entries := e :: i.cache.others host } }, .ok e.value)
  | issued (signer : Root) (leaf : Leaf) (missed : (i.cache.get clock.lookup host).2 = none)
      (loaded : root = .ok signer) (made : Leaf.issue signer i.issued clock.date host = .ok leaf) :
      Answers i root clock host
        ({ cache := i.cache.put host leaf (keptUntil clock.store), issued := i.issued + 1 },
          .ok leaf)
  | failed (error : CertificateError) (missed : (i.cache.get clock.lookup host).2 = none)
      (unmade : (root.bind fun signer => Leaf.issue signer i.issued clock.date host) =
        .error error) :
      Answers i root clock host
        ({ i with cache := { i.cache with entries := i.cache.others host } }, .error error)

theorem get_of_hit {i : Issuer} {clock : Clock} {host : Text} {leaf : Leaf}
    (hit : (i.cache.get clock.lookup host).2 = some leaf) (root : Except CertificateError Root) :
    i.get root clock host = ({ i with cache := (i.cache.get clock.lookup host).1 }, .ok leaf) := by
  rw [get]
  generalize i.cache.get clock.lookup host = result at hit ⊢
  obtain ⟨cache, answer⟩ := result
  obtain rfl : answer = some leaf := hit
  rfl

theorem get_of_missed {i : Issuer} {clock : Clock} {host : Text}
    (missed : (i.cache.get clock.lookup host).2 = none) (root : Except CertificateError Root) :
    i.get root clock host =
      match root.bind fun signer => Leaf.issue signer i.issued clock.date host with
      | .error e => ({ i with cache := { i.cache with entries := i.cache.others host } }, .error e)
      | .ok leaf =>
        ({ cache := i.cache.put host leaf (keptUntil clock.store), issued := i.issued + 1 },
          .ok leaf) := by
  have dropped := Cache.get_fst_of_missed missed
  rw [get]
  generalize i.cache.get clock.lookup host = result at missed dropped
  obtain ⟨cache, answer⟩ := result
  obtain rfl : answer = none := missed
  obtain rfl := dropped
  cases root with
  | error e => rfl
  | ok signer =>
      dsimp only [Except.bind]
      cases Leaf.issue signer i.issued clock.date host with
      | error e => rfl
      | ok leaf =>
          dsimp only
          rw [Cache.put_others]

theorem get_snd_of_missed {i : Issuer} {clock : Clock} {host : Text}
    (missed : (i.cache.get clock.lookup host).2 = none) (root : Except CertificateError Root) :
    (i.get root clock host).2 =
      root.bind fun signer => Leaf.issue signer i.issued clock.date host := by
  rw [get_of_missed missed]
  cases root.bind fun signer => Leaf.issue signer i.issued clock.date host <;> rfl

theorem get_answers (i : Issuer) (root : Except CertificateError Root) (clock : Clock)
    (host : Text) : i.Answers root clock host (i.get root clock host) := by
  cases found : (i.cache.get clock.lookup host).2 with
  | some leaf =>
      obtain ⟨e, member, same, rfl, fresh, cache⟩ := Cache.get_of_hit found
      rw [get_of_hit found, cache]
      exact .kept e member same fresh found
  | none =>
      rw [get_of_missed found]
      cases made : root.bind fun signer => Leaf.issue signer i.issued clock.date host with
      | error e => exact .failed e found made
      | ok leaf =>
          cases root with
          | error e => contradiction
          | ok signer => exact .issued signer leaf found rfl made

theorem mem_get {i : Issuer} {root : Except CertificateError Root} {clock : Clock} {host : Text}
    {e : CacheEntry Leaf} (member : e ∈ (i.get root clock host).1.cache.entries) :
    e ∈ i.cache.entries ∨
      e.host = host ∧ e.expires = keptUntil clock.store ∧
        (i.cache.get clock.lookup host).2 = none ∧
        ∃ signer, root = .ok signer ∧ Leaf.issue signer i.issued clock.date host = .ok e.value := by
  have answers := get_answers i root clock host
  generalize i.get root clock host = result at answers member
  cases answers with
  | kept f there same fresh hit =>
      rcases List.mem_cons.mp member with rfl | member
      · exact Or.inl there
      · exact Or.inl (Cache.mem_others.mp member).1
  | issued signer leaf missed loaded made =>
      rcases List.mem_cons.mp (List.mem_of_mem_take member) with rfl | member
      · exact Or.inr ⟨rfl, rfl, missed, signer, loaded, made⟩
      · exact Or.inl (Cache.mem_others.mp member).1
  | failed error missed unmade => exact Or.inl (Cache.mem_others.mp member).1

end Issuer

/-! ## Runs -/

/-- A use of an issuer. At each call, loading the authority comes to `root`. -/
inductive IssuerUse where
  | get (host : Text) (root : Except CertificateError Root) (clock : Clock)
  | sweep (time : Nat)
  | purge (time : Nat)

namespace IssuerUse

def begins : IssuerUse → Nat
  | get _ _ clock => clock.lookup
  | sweep time | purge time => time

def ends : IssuerUse → Nat
  | get _ _ clock => clock.store
  | sweep time | purge time => time

/-- The clock never goes back, and from the date of a certificate to storing it no more than `delay`
passes. -/
structure Orderly (delay : Nat) (uses : List IssuerUse) : Prop where
  reads : ∀ host root clock, get host root clock ∈ uses →
    clock.lookup ≤ clock.date ∧ clock.date ≤ clock.store ∧ clock.store ≤ clock.date + delay
  row : uses.Pairwise fun u v => u.ends ≤ v.begins

end IssuerUse

namespace Issuer

open IssuerUse

def use (i : Issuer) : IssuerUse → Issuer
  | .get host root clock => (i.get root clock host).1
  | .sweep time => { i with cache := (i.cache.sweep time).1 }
  | .purge _ => { i with cache := i.cache.purge }

/-- A new issuer after a row of uses. -/
def play (capacity : Nat) (uses : List IssuerUse) : Issuer :=
  uses.foldl use { cache := { capacity } }

theorem play_concat (capacity : Nat) (uses : List IssuerUse) (u : IssuerUse) :
    play capacity (uses ++ [u]) = (play capacity uses).use u := by
  simp only [play, List.foldl_append, List.foldl_cons, List.foldl_nil]

/-- After the uses `front`, asking for the host issued the leaf, with this authority and at these
times. -/
structure Issued (capacity : Nat) (front : List IssuerUse) (host : Text) (root : Root)
    (clock : Clock) (leaf : Leaf) : Prop where
  missed : ((play capacity front).cache.get clock.lookup host).2 = none
  issued : Leaf.issue root (play capacity front).issued clock.date host = .ok leaf

/-- Every entry was issued for its host in some call, and is kept from that call on. -/
theorem play_entries (capacity : Nat) (uses : List IssuerUse) :
    ∀ e ∈ (play capacity uses).cache.entries, ∃ front root clock,
      front ++ [.get e.host (.ok root) clock] <+: uses ∧
        Issued capacity front e.host root clock e.value ∧ e.expires = keptUntil clock.store := by
  induction uses using List.reverseRecOn with
  | nil =>
      intro e member
      exact absurd member List.not_mem_nil
  | append_singleton uses u ih =>
      intro e member
      have older (there : e ∈ (play capacity uses).cache.entries) : ∃ front root clock,
          front ++ [.get e.host (.ok root) clock] <+: uses ++ [u] ∧
            Issued capacity front e.host root clock e.value ∧
            e.expires = keptUntil clock.store := by
        obtain ⟨front, root, clock, here, issued⟩ := ih e there
        exact ⟨front, root, clock, here.trans (List.prefix_append _ _), issued⟩
      rw [play_concat] at member
      cases u with
      | get host root clock =>
          rcases mem_get member with there | ⟨rfl, expires, missed, signer, rfl, made⟩
          · exact older there
          · exact ⟨uses, signer, clock, List.prefix_rfl, ⟨missed, made⟩, expires⟩
      | sweep time => exact older (List.mem_of_mem_filter member)
      | purge time => contradiction

/-- When the answer to a call stands: when the cache gave it, or when it was stored. -/
def answeredAt (i : Issuer) (clock : Clock) (host : Text) : Nat :=
  if (i.cache.get clock.lookup host).2.isSome then clock.lookup else clock.store

/-- What an orderly run issued before is still valid for a while when the cache gives it out. -/
theorem isValidAt_of_kept {capacity delay : Nat} {front uses : List IssuerUse} {host : Text}
    {root : Root} {clock : Clock} {leaf : Leaf} {now : IssuerUse}
    (orderly : Orderly delay (uses ++ [now]))
    (here : front ++ [.get host (.ok root) clock] <+: uses)
    (issued : Issued capacity front host root clock leaf)
    (fresh : now.begins < keptUntil clock.store) {time : Nat} (later : now.begins ≤ time)
    (lasts : time + delay ≤ now.begins + reserve) : leaf.certificate.isValidAt time := by
  have member : IssuerUse.get host (.ok root) clock ∈ uses := here.subset List.mem_concat_self
  obtain ⟨-, dated, stored⟩ := orderly.reads _ _ _ (List.mem_append_left _ member)
  have before : clock.store ≤ now.begins :=
    (List.pairwise_append.mp orderly.row).2.2 _ member now (List.mem_singleton_self now)
  have enough : reserve ≤ Leaf.lifetime := by decide
  rw [keptUntil] at fresh
  exact Leaf.isValidAt_of_issue issued.issued (by omega) (by omega)

theorem isValidAt_of_new {capacity delay : Nat} {uses : List IssuerUse} {host : Text} {root : Root}
    {clock : Clock} {leaf : Leaf} (orderly : Orderly delay (uses ++ [.get host (.ok root) clock]))
    (issued : Issued capacity uses host root clock leaf) {time : Nat} (later : clock.store ≤ time)
    (lasts : time + delay ≤ clock.store + reserve) : leaf.certificate.isValidAt time := by
  obtain ⟨-, dated, stored⟩ := orderly.reads _ _ _ List.mem_concat_self
  have enough : reserve ≤ Leaf.lifetime := by decide
  exact Leaf.isValidAt_of_issue issued.issued (by omega) (by omega)

/-- A leaf that is given out was issued for the very host, by this call or an earlier one, with the
authority that was loaded at that call; and from then on it is valid for five minutes less what
issuing took. A call that fails leaves nothing for the host and all that is kept for others, so
that the next call for the host issues again. -/
theorem get_right_and_valid (capacity delay : Nat) (uses : List IssuerUse) (host : Text)
    (root : Except CertificateError Root) (clock : Clock)
    (orderly : Orderly delay (uses ++ [.get host root clock])) :
    let i := play capacity uses
    let given := i.get root clock host
    (∀ leaf, given.2 = .ok leaf →
      (∃ front signer clock',
        front ++ [.get host (.ok signer) clock'] <+: uses ++ [.get host root clock] ∧
          Issued capacity front host signer clock' leaf ∧ leaf.IsFor host signer) ∧
      ∀ time, i.answeredAt clock host ≤ time →
        time + delay ≤ i.answeredAt clock host + 5 * 60 * 1000 → leaf.certificate.isValidAt time) ∧
    (∀ e, given.2 = .error e →
      given.1.cache.find? host = none ∧ given.1.cache.entries = i.cache.others host ∧
      ∀ root' clock', (given.1.get root' clock' host).2 =
        root'.bind fun signer => Leaf.issue signer i.issued clock'.date host) := by
  intro i given
  have answers : i.Answers root clock host given := get_answers i root clock host
  clear_value given
  cases answers with
  | kept e member same fresh hit =>
      refine ⟨?_, fun _ failed => by contradiction⟩
      intro leaf same'
      obtain rfl := Except.ok.inj same'
      obtain ⟨front, signer, clock', here, issued, expires⟩ := play_entries capacity uses e member
      rw [same] at here issued
      rw [expires] at fresh
      refine ⟨⟨front, signer, clock', here.trans (List.prefix_append _ _), issued, ?_⟩, ?_⟩
      · exact (Leaf.of_issue issued.issued).1
      · intro time
        rw [answeredAt, hit]
        exact isValidAt_of_kept orderly here issued fresh
  | issued signer leaf missed loaded made =>
      refine ⟨?_, fun _ failed => by contradiction⟩
      intro leaf' same
      obtain rfl := Except.ok.inj same
      obtain rfl := loaded
      have issued : Issued capacity uses host signer clock leaf := ⟨missed, made⟩
      refine ⟨⟨uses, signer, clock, List.prefix_rfl, issued, (Leaf.of_issue made).1⟩, ?_⟩
      intro time
      rw [answeredAt, missed]
      exact isValidAt_of_new orderly issued
  | failed error missed unmade =>
      refine ⟨fun _ done => by contradiction, ?_⟩
      intro _ _
      have missing := Cache.find?_others i.cache host
      refine ⟨missing, rfl, ?_⟩
      intro root' clock'
      exact get_snd_of_missed (Cache.get_of_find?_eq_none missing) root'

/-- A leaf that took three milliseconds to issue is given out in the last millisecond before it is
dropped, when loading the authority would fail. -/
theorem get_right_and_valid_last :
    let uses := [IssuerUse.get ['a'] (.ok (Root.generate 0 0)) ⟨0, 2, 5⟩]
    let last := keptUntil 5 - 1
    ∃ leaf, ((play 1 uses).get (.error .notInitialized) ⟨last, last, last⟩ ['a']).2 = .ok leaf ∧
      leaf.certificate.isValidAt (last + reserve - 3 : Nat) := by
  intro uses last
  have orderly : Orderly 3 (uses ++ [.get ['a'] (.error .notInitialized) ⟨last, last, last⟩]) := by
    constructor
    · intro host root clock member
      simp only [uses, List.cons_append, List.nil_append, List.mem_cons, IssuerUse.get.injEq,
        List.not_mem_nil, or_false] at member
      obtain ⟨-, -, rfl⟩ | ⟨-, -, rfl⟩ := member <;> decide
    · simp only [uses, List.cons_append, List.nil_append, List.pairwise_pair, begins, ends]
      decide
  obtain ⟨given, -⟩ :=
    get_right_and_valid 1 3 uses ['a'] (.error .notInitialized) ⟨last, last, last⟩ orderly
  have hit : ((play 1 uses).get (.error .notInitialized) ⟨last, last, last⟩ ['a']).2.toBool := by
    decide
  cases answer : ((play 1 uses).get (.error .notInitialized) ⟨last, last, last⟩ ['a']).2 with
  | error e =>
      rw [answer] at hit
      contradiction
  | ok leaf =>
      refine ⟨leaf, rfl, (given leaf answer).2 (last + reserve - 3) ?_ ?_⟩
      · decide
      · decide

end Issuer

end FilteringProxy
