import FilteringProxy.Proofs.Proxy.Closed
import FilteringProxy.Proofs.Proxy.TransparentHosts

/-! # Where a connection goes

A client asks for a connection to a host. Whether it is passed through or intercepted is decided by
what was configured, by the failures of secure connections so far, and by whether there is a
certificate for the host. Nothing else that happened before has a part in it.
-/

namespace FilteringProxy

open Http (Request Uri)

/-! ## Certificates -/

/-- No certificate is to be had when none is kept and none can be issued. -/
theorem Issuer.get_error_iff {i : Issuer} {root : Except CertificateError Root} {clock : Clock}
    {host : Text} :
    (∃ fault, (i.get root clock host).2 = .error fault) ↔
      (i.cache.get clock.lookup host).2 = none ∧
        ((∃ fault, root = .error fault) ∨ SubjectName.ofHost? host = none) := by
  rw [get]
  cases i.cache.get clock.lookup host with | mk cache kept =>
    cases kept with
    | some leaf => simp
    | none =>
        cases root with
        | error fault => simp
        | ok root =>
            cases name : SubjectName.ofHost? host with
            | none => simp [Leaf.issue, name]
            | some name' => simp [Leaf.issue, name]

namespace Proxy

variable {p : Proxy} {w : Surroundings} {input : Input}

/-- A proxy that has not done anything yet. -/
def start (filter : Filter) (ignored : List Text) (issuer : Issuer) : Proxy :=
  { filter, transparent := .ofList ignored, issuer }

/-! ## One connection -/

/-- Connections to the host are not intercepted. -/
inductive Exempts (p : Proxy) (w : Surroundings) (host : Text) : Prop where
  | address (numbers : Url.isAddress host = true)
  | transparent {name : Text} (member : name ∈ p.transparent.names)
      (within : IsWithin (TransparentHosts.normalize host) name)
  | uncertified (none_kept : (p.issuer.cache.get w.clock.lookup host).2 = none)
      (fault : (∃ fault, w.root = .error fault) ∨ SubjectName.ofHost? host = none)

/-- The connection is passed through to the place that was asked for. -/
def Tunnels (p : Proxy) (w : Surroundings) (target : Uri) : Prop :=
  (step w p (.connect target)).2 = dial w target.authority ∧
    (step w p (.connect target)).1.sessions = p.sessions

/-- The connection is offered to be secured by the proxy itself, and nothing is contacted. -/
def Intercepts (p : Proxy) (w : Surroundings) (target : Uri) : Prop :=
  ∃ leaf, (step w p (.connect target)).2 = (.session p.sessions.length leaf, {}) ∧
    (step w p (.connect target)).1.sessions =
      p.sessions ++ [{ authority := target.authority }]

theorem not_intercepts_of_tunnels {target : Uri} (tunnels : p.Tunnels w target) :
    ¬p.Intercepts w target := by
  rintro ⟨leaf, offered, -⟩
  have contacts := congrArg (·.2.contacts) (tunnels.1.symm.trans offered)
  cases contacts

theorem connect_cases {target : Uri} (named : target.authority ≠ []) :
    p.Exempts w (knownHost target.authority) ∧ p.Tunnels w target ∨
      ¬p.Exempts w (knownHost target.authority) ∧ p.Intercepts w target := by
  have exempts_iff : p.Exempts w (knownHost target.authority) ↔
      (Url.isAddress (knownHost target.authority) ||
        p.transparent.contains (knownHost target.authority)) = true ∨
      ∃ fault, (p.issuer.get w.root w.clock (knownHost target.authority)).2 = .error fault := by
    rw [Issuer.get_error_iff, Bool.or_eq_true, TransparentHosts.contains_iff]
    constructor
    · rintro (numbers | ⟨member, within⟩ | ⟨none_kept, fault⟩)
      · exact Or.inl (Or.inl numbers)
      · exact Or.inl (Or.inr ⟨_, member, within⟩)
      · exact Or.inr ⟨none_kept, fault⟩
    · rintro ((numbers | ⟨_, member, within⟩) | ⟨none_kept, fault⟩)
      · exact .address numbers
      · exact .transparent member within
      · exact .uncertified none_kept fault
  rw [exempts_iff]
  simp only [Tunnels, Intercepts, step, connect, if_neg named, route]
  cases Url.isAddress (knownHost target.authority) ||
      p.transparent.contains (knownHost target.authority) with
  | true => exact Or.inl ⟨Or.inl rfl, rfl, rfl⟩
  | false =>
      cases p.issuer.get w.root w.clock (knownHost target.authority) with | mk issuer result =>
        cases result with
        | ok leaf => exact Or.inr ⟨by simp, leaf, rfl, rfl⟩
        | error fault => exact Or.inl ⟨Or.inr ⟨fault, rfl⟩, rfl, rfl⟩

theorem tunnels_iff {target : Uri} (named : target.authority ≠ []) :
    p.Tunnels w target ↔ p.Exempts w (knownHost target.authority) := by
  rcases connect_cases named with ⟨exempt, tunnels⟩ | ⟨not_exempt, intercepts⟩
  · exact iff_of_true tunnels exempt
  · exact iff_of_false (fun tunnels => not_intercepts_of_tunnels tunnels intercepts) not_exempt

theorem intercepts_iff {target : Uri} (named : target.authority ≠ []) :
    p.Intercepts w target ↔ ¬p.Exempts w (knownHost target.authority) := by
  rcases connect_cases named with ⟨exempt, tunnels⟩ | ⟨not_exempt, intercepts⟩
  · exact iff_of_false (not_intercepts_of_tunnels tunnels) (not_not_intro exempt)
  · exact iff_of_true intercepts not_exempt

/-! ## What is learned -/

theorem Reveals.unique {host other : Text} (first : p.Reveals w input host)
    (second : p.Reveals w input other) : host = other := by
  cases first with
  | handshake known =>
      cases second with
      | handshake known' => cases known.symm.trans known'; rfl
  | inside known =>
      cases second with
      | inside known' => cases known.symm.trans known'; rfl

/-- A name becomes transparent exactly when it is revealed, and stays so. -/
theorem mem_names_step (p : Proxy) (w : Surroundings) (input : Input) (name : Text) :
    name ∈ (step w p input).1.transparent.names ↔
      name ∈ p.transparent.names ∨
        ∃ host, p.Reveals w input host ∧ TransparentHosts.normalize host = name := by
  rcases (step_moves w p input).transparent_cases with ⟨same, quiet⟩ | ⟨host, revealed, added⟩
  · rw [same, iff_self_or]
    rintro ⟨host, revealed, _⟩
    exact absurd revealed (quiet host)
  · rw [added, TransparentHosts.add, TransparentHosts.mem_insert]
    refine or_congr_right ⟨fun same => ⟨host, revealed, same.symm⟩, ?_⟩
    rintro ⟨other, revealed', rfl⟩
    rw [revealed.unique revealed']

theorem mem_names_run (p : Proxy) (inputs : List (Surroundings × Input)) (name : Text) :
    name ∈ (p.run inputs).transparent.names ↔
      name ∈ p.transparent.names ∨
        ∃ host, During (·.Reveals · · host) p inputs ∧ TransparentHosts.normalize host = name := by
  induction inputs generalizing p with
  | nil =>
      refine Iff.symm (or_iff_left ?_)
      rintro ⟨host, ⟨⟩, _⟩
  | cons entry inputs ih =>
      obtain ⟨w, input⟩ := entry
      rw [run_cons, ih, mem_names_step, or_assoc]
      refine or_congr_right ⟨?_, ?_⟩
      · rintro (⟨host, revealed, same⟩ | ⟨host, revealed, same⟩)
        · exact ⟨host, .now revealed, same⟩
        · exact ⟨host, .later revealed, same⟩
      · rintro ⟨host, revealed | revealed, same⟩
        · exact Or.inl ⟨host, revealed, same⟩
        · exact Or.inr ⟨host, revealed, same⟩

/-- The client asks for a connection to the authority, and gets one that is intercepted. -/
def Offers (authority : Text) (p : Proxy) (w : Surroundings) (input : Input) : Prop :=
  ∃ target, input = .connect target ∧ target.authority = authority ∧ p.Intercepts w target

theorem offers_of_mem {s : Session} (member : s ∈ (step w p input).1.sessions) :
    (∃ t ∈ p.sessions, t.authority = s.authority) ∨ p.Offers s.authority w input := by
  by_cases asked : ∃ target, input = .connect target
  · obtain ⟨target, rfl⟩ := asked
    by_cases named : target.authority = []
    · rw [step, connect, if_pos named] at member
      exact Or.inl ⟨s, member, rfl⟩
    rcases connect_cases named with ⟨_, _, same⟩ | ⟨_, leaf, offered, more⟩
    · rw [same] at member
      exact Or.inl ⟨s, member, rfl⟩
    · rw [more] at member
      rcases List.mem_append.mp member with old | new
      · exact Or.inl ⟨s, old, rfl⟩
      · rw [List.mem_singleton.mp new]
        exact Or.inr ⟨target, rfl, rfl, leaf, offered, more⟩
  · left
    refine (step_moves w p input).mem_sessions ?_ member
    intro target same
    exact asked ⟨target, same⟩

theorem offered_of_mem {s : Session} {inputs : List (Surroundings × Input)}
    (member : s ∈ (p.run inputs).sessions) :
    (∃ t ∈ p.sessions, t.authority = s.authority) ∨ During (Offers s.authority) p inputs := by
  induction inputs generalizing p with
  | nil => exact Or.inl ⟨s, member, rfl⟩
  | cons entry inputs ih =>
      obtain ⟨w, input⟩ := entry
      rcases ih member with ⟨t, member', same⟩ | offered
      · rw [← same]
        exact (offers_of_mem member').imp_right .now
      · exact Or.inr (.later offered)

/-! ## All runs -/

end Proxy

end FilteringProxy
