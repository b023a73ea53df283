import FilteringProxy.Proofs.Proxy.Target
import FilteringProxy.Proofs.RuleSet.Frame

/-! # What a step may do

A step of the proxy is one of a few moves. Its filter never changes, an intercepted connection keeps
the authority it was opened for, and a host becomes transparent only when a secure connection fails
that speaks for it.
-/

namespace FilteringProxy

open Http (Request Uri)

namespace Proxy

variable {p q : Proxy} {w : Surroundings} {input : Input}

/-! ## Failures of secure connections -/

/-- The request is sent to its origin, and fails with words that only messages about secure
connections have. -/
def SendFails (w : Surroundings) (head : Request) (body : Bytes) : Prop :=
  ∃ d stage messages, Dispatch.ordinary head body = .ok d ∧ w.reach d = .failed stage messages ∧
    Failure.isTls (Failure.describe (clientMessages stage messages)) = true

/-- The filter passes the request on, and then it fails so. -/
def ServeFails (p : Proxy) (w : Surroundings) (r : Request) (body : Bytes) : Prop :=
  ∃ head events, p.decide r = (.forward head, events) ∧ SendFails w head (sentBody r body)

/-- So does a request that was read on an intercepted connection. -/
def InsideFails (p : Proxy) (w : Surroundings) (s : Session) (r : Request) (body : Bytes) : Prop :=
  ∃ uri, s.target? r.uri = some uri ∧ p.ServeFails w { r with uri } body

/-- The input makes a secure connection fail that speaks for the host: the client refuses the offer
of an intercepted connection to the host, or a request on such a connection fails at its origin. -/
inductive Reveals (p : Proxy) (w : Surroundings) : Input → Text → Prop where
  | handshake {place : Nat} {s : Session} (known : p.sessions[place]? = some s)
      (opening : s.stage = .opening) : Reveals p w (.handshake place .broken) s.host
  | inside {place : Nat} {s : Session} {r : Request} {body : Bytes}
      (known : p.sessions[place]? = some s) (secured : s.stage = .secured)
      (fails : p.InsideFails w s r body) : Reveals p w (.inside place r body) s.host

/-- What a step may make of the proxy. -/
inductive Moves (w : Surroundings) (p : Proxy) : Input → Proxy → Prop where
  | stay {input : Input} (quiet : ∀ host, ¬p.Reveals w input host) : Moves w p input p
  | issue {target : Uri} {issuer : Issuer} : Moves w p (.connect target) { p with issuer }
  | offer {target : Uri} {issuer : Issuer} :
      Moves w p (.connect target)
        { p with issuer, sessions := p.sessions ++ [{ authority := target.authority }] }
  | settle {place : Nat} {result : Handshake} {stage : SessionStage}
      (quiet : ∀ host, ¬p.Reveals w (.handshake place result) host) :
      Moves w p (.handshake place result) (p.atStage place stage)
  | refuse {place : Nat} {s : Session} (known : p.sessions[place]? = some s)
      (opening : s.stage = .opening) :
      Moves w p (.handshake place .broken) ((p.learn s.host).atStage place .closed)
  | learn {place : Nat} {s : Session} {r : Request} {body : Bytes}
      (known : p.sessions[place]? = some s) (secured : s.stage = .secured)
      (fails : p.InsideFails w s r body) : Moves w p (.inside place r body) (p.learn s.host)

/-! ## Requests -/

theorem ordinary_https {head : Request} (https : head.uri.scheme = some "https") (body : Bytes) :
    ∃ d, Dispatch.ordinary head body = .ok d := by
  rw [Dispatch.ordinary, https]
  exact ⟨_, rfl⟩

theorem sendFails_iff {head : Request} {body : Bytes} {d : Dispatch}
    (sent : Dispatch.ordinary head body = .ok d) :
    SendFails w head body ↔ ∃ stage messages, w.reach d = .failed stage messages ∧
      Failure.isTls (Failure.describe (clientMessages stage messages)) = true := by
  constructor
  · rintro ⟨d', stage, messages, sent', failed⟩
    cases sent.symm.trans sent'
    exact ⟨stage, messages, failed⟩
  · rintro ⟨stage, messages, failed⟩
    exact ⟨d, stage, messages, sent, failed⟩

theorem send_none (p : Proxy) (w : Surroundings) (head : Request) (body : Bytes) :
    (p.send w none head body).1 = p := by
  unfold send
  split
  · rfl
  · dsimp only
    split <;> rfl

theorem send_some {head : Request} (https : head.uri.scheme = some "https") (p : Proxy)
    (w : Surroundings) (host : Text) (body : Bytes) :
    (p.send w (some host) head body).1 = p ∧ ¬SendFails w head body ∨
      (p.send w (some host) head body).1 = p.learn host ∧ SendFails w head body := by
  obtain ⟨d, sent⟩ := ordinary_https https body
  rw [sendFails_iff sent]
  cases reached : w.reach d with
  | answered reply =>
      simp only [send, sent, reached]
      exact Or.inl ⟨trivial, nofun⟩
  | failed stage messages =>
      simp only [send, sent, reached, fail]
      by_cases tls : Failure.isTls (Failure.describe (clientMessages stage messages)) = true
      · rw [if_pos tls]
        exact Or.inr ⟨rfl, stage, messages, rfl, tls⟩
      · rw [if_neg tls]
        refine Or.inl ⟨rfl, ?_⟩
        rintro ⟨stage', messages', same, tls'⟩
        cases same
        exact tls tls'
  | timedOut stage =>
      simp only [send, sent, reached]
      exact Or.inl ⟨trivial, nofun⟩

theorem serve_none (p : Proxy) (w : Surroundings) (r : Request) (body : Bytes) :
    (p.serve w none r body).1 = p := by
  unfold serve
  cases p.decide r with | mk decision events =>
    cases decision with
    | answer response => rfl
    | upgrade r => rfl
    | forward head => exact p.send_none w head _

theorem parts_of_decide {r head : Request} {decision : Decision} {events : List Event}
    (decided : p.decide r = (decision, events))
    (passed : decision = .forward head ∨ decision = .upgrade head) :
    head.uri.scheme = r.uri.scheme ∧ head.uri.authority = r.uri.authority := by
  have pruned := p.filter.rules.onRequest_pruned r
  rw [← Filter.request_onRequest] at pruned
  unfold decide at decided
  cases answered : (p.filter.onRequest r).response with
  | some response =>
      simp only [answered] at decided
      cases decided
      simp only [reduceCtorEq, or_self] at passed
  | none =>
      simp only [answered] at decided
      split at decided
      · cases decided
        rcases passed with (⟨⟨⟩⟩ | ⟨⟨⟩⟩)
        exact ⟨pruned.scheme, pruned.authority⟩
      · cases decided
        rcases passed with (⟨⟨⟩⟩ | ⟨⟨⟩⟩)
        exact ⟨pruned.scheme, pruned.authority⟩

theorem serve_some {r : Request} (https : r.uri.scheme = some "https") (p : Proxy)
    (w : Surroundings) (host : Text) (body : Bytes) :
    (p.serve w (some host) r body).1 = p ∧ ¬p.ServeFails w r body ∨
      (p.serve w (some host) r body).1 = p.learn host ∧ p.ServeFails w r body := by
  unfold serve ServeFails
  cases decided : p.decide r with | mk decision events =>
    cases decision with
    | answer response => exact Or.inl ⟨rfl, nofun⟩
    | upgrade r => exact Or.inl ⟨rfl, nofun⟩
    | forward head =>
        have https' := (parts_of_decide decided (Or.inl rfl)).1.trans https
        rcases send_some https' p w host (sentBody r body) with ⟨same, fine⟩ | ⟨learned, fails⟩
        · refine Or.inl ⟨same, ?_⟩
          rintro ⟨_, _, same, fails⟩
          cases same
          exact fine fails
        · exact Or.inr ⟨learned, head, events, rfl, fails⟩

theorem inside_of_secured {place : Nat} {s : Session} (known : p.sessions[place]? = some s)
    (secured : s.stage = .secured) (w : Surroundings) (r : Request) (body : Bytes) :
    (p.inside w place r body).1 = p ∧ ¬p.InsideFails w s r body ∨
      (p.inside w place r body).1 = p.learn s.host ∧ p.InsideFails w s r body := by
  simp only [inside, known, secured, if_true, intercepted, InsideFails]
  cases target : s.target? r.uri with
  | none => exact Or.inl ⟨rfl, nofun⟩
  | some uri =>
      simp only [Option.some.injEq, exists_eq_left']
      exact serve_some (Session.target?_scheme target) p w s.host body

/-! ## Contacts -/

theorem host_of_send {intercepted : Option Text} {head : Request} {body : Bytes} {c : Contact}
    (member : c ∈ (p.send w intercepted head body).2.2.contacts) :
    c.host = bareHost (Uri.hostOf head.uri.authority) := by
  unfold send at member
  cases sent : Dispatch.ordinary head body with
  | error messages =>
      rw [sent] at member
      cases member
  | ok d =>
      have host : d.contact.host = bareHost (Uri.hostOf head.uri.authority) := by
        unfold Dispatch.ordinary at sent
        split at sent
        · cases sent
        · split at sent
          · cases sent
          · cases sent
            rfl
      rw [sent] at member
      have only : c ∈ [d.contact] := by
        cases reached : w.reach d with
        | answered reply => simpa only [reached] using member
        | failed stage messages => simpa only [reached] using member
        | timedOut stage => simpa only [reached] using member
      rw [List.mem_singleton.mp only, host]

theorem host_of_relay {r : Request} {body : Bytes} {c : Contact}
    (member : c ∈ (relay w r body).2.contacts) :
    c.host = bareHost (Uri.hostOf r.uri.authority) := by
  unfold relay Dispatch.upgrade? at member
  split at member
  · cases member
  · rename_i d sent
    rw [Option.ite_none_left_eq_some] at sent
    cases sent.2
    split at member
    · rw [List.mem_singleton.mp member]
    · rw [List.mem_singleton.mp member]

/-- A request is sent to nobody but the host of its target. -/
theorem host_of_serve {intercepted : Option Text} {r : Request} {body : Bytes} {c : Contact}
    (member : c ∈ (p.serve w intercepted r body).2.2.contacts) :
    c.host = bareHost (Uri.hostOf r.uri.authority) := by
  unfold serve at member
  cases decided : p.decide r with | mk decision events =>
    rw [decided] at member
    cases decision with
    | answer response => cases member
    | upgrade head =>
        rw [← (parts_of_decide decided (Or.inr rfl)).2]
        exact host_of_relay member
    | forward head =>
        rw [← (parts_of_decide decided (Or.inl rfl)).2]
        exact host_of_send member

/-! ## Steps -/

theorem connect_moves (w : Surroundings) (p : Proxy) (target : Uri) :
    Moves w p (.connect target) (p.connect w target).1 := by
  unfold connect route
  split
  · exact .stay nofun
  · cases Url.isAddress (knownHost target.authority) ||
        p.transparent.contains (knownHost target.authority) with
    | true => exact .stay nofun
    | false =>
        cases p.issuer.get w.root w.clock (knownHost target.authority) with | mk issuer result =>
          cases result with
          | ok leaf => exact .offer
          | error fault => exact .issue

theorem handshake_moves (w : Surroundings) (p : Proxy) (place : Nat) (result : Handshake) :
    Moves w p (.handshake place result) (p.handshake place result) := by
  unfold handshake
  cases known : p.sessions[place]? with
  | none =>
      refine .stay fun host revealed => ?_
      cases revealed with
      | handshake known' _ => cases known.symm.trans known'
  | some s =>
      by_cases opening : s.stage = .opening
      · simp only [opening, ne_eq, not_true_eq_false, if_false]
        cases result with
        | completed => exact .settle nofun
        | broken => exact .refuse known opening
        | left => exact .settle nofun
        | timedOut => exact .settle nofun
      · simp only [ne_eq, opening, not_false_eq_true, if_true]
        refine .stay fun host revealed => ?_
        cases revealed with
        | handshake known' opening' =>
            cases known.symm.trans known'
            exact opening opening'

theorem inside_moves (w : Surroundings) (p : Proxy) (place : Nat) (r : Request) (body : Bytes) :
    Moves w p (.inside place r body) (p.inside w place r body).1 := by
  have quiet (fine : ∀ s, p.sessions[place]? = some s → s.stage = .secured →
      ¬p.InsideFails w s r body) (host : Text) : ¬p.Reveals w (.inside place r body) host := by
    intro revealed
    cases revealed with
    | inside known secured fails => exact fine _ known secured fails
  cases known : p.sessions[place]? with
  | none =>
      rw [known] at quiet
      simp only [inside, known]
      exact .stay (quiet nofun)
  | some s =>
      rw [known] at quiet
      by_cases secured : s.stage = .secured
      · rcases inside_of_secured known secured w r body with ⟨same, fine⟩ | ⟨learned, fails⟩
        · rw [same]
          refine .stay (quiet ?_)
          rintro _ ⟨⟩ _
          exact fine
        · rw [learned]
          exact .learn known secured fails
      · simp only [inside, known, if_neg secured]
        refine .stay (quiet ?_)
        rintro _ ⟨⟩ secured'
        exact absurd secured' secured

theorem step_moves (w : Surroundings) (p : Proxy) (input : Input) :
    Moves w p input (step w p input).1 := by
  cases input with
  | connect target => exact connect_moves w p target
  | handshake place result => exact handshake_moves w p place result
  | request r body =>
      have same : (p.plain w r body).1 = p := by
        unfold plain
        split
        · rfl
        · exact serve_none p w r body
      simp only [step, same]
      exact .stay nofun
  | inside place r body => exact inside_moves w p place r body

namespace Moves

theorem filter_eq (moved : Moves w p input q) : q.filter = p.filter := by
  cases moved <;> rfl

/-- The transparent hosts change only by a host that is revealed. -/
theorem transparent_cases (moved : Moves w p input q) :
    q.transparent = p.transparent ∧ (∀ host, ¬p.Reveals w input host) ∨
      ∃ host, p.Reveals w input host ∧ q.transparent = (p.transparent.add host).1 := by
  cases moved with
  | stay quiet => exact Or.inl ⟨rfl, quiet⟩
  | issue => exact Or.inl ⟨rfl, nofun⟩
  | offer => exact Or.inl ⟨rfl, nofun⟩
  | settle quiet => exact Or.inl ⟨rfl, quiet⟩
  | refuse known opening => exact Or.inr ⟨_, .handshake known opening, rfl⟩
  | learn known secured fails => exact Or.inr ⟨_, .inside known secured fails, rfl⟩

theorem eq_of_request {r : Request} {body : Bytes} (moved : Moves w p (.request r body) q) :
    q = p := by
  cases moved with
  | stay => rfl

theorem eq_of_quiet {place : Nat} {r : Request} {body : Bytes}
    (moved : Moves w p (.inside place r body) q)
    (quiet : ∀ host, ¬p.Reveals w (.inside place r body) host) : q = p := by
  cases moved with
  | stay => rfl
  | learn known secured fails => exact absurd (.inside known secured fails) (quiet _)

theorem atStage_known {place other : Nat} {s : Session} (known : p.sessions[place]? = some s)
    (stage : SessionStage) :
    ∃ stage', (p.atStage other stage).sessions[place]? = some { s with stage := stage' } := by
  rw [atStage, List.getElem?_modify, known]
  split
  · exact ⟨stage, rfl⟩
  · exact ⟨s.stage, rfl⟩

theorem known (moved : Moves w p input q) {place : Nat} {s : Session}
    (known : p.sessions[place]? = some s) :
    ∃ stage, q.sessions[place]? = some { s with stage } := by
  cases moved with
  | stay => exact ⟨s.stage, known⟩
  | issue => exact ⟨s.stage, known⟩
  | offer =>
      have inside : place < p.sessions.length := (List.getElem?_eq_some_iff.mp known).1
      exact ⟨s.stage, (List.getElem?_append_left inside).trans known⟩
  | settle => exact atStage_known known _
  | refuse => exact atStage_known (p := p.learn _) known _
  | learn => exact ⟨s.stage, known⟩

theorem mem_atStage {other : Nat} {stage : SessionStage} {s : Session}
    (member : s ∈ (p.atStage other stage).sessions) :
    ∃ t ∈ p.sessions, t.authority = s.authority := by
  obtain ⟨i, known⟩ := List.mem_iff_getElem?.mp member
  rw [atStage, List.getElem?_modify] at known
  obtain ⟨t, known', rfl⟩ := Option.map_eq_some_iff.mp known
  refine ⟨t, List.mem_of_getElem? known', ?_⟩
  split <;> rfl

theorem mem_sessions (moved : Moves w p input q) (other : ∀ target, input ≠ .connect target)
    {s : Session} (member : s ∈ q.sessions) : ∃ t ∈ p.sessions, t.authority = s.authority := by
  cases moved with
  | stay => exact ⟨s, member, rfl⟩
  | issue => exact absurd rfl (other _)
  | offer => exact absurd rfl (other _)
  | settle => exact mem_atStage member
  | refuse => exact mem_atStage (p := p.learn _) member
  | learn => exact ⟨s, member, rfl⟩

end Moves

/-! ## Runs -/

/-- At some step of a run it happens. -/
inductive During (happens : Proxy → Surroundings → Input → Prop) :
    Proxy → List (Surroundings × Input) → Prop where
  | now {p : Proxy} {w : Surroundings} {input : Input} {later : List (Surroundings × Input)}
      (here : happens p w input) : During happens p ((w, input) :: later)
  | later {p : Proxy} {w : Surroundings} {input : Input} {later : List (Surroundings × Input)}
      (there : During happens (step w p input).1 later) : During happens p ((w, input) :: later)

theorem run_cons (p : Proxy) (w : Surroundings) (input : Input)
    (inputs : List (Surroundings × Input)) :
    p.run ((w, input) :: inputs) = (step w p input).1.run inputs :=
  rfl

theorem filter_run (p : Proxy) (inputs : List (Surroundings × Input)) :
    (p.run inputs).filter = p.filter := by
  induction inputs generalizing p with
  | nil => rfl
  | cons entry inputs ih =>
      obtain ⟨w, input⟩ := entry
      rw [run_cons, ih, (step_moves w p input).filter_eq]

theorem known_run {place : Nat} {s : Session} (known : p.sessions[place]? = some s)
    (inputs : List (Surroundings × Input)) :
    ∃ stage, (p.run inputs).sessions[place]? = some { s with stage } := by
  induction inputs generalizing p s with
  | nil => exact ⟨s.stage, known⟩
  | cons entry inputs ih =>
      obtain ⟨w, input⟩ := entry
      obtain ⟨stage, known'⟩ := (step_moves w p input).known known
      obtain ⟨last, known_last⟩ := ih known'
      exact ⟨last, known_last⟩

end Proxy

end FilteringProxy
