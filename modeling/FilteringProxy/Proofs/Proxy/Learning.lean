import FilteringProxy.Proofs.Proxy.Routing

/-! # What failures of origins teach

A request on an intercepted connection goes on to its origin over a new secure connection. When that
fails as such, the host of the intercepted connection becomes transparent, so that nobody intercepts
it again; but a handshake for another protocol goes on by a way of its own, from which nothing is
learned.
-/

namespace FilteringProxy

open Http (Request Uri Headers)

/-! ## Dispatches -/

namespace Dispatch

variable {head r : Request} {body : Bytes} {d : Dispatch}

theorem passage_of_ordinary (sent : ordinary head body = .ok d) : d.passage = .ordinary := by
  unfold ordinary at sent
  split at sent
  · cases sent
  · split at sent
    · cases sent
    · cases sent
      rfl

theorem passage_of_upgrade? (sent : upgrade? r body = some d) : d.passage = .upgrade := by
  unfold upgrade? at sent
  rw [Option.ite_none_left_eq_some] at sent
  cases sent.2
  rfl

end Dispatch

namespace Proxy

variable {p : Proxy} {w : Surroundings} {s : Session} {r : Request} {body : Bytes} {d : Dispatch}

/-- What is said about a dispatch that fails, to the client and to the proxy itself. -/
def failureText (d : Dispatch) (stage : Stage) (messages : List Text) : Text :=
  match d.passage with
  | .ordinary => Failure.describe (clientMessages stage messages)
  | .upgrade => Failure.describe messages

/-- The host is transparent, and each connection to it that is asked for from now on is passed
through, whatever else happens meanwhile. -/
structure Spares (p : Proxy) (host : Text) : Prop where
  transparent : p.transparent.contains host = true
  tunneled : ∀ (later : List (Surroundings × Input)) (w : Surroundings) (target : Uri),
    target.authority ≠ [] → knownHost target.authority = host → (p.run later).Tunnels w target

/-- A host that is transparent stays so, and is passed through for that. -/
theorem spares_iff {host : Text} : p.Spares host ↔ p.transparent.contains host = true := by
  refine ⟨Spares.transparent, fun transparent => ⟨transparent, ?_⟩⟩
  intro later w target named same
  obtain ⟨name, member, within⟩ := TransparentHosts.contains_iff.mp transparent
  have kept : name ∈ (p.run later).transparent.names := (mem_names_run p later name).mpr (.inl member)
  rw [tunnels_iff named, same]
  exact .transparent kept within

theorem spares_learn (p : Proxy) (host : Text) : (p.learn host).Spares host :=
  spares_iff.mpr (p.transparent.contains_add host)

/-! ## Requests that are passed on -/

theorem sent_of_send {intercepted : Option Text} {head : Request}
    (member : d ∈ (p.send w intercepted head body).2.2.dispatches) :
    Dispatch.ordinary head body = .ok d := by
  unfold send at member
  cases sent : Dispatch.ordinary head body with
  | error messages =>
      rw [sent] at member
      cases member
  | ok d' =>
      rw [sent] at member
      have only : d ∈ [d'] := by
        cases reached : w.reach d' with
        | answered reply => simpa only [reached] using member
        | failed stage messages => simpa only [reached] using member
        | timedOut stage => simpa only [reached] using member
      rw [List.mem_singleton.mp only]

/-- A handshake is sent only if the host can be asked for by its name. -/
theorem sent_of_relay (member : d ∈ (relay w r body).2.dispatches) :
    Dispatch.upgrade? r body = some d ∧ (d.secure && !Url.isServerName d.contact.host) = false := by
  unfold relay at member
  cases sent : Dispatch.upgrade? r body with
  | none =>
      rw [sent] at member
      cases member
  | some d' =>
      cases nameless : d'.secure && !Url.isServerName d'.contact.host with
      | true =>
          simp only [sent, nameless, if_true] at member
          cases member
      | false =>
          simp only [sent, nameless, Bool.false_eq_true, if_false] at member
          obtain rfl := List.mem_singleton.mp member
          exact ⟨rfl, nameless⟩

/-- What becomes of the proxy and of its client when a secure connection to an origin fails: the
client is told, and the proxy learns from ordinary requests alone. -/
structure FailsWith (p : Proxy) (host message : Text) (d : Dispatch)
    (result : Proxy × Reply × Effects) : Prop where
  told : result.2.1 = .badGateway message
  next : result.1 = if d.passage = .ordinary then p.learn host else p

theorem send_failsWith {host : Text} {head : Request} {stage : Stage} {messages : List Text}
    (sent : Dispatch.ordinary head body = .ok d) (failed : w.reach d = .failed stage messages)
    (tls : Failure.isTls (failureText d stage messages) = true) :
    p.FailsWith host (failureText d stage messages) d (p.send w (some host) head body) := by
  have ordinary := Dispatch.passage_of_ordinary sent
  simp only [failureText, ordinary] at tls ⊢
  simp only [send, sent, failed, fail, tls, if_true]
  exact ⟨rfl, by rw [ordinary, if_pos rfl]⟩

theorem relay_told {stage : Stage} {messages : List Text}
    (sent : d ∈ (relay w r body).2.dispatches) (failed : w.reach d = .failed stage messages) :
    (relay w r body).1 = .badGateway (failureText d stage messages) := by
  obtain ⟨sent, named⟩ := sent_of_relay sent
  simp only [failureText, Dispatch.passage_of_upgrade? sent, relay, sent, named, failed,
    Bool.false_eq_true, if_false]

theorem serve_failsWith {host : Text} {stage : Stage} {messages : List Text}
    (sent : d ∈ (p.serve w (some host) r body).2.2.dispatches)
    (failed : w.reach d = .failed stage messages)
    (tls : Failure.isTls (failureText d stage messages) = true) :
    p.FailsWith host (failureText d stage messages) d (p.serve w (some host) r body) := by
  unfold serve at sent ⊢
  cases decided : p.decide r with | mk decision events =>
    rw [decided] at sent
    cases decision with
    | answer response => cases sent
    | upgrade head =>
        refine ⟨relay_told sent failed, ?_⟩
        rw [Dispatch.passage_of_upgrade? (sent_of_relay sent).1, if_neg nofun]
    | forward head =>
        have sent : d ∈ (p.send w (some host) head (sentBody r body)).2.2.dispatches := sent
        obtain ⟨told, next⟩ := send_failsWith (sent_of_send sent) failed tls
        exact ⟨told, next⟩

/-- A request on an intercepted connection is passed on, and the secure connection to its origin
cannot be made for a reason that tells so. The client hears of it; but whether the host is spared
from then on depends on the way in which the request was passed on: by an ordinary request it is,
and by a handshake for another protocol only if it was spared before. -/
theorem learned_iff {place : Nat} {messages : List Text} (known : p.sessions[place]? = some s)
    (sent : d ∈ (step w p (.inside place r body)).2.2.dispatches)
    (failed : w.reach d = .failed .handshake messages)
    (tls : Failure.isTls (failureText d .handshake messages) = true) :
    let result := step w p (.inside place r body)
    result.2.1 = .reply (.badGateway (failureText d .handshake messages)) ∧
      (result.1.Spares s.host ↔ d.passage = .ordinary ∨ p.Spares s.host) := by
  intro result
  have fails : ∃ reply effects q, result = (q, .reply reply, effects) ∧
      p.FailsWith s.host (failureText d .handshake messages) d (q, reply, effects) := by
    simp only [result, step, inside, known] at sent ⊢
    split at sent
    · rename_i secured
      rw [if_pos secured]
      unfold intercepted at sent ⊢
      cases target : s.target? r.uri with
      | none =>
          rw [target] at sent
          cases sent
      | some uri =>
          rw [target] at sent
          exact ⟨_, _, _, rfl, serve_failsWith sent failed tls⟩
    · cases sent
  obtain ⟨reply, effects, q, same, told, next⟩ := fails
  rw [same]
  refine ⟨congrArg Answer.reply told, ?_⟩
  dsimp only at next ⊢
  rw [next]
  split
  · rename_i ordinary
    exact iff_of_true (p.spares_learn s.host) (Or.inl ordinary)
  · rename_i upgrade
    exact (or_iff_right upgrade).symm

/-- An ordinary request whose origin shows a certificate that nobody knows. -/
theorem learned_iff_ordinary :
    let reasons : List Text := ["invalid peer certificate: UnknownIssuer"]
    let w : Surroundings :=
      { root := .ok (Root.generate 0 0), dial := fun _ => .connected,
        reach := fun _ => .failed .handshake reasons }
    let r : Request :=
      { method := "GET", uri := ⟨none, [], "/x", none⟩, version := .http11, headers := {} }
    let p := (start {} [] { cache := { capacity := 2 } }).run
      [(w, .connect ⟨none, "Bank.com:443", [], none⟩), (w, .handshake 0 .completed)]
    p.transparent.contains "bank.com" = false ∧
      (step w p (.inside 0 r [])).1.Spares "bank.com" := by
  intro reasons w r p
  have known : p.sessions[0]? = some { authority := "Bank.com:443", stage := .secured } := by
    decide +kernel
  obtain ⟨d, sent, ordinary⟩ : ∃ d ∈ (step w p (.inside 0 r [])).2.2.dispatches,
      d.passage = .ordinary := by decide +kernel
  have tls : Failure.isTls (failureText d .handshake reasons) = true := by
    rw [failureText, ordinary]
    decide
  exact ⟨by decide +kernel, (learned_iff known sent rfl tls).2.mpr (Or.inl ordinary)⟩

/-- The same failure, met by a handshake for the WebSocket protocol, leaves the host to be
intercepted again. -/
theorem upgrade_teaches_nothing :
    let reasons : List Text := ["invalid peer certificate: UnknownIssuer"]
    let w : Surroundings :=
      { root := .ok (Root.generate 0 0), dial := fun _ => .connected,
        reach := fun _ => .failed .handshake reasons }
    let target : Uri := ⟨none, "bank.com:443", [], none⟩
    let r : Request :=
      { method := "GET", uri := ⟨none, [], "/ws", none⟩, version := .http11,
        headers := (({} : Headers).append "connection" (Utf8.encode "Upgrade")).append "upgrade"
          (Utf8.encode "websocket") }
    let p := (start {} [] { cache := { capacity := 2 } }).run
      [(w, .connect target), (w, .handshake 0 .completed)]
    let result := step w p (.inside 0 r [])
    (∃ d ∈ result.2.2.dispatches, w.reach d = .failed .handshake reasons ∧
        Failure.isTls (failureText d .handshake reasons) = true) ∧
      ¬result.1.Spares "bank.com" ∧ result.1.Intercepts w target := by
  intro reasons w target r p result
  have sent : ∃ d ∈ result.2.2.dispatches,
      Failure.isTls (failureText d .handshake reasons) = true := by decide +kernel
  obtain ⟨d, sent, tls⟩ := sent
  have nobody : result.1.transparent.names = [] := by decide +kernel
  refine ⟨⟨d, sent, rfl, tls⟩, ?_, (intercepts_iff (by decide)).mpr ?_⟩
  · rw [spares_iff, TransparentHosts.contains_iff, nobody]
    exact fun ⟨_, member, _⟩ => nomatch member
  · rintro (numbers | ⟨member, _⟩ | ⟨_, ⟨_, ⟨⟩⟩ | unnamed⟩)
    · exact absurd numbers (by decide)
    · rw [nobody] at member
      cases member
    · exact absurd unnamed (by decide)

end Proxy

end FilteringProxy
