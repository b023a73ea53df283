import FilteringProxy.Proofs.Proxy.Step

/-! # Closed connections

An intercepted connection that was given up takes no part in what the proxy does from then on: a run
goes as it would without all that is still said about the connection.
-/

namespace FilteringProxy

open Http (Request Uri)

/-- The intercepted connection that an input is about. -/
def Input.place? : Input → Option Nat
  | .handshake place _ | .inside place _ _ => some place
  | .connect _ | .request _ _ => none

namespace Proxy

/-- The proxy with another connection at a place. -/
def withSession (p : Proxy) (place : Nat) (s : Session) : Proxy :=
  { p with sessions := p.sessions.set place s }

variable {p : Proxy} {place other : Nat} {s : Session} {input : Input}

/-! ## Other inputs -/

theorem send_withSession (p : Proxy) (w : Surroundings) (intercepted : Option Text)
    (head : Request) (body : Bytes) :
    (p.withSession place s).send w intercepted head body =
      ((p.send w intercepted head body).1.withSession place s,
        (p.send w intercepted head body).2) := by
  have failed (messages : List Text) : (p.withSession place s).fail intercepted messages =
      ((p.fail intercepted messages).1.withSession place s, (p.fail intercepted messages).2) := by
    cases intercepted with
    | none => rfl
    | some host =>
        simp only [fail]
        split <;> rfl
  unfold send
  cases Dispatch.ordinary head body with
  | error messages => simp only [failed]
  | ok d =>
      dsimp only
      cases w.reach d with
      | answered reply => rfl
      | failed stage messages => simp only [failed]
      | timedOut stage => rfl

theorem serve_withSession (p : Proxy) (w : Surroundings) (intercepted : Option Text) (r : Request)
    (body : Bytes) :
    (p.withSession place s).serve w intercepted r body =
      ((p.serve w intercepted r body).1.withSession place s,
        (p.serve w intercepted r body).2) := by
  unfold serve
  rw [show (p.withSession place s).decide r = p.decide r from rfl]
  cases p.decide r with | mk decision events =>
    cases decision with
    | answer response => rfl
    | upgrade r => rfl
    | forward head => simp only [send_withSession]

theorem route_withSession (p : Proxy) (w : Surroundings) (host : Text) :
    (p.withSession place s).route w host =
      ((p.route w host).1.withSession place s, (p.route w host).2) := by
  have transparent : (p.withSession place s).transparent = p.transparent := rfl
  have issuer : (p.withSession place s).issuer = p.issuer := rfl
  rw [route, route, transparent, issuer]
  split
  · rfl
  · cases p.issuer.get w.root w.clock host with | mk issuer result =>
      cases result <;> rfl

theorem sessions_route (p : Proxy) (w : Surroundings) (host : Text) :
    (p.route w host).1.sessions = p.sessions := by
  unfold route
  split
  · rfl
  · cases p.issuer.get w.root w.clock host with | mk issuer result =>
      cases result <;> rfl

theorem connect_withSession (within : place < p.sessions.length) (w : Surroundings)
    (target : Uri) :
    (p.withSession place s).connect w target =
      ((p.connect w target).1.withSession place s, (p.connect w target).2) := by
  unfold connect
  split
  · rfl
  · rw [← p.sessions_route w (knownHost target.authority)] at within
    rw [route_withSession]
    generalize p.route w (knownHost target.authority) = routed at within
    obtain ⟨q, route⟩ := routed
    cases route with
    | tunnel => rfl
    | intercept leaf => simp only [withSession, List.length_set, List.set_append_left _ _ within]

theorem getElem?_withSession (apart : other ≠ place) :
    (p.withSession place s).sessions[other]? = p.sessions[other]? :=
  List.getElem?_set_ne apart.symm

theorem atStage_withSession (apart : other ≠ place) (stage : SessionStage) :
    (p.withSession place s).atStage other stage = (p.atStage other stage).withSession place s := by
  have swap : (p.sessions.set place s).modify other (fun s => { s with stage }) =
      (p.sessions.modify other fun s => { s with stage }).set place s := by
    refine List.ext_getElem? fun i => ?_
    by_cases here : i = place
    · subst here
      simp [List.getElem?_set, apart]
    · simp [List.getElem?_modify, Ne.symm here]
  simp only [atStage, withSession, swap]

theorem handshake_withSession (apart : other ≠ place) (result : Handshake) :
    (p.withSession place s).handshake other result =
      (p.handshake other result).withSession place s := by
  simp only [handshake, getElem?_withSession apart]
  cases p.sessions[other]? with
  | none => rfl
  | some known =>
      dsimp only
      split
      · rfl
      · cases result with
        | completed => exact atStage_withSession apart _
        | broken => exact atStage_withSession (p := p.learn known.host) apart _
        | left => exact atStage_withSession apart _
        | timedOut => exact atStage_withSession apart _

theorem inside_withSession (apart : other ≠ place) (w : Surroundings) (r : Request)
    (body : Bytes) :
    (p.withSession place s).inside w other r body =
      ((p.inside w other r body).1.withSession place s, (p.inside w other r body).2) := by
  simp only [inside, getElem?_withSession apart]
  cases p.sessions[other]? with
  | none => rfl
  | some known =>
      dsimp only
      split
      · unfold intercepted
        cases known.target? r.uri with
        | none => rfl
        | some uri => simp only [serve_withSession]
      · rfl

/-- What is not about the connection goes as it would with another one in its place. -/
theorem step_withSession (within : place < p.sessions.length) (apart : input.place? ≠ some place)
    (w : Surroundings) :
    step w (p.withSession place s) input =
      ((step w p input).1.withSession place s, (step w p input).2) := by
  cases input with
  | connect target => exact connect_withSession within w target
  | handshake other result =>
      simp only [step]
      rw [handshake_withSession fun same => apart (congrArg some same)]
  | request r body =>
      simp only [step, plain]
      split
      · rfl
      · simp only [serve_withSession]
  | inside other r body =>
      exact inside_withSession (fun same => apart (congrArg some same)) w r body

/-! ## Inputs about the connection -/

theorem step_closed (known : p.sessions[place]? = some s) (closed : s.stage = .closed)
    (same : input.place? = some place) (w : Surroundings) : (step w p input).1 = p := by
  cases input with
  | connect target => cases same
  | handshake other result =>
      cases same
      simp [step, handshake, known, closed]
  | request r body => cases same
  | inside other r body =>
      cases same
      simp [step, inside, known, closed]

/-- A run with a closed connection goes as it would without all that is said about it. -/
theorem run_withSession (within : place < p.sessions.length) (closed : s.stage = .closed)
    (inputs : List (Surroundings × Input)) :
    (p.withSession place s).run inputs =
      (p.run (inputs.filter (·.2.place? ≠ some place))).withSession place s := by
  induction inputs generalizing p with
  | nil => rfl
  | cons entry inputs ih =>
      obtain ⟨w, input⟩ := entry
      rw [run_cons, List.filter_cons]
      -- an input about the connection is lost on it, any other commutes with closing it
      by_cases same : input.place? = some place
      · have known : (p.withSession place s).sessions[place]? = some s :=
          List.getElem?_set_self within
        rw [step_closed known closed same, ih within, if_neg (by simp [same])]
      · obtain ⟨stage, kept⟩ :=
          (step_moves w p input).known (List.getElem?_eq_getElem within)
        have within' := (List.getElem?_eq_some_iff.mp kept).1
        rw [step_withSession within same, ih within', if_pos (by simp [same]), run_cons]

theorem handshake_of_left {result : Handshake} (known : p.sessions[place]? = some s)
    (opening : s.stage = .opening) (given_up : result = .left ∨ result = .timedOut) :
    p.handshake place result = p.withSession place { s with stage := .closed } := by
  have atStage_eq : p.atStage place .closed = p.withSession place { s with stage := .closed } := by
    simp only [atStage, withSession, List.modify_eq_set_getElem?, known]
    rfl
  rcases given_up with rfl | rfl
  · simp only [handshake, known, opening, ne_eq, not_true_eq_false, if_false, atStage_eq]
  · simp only [handshake, known, opening, ne_eq, not_true_eq_false, if_false, atStage_eq]

theorem connect_run_withSession (within : place < p.sessions.length) (closed : s.stage = .closed)
    (inputs : List (Surroundings × Input)) (w : Surroundings) (target : Uri) :
    (step w ((p.withSession place s).run inputs) (.connect target)).2 =
      (step w (p.run (inputs.filter (·.2.place? ≠ some place))) (.connect target)).2 := by
  obtain ⟨stage, kept⟩ := known_run (List.getElem?_eq_getElem within)
    (inputs.filter (·.2.place? ≠ some place))
  rw [run_withSession within closed,
    step_withSession (List.getElem?_eq_some_iff.mp kept).1 (by simp [Input.place?])]

end Proxy

end FilteringProxy
