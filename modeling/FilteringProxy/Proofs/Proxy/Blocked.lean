import FilteringProxy.Proofs.Proxy.Routing

/-! # Blocked hosts

A host is blocked when every request to it meets a rule without modifiers. On an intercepted
connection no request gets to such a host. A connection that is passed through gets there: nobody
asks the filter about it.
-/

namespace FilteringProxy

open Http (Request Uri)

/-! ## Requests that are blocked -/

namespace Filter

/-- Each request to the host over a secure connection meets a rule without modifiers that no
exception cancels. -/
def BlocksHost (f : Filter) (host : Text) : Prop :=
  ∀ r : Request, (∃ written, Uri.parse? written = some r.uri) → r.uri.scheme = some "https" →
    r.uri.host? = some host → ∃ rule ∈ f.rules.rulesForRequest r, rule.modifiers = {}

theorem response_of_blocked {f : Filter} {r : Request} {rule : Rule}
    (member : rule ∈ f.rules.rulesForRequest r) (plain : rule.modifiers = {}) :
    (f.onRequest r).response = some (blockResponse r) := by
  have blocks : rule.blocks = true := by
    rw [Rule.blocks, plain]
    rfl
  have found : ∃ first, (f.rules.rulesForRequest r).find? (·.blocks) = some first :=
    Option.isSome_iff_exists.mp (List.find?_isSome.mpr ⟨rule, member, blocks⟩)
  obtain ⟨first, found⟩ := found
  have verdict : f.rules.onRequest r = (r, .block first) := by
    simp only [RuleSet.onRequest, found]
  simp only [onRequest, verdict]

/-- The rule of a name blocks every host within the name, if no exception cancels it. -/
theorem blocksHost_of_told {f : Filter} {additions : List Trie.Addition} {name raw list host : Text}
    (told : Trie.Tells additions (Trie.domainLine name) raw list) (domain : IsDomain name)
    (chars : host.all isNameChar = true) (within : IsWithin host.lower name)
    (regular : f.rules.regular = Trie.ofAdditions additions)
    (spared : ∀ r, ∀ e ∈ f.rules.exceptions.findForRequest r, e.cancels ⟨raw, list, {}⟩ = false) :
    f.BlocksHost host := by
  intro r ⟨written, parsed⟩ https named
  let e : Http.Exchange :=
    { request := r, response := { status := 200, version := .http11, headers := {} } }
  have single : tokenize "https" = ["https"] := by decide
  have found := (Trie.respectsLabels_of_single single additions name raw list written host e told
    domain parsed https named chars).1.mpr within
  refine ⟨⟨raw, list, {}⟩, ?_, rfl⟩
  rw [RuleSet.rulesForRequest, RuleSet.survivors, regular, List.mem_filter]
  refine ⟨found, ?_⟩
  rw [Bool.not_eq_true', List.any_eq_false]
  intro exception member
  rw [spared r exception member]
  exact Bool.false_ne_true

/-- A filter that has read the rule of a name and nothing else. -/
def ofName (name : Text) : Filter :=
  let line := Trie.domainLine name
  { rules := { regular := Trie.ofAdditions [⟨line, line, "list"⟩] } }

theorem blocksHost_ofName {name host : Text} (domain : IsDomain name)
    (chars : host.all isNameChar = true) (within : IsWithin host.lower name) :
    (ofName name).BlocksHost host := by
  have told : Trie.Tells [⟨Trie.domainLine name, Trie.domainLine name, "list"⟩]
      (Trie.domainLine name) (Trie.domainLine name) "list" := by
    refine ⟨List.mem_singleton_self _, fun a member _ _ => ?_⟩
    rw [List.mem_singleton.mp member]
  refine blocksHost_of_told told domain chars within rfl fun r e member => ?_
  have none_held : ({} : Trie).findForRequest r = [] := by
    rw [Trie.findForRequest, Trie.findWhere, Trie.candidates_empty]
    rfl
  change e ∈ ({} : Trie).findForRequest r at member
  rw [none_held] at member
  cases member

end Filter

/-! ## Hosts of contacts -/

theorem bareHost_asterisk (host : Text) :
    (bareHost host).length < (bareHost (host ++ ['*'])).length := by
  have front : (host ++ ['*']).dropWhile (· == '[') = host.dropWhile (· == '[') ++ ['*'] := by
    rw [List.dropWhile_append]
    split
    · rename_i empty
      rw [List.isEmpty_iff.mp empty]
      rfl
    · rfl
  have back : Text.dropEnd (· == ']') (host.dropWhile (· == '[') ++ ['*']) =
      host.dropWhile (· == '[') ++ ['*'] := by
    rw [Text.dropEnd, List.reverse_concat, List.dropWhile_cons_of_neg (by decide),
      List.reverse_cons, List.reverse_reverse]
  rw [bareHost, bareHost, front, back, List.length_append, List.length_singleton,
    Nat.lt_succ_iff, Text.dropEnd, List.length_reverse]
  exact Nat.le_trans (List.dropWhile_sublist _).length_le (List.length_reverse ..).le

namespace Proxy

variable {p : Proxy} {w : Surroundings} {s : Session} {r : Request} {body : Bytes}

theorem serve_blocked {rule : Rule} (member : rule ∈ p.filter.rules.rulesForRequest r)
    (plain : rule.modifiers = {}) (w : Surroundings) (intercepted : Option Text) (body : Bytes) :
    ∃ events, p.serve w intercepted r body = (p, .bare (blockResponse r), { events }) := by
  have answered := Filter.response_of_blocked member plain
  simp only [serve, decide, answered]
  exact ⟨_, rfl⟩

theorem intercepted_blocked (sound : s.IsSound)
    (blocked : p.filter.BlocksHost (Uri.hostOf s.authority)) {written : Text}
    (parsed : Uri.parse? written = some r.uri) (w : Surroundings) (body : Bytes) :
    (∃ uri events, s.target? r.uri = some uri ∧ (p.intercepted w s r body).2 =
        (.bare (blockResponse { r with uri }), { events })) ∨
      s.target? r.uri = none ∧
        (p.intercepted w s r body).2 = (.text 400 (s.targetFault r.uri), {}) ∨
      r.uri.path = ['*'] ∧
        ∀ c ∈ (p.intercepted w s r body).2.2.contacts, c.host.lower ≠ s.host := by
  cases target : s.target? r.uri with
  | none =>
      simp only [intercepted, target]
      exact Or.inr (Or.inl ⟨trivial, trivial⟩)
  | some uri =>
      obtain ⟨https, _, some_authority⟩ := Session.target?_parts target
      rcases Session.target?_host sound parsed target with same | ⟨asterisk, other⟩
      · have host : uri.host? = some (Uri.hostOf s.authority) := by
          rw [Uri.host?, if_neg some_authority, same]
        obtain ⟨rule, member, plain⟩ := blocked { r with uri } ⟨_, target⟩ https host
        obtain ⟨events, served⟩ := serve_blocked member plain w (some s.host) body
        refine Or.inl ⟨uri, events, rfl, ?_⟩
        simp only [intercepted, target, served]
      · -- the host that is asked for is longer than that of the connection
        refine Or.inr (Or.inr ⟨asterisk, fun c member same => ?_⟩)
        simp only [intercepted, target] at member
        have longer := bareHost_asterisk (Uri.hostOf s.authority)
        have lengths := congrArg List.length same
        rw [host_of_serve member, other, Session.host, knownHost, Text.lower, Text.lower,
          List.length_map, List.length_map] at lengths
        omega

/-- A request on the connection is turned away: nobody is contacted, and the answer is 403. Only
where the target that is put together is too long, or the host of the connection is none by itself,
the request is called a bad one. -/
structure TurnsAway (s : Session) (asked : Uri) (result : Answer × Effects) : Prop where
  no_contacts : result.2.contacts = []
  no_dispatches : result.2.dispatches = []
  reply : ∃ reply, result.1 = .reply reply ∧
    (reply.response.status = 403 ∨ reply.response.status = 400 ∧
      (Uri.lengthLimit < Utf8.size (s.writtenTarget asked) ∨
        Uri.isAuthority (Uri.hostOf s.authority) = false ∨ Uri.hostOf s.authority = []))

theorem inside_blocked {place : Nat} (known : p.sessions[place]? = some s) (sound : s.IsSound)
    (blocked : p.filter.BlocksHost (Uri.hostOf s.authority)) {written : Text}
    (parsed : Uri.parse? written = some r.uri) (w : Surroundings) (body : Bytes) :
    (∀ c ∈ (p.inside w place r body).2.2.contacts, c.host.lower ≠ s.host) ∧
      (r.uri.path ≠ ['*'] → s.stage = .secured →
        TurnsAway s r.uri (p.inside w place r body).2) := by
  have nobody : ∀ c ∈ ([] : List Contact), c.host.lower ≠ s.host :=
    fun c member => absurd member List.not_mem_nil
  by_cases secured : s.stage = .secured
  · have result := intercepted_blocked sound blocked parsed w body
    simp only [inside, known, secured, if_true]
    generalize p.intercepted w s r body = outcome at result ⊢
    obtain ⟨q, reply, effects⟩ := outcome
    dsimp only at result ⊢
    rcases result with ⟨uri, events, _, answered⟩ | ⟨no_target, answered⟩ | ⟨asterisk, elsewhere⟩
    · cases answered
      exact ⟨nobody, fun _ _ => ⟨rfl, rfl, _, rfl, Or.inl rfl⟩⟩
    · cases answered
      refine ⟨nobody, fun no_asterisk _ => ⟨rfl, rfl, _, rfl, Or.inr ⟨rfl, ?_⟩⟩⟩
      by_cases named : Uri.hostOf s.authority = []
      · exact Or.inr (Or.inr named)
      cases good : Uri.isAuthority (Uri.hostOf s.authority) with
      | false => exact Or.inr (Or.inl rfl)
      | true =>
          exact Or.inl ((Session.target?_eq_none sound good named parsed no_asterisk).mp no_target)
    · exact ⟨elsewhere, fun no_asterisk => absurd asterisk no_asterisk⟩
  · simp only [inside, known, if_neg secured]
    exact ⟨nobody, fun _ secured' => absurd secured' secured⟩

/-! ## All runs -/

/-- A client that asks for a connection to a blocked host either gets one that is passed through,
which is the one contact that is made for it, or one that is intercepted: then no contact to the
host is made for it, and whatever happens meanwhile, each request on it for a path is turned away. -/
theorem blocked_turned_away (filter : Filter) (ignored : List Text) (issuer : Issuer)
    (history : List (Surroundings × Input)) (w : Surroundings) {target : Uri} {written : Text}
    (parsed : Uri.parse? written = some target) (named : target.authority ≠ [])
    (blocked : filter.BlocksHost (Uri.hostOf target.authority)) :
    let p := (start filter ignored issuer).run history
    let s : Session := { authority := target.authority }
    (p.Exempts w s.host → (step w p (.connect target)).2 = dial w target.authority) ∧
    (¬p.Exempts w s.host → (step w p (.connect target)).2.2.contacts = [] ∧
      ∀ later w' r body source, Uri.parse? source = some r.uri →
        let q := (step w p (.connect target)).1.run later
        let result := (step w' q (.inside p.sessions.length r body)).2
        (∀ c ∈ result.2.contacts, c.host.lower ≠ s.host) ∧
          (r.uri.path ≠ ['*'] →
            (∃ t, q.sessions[p.sessions.length]? = some t ∧ t.stage = .secured) →
            TurnsAway s r.uri result)) := by
  intro p s
  refine ⟨fun exempt => ((tunnels_iff named).mpr exempt).1, fun not_exempt => ?_⟩
  obtain ⟨leaf, offered, more⟩ := (intercepts_iff named).mpr not_exempt
  refine ⟨by rw [offered], fun later w' r body source read => ?_⟩
  intro q
  have known : (step w p (.connect target)).1.sessions[p.sessions.length]? = some s := by
    rw [more]
    exact List.getElem?_concat_length
  obtain ⟨stage, kept⟩ := known_run known later
  have sound : Session.IsSound { s with stage } := Uri.not_endsAuthority parsed
  have unchanged : q.filter = filter := by
    rw [filter_run, (step_moves w p _).filter_eq, filter_run]
    rfl
  rw [← unchanged] at blocked
  obtain ⟨elsewhere, turned⟩ := inside_blocked kept sound blocked read w' body
  refine ⟨elsewhere, fun no_asterisk ⟨t, kept', secured⟩ => ?_⟩
  cases kept.symm.trans kept'
  obtain ⟨contacts, dispatches, reply⟩ := turned no_asterisk secured
  exact ⟨contacts, dispatches, reply⟩

/-- After a handshake, a request for a path of a blocked host is turned away. -/
theorem blocked_turned_away_path :
    let w : Surroundings :=
      { root := .ok (Root.generate 0 0), dial := fun _ => .connected,
        reach := fun _ => .timedOut .connect }
    let r : Request :=
      { method := "GET", uri := ⟨none, [], "/x", none⟩, version := .http11, headers := {} }
    let p := (start (.ofName "ads.com") [] { cache := { capacity := 2 } }).run []
    let q := (step w p (.connect ⟨none, "www.ads.com:443", [], none⟩)).1.run
      [(w, .handshake 0 .completed)]
    TurnsAway { authority := "www.ads.com:443" } r.uri
      (step w q (.inside p.sessions.length r [])).2 := by
  intro w r p q
  have blocked : (Filter.ofName "ads.com").BlocksHost "www.ads.com" :=
    Filter.blocksHost_ofName ⟨by decide, by decide, by decide⟩ (by decide)
      (Or.inr ⟨"www", by decide⟩)
  have not_exempt : ¬p.Exempts w (knownHost "www.ads.com:443") := by
    rintro (numbers | ⟨member, _⟩ | ⟨_, ⟨_, ⟨⟩⟩ | unnamed⟩)
    · exact absurd numbers (by decide)
    · cases member
    · exact absurd unnamed (by decide)
  have parsed :
      Uri.parse? "www.ads.com:443" = some ⟨none, "www.ads.com:443", [], none⟩ := by decide
  have secured : ∃ t, q.sessions[p.sessions.length]? = some t ∧ t.stage = .secured :=
    ⟨{ authority := "www.ads.com:443", stage := .secured }, by decide +kernel, rfl⟩
  have turned := (blocked_turned_away (.ofName "ads.com") [] { cache := { capacity := 2 } } [] w
    parsed (by decide) blocked).2 not_exempt
  obtain ⟨-, turns⟩ := turned.2 [(w, .handshake 0 .completed)] w r [] "/x" (by decide)
  exact turns (by decide) secured

/-- A blocked host is contacted all the same when it is one of the hosts that are to be ignored. -/
theorem blocked_contacted_when_ignored :
    let w : Surroundings :=
      { root := .ok (Root.generate 0 0), dial := fun _ => .connected,
        reach := fun _ => .timedOut .connect }
    let p := start (.ofName "ads.com") ["ads.com"] { cache := { capacity := 2 } }
    p.filter.BlocksHost "ads.com" ∧
      (step w p (.connect ⟨none, "ads.com:443", [], none⟩)).2 =
        (.tunnel ⟨"ads.com", 443⟩, { contacts := [⟨"ads.com", 443⟩] }) :=
  ⟨Filter.blocksHost_ofName ⟨by decide, by decide, by decide⟩ (by decide) (Or.inl (by decide)),
    by decide +kernel⟩

end Proxy

end FilteringProxy
