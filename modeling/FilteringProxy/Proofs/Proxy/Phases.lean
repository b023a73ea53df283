import FilteringProxy.Proofs.Http.HopByHop
import FilteringProxy.Proofs.Proxy.Step
import FilteringProxy.Proofs.RuleSet.Phases

/-! # What is known of a request when its response comes

Responses are edited by the request as it was sent on, after rules have edited it and the headers of
its connection have gone. So the page of a request, the kind of content that it asks for or the site
that it comes from can be forgotten between the phases, and then other rules are found.
-/

namespace FilteringProxy

open Http (Request Response Uri Headers)
open Http.Request (SameContext contextNames)

/-! ## What edits leave of a name -/

namespace Edit

/-- The edit takes all fields of the name away from a request. -/
def removes (name : Text) : Edit → Bool
  | header c => c.side = .request && c.name = name
  | _ => false

theorem values_strip (e : Edit) (r : Request) {name : Text} (apart : name ≠ "cookie") :
    (e.strip r).headers.values name = if e.removes name then [] else r.headers.values name := by
  cases e with
  | parameters c => rfl
  | header c =>
      rw [strip, HeaderRemoval.strip, removes]
      by_cases side : c.side = .request
      · by_cases here : c.name = name
        · rw [if_pos side, decide_eq_true side, decide_eq_true here, Bool.and_self, if_pos rfl, here,
            Headers.values_remove_same]
        · rw [if_pos side, decide_eq_false here, Bool.and_false, if_neg Bool.false_ne_true,
            Headers.values_remove_of_ne _ (Ne.symm here)]
      · rw [if_neg side, decide_eq_false side, Bool.false_and, if_neg Bool.false_ne_true]
  | cookies c => exact Headers.values_dropCookies_of_ne _ _ apart

theorem values_stripAll (edits : List Edit) (r : Request) {name : Text} (apart : name ≠ "cookie") :
    (edits.foldl (fun r e => e.strip r) r).headers.values name =
      if edits.any (·.removes name) then [] else r.headers.values name := by
  induction edits generalizing r with
  | nil => rfl
  | cons e edits ih =>
      rw [List.foldl_cons, ih, values_strip e r apart, List.any_cons]
      cases e.removes name with
      | true => rw [if_pos rfl, ite_self, Bool.true_or, if_pos rfl]
      | false => rw [if_neg Bool.false_ne_true, Bool.false_or]

/-- No edit takes the list of names away. -/
theorem removes_connection (e : Edit) : e.removes "connection" = false := by
  cases e with
  | parameters | cookies => rfl
  | header c =>
      have guarded : isProtected "connection" = true := by decide +kernel
      rw [removes, decide_eq_false (c.name_ne_of_isProtected guarded).symm, Bool.and_false]

end Edit

namespace Proxy

variable {p : Proxy} {r head : Request}

/-! ## Requests that go on -/

/-- The request goes on as an ordinary one, with this head. -/
def Forwards (p : Proxy) (r head : Request) : Prop := (p.decide r).1 = .forward head

theorem forwards_iff :
    p.Forwards r head ↔
      let edited := (p.filter.rules.onRequest r).1
      ((p.filter.rules.onRequest r).2.kind = .allow ∨
          (p.filter.rules.onRequest r).2.kind = .modified) ∧
        edited.headers.asksForWebSocket = false ∧
        head = { edited with headers := edited.headers.withoutHop } := by
  cases decision : p.filter.rules.onRequest r with | mk edited verdict =>
    cases verdict with
    | block rule => simp [Forwards, decide, Filter.onRequest, decision, Verdict.kind]
    | redirect target rules =>
        simp [Forwards, decide, Filter.onRequest, decision, Verdict.kind]
    | allow | modified rules =>
        cases asks : edited.headers.asksForWebSocket with
        | true => simp [Forwards, decide, Filter.onRequest, decision, Verdict.kind, asks]
        | false =>
            simp [Forwards, decide, Filter.onRequest, decision, Verdict.kind, asks, eq_comm]

theorem Forwards.uri (forwarded : p.Forwards r head) : head.uri = r.uri := by
  obtain ⟨kind, _, rfl⟩ := forwards_iff.mp forwarded
  have decided := p.filter.rules.onRequest_decides r
  cases decision : p.filter.rules.onRequest r with | mk edited verdict =>
    rw [decision] at decided kind
    cases decided with
    | block | redirect => simp only [Verdict.kind, reduceCtorEq, or_self] at kind
    | allow => rfl
    | modified none_blocks reduced kept => exact kept

theorem Forwards.method (forwarded : p.Forwards r head) : head.method = r.method := by
  obtain ⟨_, _, rfl⟩ := forwards_iff.mp forwarded
  exact (p.filter.rules.onRequest_pruned r).method

/-- Between the phases the request loses all fields of the name: they are for the proxy alone, as
its connection header may say of any name, or a rule removes them. -/
def Loses (p : Proxy) (r : Request) (name : Text) : Prop :=
  r.headers.isHop name = true ∨
    ∃ rule ∈ p.filter.rules.rulesForRequest r, ∃ e ∈ rule.modifiers.edits, e.removes name = true

theorem Forwards.values (forwarded : p.Forwards r head) {name : Text} (apart : name ≠ "cookie") :
    (p.Loses r name → head.headers.values name = []) ∧
      (¬p.Loses r name → head.headers.values name = r.headers.values name) := by
  obtain ⟨kind, _, rfl⟩ := forwards_iff.mp forwarded
  let edits := allEdits ((p.filter.rules.rulesForRequest r).map (·.modifiers))
  have settled := p.filter.rules.onRequest_settle r
  have edited : (p.filter.rules.onRequest r).1 = edits.foldl (fun r e => e.strip r) r := by
    rw [settle] at settled
    split at settled
    · rw [(Prod.mk.inj settled).1] at kind
      simp only [reduceCtorEq, or_self] at kind
    · exact (Prod.mk.inj settled).2
  have connection : (p.filter.rules.onRequest r).1.headers.values "connection" =
      r.headers.values "connection" := by
    have kept : edits.any (·.removes "connection") = false :=
      List.any_eq_false.mpr fun e _ => Bool.eq_false_iff.mp e.removes_connection
    rw [edited, Edit.values_stripAll edits r (by decide), kept, if_neg Bool.false_ne_true]
  have removed : edits.any (·.removes name) = true ↔
      ∃ rule ∈ p.filter.rules.rulesForRequest r, ∃ e ∈ rule.modifiers.edits,
        e.removes name = true := by
    simp only [edits, allEdits, List.any_eq_true, List.mem_flatMap, List.mem_map]
    constructor
    · rintro ⟨e, ⟨_, ⟨rule, found, rfl⟩, member⟩, removes⟩
      exact ⟨rule, found, e, member, removes⟩
    · rintro ⟨rule, found, e, member, removes⟩
      exact ⟨e, ⟨_, ⟨rule, found, rfl⟩, member⟩, removes⟩
  have left := Headers.values_withoutHop (p.filter.rules.onRequest r).1.headers name
  rw [Headers.isHop_of_values connection, edited, Edit.values_stripAll edits r apart, ← edited]
    at left
  rw [Loses, ← removed, left]
  constructor
  · rintro (hop | gone)
    · rw [if_pos hop]
    · rw [if_pos gone, ite_self]
  · intro kept
    obtain ⟨here, there⟩ := not_or.mp kept
    rw [if_neg here, if_neg there]

/-- A request goes on as an ordinary one. All that it loses are headers of its connection and those
that rules remove, and the filters that send it on so find the same rules for its response as before
exactly if it looks the same to conditions; it does if nothing that they read is lost. -/
theorem phases_agree_iff (filed : p.filter.rules.Filed) (named : r.uri.authority ≠ [])
    (forwarded : p.Forwards r head) :
    (head.uri = r.uri ∧ ∀ name : Text, name ≠ "cookie" →
      (p.Loses r name → head.headers.values name = []) ∧
      (¬p.Loses r name → head.headers.values name = r.headers.values name)) ∧
    ((∀ q : Proxy, q.filter.rules.Filed → q.Forwards r head →
      q.filter.rules.PhasesAgree r head) ↔ r.SameContext head) ∧
    ((∀ name ∈ contextNames, p.Loses r name → r.headers.values name = []) →
      r.SameContext head) := by
  have target := forwarded.uri
  refine ⟨⟨target, fun name apart => forwarded.values apart⟩, ⟨fun agree => ?_, ?_⟩, ?_⟩
  · obtain ⟨regular, exceptions, rules⟩ := filed
    have host : r.uri.host?.isSome = true := by
      rw [Uri.host?, if_neg named]
      rfl
    refine sameContext_of_conditions fun c blind => ?_
    let q : Proxy :=
      { p with filter := { p.filter with rules := RuleSet.withSilent regular exceptions c } }
    have silent := RuleSet.onRequest_withSilent regular exceptions c r
    rw [← rules] at silent
    have sent : q.Forwards r head := by
      rw [forwards_iff] at forwarded ⊢
      change
        let edited := ((RuleSet.withSilent regular exceptions c).onRequest r).1
        (((RuleSet.withSilent regular exceptions c).onRequest r).2.kind = .allow ∨
            ((RuleSet.withSilent regular exceptions c).onRequest r).2.kind = .modified) ∧
          edited.headers.asksForWebSocket = false ∧
          head = { edited with headers := edited.headers.withoutHop }
      rw [silent.1, silent.2]
      exact forwarded
    exact RuleSet.alike_of_phasesAgree (agree q ⟨_, _, rfl⟩ sent) blind target host
  · intro same q filed _
    exact RuleSet.phasesAgree_of_sameContext filed target same
  · intro spared
    have host : head.host? = r.host? := congrArg (·.host?.map Text.lower) target
    apply SameContext.of_values forwarded.method host
    intro name member
    have apart : name ≠ "cookie" := by
      rintro rfl
      exact absurd member (by decide)
    by_cases lost : p.Loses r name
    · rw [(forwarded.values apart).1 lost, spared name member lost]
    · exact (forwarded.values apart).2 lost

/-- Rules and the connection header take fields away that no condition reads, so the rule for the
pages of one site is still known when the response comes. -/
theorem phases_agree_iff_spared :
    let p : Proxy :=
      { filter :=
          { rules := .ofLines [⟨"$removeheader=request:x-a", "list"⟩,
              ⟨"$removeheader=x-ad,domain=page.com", "list"⟩] }
        transparent := {}, issuer := { cache := { capacity := 2 } } }
    let page : Http.Field := ⟨"referer", Utf8.encode "https://page.com/"⟩
    let r : Request :=
      { method := "GET", uri := ⟨some "http", "a.com", "/x", none⟩, version := .http11,
        headers := ⟨[page, ⟨"connection", Utf8.encode "x-b"⟩, ⟨"x-a", []⟩, ⟨"x-b", []⟩]⟩ }
    let head : Request := { r with headers := ⟨[page]⟩ }
    p.Forwards r head ∧ p.filter.rules.PhasesAgree r head := by
  intro p page r head
  have forwarded : (p.decide r).1 = .forward head := by decide +kernel
  have filed : p.filter.rules.Filed := by
    dsimp only [p]
    exact RuleSet.filed_ofLines _
  have same : r.SameContext head := .of_values rfl rfl (by decide +kernel)
  have exact_context := (phases_agree_iff filed (by decide) forwarded).2.1
  exact ⟨forwarded, exact_context.mpr same p filed forwarded⟩

/-- A rule takes the page of a request away, and with it goes the exception for that page: it is
found for the request and not for the response, so that the header it was to keep is removed. -/
theorem exception_forgotten :
    let p : Proxy :=
      { filter :=
          { rules := .ofLines [⟨"$removeheader=request:referer", "list"⟩,
              ⟨"$removeheader=x-ad", "list"⟩,
              ⟨"@@$removeheader=x-ad,domain=page.com", "list"⟩] }
        transparent := {}, issuer := { cache := { capacity := 2 } } }
    let r : Request :=
      { method := "GET", uri := ⟨some "http", "a.com", "/x", none⟩, version := .http11,
        headers := ⟨[⟨"referer", Utf8.encode "https://page.com/"⟩]⟩ }
    let head : Request := { r with headers := {} }
    let response : Response :=
      { status := 200, version := .http11, headers := ⟨[⟨"x-ad", Utf8.encode "1"⟩]⟩ }
    p.Forwards r head ∧ ¬p.filter.rules.PhasesAgree r head ∧
      (p.finish r { response }).1.response = response ∧
      (p.finish head { response }).1.response = { response with headers := {} } := by
  intro p r head response
  have seen : (p.decide r).1 = .forward head ∧
      (∃ rule ∈ p.filter.rules.exceptions.findForRequest r,
        rule.modifiers.readsResponse = false ∧
          rule ∉ p.filter.rules.exceptions.findForExchange ⟨head, response⟩) ∧
      (p.finish r { response }).1.response = response ∧
      (p.finish head { response }).1.response = { response with headers := {} } := by
    decide +kernel
  obtain ⟨forwarded, ⟨rule, found, blind, lost⟩, kept, edited⟩ := seen
  exact ⟨forwarded, fun agree => lost ((agree response rule blind).2.mpr found), kept, edited⟩

end Proxy

end FilteringProxy
