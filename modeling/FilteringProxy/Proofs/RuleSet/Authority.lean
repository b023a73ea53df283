import FilteringProxy.Proofs.Modifier.Context
import FilteringProxy.Proofs.RuleSet.Order
import FilteringProxy.Proofs.RuleSet.Wording

/-! # Hosts behind other authorities

Only the host of a request counts, in lower case. The rest of its authority and its version are
carried through all edits and never looked at, so they make no difference to what rules decide.
-/

namespace FilteringProxy

open Http (Request Response Exchange Uri Version)

/-! ## Another authority and version -/

namespace Http.Request

/-- The request with another authority and another version. -/
def readdress (authority : Text) (version : Version) (r : Request) : Request :=
  { r with uri := { r.uri with authority }, version }

/-- The requests have the same host up to letter case, and differ at most in the rest of their
authorities and in their versions. -/
structure SameTarget (r q : Request) : Prop where
  method : q.method = r.method
  headers : q.headers = r.headers
  scheme : q.uri.scheme = r.uri.scheme
  path : q.uri.path = r.uri.path
  query : q.uri.query = r.uri.query
  host : ∃ host, r.host? = some host ∧ q.host? = some host

theorem readdress_self (r : Request) : r.readdress r.uri.authority r.version = r := rfl

theorem SameTarget.eq_readdress {r q : Request} (same : r.SameTarget q) :
    q = r.readdress q.uri.authority q.version := by
  obtain ⟨method, ⟨scheme, authority, path, query⟩, version, headers⟩ := q
  obtain ⟨rfl, rfl, rfl, rfl, rfl, -⟩ := same
  rfl

end Http.Request

open Http.Request (SameTarget)

/-! ## Edits -/

section

variable (authority : Text) (version : Version)

theorem Edit.onRequest_readdress (e : Edit) (r : Request) :
    e.onRequest (r.readdress authority version) =
      (e.onRequest r).map (·.readdress authority version) := by
  cases e with
  | parameters c =>
      rw [onRequest, onRequest, ParameterChoice.edit, ParameterChoice.edit]
      have query : (r.readdress authority version).uri.query = r.uri.query := rfl
      rw [query]
      cases r.uri.query with
      | none => rfl
      | some query =>
          dsimp only
          split
          · rfl
          · rfl
  | header c =>
      rw [onRequest, onRequest, Option.map_map]
      rfl
  | cookies c =>
      rw [onRequest, onRequest, Option.map_map]
      rfl

theorem RuleSet.turns_readdress (rules : List Rule) (r : Request) :
    applyAll (fun rule => rule.modifiers.onRequest) rules (r.readdress authority version) =
      ((applyAll (fun rule => rule.modifiers.onRequest) rules r).1.readdress authority version,
        (applyAll (fun rule => rule.modifiers.onRequest) rules r).2) := by
  apply applyAll_map
  intro rule r
  apply ModifierSet.applyAll_map
  intro e r
  exact e.onRequest_readdress authority version r

end

/-! ## Verdicts -/

/-- The rules that a verdict names. -/
def Verdict.named : Verdict → List Rule
  | .allow => []
  | .block rule => [rule]
  | .redirect _ rules => rules
  | .modified rules => rules

namespace RuleSet

theorem authority_turns (rules : List Rule) (r : Request) :
    (applyAll (fun rule => rule.modifiers.onRequest) rules r).1.uri.authority =
      r.uri.authority := by
  have carried := turns_readdress r.uri.authority r.version rules r
  rw [r.readdress_self] at carried
  rw [carried]
  rfl

theorem same_readdress {r s : Request} (kept : s.uri.authority = r.uri.authority)
    (authority : Text) (version : Version) :
    (s.readdress authority version).uri.same (r.readdress authority version).uri =
      s.uri.same r.uri := by
  have letters (t : Text) : Text.sameLetters t t = true := beq_self_eq_true t.lower
  have moved : Text.sameLetters (s.readdress authority version).uri.authority
      (r.readdress authority version).uri.authority = true :=
    letters authority
  have plain : Text.sameLetters s.uri.authority r.uri.authority = true := by
    rw [kept]
    exact letters r.uri.authority
  rw [Uri.same, Uri.same, moved, plain]
  rfl

/-- What rules decide does not depend on what the authority and the version are. -/
theorem decideBy_readdress (authority : Text) (version : Version) (rules : List Rule)
    (r : Request) :
    let plain := decideBy rules r
    let moved := decideBy rules (r.readdress authority version)
    moved.1 = plain.1.readdress authority version ∧ moved.2.kind = plain.2.kind ∧
      moved.2.named = plain.2.named := by
  intro plain moved
  simp only [plain, moved, decideBy]
  cases rules.find? (·.blocks) with
  | some rule => exact ⟨rfl, rfl, rfl⟩
  | none =>
      have kept := authority_turns rules r
      rw [turns_readdress]
      generalize applyAll (fun rule => rule.modifiers.onRequest) rules r = run at kept
      obtain ⟨edited, applied⟩ := run
      simp only [same_readdress kept]
      split
      · exact ⟨rfl, rfl, rfl⟩
      · split
        · exact ⟨rfl, rfl, rfl⟩
        · exact ⟨rfl, rfl, rfl⟩

end RuleSet

/-! ## Looking up -/

namespace Http.Request.SameTarget

variable {r q : Request} (same : r.SameTarget q)

include same

theorem sameContext : r.SameContext q := by
  obtain ⟨host, here, there⟩ := same.host
  exact .of_values same.method (there.trans here.symm) fun name _ => by rw [same.headers]

theorem holdsForExchange (c : Condition) (response : Response) :
    c.holdsForExchange ⟨q, response⟩ = c.holdsForExchange ⟨r, response⟩ := by
  cases c with
  | header c => rfl
  | domain c => exact same.sameContext.holdsForRequest (.domain c)
  | method c => exact same.sameContext.holdsForRequest (.method c)
  | content c => exact same.sameContext.holdsForRequest (.content c)
  | party c => exact same.sameContext.holdsForRequest (.party c)

theorem candidates (t : Trie) : t.candidates q.uri = t.candidates r.uri := by
  obtain ⟨host, here, there⟩ := same.host
  obtain ⟨named, found, rfl⟩ := Option.map_eq_some_iff.mp here
  obtain ⟨named', found', lowered⟩ := Option.map_eq_some_iff.mp there
  have known {u : Uri} {name : Text} (h : u.host? = some name) : u.authority ≠ [] := by
    intro empty
    rw [Uri.host?, if_pos empty] at h
    cases h
  have behind : q.uri.pathAndQuery? = r.uri.pathAndQuery? := by
    rw [Uri.pathAndQuery?, Uri.pathAndQuery?, same.scheme, same.path, same.query,
      decide_eq_false (known found), decide_eq_false (known found')]
  simp only [Trie.candidates, found, found', lowered, behind, same.scheme]

theorem findForRequest (t : Trie) : t.findForRequest q = t.findForRequest r := by
  simp only [Trie.findForRequest, Trie.findWhere, same.candidates, ModifierSet.holdsForRequest,
    same.sameContext.holdsForRequest]

theorem findForExchange (t : Trie) (response : Response) :
    t.findForExchange ⟨q, response⟩ = t.findForExchange ⟨r, response⟩ := by
  simp only [Trie.findForExchange, Trie.findWhere, same.candidates, ModifierSet.holdsForExchange,
    same.holdsForExchange]

end Http.Request.SameTarget

namespace RuleSet

/-- Port, user information, the letter case of the host and the version of a request make no
difference to the verdict, to what is left of the request, or to what becomes of the response. -/
theorem decisions_ignore_authority (s : RuleSet) {r q : Request} (same : r.SameTarget q) :
    ((s.onRequest q).2.kind = (s.onRequest r).2.kind ∧
      (s.onRequest q).2.named = (s.onRequest r).2.named ∧
      (s.onRequest q).1.uri.query = (s.onRequest r).1.uri.query ∧
      (s.onRequest q).1.headers = (s.onRequest r).1.headers) ∧
    ∀ response : Response, s.onResponse ⟨q, response⟩ = s.onResponse ⟨r, response⟩ := by
  constructor
  · have rules : s.rulesForRequest q = s.rulesForRequest r := by
      rw [rulesForRequest, rulesForRequest, same.findForRequest, same.findForRequest]
    have decided := decideBy_readdress q.uri.authority q.version (s.rulesForRequest r) r
    rw [← same.eq_readdress, ← rules, ← onRequest_eq, rules, ← onRequest_eq] at decided
    obtain ⟨edited, kind, named⟩ := decided
    refine ⟨kind, named, ?_, ?_⟩
    · rw [edited]
      rfl
    · rw [edited]
      rfl
  · intro response
    have rules : s.rulesForExchange ⟨q, response⟩ = s.rulesForExchange ⟨r, response⟩ := by
      rw [rulesForExchange, rulesForExchange, same.findForExchange, same.findForExchange]
    rw [onResponse, onResponse, rules]

/-- A port, user information, a capital letter and an older version, when a parameter and a cookie
are removed. -/
theorem decisions_ignore_authority_port :
    let s := ofLines [⟨"||a.com^$removeparam=x,domain=a.com", "list"⟩, ⟨"$cookie=id", "list"⟩]
    let r : Request :=
      { method := "GET", uri := ⟨some "http", "a.com", "/", some "x=1&y=2"⟩, version := .http11,
        headers := ({} : Http.Headers).append "cookie" (Utf8.encode "id=1; k=2") }
    let q : Request :=
      { r with uri := ⟨some "http", "user@A.com:8080", "/", some "x=1&y=2"⟩, version := .http10 }
    r.SameTarget q ∧ (s.onRequest q).2.kind = .redirect ∧
      (s.onRequest q).2.named.map (·.raw) =
        [("$cookie=id" : Text), "||a.com^$removeparam=x,domain=a.com"] ∧
      (s.onRequest q).1.uri.query = some ("y=2" : Text) ∧
      (s.onRequest q).1.headers.values "cookie" = [Utf8.encode "k=2"] := by
  intro s r q
  have same : r.SameTarget q := ⟨rfl, rfl, rfl, rfl, rfl, "a.com", by decide, by decide⟩
  obtain ⟨⟨kind, named, query, headers⟩, -⟩ := s.decisions_ignore_authority same
  rw [kind, named, query, headers]
  exact ⟨same, by decide +kernel, by decide +kernel, by decide +kernel, by decide +kernel⟩

end RuleSet

end FilteringProxy
