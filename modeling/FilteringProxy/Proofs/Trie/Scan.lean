import FilteringProxy.Proofs.Http.Absolute
import FilteringProxy.Proofs.Text.Case
import FilteringProxy.Proofs.Token.Cut
import FilteringProxy.Proofs.Trie.Lookup
import Mathlib.Data.List.Infix

/-! # The look-up of web targets as a linear scan

For a target with a host and one of the schemes `http` and `https`, or none, the tokens that
addresses are compared with are those of the scheme, of the host and of path and query. So it can be
said of every entry by itself whether it applies, without a trie and without positions, and a
look-up finds what a scan of all entries finds.

A host can be empty, as in `http://:80/`, and then no token of the host is there for a rule with a
domain anchor to begin at. The look-up nevertheless lets it begin at the path.
-/

namespace FilteringProxy.Trie

open Http (Request Exchange Uri)

/-! ## Patterns one by one -/

/-- The tokens that are left when the tokens of a pattern have consumed theirs from the start. A `^`
consumes one separator, or nothing at the end of the input, and a `*` consumes any one token. -/
def afterPattern? : List Token → List Token → Option (List Token)
  | [], tokens => some tokens
  | p :: pattern, [] => if p = ['^'] then afterPattern? pattern [] else none
  | p :: pattern, t :: tokens =>
    if p = ['^'] then if Token.isSeparator t then afterPattern? pattern tokens else none
    else if p = ['*'] then afterPattern? pattern tokens
    else if p = t then afterPattern? pattern tokens
    else none

/-- The pattern matches the tokens from their start. -/
def beginsWith (address : Text) (tokens : List Token) : Bool :=
  (afterPattern? (tokenize address) tokens).isSome

/-- The pattern matches all of the tokens. -/
def spans (address : Text) (tokens : List Token) : Bool :=
  afterPattern? (tokenize address) tokens == some []

/-- The rows of tokens that begin at the first token of a host, or at a later one right after a full
stop. -/
def fromLabels (behind : List Token) : Option Token → List Token → List (List Token)
  | _, [] => []
  | before, t :: host =>
    (if before = none ∨ before = some ['.'] then [t :: (host ++ behind)] else []) ++
      fromLabels behind (some t) host

/-- What stands behind the host, as addresses are compared with it. -/
def pathTokens (u : Uri) : List Token := tokenize (u.pathAndQuery?.getD "/")

/-- The entry applies to a target with the given host in lower case. -/
def Entry.appliesTo (u : Uri) (host : Text) : Entry → Bool
  | .host name _ _ => name.lower == host
  | .pattern .everything _ _ => true
  | .pattern .address address _ => spans address (targetTokens u host)
  | .pattern .domain address _ =>
    (fromLabels (pathTokens u) none (tokenize host)).any (beginsWith address)
  | .pattern .anywhere address _ =>
    (targetTokens u host).tails.any fun row => !row.isEmpty && beginsWith address row

/-- A domain anchor lets the entry begin at the path. -/
def Entry.strays (u : Uri) : Entry → Bool
  | .pattern .domain address _ => beginsWith address (pathTokens u)
  | _ => false

/-- The rules of the current entries that apply, given which rules accept the exchange. -/
def scan (entries : List Entry) (applies : Entry → Bool) (accepts : Rule → Bool) : List Rule :=
  ((Entry.current Entry.place entries).filter fun e => applies e && accepts e.rule).map Entry.rule

/-! ## The tokens of a web target -/

/-- Targets of the web: `http`, `https`, or no scheme. -/
def webSchemes : List (Option Text) := [none, some "http", some "https"]

/-- The text that addresses are compared with is cut between its parts: a scheme has no colon, a host
has none that is not in brackets, and a delimiter stands behind the host. -/
theorem tokenize_lookupText {scheme host path rest : Text} {c : Char} (plain : ':' ∉ scheme)
    (closed : ':' ∉ host ∨ host.getLast? = some ']') (front : path = c :: rest)
    (delimiter : Token.isDelimiter c = true) :
    tokenize (lookupText scheme host path) =
      tokenize scheme ++ Token.schemeSeparator :: (tokenize host ++ tokenize path) := by
  have behind := tokenize_append (Token.delimited_of_front front delimiter) (Token.not_parted closed)
  have before (t : Text) := tokenize_append (b := Token.schemeSeparator ++ t)
    (Token.delimited_of_front rfl (by decide)) (Token.not_parted (Or.inl plain))
  rw [lookupText, ← behind, List.append_assoc, List.append_assoc]
  exact before _

theorem hostOf_lower_closed (authority : Text) :
    ':' ∉ (Uri.hostOf authority).lower ∨ (Uri.hostOf authority).lower.getLast? = some ']' := by
  rcases Uri.hostOf_closed authority with absent | bracket
  · exact Or.inl fun member => absent (Text.mem_of_mem_lower (by decide) member)
  · exact Or.inr (by rw [Text.getLast?_lower, bracket]; rfl)

theorem targetTokens_append {u : Uri} {host : Text} (apart : u.IsApart)
    (named : u.host? = some host) :
    targetTokens u host.lower =
      tokenize (u.scheme.getD "http") ++ Token.schemeSeparator ::
        (tokenize host.lower ++ pathTokens u) := by
  obtain ⟨c, rest, path, slash⟩ := apart.front named
  have delimiter : Token.isDelimiter c = true := by
    rcases slash with rfl | rfl <;> decide
  rw [Uri.host?, Option.ite_none_left_eq_some, Option.some.injEq] at named
  obtain ⟨-, rfl⟩ := named
  exact tokenize_lookupText apart.plain (hostOf_lower_closed u.authority) path delimiter

theorem pathTokens_ne_nil {u : Uri} {host : Text} (apart : u.IsApart)
    (named : u.host? = some host) : pathTokens u ≠ [] := by
  obtain ⟨c, rest, path, -⟩ := apart.front named
  rw [pathTokens, path]
  exact tokenize_ne_nil (List.cons_ne_nil c rest)

theorem tokenize_webScheme {scheme : Option Text} (web : scheme ∈ webSchemes) :
    tokenize (scheme.getD "http") = [scheme.getD "http"] := by
  simp only [webSchemes, List.mem_cons, List.not_mem_nil, or_false] at web
  rcases web with rfl | rfl | rfl <;> rfl

theorem targetTokens_eq {u : Uri} {host : Text} (apart : u.IsApart)
    (web : u.scheme ∈ webSchemes) (named : u.host? = some host) :
    targetTokens u host.lower =
      u.scheme.getD "http" :: Token.schemeSeparator ::
        (tokenize host.lower ++ pathTokens u) := by
  rw [targetTokens_append apart named, tokenize_webScheme web, List.singleton_append]

/-! ## Entries one by one -/

theorem afterPattern?_eq (pattern tokens : List Token) :
    afterPattern? pattern tokens = Edge.consume (pattern.map Edge.ofToken) tokens := by
  induction pattern generalizing tokens with
  | nil => cases tokens <;> rfl
  | cons p pattern ih =>
      by_cases sep : p = ['^']
      · subst sep
        cases tokens with
        | nil => exact ih []
        | cons t tokens =>
            simp only [afterPattern?, if_true, ih]
            rfl
      · by_cases wild : p = ['*']
        · subst wild
          cases tokens with
          | nil => rfl
          | cons t tokens => exact ih tokens
        · cases tokens with
          | nil => simp only [afterPattern?, if_neg sep, List.map_cons, Edge.ofToken, if_neg wild,
              Edge.consume]
          | cons t tokens => simp only [afterPattern?, if_neg sep, if_neg wild, List.map_cons,
              Edge.ofToken, Edge.consume, ih]

theorem beginsWith_iff (address : Text) (tokens : List Token) :
    beginsWith address tokens = true ↔ Node.Matches false (Edge.ofAddress address) tokens := by
  simp only [beginsWith, afterPattern?_eq, Option.isSome_iff_exists, Node.Matches, Edge.ofAddress,
    Bool.false_eq_true, false_implies, and_true]

theorem spans_iff (address : Text) (tokens : List Token) :
    spans address tokens = true ↔ Node.Matches true (Edge.ofAddress address) tokens := by
  simp only [spans, afterPattern?_eq, beq_iff_eq, Node.Matches, Edge.ofAddress, forall_const]
  constructor
  · intro consumed
    exact ⟨[], consumed, rfl⟩
  · rintro ⟨rest, consumed, rfl⟩
    exact consumed

theorem labelRows_behind {count i : Nat} (late : 2 < i) (behind : 2 + count ≤ i)
    (before : Option Token) (tokens : List Token) : labelRows count i before tokens = [] := by
  induction tokens generalizing i before with
  | nil => rfl
  | cons t tokens ih =>
      have none_here : beginsLabel count i before = false := by
        simp only [beginsLabel, Bool.or_eq_false_iff, beq_eq_false_iff_ne, Bool.and_eq_false_iff,
          decide_eq_false_iff_not]
        exact ⟨by omega, Or.inl (Or.inr (by omega))⟩
      simp only [labelRows, none_here, Bool.false_eq_true, if_false, List.nil_append]
      exact ih (by omega) (by omega) _

theorem labelRows_inside {count i : Nat} (late : 2 < i) (before : Token) {host : List Token}
    (inside : i + host.length = 2 + count) (behind : List Token) :
    labelRows count i (some before) (host ++ behind) = fromLabels behind (some before) host := by
  induction host generalizing i before with
  | nil => exact labelRows_behind late (by simp only [List.length_nil] at inside; omega) _ _
  | cons t host ih =>
      rw [List.length_cons] at inside
      have notFirst : i ≠ 2 := by omega
      have within : i < 2 + count := by omega
      have label : beginsLabel count i (some before) = true ↔ before = ['.'] := by
        simp only [beginsLabel, Bool.or_eq_true, beq_iff_eq, Bool.and_eq_true, decide_eq_true_eq,
          Option.some.injEq, notFirst, late, within, and_self, true_and, false_or]
      simp only [List.cons_append, labelRows, fromLabels, label, reduceCtorEq, Option.some.injEq,
        false_or]
      rw [ih (by omega) t (by omega)]

/-- The rows that the look-up takes for domain anchors: those that begin at a label, or, if the host
is empty, the one behind it. -/
theorem labelRows_web (scheme : Token) (host behind : List Token) (nonempty : behind ≠ []) :
    labelRows host.length 0 none (scheme :: Token.schemeSeparator :: (host ++ behind)) =
      if host = [] then [behind] else fromLabels behind none host := by
  have start : labelRows host.length 0 none
      (scheme :: Token.schemeSeparator :: (host ++ behind)) =
        labelRows host.length 2 (some Token.schemeSeparator) (host ++ behind) := rfl
  rw [start]
  cases host with
  | nil =>
      cases behind with
      | nil => exact absurd rfl nonempty
      | cons t rest =>
          have later : labelRows 0 3 (some t) rest = [] :=
            labelRows_behind (by omega) (by omega) (some t) rest
          simp only [List.nil_append, labelRows, List.length_nil, later, if_true]
          rfl
  | cons t host =>
      have later : labelRows (host.length + 1) 3 (some t) (host ++ behind) =
          fromLabels behind (some t) host := labelRows_inside (by omega) t (by omega) behind
      simp only [List.cons_append, labelRows, List.length_cons, later, fromLabels, true_or, if_true,
        reduceCtorEq, if_false]
      rfl

theorem tokenize_eq_nil {t : Text} : tokenize t = [] ↔ t = [] := by
  constructor
  · intro empty
    by_contra nonempty
    exact tokenize_ne_nil nonempty empty
  · rintro rfl
    rfl

/-- An entry applies by itself, or by straying behind an empty host, exactly if the target reaches
its place in the trie. -/
theorem reached_iff {u : Uri} {written host : Text} (parsed : Uri.parse? written = some u)
    (web : u.scheme ∈ webSchemes) (named : u.host? = some host) (e : Entry) :
    (e.appliesTo u host.lower || (host.isEmpty && e.strays u)) = true ↔
      e.place.Reached u host.lower := by
  have apart := Uri.IsApart.of_parse parsed
  have tokens := targetTokens_eq apart web named
  cases e with
  | host name raw list =>
      simp only [Entry.appliesTo, Entry.strays, Bool.and_false, Bool.or_false, beq_iff_eq,
        Entry.place, Place.Reached]
  | pattern anchor address rule =>
      cases anchor with
      | everything => simp only [Entry.appliesTo, Bool.true_or, Entry.place, Place.Reached]
      | address =>
          simp only [Entry.appliesTo, Entry.strays, Bool.and_false, Bool.or_false, spans_iff,
            Entry.place, Place.Reached]
      | anywhere =>
          simp only [Entry.appliesTo, Entry.strays, Bool.and_false, Bool.or_false, List.any_eq_true,
            List.mem_tails, Bool.and_eq_true, Bool.not_eq_true', List.isEmpty_eq_false_iff,
            beginsWith_iff, Entry.place, Place.Reached]
          constructor
          · rintro ⟨row, suffix, nonempty, matched⟩
            exact ⟨row, nonempty, suffix, matched⟩
          · rintro ⟨row, nonempty, suffix, matched⟩
            exact ⟨row, suffix, nonempty, matched⟩
      | domain =>
          have behind := pathTokens_ne_nil apart named
          simp only [Entry.place, Place.Reached, tokens, labelRows_web _ _ _ behind,
            tokenize_eq_nil, Entry.appliesTo, Entry.strays, Bool.or_eq_true, Bool.and_eq_true,
            List.any_eq_true, List.isEmpty_iff, beginsWith_iff]
          cases host with
          | nil =>
              simp only [Text.lower, List.map_nil, if_true, List.mem_singleton, exists_eq_left,
                true_and, tokenize, fromLabels, List.not_mem_nil, false_and, exists_false, false_or]
          | cons c host =>
              simp only [Text.lower, List.map_cons, reduceCtorEq, if_false, false_and, or_false]

/-- What a look-up finds for a web target, up to order and each rule once: the rules of the current
entries that apply to the target and accept the exchange. Behind an empty host the rules with a
domain anchor that match path and query from their start are found as well, and nothing else differs
from the scan. -/
theorem lookup_perm_scan (additions : List Addition) (e : Exchange) (written host : Text)
    (parsed : Uri.parse? written = some e.request.uri) (web : e.request.uri.scheme ∈ webSchemes)
    (named : e.request.uri.host? = some host) :
    let entries := additions.flatMap Addition.entries
    let applies := fun entry : Entry => entry.appliesTo e.request.uri host.lower
    let applied := fun entry => applies entry || (host.isEmpty && entry.strays e.request.uri)
    ((ofAdditions additions).findForRequest e.request).Perm
        (scan entries applied (·.modifiers.holdsForRequest e.request)) ∧
      ((ofAdditions additions).findForExchange e).Perm
        (scan entries applied (·.modifiers.holdsForExchange e)) ∧
      (host ≠ [] → applied = applies) := by
  intro entries applies applied
  have meaning (entry : Entry) : applied entry = true ↔
      ∃ name, e.request.uri.host? = some name ∧
        entry.place.Reached e.request.uri name.lower := by
    simp only [named, Option.some.injEq, exists_eq_left']
    exact reached_iff parsed web named entry
  rw [ofAdditions_eq]
  refine ⟨findWhere_perm entries _ _ applied meaning, findWhere_perm entries _ _ applied meaning,
    fun nonempty => ?_⟩
  funext entry
  simp only [applied, List.isEmpty_eq_false_iff.mpr nonempty, Bool.false_and, Bool.or_false]

/-- A rule for a domain, a hosts line and an exception list's pattern, looked up for a host below
the domain: only the domain rule is found, under the name that its line has. -/
theorem lookup_perm_scan_subdomain :
    let additions : List Addition :=
      [⟨"0.0.0.0 ads.com", "0.0.0.0 ads.com", "hosts"⟩, ⟨"||ads.com^", "||ads.com^", "easy"⟩,
        ⟨"|http://ads.com", "|http://ads.com", "easy"⟩]
    let e : Exchange :=
      { request := { method := "GET", uri := ⟨some "http", "x.Ads.com", "/a", none⟩,
                     version := .http11, headers := {} },
        response := { status := 200, version := .http11, headers := {} } }
    Uri.parse? "http://x.Ads.com/a" = some e.request.uri ∧ e.request.uri.scheme ∈ webSchemes ∧
      e.request.uri.host? = some "x.Ads.com" ∧
      ((ofAdditions additions).findForRequest e.request).Perm [⟨"||ads.com^", "easy", {}⟩] := by
  intro additions e
  have parsed : Uri.parse? "http://x.Ads.com/a" = some e.request.uri := by decide
  have web : e.request.uri.scheme ∈ webSchemes := by decide
  have named : e.request.uri.host? = some "x.Ads.com" := by decide
  refine ⟨parsed, web, named, ?_⟩
  have found := (lookup_perm_scan additions e _ _ parsed web named).1
  have scanned : scan (additions.flatMap Addition.entries)
      (fun entry => entry.appliesTo e.request.uri (Text.lower "x.Ads.com") ||
        (List.isEmpty ("x.Ads.com" : Text) && entry.strays e.request.uri))
      (·.modifiers.holdsForRequest e.request) = [⟨"||ads.com^", "easy", {}⟩] := by decide
  rwa [scanned] at found

/-- Behind the empty host of `http://:80/ads` a rule with a domain anchor is found that begins at no
token of a host. -/
theorem lookup_strays_behind_empty_host :
    let additions : List Addition := [⟨"||/ads", "||/ads", "list"⟩]
    let r : Request :=
      { method := "GET", uri := ⟨some "http", ":80", "/ads", none⟩, version := .http11,
        headers := {} }
    Uri.parse? "http://:80/ads" = some r.uri ∧ r.uri.scheme ∈ webSchemes ∧ r.uri.host? = some [] ∧
      ¬ ((ofAdditions additions).findForRequest r).Perm
        (scan (additions.flatMap Addition.entries) (·.appliesTo r.uri [])
          (·.modifiers.holdsForRequest r)) := by
  intro additions r
  refine ⟨by decide, by decide, by decide, fun perm => ?_⟩
  have counted := perm.length_eq
  revert counted
  decide

end FilteringProxy.Trie
