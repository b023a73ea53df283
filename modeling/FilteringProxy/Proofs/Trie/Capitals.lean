import FilteringProxy.Proofs.Http.Host
import FilteringProxy.Proofs.Rule.HostsLine
import FilteringProxy.Proofs.Trie.Labels

/-! # Capital letters in names

A host is looked up in lower case. The names of a hosts line are put in lower case as well, but the
address of a domain rule is kept as it is written. So a domain rule stands for the hosts line of its
name exactly if the name has no capital letter; otherwise it is never found.
-/

namespace FilteringProxy

open Http (Exchange Uri)

/-! ## Targets that are a name alone -/

theorem isNameChar_of_toLower {c : Char} (h : isNameChar c.toLower = true) :
    isNameChar c = true := by
  by_cases same : c.toLower = c
  · rwa [same] at h
  · simp only [isNameChar, Text.isAlphanum_of_toLower_ne same, Bool.true_or]

theorem all_isNameChar_of_lower {t : Text} (chars : t.lower.all isNameChar = true) :
    t.all isNameChar = true := by
  rw [Text.lower, List.all_map, List.all_eq_true] at chars
  exact List.all_eq_true.mpr fun c member => isNameChar_of_toLower (chars c member)

theorem isBlank_of_isNameChar {c : Char} (name : isNameChar c = true) : isBlank c = false := by
  have printed : 33 ≤ c.toNat ∧ c.toNat ≤ 122 := by
    simp only [isNameChar, Bool.or_eq_true, beq_iff_eq] at name
    rcases name with ((alphanum | rfl) | rfl) | rfl
    · delta Char.isAlphanum Char.isAlpha Char.isUpper Char.isLower Char.isDigit at alphanum
      simp only [ge_iff_le, Bool.or_eq_true, Bool.and_eq_true, decide_eq_true_eq,
        UInt32.le_iff_toNat_le] at alphanum
      rcases alphanum with (⟨low, high⟩ | ⟨low, high⟩) | ⟨low, high⟩
      · exact ⟨Nat.le_trans (by decide) low, Nat.le_trans high (by decide)⟩
      · exact ⟨Nat.le_trans (by decide) low, Nat.le_trans high (by decide)⟩
      · exact ⟨Nat.le_trans (by decide) low, Nat.le_trans high (by decide)⟩
    · decide
    · decide
    · decide
  rw [← Bool.not_eq_true]
  intro blank
  simp only [isBlank, Bool.or_eq_true, Bool.and_eq_true, decide_eq_true_eq, beq_iff_eq] at blank
  omega

namespace Http.Uri

theorem isPlainClass_isNameChar : IsPlainClass isNameChar where
  good := by
    intro c name
    simp only [isNameChar, Bool.or_eq_true, beq_iff_eq] at name
    rcases name with ((alphanum | rfl) | rfl) | rfl
    · rw [isAuthorityChar, alphanum, Bool.true_or]
    · decide
    · decide
    · decide
  marks := by decide

theorem isAuthority_name {t : Text} (chars : t.all isNameChar = true) : isAuthority t = true := by
  have last : t.getLast? ≠ some '@' := fun last =>
    not_mem_of_all chars (by decide) (List.mem_of_getLast? last)
  rw [isAuthority, isPlainClass_isNameChar.foldlM chars]
  simp [last]

theorem splitScheme_of_not_mem {t : Text} (plain : ':' ∉ t) : splitScheme t = some (none, t) := by
  have front {web : Text} {n : Nat} (colon : ':' ∈ web.lower) :
      Text.sameLetters (t.take n) web = false := by
    rw [Text.sameLetters, beq_eq_false_iff_ne]
    intro same
    rw [← same] at colon
    exact plain ((List.take_sublist n t).subset (Text.mem_of_mem_lower (by decide) colon))
  have mark : Text.after? "://" (t.dropWhile isSchemeChar) = none := by
    cases mark : Text.after? "://" (t.dropWhile isSchemeChar) with
    | none => rfl
    | some rest =>
        have whole := Text.after?_eq_some mark
        refine absurd ((List.dropWhile_sublist isSchemeChar).subset ?_) plain
        rw [whole]
        exact List.mem_cons_self
  have http : Text.sameLetters (t.take 7) "http://" = false := front (by decide)
  have https : Text.sameLetters (t.take 8) "https://" = false := front (by decide)
  rw [splitScheme]
  simp only [http, https, mark, Bool.false_eq_true, if_false, ite_self]

theorem parse?_name {t : Text} (nonempty : t ≠ []) (chars : t.all isNameChar = true)
    (short : Utf8.size t ≤ lengthLimit) : parse? t = some ⟨none, t, [], none⟩ := by
  have asterisk : t ≠ ['*'] := by
    rintro rfl
    exact absurd chars (by decide)
  have slash : t.head? ≠ some '/' := fun first =>
    not_mem_of_all chars (by decide) (List.mem_of_mem_head? first)
  have inside : ∀ c ∈ t, (!endsAuthority c) = true := by
    intro c member
    have apart {d : Char} (other : isNameChar d = false) : c ≠ d := by
      rintro rfl
      exact not_mem_of_all chars other member
    simp [endsAuthority, apart (d := '/') rfl, apart (d := '?') rfl, apart (d := '#') rfl]
  have split : splitAuthority t = (t, []) := by
    rw [splitAuthority, List.takeWhile_eq_self_iff.mpr inside, List.dropWhile_eq_nil_iff.mpr inside]
  rw [parse?, if_neg (not_or.mpr ⟨nonempty, Nat.not_lt.mpr short⟩), if_neg asterisk, if_neg slash,
    splitScheme_of_not_mem (not_mem_of_all chars (by decide))]
  simp [split, isAuthority_name chars]

theorem hostOf_name {t : Text} (chars : t.all isNameChar = true) : hostOf t = t := by
  have whole : hostAndPort t = t := hostAndPort_of_not_mem (not_mem_of_all chars (by decide))
  rw [hostOf, whole]
  split
  · rw [List.all_cons, Bool.and_eq_true] at chars
    exact absurd chars.1 (by decide)
  · exact Text.upTo_of_not_mem (not_mem_of_all chars (by decide))

theorem splitScheme_suffix {t rest : Text} {scheme : Option Text}
    (split : splitScheme t = some (scheme, rest)) : rest <:+ t := by
  cases scheme with
  | some scheme =>
      obtain ⟨-, front, whole, -⟩ := splitScheme_eq_some split
      exact ⟨front, whole.symm⟩
  | none =>
      have same : rest = t := by
        unfold splitScheme at split
        simp only at split
        split at split
        · cases split
        split at split
        · cases split
        split at split
        · exact (Prod.mk.inj (Option.some.inj split)).2.symm
        split at split
        · split at split <;> cases split
        · exact (Prod.mk.inj (Option.some.inj split)).2.symm
      rw [same]

theorem authority_sublist {written : Text} {u : Uri} (parsed : parse? written = some u) :
    u.authority.Sublist written := by
  simp only [parse?] at parsed
  split at parsed
  · contradiction
  split at parsed
  · obtain rfl := Option.some.inj parsed
    exact List.nil_sublist _
  split at parsed
  · obtain ⟨_, _, rfl⟩ := Option.map_eq_some_iff.mp parsed
    exact List.nil_sublist _
  split at parsed
  · contradiction
  rename_i scheme rest split
  have part : (splitAuthority rest).1.Sublist written :=
    (List.takeWhile_sublist _).trans (splitScheme_suffix split).sublist
  split at parsed
  · contradiction
  cases scheme with
  | none =>
      simp only [Option.ite_none_right_eq_some, Option.some.injEq] at parsed
      obtain ⟨_, rfl⟩ := parsed
      exact part
  | some scheme =>
      simp only [Option.ite_none_left_eq_some] at parsed
      obtain ⟨_, parsed⟩ := parsed
      obtain ⟨_, _, rfl⟩ := Option.map_eq_some_iff.mp parsed
      exact part

theorem size_hostOf_le {written : Text} {u : Uri} (parsed : parse? written = some u)
    (plain : '[' ∉ hostOf u.authority) : Utf8.size (hostOf u.authority) ≤ lengthLimit := by
  have behind : (hostAndPort u.authority).Sublist u.authority := by
    have reversed := (List.takeWhile_sublist (l := u.authority.reverse) (· != '@')).reverse
    rwa [List.reverse_reverse] at reversed
  have part : (hostOf u.authority).Sublist u.authority := by
    rw [hostOf] at plain ⊢
    split at plain
    · rename_i rest bracket
      rw [bracket] at plain
      exact absurd (List.mem_append_left _ List.mem_cons_self) plain
    · exact (Text.upTo_prefix ':' _).sublist.trans behind
  have short : Utf8.size written ≤ lengthLimit := by
    rw [parse?] at parsed
    split at parsed
    · contradiction
    · rename_i limits
      exact Nat.le_of_not_lt (not_or.mp limits).2
  exact Nat.le_trans (Utf8.size_le_of_sublist (part.trans (authority_sublist parsed))) short

end Http.Uri

namespace Trie

/-! ## Tries of one line -/

/-- The trie of one line, which stands in the list. -/
def only (line list : Text) : Trie := ofAdditions [⟨line, line, list⟩]

/-- A line of one rule is found for the targets that reach its place. -/
theorem mem_only_iff {line list : Text} {entry : Entry}
    (single : Addition.entries ⟨line, line, list⟩ = [entry]) (u : Uri) (accepts : Rule → Bool) :
    entry.rule ∈ (only line list).findWhere u accepts ↔
      accepts entry.rule = true ∧
        ∃ host, u.host? = some host ∧ entry.place.Reached u host.lower := by
  have entries : only line list = ofEntries [entry] := by
    rw [only, ofAdditions_eq, List.flatMap_singleton, single]
  rw [entries, mem_findWhere]
  simp [Entry.current]

/-- The line of a hosts file that blocks a name. -/
def hostsLine (name : Text) : Text := ("0.0.0.0 " : Text) ++ name

theorem parse_hostsLine {name : Text} (nonempty : name ≠ []) (chars : name.all isNameChar = true)
    (foreign : RuleLine.isSinkholeName name = false) :
    RuleLine.parse (hostsLine name) = .ok (.hosts [name]) := by
  have filled : ∀ c ∈ name, isBlank c = false := fun c member =>
    isBlank_of_isNameChar (List.all_eq_true.mp chars c member)
  have single : '\n' ∉ name := Uri.not_mem_of_all chars (by decide)
  have words : Text.words (' ' :: name) = [name] := by
    rw [Text.words_cons rfl, Text.words_of_filled nonempty filled]
  have hosts : RuleLine.IsHosts "0.0.0.0" (' ' :: name) := by
    refine ⟨List.mem_cons_self, ⟨' ', name, rfl, rfl⟩, ?_, ?_⟩
    · rw [words]
      exact List.cons_ne_nil _ _
    · simp [single]
  have trimmed : (hostsLine name).trim = hostsLine name := by
    have shown := hosts.trim_eq
    obtain ⟨c, rest, rfl⟩ := List.exists_cons_of_ne_nil nonempty
    rw [← List.singleton_append,
      Text.dropEnd_append_left ⟨c, List.mem_cons_self, filled c List.mem_cons_self⟩,
      Text.dropEnd_eq_self filled] at shown
    exact shown
  have names : RuleLine.hostNames (' ' :: name) = [name] := by
    rw [RuleLine.hostNames, Text.upTo_of_not_mem, words]
    · simp [foreign]
    · simp [Uri.not_mem_of_all chars (show isNameChar '#' = false by decide)]
  rw [← trimmed, ← names]
  exact hosts.parse_trim

/-! ## What finds a name -/

theorem hosts_found_iff {name list : Text} (nonempty : name ≠ [])
    (chars : name.all isNameChar = true) (foreign : RuleLine.isSinkholeName name = false) (u : Uri)
    (accepts : Rule → Bool) :
    ⟨hostsLine name, list, {}⟩ ∈ (only (hostsLine name) list).findWhere u accepts ↔
      accepts ⟨hostsLine name, list, {}⟩ = true ∧
        ∃ host, u.host? = some host ∧ name.lower = host.lower := by
  have single : Addition.entries ⟨hostsLine name, hostsLine name, list⟩ =
      [.host name (hostsLine name) list] := by
    simp only [Addition.entries, parse_hostsLine nonempty chars foreign, Entry.ofLine,
      List.map_cons, List.map_nil]
  exact mem_only_iff single u accepts

theorem domain_found_iff {name list : Text} (nonempty : name ≠ [])
    (chars : name.all isNameChar = true) (u : Uri) (accepts : Rule → Bool) :
    ⟨domainLine name, list, {}⟩ ∈ (only (domainLine name) list).findWhere u accepts ↔
      accepts ⟨domainLine name, list, {}⟩ = true ∧
        ∃ host, u.host? = some host ∧
          (Place.domain (Edge.ofAddress (name ++ ['^']))).Reached u host.lower := by
  have single : Addition.entries ⟨domainLine name, domainLine name, list⟩ =
      [.pattern .domain (name ++ ['^']) ⟨domainLine name, list, {}⟩] := by
    simp only [Addition.entries, parse_domainLine_of_chars nonempty chars, Entry.ofLine]
  exact mem_only_iff single u accepts

/-- All tokens of the name of a domain rule are tokens of a host that it is found for. -/
theorem subset_of_reached {u : Uri} {written host name : Text}
    (parsed : Uri.parse? written = some u) (web : u.scheme ∈ webSchemes)
    (named : u.host? = some host) (chars : name.all isNameChar = true)
    (reached : (Place.domain (Edge.ofAddress (name ++ ['^']))).Reached u host.lower) :
    tokenize name ⊆ tokenize host.lower := by
  have apart := Uri.IsApart.of_parse parsed
  obtain ⟨t, first, separates⟩ := pathTokens_front apart named
  simp only [Place.Reached, targetTokens_eq apart web named,
    labelRows_web _ _ _ (pathTokens_ne_nil apart named)] at reached
  obtain ⟨row, member, matched⟩ := reached
  obtain ⟨more, whole, -⟩ := (matches_name chars row).mp matched
  have shape : ∃ label, label ⊆ tokenize host.lower ∧ row = label ++ pathTokens u := by
    split at member
    · exact ⟨[], List.nil_subset _, List.mem_singleton.mp member⟩
    · obtain ⟨front, label, host_eq, -, row_eq, -⟩ := (mem_fromLabels _ _ _ _).mp member
      refine ⟨label, ?_, row_eq⟩
      rw [host_eq]
      exact List.subset_append_right front label
  obtain ⟨label, part, rfl⟩ := shape
  rcases List.append_eq_append_iff.mp whole with ⟨inside, names, rest⟩ | ⟨inside, labels, -⟩
  · cases inside with
    | nil =>
        rw [names, List.append_nil]
        exact part
    | cons x inside =>
        rw [rest, List.cons_append, List.head?_cons, Option.some.injEq] at first
        subst first
        have inName : x ∈ tokenize name := by
          rw [names]
          exact List.mem_append_right label List.mem_cons_self
        rw [isSeparator_of_mem_name chars inName] at separates
        contradiction
  · refine List.Subset.trans ?_ part
    rw [labels]
    exact List.subset_append_left _ inside

/-- A rule of a name with a capital letter is found for no target of the web. -/
theorem lower_of_reached {u : Uri} {written host name : Text}
    (parsed : Uri.parse? written = some u) (web : u.scheme ∈ webSchemes)
    (named : u.host? = some host) (chars : name.all isNameChar = true)
    (reached : (Place.domain (Edge.ofAddress (name ++ ['^']))).Reached u host.lower) :
    name.lower = name := by
  have tokens := subset_of_reached parsed web named chars reached
  refine Text.lower_eq_self fun c member => ?_
  rw [← flatten_tokenize name, List.mem_flatten] at member
  obtain ⟨token, inName, inside⟩ := member
  exact Text.toLower_of_mem_lower (mem_of_mem_token (tokens inName) inside)

/-- For all targets of the web that the hosts line of the name is found for, its domain rule is
found as well, when each stands alone in a trie. -/
def DomainCoversHosts (name : Text) : Prop :=
  ∀ (list written : Text) (e : Exchange), Uri.parse? written = some e.request.uri →
    e.request.uri.scheme ∈ webSchemes →
    (⟨hostsLine name, list, {}⟩ ∈ (only (hostsLine name) list).findForRequest e.request →
        ⟨domainLine name, list, {}⟩ ∈ (only (domainLine name) list).findForRequest e.request) ∧
      (⟨hostsLine name, list, {}⟩ ∈ (only (hostsLine name) list).findForExchange e →
        ⟨domainLine name, list, {}⟩ ∈ (only (domainLine name) list).findForExchange e)

theorem domainCoversHosts_iff {name : Text} (nonempty : name ≠ [])
    (chars : name.all isNameChar = true) (foreign : RuleLine.isSinkholeName name = false) :
    DomainCoversHosts name ↔ name.lower = name ∨ Uri.lengthLimit < Utf8.size name := by
  constructor
  · intro covers
    by_contra neither
    rw [not_or, Nat.not_lt] at neither
    let u : Uri := ⟨none, name.lower, [], none⟩
    let e : Exchange :=
      { request := { method := "GET", uri := u, version := .http11, headers := {} },
        response := { status := 200, version := .http11, headers := {} } }
    have chars' := all_isNameChar_lower chars
    have nonempty' : name.lower ≠ [] := fun empty => nonempty (List.map_eq_nil_iff.mp empty)
    have parsed : Uri.parse? name.lower = some u :=
      Uri.parse?_name nonempty' chars' (by rw [Utf8.size_lower]; exact neither.2)
    have web : u.scheme ∈ webSchemes := List.mem_cons_self
    have named : u.host? = some name.lower := by
      rw [Uri.host?, if_neg nonempty', Uri.hostOf_name chars']
    have found := (covers [] name.lower e parsed web).1 <|
      (hosts_found_iff nonempty chars foreign u _).mpr
        ⟨rfl, name.lower, named, (Text.lower_lower name).symm⟩
    obtain ⟨-, host, named', reached⟩ := (domain_found_iff nonempty chars u _).mp found
    exact neither.1 (lower_of_reached parsed web named' chars reached)
  · intro either list written e parsed web
    have found {accepts : Rule → Bool} (accepted : accepts ⟨domainLine name, list, {}⟩ = true)
        (found : ⟨hostsLine name, list, {}⟩ ∈
          (only (hostsLine name) list).findWhere e.request.uri accepts) :
        ⟨domainLine name, list, {}⟩ ∈
          (only (domainLine name) list).findWhere e.request.uri accepts := by
      obtain ⟨-, host, named, same⟩ := (hosts_found_iff nonempty chars foreign _ _).mp found
      have hostChars : host.all isNameChar = true := by
        apply all_isNameChar_of_lower
        rw [← same]
        exact all_isNameChar_lower chars
      rcases either with lower | long
      · refine (domain_found_iff nonempty chars _ _).mpr ⟨accepted, host, named, ?_⟩
        rw [reached_name_iff parsed named (tokenize_webScheme web) hostChars
          ⟨nonempty, chars, lower⟩, ← same]
        exact Or.inl lower
      · have size : Utf8.size host = Utf8.size name := by
          rw [← Utf8.size_lower host, ← same, Utf8.size_lower]
        simp only [Uri.host?, Option.ite_none_left_eq_some, Option.some.injEq] at named
        obtain ⟨-, rfl⟩ := named
        have short := Uri.size_hostOf_le parsed (Uri.not_mem_of_all hostChars (by decide))
        omega
    exact ⟨found rfl, found rfl⟩

/-- The rule of a name in lower case covers its hosts line. -/
theorem domainCoversHosts_iff_small :
    let e : Exchange :=
      { request := { method := "GET", uri := ⟨none, "Ads.com:80", [], none⟩, version := .http11,
                     headers := {} },
        response := { status := 200, version := .http11, headers := {} } }
    RuleLine.isSinkholeName "ads.com" = false ∧ DomainCoversHosts "ads.com" ∧
      ⟨"||ads.com^", "list", {}⟩ ∈ (only "||ads.com^" "list").findForRequest e.request := by
  intro e
  have foreign : RuleLine.isSinkholeName "ads.com" = false := by decide
  have covers : DomainCoversHosts "ads.com" :=
    (domainCoversHosts_iff (by decide) (by decide) foreign).mpr (Or.inl (by decide))
  have found : ⟨hostsLine "ads.com", "list", {}⟩ ∈
      (only (hostsLine "ads.com") "list").findForRequest e.request := by decide
  exact ⟨foreign, covers, (covers "list" "Ads.com:80" e (by decide) (by decide)).1 found⟩

/-- A hosts line blocks a name that its domain rule, with the same capital letter, does not. -/
theorem not_domainCoversHosts_capital :
    let r : Http.Request :=
      { method := "GET", uri := ⟨some "http", "ads.com", "/", none⟩, version := .http11,
        headers := {} }
    Uri.parse? "http://ads.com/" = some r.uri ∧
      (only (hostsLine "Ads.com") "list").findForRequest r = [⟨"0.0.0.0 Ads.com", "list", {}⟩] ∧
      (only (domainLine "Ads.com") "list").findForRequest r = [] ∧
      ¬ DomainCoversHosts "Ads.com" := by
  intro r
  have blocked : (only (hostsLine "Ads.com") "list").findForRequest r =
      [⟨"0.0.0.0 Ads.com", "list", {}⟩] := by decide
  have missed : (only (domainLine "Ads.com") "list").findForRequest r = [] := by decide
  refine ⟨by decide, blocked, missed, fun covers => ?_⟩
  have found := (covers "list" "http://ads.com/"
    ⟨r, { status := 200, version := .http11, headers := {} }⟩ (by decide) (by decide)).1 (by
      rw [blocked]
      exact List.mem_singleton_self _)
  rw [missed] at found
  contradiction

end Trie

end FilteringProxy
