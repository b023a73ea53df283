import FilteringProxy.Proofs.Http.Absolute
import FilteringProxy.Proofs.Rule.Line
import FilteringProxy.Proofs.Trie.Scan

/-! # Domain anchors and labels

A rule such as `||ads.com^` is meant for a name and for all names below it. Under a scheme that is
one token it is found for exactly these hosts. A look-up takes the third token of a target for the
first one of its host; so under a scheme of no token or of several tokens the rule of a name is not
even found for the name itself.
-/

namespace FilteringProxy

open Http (Request Exchange Uri)

/-- A character that names of hosts are made of. -/
def isNameChar (c : Char) : Bool := c.isAlphanum || c == '.' || c == '-' || c == '_'

/-- A name as rules have it. -/
structure IsDomain (name : Text) : Prop where
  nonempty : name ≠ []
  chars : name.all isNameChar = true
  lowercase : name.lower = name

/-- The host is the domain or a name below it. -/
def IsWithin (host domain : Text) : Prop := host = domain ∨ '.' :: domain <:+ host

/-! ## Tokens of names -/

theorem isNameChar_toLower {c : Char} (h : isNameChar c = true) : isNameChar c.toLower = true := by
  simp only [isNameChar, Bool.or_eq_true, beq_iff_eq] at h
  rcases h with ((alphanum | rfl) | rfl) | rfl
  · simp only [isNameChar, Text.isAlphanum_toLower alphanum, Bool.true_or]
  · decide
  · decide
  · decide

theorem all_isNameChar_lower {t : Text} (chars : t.all isNameChar = true) :
    t.lower.all isNameChar = true := by
  rw [Text.lower, List.all_map, List.all_eq_true]
  exact fun c member => isNameChar_toLower (List.all_eq_true.mp chars c member)

theorem isSeparatorChar_of_isNameChar {c : Char} (h : isNameChar c = true) :
    Token.isSeparatorChar c = false := by
  simp only [isNameChar, Bool.or_eq_true, beq_iff_eq] at h
  rcases h with ((alphanum | rfl) | rfl) | rfl
  · simp only [Token.isSeparatorChar, alphanum, Bool.true_or, Bool.not_true]
  · decide
  · decide
  · decide

theorem isSeparator_of_mem_name {t : Text} (chars : t.all isNameChar = true) {token : Token}
    (member : token ∈ tokenize t) : Token.isSeparator token = false := by
  refine List.any_eq_false.mpr fun c inside => ?_
  have known := List.all_eq_true.mp chars c (mem_of_mem_token member inside)
  rw [isSeparatorChar_of_isNameChar known]
  exact Bool.false_ne_true

theorem tokenize_stop {front back : Text} (chars : front.all isNameChar = true) :
    tokenize (front ++ '.' :: back) = tokenize front ++ ['.'] :: tokenize back := by
  have no_colon : ':' ∉ front := Uri.not_mem_of_all chars (by decide)
  rw [tokenize_append (Token.delimited_of_front rfl (by decide)) (Token.not_parted (Or.inl no_colon)),
    tokenize_delimiter (by decide) (by decide)]

/-! ## The pattern of a domain rule -/

namespace Edge

theorem consume_tokens (ts : List Token) (path : List Edge) (tokens rest : List Token) :
    consume (ts.map token ++ path) tokens = some rest ↔
      ∃ more, tokens = ts ++ more ∧ consume path more = some rest := by
  induction ts generalizing tokens with
  | nil => simp only [List.map_nil, List.nil_append, exists_eq_left']
  | cons t ts ih =>
      cases tokens with
      | nil => simp only [List.map_cons, List.cons_append, consume, reduceCtorEq, false_and,
          exists_false]
      | cons u tokens =>
          simp only [List.map_cons, List.cons_append, consume, Option.ite_none_right_eq_some, ih,
            List.cons.injEq]
          constructor
          · rintro ⟨rfl, more, rfl, consumed⟩
            exact ⟨more, ⟨rfl, rfl⟩, consumed⟩
          · rintro ⟨more, ⟨rfl, rfl⟩, consumed⟩
            exact ⟨rfl, more, rfl, consumed⟩

theorem ofAddress_name {name : Text} (chars : name.all isNameChar = true) :
    ofAddress (name ++ ['^']) = (tokenize name).map token ++ [separator] := by
  have no_colon : ':' ∉ name := Uri.not_mem_of_all chars (by decide)
  have literal (t : Token) (member : t ∈ tokenize name) : ofToken t = token t := by
    have other {c : Char} (bad : isNameChar c = false) : t ≠ [c] := by
      rintro rfl
      exact Uri.not_mem_of_all chars bad (mem_of_mem_token member (List.mem_singleton_self c))
    rw [ofToken, if_neg (other (by decide)), if_neg (other (by decide))]
  rw [ofAddress, tokenize_append (Token.delimited_of_front rfl (by decide))
    (Token.not_parted (Or.inl no_colon)), List.map_append, List.map_congr_left literal]
  rfl

end Edge

theorem matches_name {name : Text} (chars : name.all isNameChar = true) (row : List Token) :
    Node.Matches false (Edge.ofAddress (name ++ ['^'])) row ↔
      ∃ more, row = tokenize name ++ more ∧ ∀ t ∈ more.head?, Token.isSeparator t = true := by
  have ends (more : List Token) : (∃ rest, Edge.consume [.separator] more = some rest) ↔
      ∀ t ∈ more.head?, Token.isSeparator t = true := by
    cases more with
    | nil => simp only [Edge.consume, Option.some.injEq, exists_eq', List.head?_nil, Option.mem_def,
        reduceCtorEq, false_implies, implies_true]
    | cons t more => simp only [Edge.consume, Option.ite_none_right_eq_some, exists_and_left,
        Option.some.injEq, exists_eq', and_true, List.head?_cons, Option.mem_def, forall_eq']
  simp only [Node.Matches, Edge.ofAddress_name chars, Edge.consume_tokens, Bool.false_eq_true,
    false_implies, and_true, ← ends]
  constructor
  · rintro ⟨rest, more, whole, consumed⟩
    exact ⟨more, whole, rest, consumed⟩
  · rintro ⟨more, whole, rest, consumed⟩
    exact ⟨rest, more, whole, consumed⟩

/-- Where tokens that do not separate are followed by one that does, the pattern of a domain rule
matches if they are all tokens of its name. -/
theorem matches_name_append {name : Text} (chars : name.all isNameChar = true)
    {label behind : List Token} (plain : ∀ t ∈ label, Token.isSeparator t = false)
    {t : Token} (first : behind.head? = some t) (separates : Token.isSeparator t = true) :
    Node.Matches false (Edge.ofAddress (name ++ ['^'])) (label ++ behind) ↔
      label = tokenize name := by
  rw [matches_name chars]
  constructor
  · rintro ⟨more, whole, ends⟩
    rcases List.append_eq_append_iff.mp whole with ⟨inside, names, rest⟩ | ⟨inside, labels, rest⟩
    · cases inside with
      | nil => rw [names, List.append_nil]
      | cons u inside =>
          rw [rest, List.cons_append, List.head?_cons, Option.some.injEq] at first
          subst first
          have named : u ∈ tokenize name := by
            rw [names]
            exact List.mem_append_right label List.mem_cons_self
          rw [isSeparator_of_mem_name chars named] at separates
          cases separates
    · cases inside with
      | nil => rw [labels, List.append_nil]
      | cons u inside =>
          have separates' := ends u (by rw [rest]; rfl)
          have member : u ∈ label := by
            rw [labels]
            exact List.mem_append_right _ List.mem_cons_self
          rw [plain u member] at separates'
          cases separates'
  · rintro rfl
    refine ⟨behind, rfl, fun u member => ?_⟩
    rw [Option.mem_def, first, Option.some.injEq] at member
    exact member ▸ separates

/-! ## Labels of a host -/

namespace Trie

theorem mem_fromLabels (behind host : List Token) (before : Option Token) (row : List Token) :
    row ∈ fromLabels behind before host ↔
      ∃ front label, host = front ++ label ∧ label ≠ [] ∧ row = label ++ behind ∧
        (front = [] ∧ (before = none ∨ before = some ['.']) ∨ front.getLast? = some ['.']) := by
  induction host generalizing before with
  | nil =>
      simp only [fromLabels, List.not_mem_nil, false_iff, not_exists, not_and]
      intro front label whole some_label
      exact absurd (List.append_eq_nil_iff.mp whole.symm).2 some_label
  | cons t host ih =>
      simp only [fromLabels, List.mem_append, ih]
      constructor
      · rintro (here | ⟨front, label, rfl, some_label, rfl, begins⟩)
        · split at here
          · rename_i begins
            cases List.mem_singleton.mp here
            exact ⟨[], t :: host, rfl, List.cons_ne_nil _ _, rfl, Or.inl ⟨rfl, begins⟩⟩
          · cases here
        · refine ⟨t :: front, label, rfl, some_label, rfl, Or.inr ?_⟩
          rcases begins with ⟨rfl, stop⟩ | stop
          · simpa using stop
          · rw [List.getLast?_cons, stop]
            rfl
      · rintro ⟨front, label, whole, some_label, rfl, begins⟩
        cases front with
        | nil =>
            rw [List.nil_append] at whole
            subst whole
            have start : before = none ∨ before = some ['.'] := by simpa using begins
            exact Or.inl (by rw [if_pos start]; exact List.mem_singleton_self _)
        | cons u front =>
            rw [List.cons_append, List.cons.injEq] at whole
            obtain ⟨rfl, rfl⟩ := whole
            refine Or.inr ⟨front, label, rfl, some_label, rfl, ?_⟩
            cases front with
            | nil => simpa using begins
            | cons v front => simpa using begins

theorem isWithin_iff {host name : Text} (chars : host.all isNameChar = true)
    (some_name : name ≠ []) :
    IsWithin host name ↔ ∃ front, tokenize host = front ++ tokenize name ∧
      (front = [] ∨ front.getLast? = some ['.']) := by
  constructor
  · rintro (rfl | ⟨front, rfl⟩)
    · exact ⟨[], rfl, Or.inl rfl⟩
    · rw [List.all_append, Bool.and_eq_true] at chars
      refine ⟨tokenize front ++ [['.']], ?_, Or.inr (List.getLast?_concat ..)⟩
      rw [tokenize_stop chars.1, List.append_assoc]
      rfl
  · rintro ⟨front, whole, rfl | stop⟩
    · left
      rw [← flatten_tokenize host, whole, List.nil_append, flatten_tokenize]
    · right
      obtain ⟨front, rfl⟩ := List.getLast?_eq_some_iff.mp stop
      refine ⟨front.flatten, ?_⟩
      rw [← flatten_tokenize host, whole, List.flatten_append, List.flatten_append,
        flatten_tokenize, List.append_assoc]
      rfl

theorem pathTokens_front {u : Uri} {host : Text} (apart : u.IsApart)
    (named : u.host? = some host) :
    ∃ t, (pathTokens u).head? = some t ∧ Token.isSeparator t = true := by
  obtain ⟨c, rest, path, slash⟩ := apart.front named
  rw [pathTokens, path]
  rcases slash with rfl | rfl
  · exact ⟨['/'], by rw [tokenize_delimiter (by decide) (by decide)]; rfl, by decide⟩
  · exact ⟨['?'], by rw [tokenize_delimiter (by decide) (by decide)]; rfl, by decide⟩

/-- Under a scheme of one token a target reaches the place of a domain rule if its host is the name
of the rule or below it. -/
theorem reached_name_iff {u : Uri} {written host name : Text}
    (parsed : Uri.parse? written = some u) (named : u.host? = some host)
    (single : tokenize (u.scheme.getD "http") = [u.scheme.getD "http"])
    (chars : host.all isNameChar = true) (domain : IsDomain name) :
    (Place.domain (Edge.ofAddress (name ++ ['^']))).Reached u host.lower ↔
      IsWithin host.lower name := by
  have chars' := all_isNameChar_lower chars
  have apart := Uri.IsApart.of_parse parsed
  obtain ⟨t, first, separates⟩ := pathTokens_front apart named
  have some_token : tokenize name ≠ [] := tokenize_ne_nil domain.nonempty
  have label_plain {front label : List Token} (whole : tokenize host.lower = front ++ label) :
      ∀ t ∈ label, Token.isSeparator t = false := fun t member =>
    isSeparator_of_mem_name chars' (by rw [whole]; exact List.mem_append_right _ member)
  simp only [Place.Reached, targetTokens_append apart named, single, List.singleton_append,
    labelRows_web _ _ _ (pathTokens_ne_nil apart named)]
  rw [isWithin_iff chars' domain.nonempty]
  by_cases empty : tokenize host.lower = []
  · have plain_nil : ∀ t ∈ ([] : List Token), Token.isSeparator t = false :=
      fun t member => absurd member List.not_mem_nil
    have matched := matches_name_append domain.chars plain_nil first separates
    rw [List.nil_append] at matched
    simp only [empty, if_true, List.mem_singleton, exists_eq_left, matched]
    constructor
    · intro none_left
      exact absurd none_left.symm some_token
    · rintro ⟨front, whole, _⟩
      exact absurd (List.append_eq_nil_iff.mp whole.symm).2 some_token
  · simp only [if_neg empty, mem_fromLabels, true_or, and_true]
    constructor
    · rintro ⟨row, ⟨front, label, whole, some_label, rfl, begins⟩, matched⟩
      rw [matches_name_append domain.chars (label_plain whole) first separates] at matched
      subst matched
      exact ⟨front, whole, begins⟩
    · rintro ⟨front, whole, begins⟩
      refine ⟨tokenize name ++ pathTokens u,
        ⟨front, tokenize name, whole, some_token, rfl, begins⟩, ?_⟩
      rw [matches_name_append domain.chars (label_plain whole) first separates]

/-! ## The rules of a line -/

namespace Entry

theorem mem_current {place : α → Place} {l : List α} {a : α} (member : a ∈ l)
    (many : (place a).isSingle = false) : a ∈ current place l := by
  induction l with
  | nil => cases member
  | cons b later ih =>
      simp only [current]
      rcases List.mem_cons.mp member with rfl | member
      · rw [many, Bool.false_and, if_neg Bool.false_ne_true]
        exact List.mem_cons_self
      · split
        · exact ih member
        · exact List.mem_cons_of_mem b (ih member)

end Entry

theorem Addition.rule_of_mem_entries {a : Addition} {e : Entry} (member : e ∈ a.entries) :
    e.rule.raw = a.raw ∧ e.rule.list = a.list := by
  rw [entries] at member
  split at member
  · rename_i line _
    cases line with
    | hosts names =>
        obtain ⟨name, _, rfl⟩ := List.mem_map.mp member
        exact ⟨rfl, rfl⟩
    | pattern anchor address modifiers =>
        cases List.mem_singleton.mp member
        exact ⟨rfl, rfl⟩
  · cases member

/-- The line is among the additions, and what is reported under the text and the list is this line
alone. -/
structure Tells (additions : List Addition) (line raw list : Text) : Prop where
  added : ⟨line, raw, list⟩ ∈ additions
  alone : ∀ a ∈ additions, a.raw = raw → a.list = list → a.line = line

theorem Tells.mem_findWhere_iff {additions : List Addition} {line raw list address : Text}
    {anchor : Anchor} {modifiers : ModifierSet} (told : Tells additions line raw list)
    (read : RuleLine.parse line = .ok (.pattern anchor address modifiers)) (u : Uri)
    (accepts : Rule → Bool) :
    let entry : Entry := .pattern anchor address ⟨raw, list, modifiers⟩
    entry.rule ∈ (ofAdditions additions).findWhere u accepts ↔
      accepts entry.rule = true ∧
        ∃ host, u.host? = some host ∧ entry.place.Reached u host.lower := by
  intro entry
  have own : (⟨line, raw, list⟩ : Addition).entries = [entry] := by
    simp only [Addition.entries, read, Entry.ofLine, entry]
  rw [ofAdditions_eq, mem_findWhere]
  constructor
  · rintro ⟨accepted, e, current, same, target⟩
    obtain ⟨a, added, member⟩ :=
      List.mem_flatMap.mp ((Entry.current_sublist _ _).subset current)
    obtain ⟨rawSame, listSame⟩ := Addition.rule_of_mem_entries member
    rw [same] at rawSame listSame
    have lineSame := told.alone a added rawSame.symm listSame.symm
    obtain ⟨_, _, _⟩ := a
    cases rawSame
    cases listSame
    cases lineSame
    rw [own, List.mem_singleton] at member
    rw [member] at target
    exact ⟨accepted, target⟩
  · rintro ⟨accepted, target⟩
    have member : entry ∈ additions.flatMap Addition.entries :=
      List.mem_flatMap.mpr ⟨_, told.added, by rw [own]; exact List.mem_singleton_self entry⟩
    have many : entry.place.isSingle = false := by
      simp only [entry]
      cases anchor <;> rfl
    exact ⟨accepted, entry, Entry.mem_current member many, rfl, target⟩

/-! ## Domain rules -/

/-- The line of a rule for a name and all names below it. -/
def domainLine (name : Text) : Text := '|' :: '|' :: (name ++ ['^'])

theorem parse_domainLine_of_chars {name : Text} (nonempty : name ≠ [])
    (chars : name.all isNameChar = true) :
    RuleLine.parse (domainLine name) = .ok (.pattern .domain (name ++ ['^']) {}) := by
  have no_sign : '$' ∉ domainLine name := by
    simp only [domainLine, List.mem_cons, List.mem_append, List.not_mem_nil, or_false, not_or]
    exact ⟨by decide, by decide, Uri.not_mem_of_all chars (by decide), by decide⟩
  obtain ⟨c, rest, whole⟩ := List.exists_cons_of_ne_nil
    (List.append_ne_nil_of_left_ne_nil nonempty ['^'])
  have no_host : RuleLine.hostsPart? (domainLine name) = none := rfl
  have uncut : RuleLine.cutModifiers (domainLine name) = (domainLine name, none) := by
    rw [RuleLine.cutModifiers, Text.cut?_eq_none.mpr no_sign]
  have anchored : RuleLine.anchorOf (domainLine name) = (.domain, name ++ ['^']) := by
    rw [domainLine, whole]
    rfl
  rw [RuleLine.parse_pattern no_host uncut, anchored]
  rfl

theorem parse_domainLine {name : Text} (domain : IsDomain name) :
    RuleLine.parse (domainLine name) = .ok (.pattern .domain (name ++ ['^']) {}) :=
  parse_domainLine_of_chars domain.nonempty domain.chars

/-- Under the scheme, whatever else the trie holds, the rule of a name is found for a host exactly
if that is the name or below it. -/
def RespectsLabels (scheme : Text) : Prop :=
  ∀ (additions : List Addition) (name raw list written host : Text) (e : Exchange),
    Tells additions (domainLine name) raw list → IsDomain name →
    Uri.parse? written = some e.request.uri → e.request.uri.scheme = some scheme →
    e.request.uri.host? = some host → host.all isNameChar = true →
    (⟨raw, list, {}⟩ ∈ (ofAdditions additions).findForRequest e.request ↔
        IsWithin host.lower name) ∧
      (⟨raw, list, {}⟩ ∈ (ofAdditions additions).findForExchange e ↔ IsWithin host.lower name)

theorem respectsLabels_of_single {scheme : Text} (single : tokenize scheme = [scheme]) :
    RespectsLabels scheme := by
  intro additions name raw list written host e told domain parsed absolute named chars
  have scheme_eq : e.request.uri.scheme.getD "http" = scheme := by rw [absolute, Option.getD_some]
  have reached := reached_name_iff parsed named (by rw [scheme_eq, single]) chars domain
  have found (accepts : Rule → Bool) (accepted : accepts ⟨raw, list, {}⟩ = true) :
      ⟨raw, list, {}⟩ ∈ (ofAdditions additions).findWhere e.request.uri accepts ↔
        IsWithin host.lower name := by
    have looked := told.mem_findWhere_iff (parse_domainLine domain) e.request.uri accepts
    simp only [Entry.rule, Entry.place, accepted, true_and, named, Option.some.injEq,
      exists_eq_left', reached] at looked
    exact looked
  exact ⟨found _ rfl, found _ rfl⟩

/-! ## Schemes of several tokens -/

theorem eq_drop_of_mem_labelRows {tokens row : List Token}
    (member : row ∈ labelRows 1 0 none tokens) : row = tokens.drop 2 := by
  match tokens with
  | [] => cases member
  | [_] => cases member
  | [_, _] => cases member
  | _ :: _ :: t :: rest =>
      have later : labelRows 1 3 (some t) rest = [] := labelRows_behind (by omega) (by omega) _ _
      have only : row ∈ [t :: rest] ++ labelRows 1 3 (some t) rest := member
      rw [later, List.append_nil] at only
      exact List.mem_singleton.mp only

/-- A name that is longer than every scheme. -/
def longName : Text := List.replicate 65 'a'

theorem isDomain_longName : IsDomain longName := ⟨by decide, by decide, by decide⟩

/-- The long name is no third token of a target, unless its scheme is one token. -/
theorem single_of_drop {scheme : Text} (short : scheme.length ≤ 64) {more : List Token}
    (third : (tokenize scheme ++ Token.schemeSeparator :: [longName, ['/']]).drop 2 =
      longName :: more) : tokenize scheme = [scheme] := by
  have whole := flatten_tokenize scheme
  have part {t : Token} (member : t ∈ tokenize scheme) : t ≠ longName := by
    rintro rfl
    have long := length_le_of_mem_tokenize member
    have length : longName.length = 65 := by decide
    omega
  match tokens : tokenize scheme with
  | [] =>
      rw [tokens] at third
      exact absurd (List.cons.inj third).1 (by decide)
  | [t] =>
      rw [tokens, List.flatten_singleton] at whole
      rw [whole]
  | [_, _] =>
      rw [tokens] at third
      exact absurd (List.cons.inj third).1 (by decide)
  | _ :: _ :: t :: _ =>
      rw [tokens] at third
      exact absurd (List.cons.inj third).1 (part (by rw [tokens]; simp))

theorem single_of_respectsLabels {scheme : Text} (spelled : Uri.IsScheme scheme)
    (respects : RespectsLabels scheme) : tokenize scheme = [scheme] := by
  let line := domainLine longName
  let u : Uri := ⟨some scheme, longName, "/", none⟩
  let e : Exchange :=
    { request := { method := "GET", uri := u, version := .http11, headers := {} },
      response := { status := 200, version := .http11, headers := {} } }
  have told : Tells [⟨line, line, []⟩] line line [] := by
    refine ⟨List.mem_singleton_self _, fun a member _ _ => ?_⟩
    rw [List.mem_singleton.mp member]
  have parsed : Uri.parse? (scheme ++ ("://" : Text) ++ (longName ++ ("/" : Text))) = some u := by
    have split : Uri.splitAuthority (longName ++ ("/" : Text)) = (longName, ("/" : Text)) := by
      decide
    have length : Utf8.size (scheme ++ ("://" : Text)) + Utf8.size (longName ++ ("/" : Text)) ≤
        Uri.lengthLimit := by
      have small := Utf8.size_le scheme
      have short := spelled.length
      have rest : Utf8.size ("://" : Text) + Utf8.size (longName ++ ("/" : Text)) = 69 := by decide
      rw [Utf8.size_append, Uri.lengthLimit]
      omega
    rw [Uri.parse?_append spelled (by decide) length (by decide) (by decide), split]
    rfl
  have named : u.host? = some longName := rfl
  have found := (respects _ _ _ _ _ _ e told isDomain_longName parsed rfl named (by decide)).1.mpr
    (Or.inl (by decide))
  have looked := (told.mem_findWhere_iff (parse_domainLine isDomain_longName) u _).mp found
  obtain ⟨host, named', row, member, matched⟩ := looked.2
  rw [named, Option.some.injEq] at named'
  subst named'
  rw [targetTokens_append (.of_parse parsed) named] at member
  obtain ⟨more, whole, _⟩ := (matches_name isDomain_longName.chars row).mp matched
  rw [eq_drop_of_mem_labelRows member] at whole
  exact single_of_drop spelled.length whole

/-- Rules for names respect the labels of hosts under exactly those schemes that are one token. -/
theorem respectsLabels_iff {scheme : Text} (spelled : Uri.IsScheme scheme) :
    RespectsLabels scheme ↔ tokenize scheme = [scheme] :=
  ⟨single_of_respectsLabels spelled, respectsLabels_of_single⟩

/-- Under a scheme with a plus sign, a host below the name is found with its capitals, user and
port, and a host that only ends with the same letters is not. -/
theorem respectsLabels_iff_plus :
    let additions : List Addition :=
      [⟨"||ads-1.com^", "||ads-1.com^", "easy"⟩, ⟨"0.0.0.0 ads-1.com", "ads-1.com", "hosts"⟩]
    let ask (authority path : Text) (query : Option Text) : Exchange :=
      { request := { method := "GET", uri := ⟨some "git+x", authority, path, query⟩,
                     version := .http11, headers := {} },
        response := { status := 200, version := .http11, headers := {} } }
    let below := ask "u:p@x.Ads-1.com:8080" [] (some "q")
    let beside := ask "bad-ads-1.com" "/x" none
    Uri.IsScheme "git+x" ∧ tokenize "git+x" = ["git+x"] ∧
      ⟨"||ads-1.com^", "easy", {}⟩ ∈ (ofAdditions additions).findForRequest below.request ∧
      ⟨"||ads-1.com^", "easy", {}⟩ ∉ (ofAdditions additions).findForRequest beside.request := by
  intro additions ask below beside
  have spelled : Uri.IsScheme "git+x" := ⟨by decide, by decide, by decide, by decide⟩
  have single : tokenize "git+x" = ["git+x"] := by decide
  have told : Tells additions (domainLine "ads-1.com") "||ads-1.com^" "easy" :=
    ⟨List.mem_cons_self, by decide⟩
  have domain : IsDomain "ads-1.com" := ⟨by decide, by decide, by decide⟩
  have found := (respectsLabels_iff spelled).mpr single additions "ads-1.com" _ _
    "git+x://u:p@x.Ads-1.com:8080?q" "x.Ads-1.com" below told domain (by decide) rfl (by decide)
    (by decide)
  have missed := (respectsLabels_iff spelled).mpr single additions "ads-1.com" _ _
    "git+x://bad-ads-1.com/x" "bad-ads-1.com" beside told domain (by decide) rfl (by decide)
    (by decide)
  refine ⟨spelled, single, found.1.mpr (Or.inr ⟨"x", by decide⟩), fun member => ?_⟩
  rcases missed.1.mp member with same | suffix
  · exact absurd same (by decide)
  · exact absurd (List.isSuffixOf_iff_suffix.mpr suffix) (by decide)

/-- Under a scheme with a hyphen the rule of a name is not found for the name itself, and another
rule is found for a host that has nothing of its name. -/
theorem not_respectsLabels_hyphen :
    let additions : List Addition :=
      [⟨"||example.com^", "||example.com^", "list"⟩, ⟨"||source^", "||source^", "list"⟩]
    let e : Exchange :=
      { request := { method := "GET", uri := ⟨some "view-source", "example.com", "/", none⟩,
                     version := .http11, headers := {} },
        response := { status := 200, version := .http11, headers := {} } }
    Uri.parse? "view-source://example.com/" = some e.request.uri ∧
      Uri.IsScheme "view-source" ∧ IsWithin "example.com" "example.com" ∧
      ¬IsWithin "example.com" "source" ∧
      (ofAdditions additions).findForRequest e.request = [⟨"||source^", "list", {}⟩] ∧
      ¬RespectsLabels "view-source" := by
  intro additions e
  have spelled : Uri.IsScheme "view-source" := ⟨by decide, by decide, by decide, by decide⟩
  have found : (ofAdditions additions).findForRequest e.request = [⟨"||source^", "list", {}⟩] := by
    decide
  have apart : ¬IsWithin "example.com" "source" := by
    rintro (same | suffix)
    · exact absurd same (by decide)
    · exact absurd (List.isSuffixOf_iff_suffix.mpr suffix) (by decide)
  refine ⟨by decide, spelled, Or.inl rfl, apart, found, fun respects => ?_⟩
  have told : Tells additions (domainLine "example.com") "||example.com^" "list" :=
    ⟨List.mem_cons_self, by decide⟩
  have missed := (respects additions "example.com" _ _ "view-source://example.com/" "example.com" e
    told ⟨by decide, by decide, by decide⟩ (by decide) rfl (by decide) (by decide)).1.mpr
    (Or.inl (by decide))
  rw [found] at missed
  exact absurd missed (by decide)

end Trie

end FilteringProxy
