import FilteringProxy.Proofs.Http.Uri
import FilteringProxy.Proofs.Text.Utf8

/-! # Absolute targets

What reading gives for an absolute target, and that such a target is read again from its printed
form.
-/

namespace FilteringProxy.Http.Uri

/-! ## Schemes -/

/-- What reading gives for a scheme: those of the web are in lower case. -/
structure IsScheme (scheme : Text) : Prop where
  chars : scheme.all isSchemeChar = true
  length : scheme.length ≤ 64
  http : scheme.lower = ("http" : Text) → scheme = ("http" : Text)
  https : scheme.lower = ("https" : Text) → scheme = ("https" : Text)

/-- Whether a scheme stands at the front, up to letter case, can be seen from the name alone. -/
theorem sameLetters_front_iff (web : Text) (plain : ':' ∉ web) {name : Text}
    (plain' : ':' ∉ name) (rest : Text) :
    Text.sameLetters ((name ++ ("://" : Text) ++ rest).take (web.length + 3))
      (web ++ ("://" : Text)) = true ↔ name.lower = web.lower := by
  have lower_append (s t : Text) : (s ++ t).lower = s.lower ++ t.lower := List.map_append
  have first {t : Text} (absent : ':' ∉ t) (behind : Text) :
      Text.cut? ':' (t.lower ++ ':' :: behind) = some (t.lower, behind) :=
    Text.cut?_append (fun inside => absent (Text.mem_of_mem_lower (by decide) inside)) behind
  rw [Text.sameLetters, beq_iff_eq]
  constructor
  · intro same
    have parts := congrArg Text.lower
      (List.take_append_drop (web.length + 3) (name ++ ("://" : Text) ++ rest))
    generalize (name ++ ("://" : Text) ++ rest).drop (web.length + 3) = back at parts
    rw [lower_append, same] at parts
    simp only [lower_append, List.append_assoc] at parts
    have whole : name.lower ++ ':' :: Text.lower ('/' :: '/' :: rest) =
        web.lower ++ ':' :: Text.lower ('/' :: '/' :: back) := parts.symm
    have front := congrArg (Text.cut? ':') whole
    rw [first plain', first plain, Option.some.injEq, Prod.mk.injEq] at front
    exact front.1
  · intro same
    have length : name.length = web.length := by
      have lengths := congrArg List.length same
      simpa only [Text.lower, List.length_map] using lengths
    rw [List.take_left' (by rw [List.length_append, length]; rfl), lower_append, lower_append, same]

theorem splitScheme_eq_some {t scheme rest : Text}
    (h : splitScheme t = some (some scheme, rest)) :
    IsScheme scheme ∧
      ∃ front, t = front ++ rest ∧ Utf8.size front = Utf8.size (scheme ++ ("://" : Text)) := by
  have size_eq {s t : Text} (same : Text.sameLetters s t = true) : Utf8.size s = Utf8.size t := by
    rw [← Utf8.size_lower s, beq_iff_eq.mp same, Utf8.size_lower]
  unfold splitScheme at h
  simp only at h
  split at h
  · rename_i http
    cases h
    exact ⟨⟨by decide, by decide, fun _ => rfl, by decide⟩, t.take 7,
      (List.take_append_drop 7 t).symm, size_eq http⟩
  rename_i not_http
  split at h
  · rename_i https
    cases h
    exact ⟨⟨by decide, by decide, by decide, fun _ => rfl⟩, t.take 8,
      (List.take_append_drop 8 t).symm, size_eq https⟩
  rename_i not_https
  split at h
  · cases h
  cases mark : Text.after? "://" (t.dropWhile isSchemeChar) with
  | none =>
      rw [mark] at h
      cases h
  | some behind =>
      simp only [mark, Option.ite_none_left_eq_some, Option.some.injEq, Prod.mk.injEq] at h
      obtain ⟨short, rfl, rfl⟩ := h
      have whole : t = t.takeWhile isSchemeChar ++ ("://" : Text) ++ behind := by
        rw [List.append_assoc, ← Text.after?_eq_some mark, List.takeWhile_append_dropWhile]
      have chars : (t.takeWhile isSchemeChar).all isSchemeChar = true := List.all_takeWhile
      have plain : ':' ∉ t.takeWhile isSchemeChar := not_mem_of_all chars (by decide)
      have http_front := sameLetters_front_iff "http" (by decide) plain behind
      have https_front := sameLetters_front_iff "https" (by decide) plain behind
      rw [← whole] at http_front https_front
      exact ⟨⟨chars, Nat.le_of_not_lt short, fun web => absurd (http_front.mpr web) not_http,
        fun web => absurd (https_front.mpr web) not_https⟩, _, whole, rfl⟩

theorem splitScheme_append {scheme rest : Text} (good : IsScheme scheme) (more : rest ≠ []) :
    splitScheme (scheme ++ ("://" : Text) ++ rest) = some (some scheme, rest) := by
  have plain : ':' ∉ scheme := not_mem_of_all good.chars (by decide)
  unfold splitScheme
  simp only
  split
  · rename_i http
    obtain rfl := good.http ((sameLetters_front_iff "http" (by decide) plain rest).mp http)
    rfl
  split
  · rename_i https
    obtain rfl := good.https ((sameLetters_front_iff "https" (by decide) plain rest).mp https)
    rfl
  have big : ¬Utf8.size (scheme ++ ("://" : Text) ++ rest) ≤ 3 := by
    have some_rest := Utf8.size_pos more
    have three : Utf8.size "://" = 3 := by decide
    rw [Utf8.size_append, Utf8.size_append]
    omega
  have all := List.all_eq_true.mp good.chars
  have name : (scheme ++ ("://" : Text) ++ rest).takeWhile isSchemeChar = scheme := by
    rw [List.append_assoc, List.takeWhile_append_of_pos all]
    exact List.append_nil scheme
  have behind : (scheme ++ ("://" : Text) ++ rest).dropWhile isSchemeChar = "://" ++ rest := by
    rw [List.append_assoc, List.dropWhile_append_of_pos all]
    rfl
  rw [if_neg big, name, behind, Text.after?_append]
  exact if_neg (Nat.not_lt.mpr good.length)

/-! ## Parts that stand apart -/

/-- The parts of the target do not run into each other. -/
structure IsApart (u : Uri) : Prop where
  scheme : ∀ scheme ∈ u.scheme, ':' ∉ scheme
  path : u.authority ≠ [] → u.path = [] ∨ u.path.head? = some '/'

theorem IsApart.of_parse {written : Text} {u : Uri} (parsed : parse? written = some u) :
    u.IsApart where
  scheme := by
    cases reads_of_parse parsed with
    | asterisk => exact nofun
    | origin => exact nofun
    | authority => exact nofun
    | absolute split =>
        rintro scheme ⟨⟩
        exact not_mem_of_all (splitScheme_eq_some split).1.chars (by decide)
  path := path_front parsed

theorem IsApart.plain {u : Uri} (apart : u.IsApart) : ':' ∉ u.scheme.getD "http" := by
  cases scheme : u.scheme with
  | none => decide
  | some name => exact apart.scheme name scheme

theorem IsApart.front {u : Uri} {host : Text} (apart : u.IsApart) (named : u.host? = some host) :
    ∃ c rest, u.pathAndQuery?.getD "/" = c :: rest ∧ (c = '/' ∨ c = '?') := by
  rw [host?, Option.ite_none_left_eq_some] at named
  by_cases shows : (u.scheme.isSome || u.authority = []) = true
  · exact written_front shows (written_head (apart.path named.1) u.query)
  · rw [pathAndQuery?, if_neg shows]
    exact ⟨'/', [], rfl, Or.inl rfl⟩

/-! ## Path and query -/

theorem parsePathAndQuery_append {path : Text} {query : Option Text}
    (good_path : path.all isPathChar = true) (good_query : ∀ q ∈ query, q.all isQueryChar = true) :
    parsePathAndQuery? (path ++ showQuery query) = some (path, query) := by
  have mark : '?' ∉ path := not_mem_of_all good_path (by decide)
  have no_fragment : Text.upTo '#' (path ++ showQuery query) = path ++ showQuery query := by
    refine Text.upTo_of_not_mem fun inside => ?_
    rcases List.mem_append.mp inside with member | member
    · exact not_mem_of_all good_path (by decide) member
    · cases query with
      | none => cases member
      | some q =>
          rcases List.mem_cons.mp member with same | member
          · revert same
            decide
          · exact not_mem_of_all (good_query q rfl) (by decide) member
  unfold parsePathAndQuery?
  simp only [no_fragment]
  cases query with
  | none =>
      rw [showQuery, List.append_nil, Text.cut?_eq_none.mpr mark]
      exact if_pos good_path
  | some q =>
      rw [showQuery, Text.cut?_append mark]
      exact if_pos (by rw [good_path, good_query q rfl, Bool.and_self])

theorem isSome_pathAndQuery {written : Text} {u : Uri} (parsed : parse? written = some u) :
    (parsePathAndQuery? (u.pathAndQuery?.getD "/")).isSome := by
  obtain ⟨path, query⟩ := chars_of_parse parsed
  unfold pathAndQuery?
  split
  · rw [Option.getD_some]
    split
    · decide
    · rw [parsePathAndQuery_append path query]
      rfl
  · decide

/-! ## Reading and printing -/

/-- What reading gives for an absolute target with the scheme. -/
structure Absolute (u : Uri) (scheme : Text) : Prop where
  named : u.scheme = some scheme
  spelled : IsScheme scheme
  authority : isAuthority u.authority = true
  some_authority : u.authority ≠ []
  inside : ∀ c ∈ u.authority, endsAuthority c = false
  rooted : u.path = [] ∨ u.path.head? = some '/'
  path : u.path.all isPathChar = true
  query : ∀ q ∈ u.query, q.all isQueryChar = true
  length : Utf8.size (scheme ++ ("://" : Text)) +
    Utf8.size (u.authority ++ (u.path ++ showQuery u.query)) ≤ lengthLimit

theorem absolute_of_parse {written scheme : Text} {u : Uri} (parsed : parse? written = some u)
    (named : u.scheme = some scheme) : u.Absolute scheme := by
  have within : Utf8.size written ≤ lengthLimit := by
    by_contra long
    rw [parse?, if_pos (Or.inr (Nat.not_le.mp long))] at parsed
    cases parsed
  cases reads_of_parse parsed with
  | asterisk => cases named
  | origin => cases named
  | authority => cases named
  | absolute split good some_authority read =>
      rename_i rest path query
      cases named
      obtain ⟨scheme_good, front, rfl, sizes⟩ := splitScheme_eq_some split
      obtain ⟨part, path_good, query_good⟩ := parsePathAndQuery_eq_some read
      refine ⟨rfl, scheme_good, good, some_authority, fun c member => ?_,
        path_front parsed some_authority, path_good, query_good, ?_⟩
      · simpa only [Bool.not_eq_true'] using List.mem_takeWhile_imp member
      · have parts : (splitAuthority rest).1 ++ (splitAuthority rest).2 = rest :=
          List.takeWhile_append_dropWhile
        have read_part : ((splitAuthority rest).1 ++ (path ++ showQuery query)).Sublist rest := by
          have kept := (List.Sublist.refl (splitAuthority rest).1).append part.sublist
          rwa [parts] at kept
        rw [Utf8.size_append, sizes] at within
        exact (Nat.add_le_add_left (Utf8.size_le_of_sublist read_part) _).trans within

theorem splitAuthority_append {authority path : Text} (behind : Text)
    (inside : ∀ c ∈ authority, endsAuthority c = false) (slash : path.head? = some '/') :
    splitAuthority (authority ++ (path ++ behind)) = (authority, path ++ behind) := by
  obtain ⟨path, rfl⟩ := List.head?_eq_some_iff.mp slash
  have all : ∀ c ∈ authority, (!endsAuthority c) = true := fun c member => by
    rw [inside c member, Bool.not_false]
  rw [splitAuthority, List.takeWhile_append_of_pos all, List.dropWhile_append_of_pos all]
  exact congrArg (·, _) (List.append_nil authority)

theorem parse?_scheme {scheme rest : Text} (spelled : IsScheme scheme) (more : rest ≠ []) :
    parse? (scheme ++ ("://" : Text) ++ rest) =
      if lengthLimit < Utf8.size (scheme ++ ("://" : Text) ++ rest) then none
      else if !isAuthority (splitAuthority rest).1 then none
      else if (splitAuthority rest).1 = [] then none
      else (parsePathAndQuery? (splitAuthority rest).2).map fun (path, query) =>
        ⟨some scheme, (splitAuthority rest).1, path, query⟩ := by
  have colon : ':' ∈ scheme ++ ("://" : Text) ++ rest :=
    List.mem_append_left _ (List.mem_append_right _ (by decide))
  have some_text : scheme ++ ("://" : Text) ++ rest ≠ [] := List.ne_nil_of_mem colon
  have no_asterisk : scheme ++ ("://" : Text) ++ rest ≠ ['*'] := by
    intro same
    rw [same] at colon
    revert colon
    decide
  have no_slash : (scheme ++ ("://" : Text) ++ rest).head? ≠ some '/' := by
    have chars := spelled.chars
    cases scheme with
    | nil => exact fun same => nomatch same
    | cons c name =>
        intro same
        cases Option.some.inj same
        cases chars
  simp only [parse?, some_text, false_or, if_neg no_asterisk, if_neg no_slash,
    splitScheme_append spelled more]

theorem parse?_append {scheme rest : Text} (spelled : IsScheme scheme) (more : rest ≠ [])
    (length : Utf8.size (scheme ++ ("://" : Text)) + Utf8.size rest ≤ lengthLimit)
    (good : isAuthority (splitAuthority rest).1 = true)
    (some_authority : (splitAuthority rest).1 ≠ []) :
    parse? (scheme ++ ("://" : Text) ++ rest) =
      (parsePathAndQuery? (splitAuthority rest).2).map fun (path, query) =>
        ⟨some scheme, (splitAuthority rest).1, path, query⟩ := by
  have short : ¬lengthLimit < Utf8.size (scheme ++ ("://" : Text) ++ rest) := by
    rw [Utf8.size_append]
    exact Nat.not_lt.mpr length
  simp only [parse?_scheme spelled more, if_neg short, good, Bool.not_true, Bool.false_eq_true,
    if_false, if_neg some_authority]

theorem parts_of_parse? {scheme rest : Text} {u : Uri} (spelled : IsScheme scheme)
    (more : rest ≠ []) (parsed : parse? (scheme ++ ("://" : Text) ++ rest) = some u) :
    u.scheme = some scheme ∧ u.authority = (splitAuthority rest).1 ∧ u.authority ≠ [] := by
  simp only [parse?_scheme spelled more, Option.ite_none_left_eq_some] at parsed
  obtain ⟨_, _, some_authority, parsed⟩ := parsed
  obtain ⟨parts, _, rfl⟩ := Option.map_eq_some_iff.mp parsed
  exact ⟨rfl, rfl, some_authority⟩

theorem Absolute.print_eq_shown {u : Uri} {scheme : Text} (good : u.Absolute scheme) :
    u.print = scheme ++ ("://" : Text) ++ (u.authority ++ (u.shownPath ++ showQuery u.query)) := by
  simp only [print, good.named, List.append_assoc]

theorem Absolute.print_eq {u : Uri} {scheme : Text} (good : u.Absolute scheme)
    (shown : u.path ≠ []) :
    u.print = scheme ++ ("://" : Text) ++ (u.authority ++ (u.path ++ showQuery u.query)) := by
  rw [good.print_eq_shown, shownPath, if_neg shown]

theorem Absolute.shownPath_front {u : Uri} {scheme : Text} (good : u.Absolute scheme) :
    u.shownPath.head? = some '/' ∧ u.shownPath.all isPathChar = true := by
  have shows : u.hasPath = true := by simp [hasPath, good.named]
  rw [shownPath_of_hasPath shows]
  split
  · exact ⟨rfl, by decide⟩
  · rename_i some_path
    exact ⟨good.rooted.resolve_left some_path, good.path⟩

/-- A target with a path is read again from its printed form. -/
theorem Absolute.parse?_print {u : Uri} {scheme : Text} (good : u.Absolute scheme)
    (shown : u.path ≠ []) : parse? u.print = some u := by
  have authority := splitAuthority_append (showQuery u.query) good.inside
    (good.rooted.resolve_left shown)
  have more : u.authority ++ (u.path ++ showQuery u.query) ≠ [] := fun empty =>
    good.some_authority (List.append_eq_nil_iff.mp empty).1
  have read := parse?_append good.spelled more good.length (by rw [authority]; exact good.authority)
    (by rw [authority]; exact good.some_authority)
  rw [good.print_eq shown, read, authority, parsePathAndQuery_append good.path good.query,
    Option.map_some, ← good.named]

/-! ## Visible characters -/

/-- The character is no blank and, within ASCII, no control character. -/
def IsVisible (c : Char) : Prop := 33 ≤ c.toNat ∧ c.toNat ≠ 127

instance (c : Char) : Decidable (IsVisible c) :=
  inferInstanceAs (Decidable (33 ≤ c.toNat ∧ c.toNat ≠ 127))

theorem isVisible_of {p : Char → Bool}
    (refused : (∀ n < 33, p (Char.ofNat n) = false) ∧ p (Char.ofNat 127) = false) {c : Char}
    (h : p c = true) : IsVisible c := by
  constructor
  · by_contra below
    have bad := refused.1 c.toNat (Nat.not_le.mp below)
    rw [Char.ofNat_toNat, h] at bad
    cases bad
  · intro same
    have bad := refused.2
    rw [← same, Char.ofNat_toNat, h] at bad
    cases bad

theorem isVisible_of_all {p : Char → Bool}
    (refused : (∀ n < 33, p (Char.ofNat n) = false) ∧ p (Char.ofNat 127) = false) {t : Text}
    (all : t.all p = true) : ∀ c ∈ t, IsVisible c :=
  fun c member => isVisible_of refused (List.all_eq_true.mp all c member)

theorem step_of_not_isAuthorityChar {c : Char} (bad : isAuthorityChar c = false) (h : c ≠ '%')
    (s : AuthorityScan) : s.step c = none := by
  have apart {d : Char} (good : isAuthorityChar d = true) : c ≠ d := by
    rintro rfl
    rw [bad] at good
    cases good
  rw [AuthorityScan.step, if_neg (apart (by decide)), if_neg (apart (by decide)),
    if_neg (apart (by decide)), if_neg (apart (by decide)), if_neg h,
    if_neg (Bool.eq_false_iff.mp bad)]

theorem exists_scan {t : Text} (good : isAuthority t = true) :
    ∃ s, t.foldlM AuthorityScan.step {} = some s ∧ s.percent = false := by
  unfold isAuthority at good
  split at good
  · rename_i s run
    simp only [Bool.and_eq_true, Bool.not_eq_true'] at good
    exact ⟨s, run, good.1.2⟩
  · cases good

theorem chars_of_isAuthority {t : Text} (good : isAuthority t = true) :
    ∀ c ∈ t, isAuthorityChar c = true ∨ c = '%' := by
  have one {s s' : AuthorityScan} {c : Char} (step : s.step c = some s') :
      isAuthorityChar c = true ∨ c = '%' := by
    by_contra bad
    rw [not_or, Bool.not_eq_true] at bad
    rw [step_of_not_isAuthorityChar bad.1 bad.2] at step
    cases step
  have all {s s' : AuthorityScan} (run : t.foldlM AuthorityScan.step s = some s') :
      ∀ c ∈ t, isAuthorityChar c = true ∨ c = '%' := by
    clear good
    induction t generalizing s with
    | nil => exact nofun
    | cons d t ih =>
        rw [List.foldlM_cons] at run
        obtain ⟨next, step, rest⟩ := Option.bind_eq_some_iff.mp run
        exact List.forall_mem_cons.mpr ⟨one step, ih rest⟩
  obtain ⟨s, run, -⟩ := exists_scan good
  exact all run

theorem Absolute.visible {u : Uri} {scheme : Text} (good : u.Absolute scheme) :
    ∀ c ∈ u.print, IsVisible c := by
  have mark : ("://" : Text).all isPathChar = true := by decide
  have authority (c : Char) (member : c ∈ u.authority) : IsVisible c := by
    rcases chars_of_isAuthority good.authority c member with inside | rfl
    · exact isVisible_of (by decide) inside
    · decide
  have query : ∀ c ∈ showQuery u.query, IsVisible c := by
    have all := good.query
    cases query : u.query with
    | none => exact nofun
    | some q =>
        rw [query] at all
        exact List.forall_mem_cons.mpr ⟨by decide, isVisible_of_all (by decide) (all q rfl)⟩
  rw [good.print_eq_shown]
  simp only [List.forall_mem_append]
  refine ⟨⟨?_, ?_⟩, authority, ?_, query⟩
  · exact isVisible_of_all (by decide) good.spelled.chars
  · exact isVisible_of_all (by decide) mark
  · exact isVisible_of_all (by decide) good.shownPath_front.2

end FilteringProxy.Http.Uri
