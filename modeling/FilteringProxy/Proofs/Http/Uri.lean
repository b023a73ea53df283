import FilteringProxy.Http.Uri
import FilteringProxy.Proofs.Text.Split

/-! # Parts of a request target

What the parts of a target look like that was read from a text: how its path begins, and what its
host cannot hold.
-/

namespace FilteringProxy.Http.Uri

theorem not_mem_of_all {p : Char → Bool} {t : Text} (all : t.all p = true) {c : Char}
    (bad : p c = false) : c ∉ t := by
  intro member
  rw [List.all_eq_true.mp all c member] at bad
  cases bad

theorem parsePathAndQuery_eq_some {t path : Text} {query : Option Text}
    (h : parsePathAndQuery? t = some (path, query)) :
    path ++ showQuery query <+: t ∧ path.all isPathChar = true ∧
      ∀ q ∈ query, q.all isQueryChar = true := by
  unfold parsePathAndQuery? at h
  simp only at h
  cases cut : Text.cut? '?' (Text.upTo '#' t) with
  | none =>
      simp only [cut, Option.ite_none_right_eq_some, Option.some.injEq, Prod.mk.injEq] at h
      obtain ⟨good, rfl, rfl⟩ := h
      rw [showQuery, List.append_nil]
      exact ⟨Text.upTo_prefix '#' t, good, fun q member => nomatch member⟩
  | some parts =>
      simp only [cut, Option.ite_none_right_eq_some, Option.some.injEq, Prod.mk.injEq,
        Bool.and_eq_true] at h
      obtain ⟨⟨good_path, good_query⟩, rfl, rfl⟩ := h
      have front := Text.upTo_prefix '#' t
      rw [(Text.cut?_eq_some cut).1] at front
      refine ⟨front, good_path, fun q member => ?_⟩
      cases member
      exact good_query

theorem path_of_parsePathAndQuery {t path : Text} {query : Option Text}
    (h : parsePathAndQuery? t = some (path, query)) : path <+: t ∧ '?' ∉ path ∧ '#' ∉ path := by
  obtain ⟨front, good, _⟩ := parsePathAndQuery_eq_some h
  exact ⟨(List.prefix_append ..).trans front, not_mem_of_all good (by decide),
    not_mem_of_all good (by decide)⟩

theorem path_front_of_tail {rest path : Text} {query : Option Text}
    (h : parsePathAndQuery? (splitAuthority rest).2 = some (path, query)) :
    path = [] ∨ path.head? = some '/' := by
  obtain ⟨⟨tail, whole⟩, noMark, noHash⟩ := path_of_parsePathAndQuery h
  cases path with
  | nil => exact Or.inl rfl
  | cons c path =>
      have tail_whole : c :: (path ++ tail) = rest.dropWhile (!endsAuthority ·) := whole
      have stop := List.head?_dropWhile_not (!endsAuthority ·) rest
      rw [← tail_whole] at stop
      simp only [List.head?_cons, Bool.not_eq_false', endsAuthority, Bool.or_eq_true,
        decide_eq_true_eq] at stop
      rcases stop with (rfl | rfl) | rfl
      · exact Or.inr rfl
      · exact absurd List.mem_cons_self noMark
      · exact absurd List.mem_cons_self noHash

/-- The forms of a target, each with what was read for it. -/
inductive Reads (written : Text) : Uri → Prop where
  | asterisk : Reads written ⟨none, [], ['*'], none⟩
  | origin {path : Text} {query : Option Text} (slash : written.head? = some '/')
      (read : parsePathAndQuery? written = some (path, query)) :
      Reads written ⟨none, [], path, query⟩
  | authority {rest : Text} (good : isAuthority (splitAuthority rest).1 = true) :
      Reads written ⟨none, (splitAuthority rest).1, [], none⟩
  | absolute {scheme rest path : Text} {query : Option Text}
      (split : splitScheme written = some (some scheme, rest))
      (good : isAuthority (splitAuthority rest).1 = true)
      (some_authority : (splitAuthority rest).1 ≠ [])
      (read : parsePathAndQuery? (splitAuthority rest).2 = some (path, query)) :
      Reads written ⟨some scheme, (splitAuthority rest).1, path, query⟩

theorem reads_of_parse {written : Text} {u : Uri} (parsed : parse? written = some u) :
    Reads written u := by
  simp only [parse?] at parsed
  split at parsed
  · cases parsed
  split at parsed
  · cases parsed
    rename_i same
    rw [same]
    exact .asterisk
  split at parsed
  · rename_i slash
    obtain ⟨⟨path, query⟩, read, rfl⟩ := Option.map_eq_some_iff.mp parsed
    exact .origin slash read
  split at parsed
  · cases parsed
  rename_i scheme rest split
  split at parsed
  · cases parsed
  rename_i good
  rw [Bool.not_eq_true, Bool.not_eq_false'] at good
  cases scheme with
  | none =>
      simp only [Option.ite_none_right_eq_some, Option.some.injEq] at parsed
      obtain ⟨_, rfl⟩ := parsed
      exact .authority good
  | some scheme =>
      simp only [Option.ite_none_left_eq_some] at parsed
      obtain ⟨some_authority, parsed⟩ := parsed
      obtain ⟨⟨path, query⟩, read, rfl⟩ := Option.map_eq_some_iff.mp parsed
      exact .absolute split good some_authority read

/-- In a target with an authority the path is empty or begins with a slash. -/
theorem path_front {written : Text} {u : Uri} (parsed : parse? written = some u)
    (named : u.authority ≠ []) : u.path = [] ∨ u.path.head? = some '/' := by
  cases reads_of_parse parsed with
  | asterisk => exact absurd rfl named
  | origin => exact absurd rfl named
  | authority => exact Or.inl rfl
  | absolute _ _ _ read => exact path_front_of_tail read

theorem shownPath_of_hasPath {u : Uri} (shows : u.hasPath = true) :
    u.shownPath = if u.path = [] then ("/" : Text) else u.path := by
  rw [shownPath, shows]
  rfl

theorem written_front {scheme : Option Text} {authority path : Text} {query : Option Text}
    (shows : (scheme.isSome || authority = []) = true)
    (front : ∀ c ∈ (path ++ showQuery query).head?, c = '/' ∨ c = '?') :
    ∃ c rest, (pathAndQuery? ⟨scheme, authority, path, query⟩).getD "/" = c :: rest ∧
      (c = '/' ∨ c = '?') := by
  rw [pathAndQuery?, if_pos shows, Option.getD_some]
  cases written : path ++ showQuery query with
  | nil => exact ⟨'/', [], rfl, Or.inl rfl⟩
  | cons c rest => exact ⟨c, rest, rfl, front c (by rw [written]; rfl)⟩

theorem written_head {path : Text} (front : path = [] ∨ path.head? = some '/')
    (query : Option Text) : ∀ c ∈ (path ++ showQuery query).head?, c = '/' ∨ c = '?' := by
  intro c member
  rcases front with rfl | slash
  · cases query with
    | none => cases member
    | some q => exact Or.inr (Option.some.inj member).symm
  · obtain ⟨behind, rfl⟩ := List.head?_eq_some_iff.mp slash
    exact Or.inl (Option.some.inj member).symm

theorem pathAndQuery_cases {written : Text} {u : Uri} (parsed : parse? written = some u) :
    u.path = ['*'] ∧ u.pathAndQuery?.getD "/" = ['*'] ∨
      ∃ c rest, u.pathAndQuery?.getD "/" = c :: rest ∧ (c = '/' ∨ c = '?') := by
  cases reads_of_parse parsed with
  | asterisk => exact Or.inl ⟨rfl, rfl⟩
  | @origin path query slash read =>
      refine Or.inr (written_front (by simp) fun c member => Or.inl ?_)
      obtain ⟨behind, whole⟩ := (parsePathAndQuery_eq_some read).1
      obtain ⟨rest, shown⟩ := List.head?_eq_some_iff.mp member
      rw [← whole, shown, List.cons_append, List.head?_cons, Option.some.injEq] at slash
      exact slash
  | @authority rest good =>
      by_cases empty : (splitAuthority rest).1 = []
      · exact Or.inr (written_front (decide_eq_true empty) nofun)
      · refine Or.inr ⟨'/', [], ?_, Or.inl rfl⟩
        rw [pathAndQuery?, if_neg (by simp [empty])]
        rfl
  | @absolute scheme rest path query split good some_authority read =>
      exact Or.inr (written_front (by simp) (written_head (path_front_of_tail read) query))

theorem not_endsAuthority {written : Text} {u : Uri} (parsed : parse? written = some u) :
    ∀ c ∈ u.authority, endsAuthority c = false := by
  cases reads_of_parse parsed with
  | asterisk => exact nofun
  | origin => exact nofun
  | authority => exact fun c member => by simpa using List.mem_takeWhile_imp member
  | absolute => exact fun c member => by simpa using List.mem_takeWhile_imp member

theorem chars_of_parse {written : Text} {u : Uri} (parsed : parse? written = some u) :
    u.path.all isPathChar = true ∧ ∀ q ∈ u.query, q.all isQueryChar = true := by
  cases reads_of_parse parsed with
  | asterisk => exact ⟨by decide, nofun⟩
  | origin _ read => exact (parsePathAndQuery_eq_some read).2
  | authority => exact ⟨rfl, nofun⟩
  | absolute _ _ _ read => exact (parsePathAndQuery_eq_some read).2

/-- A host has no colon, or it ends with a bracket. -/
theorem hostOf_closed (authority : Text) :
    ':' ∉ hostOf authority ∨ (hostOf authority).getLast? = some ']' := by
  simp only [hostOf]
  split
  · exact Or.inr (List.getLast?_concat ..)
  · exact Or.inl (Text.not_mem_upTo ':' _)

end FilteringProxy.Http.Uri
