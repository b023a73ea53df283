import FilteringProxy.Proofs.Http.Absolute
import FilteringProxy.Proofs.Modifier.Query
import FilteringProxy.Proofs.Modifier.Value
import FilteringProxy.Proofs.Url.Form

/-! # Removing parameters exactly

A removal of parameters takes the segments that its value selects, by the name and value that they
mean, and leaves the others as they are written. The target is put together again from its parts and
its path and query are read once more; this cannot fail, so no selected parameter stays.
-/

namespace FilteringProxy

open Http (Request Uri)

/-! ## Putting a target together -/

namespace Http.Uri

/-- What holds of the parts of every target: they have no characters but their own, and there is an
authority before a query exactly if there is a scheme. -/
structure IsSound (u : Uri) : Prop where
  path : u.path.all isPathChar = true
  query : ∀ query ∈ u.query, query.all isQueryChar = true
  whole : u.query.isSome → (u.scheme.isSome ↔ u.authority ≠ [])

theorem IsSound.of_parse {written : Text} {u : Uri} (parsed : parse? written = some u) :
    u.IsSound := by
  obtain ⟨path, query⟩ := chars_of_parse parsed
  refine ⟨path, query, ?_⟩
  cases reads_of_parse parsed with
  | asterisk | origin => simp
  | authority => simp
  | absolute _ _ some_authority => simp [some_authority]

/-- A target of these parts, if they fit: a path does not stand behind a scheme alone or behind an
authority alone. -/
def ofParts? (scheme : Option Text) (authority path : Text) (query : Option Text) : Option Uri :=
  if scheme.isSome = true ↔ authority ≠ [] then some ⟨scheme, authority, path, query⟩ else none

/-- The target with another query as it is put together: path and query are written, read again and
joined with the other parts. -/
def withQuery? (u : Uri) (query : Text) : Option Uri :=
  (parsePathAndQuery? (u.shownPath ++ showQuery (if query = [] then none else some query))).bind
    fun read => ofParts? u.scheme u.authority read.1 read.2

variable {u : Uri} {query : Text}

theorem IsSound.shownPath (sound : u.IsSound) (written : u.query = some query) :
    u.shownPath.all isPathChar = true := by
  rw [shownPath_of_query written]
  split
  · decide
  · exact sound.path

theorem IsSound.withQuery (sound : u.IsSound) (written : u.query = some query) {other : Text}
    (chars : other.all isQueryChar = true) : (u.withQuery other).IsSound := by
  refine ⟨sound.shownPath written, ?_, ?_⟩
  · intro kept member
    simp only [Uri.withQuery] at member
    split at member
    · cases member
    · cases member
      exact chars
  · intro _
    exact sound.whole (by simp [written])

/-- A target with a query is always put together again. -/
theorem withQuery?_eq (sound : u.IsSound) (written : u.query = some query) {other : Text}
    (chars : other.all isQueryChar = true) : u.withQuery? other = some (u.withQuery other) := by
  have again := sound.withQuery written chars
  have read := parsePathAndQuery_append again.path again.query
  have fits := sound.whole (by simp [written])
  simp only [Uri.withQuery] at read
  simp [withQuery?, read, ofParts?, fits, Uri.withQuery]

theorem chars_join_filter (chars : query.all isQueryChar = true) (p : Text → Bool) :
    (Text.join ['&'] ((Text.splitOn '&' query).filter p)).all isQueryChar = true := by
  have sub := Text.join_sublist ['&'] (List.filter_sublist (p := p) (l := Text.splitOn '&' query))
  rw [Text.join_splitOn] at sub
  rw [List.all_eq_true] at chars ⊢
  intro c member
  exact chars c (sub.subset member)

end Http.Uri

/-! ## What a value selects -/

namespace ParameterChoice

/-- The word, a name or an expression in writing, fits a parameter of the name and value. -/
inductive Fits : Text → Text → Text → Prop
  | name {name value : Text} (plain : RegexLiteral.parse name = .ok none) : Fits name name value
  | pattern {word name value : Text} (r : RegexLiteral)
      (spelled : RegexLiteral.parse word = .ok (some r))
      (found : r.matchesIn (name ++ '=' :: value) = true) : Fits word name value

/-- A removal with the value takes a parameter of the name and value. -/
inductive Takes : Option Text → Text → Text → Prop
  | bare {name value : Text} : Takes none name value
  | empty {name value : Text} : Takes (some []) name value
  | straight {word name value : Text} (unsigned : word.head? ≠ some '~')
      (fits : Fits word name value) : Takes (some word) name value
  | inverted {word name value : Text} (other : ¬ Fits word name value) :
      Takes (some ('~' :: word)) name value

/-- A removal with the value takes the segment of a query. -/
def Selects (value : Option Text) (segment : Text) : Prop :=
  ∃ name v, Url.Means segment name v ∧ Takes value name v

/-- The choice takes a parameter of the name and value. -/
def takes (c : ParameterChoice) (name value : Text) : Bool :=
  match c with
  | all => true
  | named wanted => name == wanted
  | notNamed kept => name != kept
  | pattern r => r.matchesIn (name ++ '=' :: value)
  | notPattern r => !r.matchesIn (name ++ '=' :: value)

/-- The choice that a word stands for, given the expression that it spells if it does. -/
def ofWord (inverted : Bool) (word : Text) : Option RegexLiteral → ParameterChoice
  | some r => if inverted then notPattern r else pattern r
  | none => if inverted then notNamed word else named word

theorem exists_literal {written : Text} {c : ParameterChoice} (some_char : written ≠ [])
    (parsed : parse (some written) = .ok c) :
    ∃ literal, RegexLiteral.parse (EntryList.inversion written).2 = .ok literal ∧
      c = ofWord (EntryList.inversion written).1 (EntryList.inversion written).2 literal := by
  cases written with
  | nil => exact absurd rfl some_char
  | cons first rest =>
      simp only [parse] at parsed
      split at parsed
      · obtain ⟨_, thrown, _⟩ := bind_eq_ok.mp parsed
        cases thrown
      · obtain ⟨literal, spelled, same⟩ := bind_eq_ok.mp parsed
        refine ⟨literal, spelled, ?_⟩
        cases literal <;> cases same <;> rfl

theorem takes_ofWord_true (word : Text) (literal : Option RegexLiteral) (name value : Text) :
    (ofWord true word literal).takes name value =
      !(ofWord false word literal).takes name value := by
  cases literal <;> rfl

theorem takes_ofWord_false {word : Text} {literal : Option RegexLiteral}
    (spelled : RegexLiteral.parse word = .ok literal) (name value : Text) :
    (ofWord false word literal).takes name value = true ↔ Fits word name value := by
  cases literal with
  | none =>
      constructor
      · intro taken
        cases beq_iff_eq.mp taken
        exact .name spelled
      · intro fits
        cases fits with
        | name => exact beq_self_eq_true word
        | pattern r known => cases spelled.symm.trans known
  | some r =>
      constructor
      · intro taken
        exact .pattern r spelled taken
      · intro fits
        cases fits with
        | name plain => cases plain.symm.trans spelled
        | pattern q known found =>
            cases spelled.symm.trans known
            exact found

theorem takes_iff {written : Option Text} {c : ParameterChoice} (parsed : parse written = .ok c)
    (name value : Text) : c.takes name value = true ↔ Takes written name value := by
  cases written with
  | none =>
      cases parsed
      exact iff_of_true rfl .bare
  | some written =>
      cases written with
      | nil =>
          cases parsed
          exact iff_of_true rfl .empty
      | cons first rest =>
          obtain ⟨literal, spelled, rfl⟩ := exists_literal (List.cons_ne_nil _ _) parsed
          by_cases sign : first = '~'
          · subst sign
            have fits := takes_ofWord_false spelled name value
            simp only [EntryList.inversion] at fits ⊢
            rw [takes_ofWord_true, Bool.not_eq_true', ← Bool.not_eq_true, fits]
            constructor
            · exact .inverted
            · intro taken
              cases taken with
              | straight unsigned => simp at unsigned
              | inverted other => exact other
          · have unsigned : EntryList.inversion (first :: rest) = (false, first :: rest) := by
              simp [EntryList.inversion, sign]
            simp only [unsigned] at spelled ⊢
            rw [takes_ofWord_false spelled]
            constructor
            · exact .straight (by simpa using sign)
            · intro taken
              cases taken with
              | straight _ fits => exact fits
              | inverted => exact absurd rfl sign

theorem selects_iff {value : Option Text} {c : ParameterChoice} (parsed : parse value = .ok c)
    (segment : Text) : c.selects segment = true ↔ Selects value segment := by
  rcases decoded : Url.decodeSegment segment with ⟨name, v⟩
  have same : c.selects segment = c.takes name v := by
    cases c <;> simp [selects, takes, decoded]
  rw [same, takes_iff parsed]
  constructor
  · intro takes
    exact ⟨name, v, Url.means_iff.mpr decoded, takes⟩
  · intro selects
    obtain ⟨name', v', means, takes⟩ := selects
    cases (Url.means_iff.mp means).symm.trans decoded
    exact takes

/-- The removal as it is carried out: the target is put together again, and a request whose target
did not fit would stay as it is. -/
def rebuild (c : ParameterChoice) (r : Request) : Option Request :=
  match r.uri.query with
  | none => none
  | some query =>
    let segments := Text.splitOn '&' query
    if segments.any c.selects then
      (r.uri.withQuery? (Text.join ['&'] (segments.filter (!c.selects ·)))).map fun target =>
        { r with uri := target }
    else none

theorem rebuild_eq (c : ParameterChoice) {r : Request} (sound : r.uri.IsSound) :
    c.rebuild r = c.edit r := by
  cases written : r.uri.query with
  | none => simp [rebuild, edit, written]
  | some query =>
      have chars := Uri.chars_join_filter (sound.query query written) (!c.selects ·)
      have rebuilt := Uri.withQuery?_eq sound written chars
      simp only [rebuild, edit, written, rebuilt, Option.map_some]

/-- A removal of parameters is exact. The segments that its value selects go and the others stay in
their order and spelling, joined as they were; an empty rest takes the question mark with it. All
else stays, but for a path that was not written. Putting the target together cannot fail. -/
theorem edit_exact {value : Option Text} {c : ParameterChoice} {r : Request} {query : Text}
    (parsed : parse value = .ok c) (sound : r.uri.IsSound) (written : r.uri.query = some query) :
    let segments := Text.splitOn '&' query
    let kept := Text.join ['&'] (segments.filter (!c.selects ·))
    let target : Uri :=
      ⟨r.uri.scheme, r.uri.authority, if r.uri.path = [] then "/" else r.uri.path,
        if kept = [] then none else some kept⟩
    (∀ segment, c.selects segment = true ↔ Selects value segment) ∧
      r.uri.withQuery? kept = some target ∧ c.rebuild r = c.edit r ∧
      ((∀ segment ∈ segments, ¬ Selects value segment) → c.edit r = none) ∧
      ((∃ segment ∈ segments, Selects value segment) →
        c.edit r = some { r with uri := target }) := by
  intro segments kept target
  have selected := selects_iff parsed
  have same : r.uri.withQuery kept = target := by
    simp only [Uri.withQuery, Uri.shownPath_of_query written, target]
  have chars := Uri.chars_join_filter (sound.query query written) (!c.selects ·)
  refine ⟨selected, ?_, rebuild_eq c sound, ?_, ?_⟩
  · rw [Uri.withQuery?_eq sound written chars, same]
  · intro unselected
    have nothing : segments.any c.selects = false := by
      rw [List.any_eq_false]
      intro segment member
      rw [selected]
      exact unselected segment member
    simp [edit, written, segments, nothing]
  · intro some_selected
    obtain ⟨segment, member, taken⟩ := some_selected
    have any : segments.any c.selects = true :=
      List.any_eq_true.mpr ⟨segment, member, (selected segment).mpr taken⟩
    rw [← same]
    simp only [edit, written, segments, kept] at any ⊢
    rw [if_pos any]

/-- An escaped name is the name, and a path that was not written is a slash. -/
theorem edit_exact_escaped :
    let written : Text := "https://a.com?x=a%20b&&u%74m=1"
    let r : Request :=
      { method := "GET", uri := ⟨some "https", "a.com", [], some "x=a%20b&&u%74m=1"⟩,
        version := .http11, headers := ⟨[]⟩ }
    parse (some "utm") = .ok (.named "utm") ∧ Uri.parse? written = some r.uri ∧
      (named "utm").edit r =
        some { r with uri := ⟨some "https", "a.com", "/", some "x=a%20b&"⟩ } := by
  intro written r
  have parsed : parse (some "utm") = .ok (.named "utm") := by rfl
  have read : Uri.parse? written = some r.uri := by decide +kernel
  obtain ⟨selected, -, -, -, edited⟩ := edit_exact parsed (Uri.IsSound.of_parse read) rfl
  have escaped : (named "utm").selects "u%74m=1" = true := by decide +kernel
  refine ⟨parsed, read, ?_⟩
  rw [edited ⟨"u%74m=1", by decide +kernel, (selected "u%74m=1").mp escaped⟩]
  decide +kernel

end ParameterChoice

end FilteringProxy
