import FilteringProxy.Proofs.Rule.Line
import FilteringProxy.Proofs.RuleSet.Wording
import FilteringProxy.Proofs.Text.Lines
import FilteringProxy.Proofs.Text.Words

/-! # Hosts lines and their comments

What a list takes from a hosts line are the names before its first number sign. A comment is cut off
only after the line has been looked through for a mark of rules for the contents of pages, and a
mark in the comment counts as one of the line.
-/

namespace FilteringProxy

namespace RuleLine

/-- A line that begins with an address for unwanted hosts and goes on with names after a blank. -/
structure IsHosts (address rest : Text) : Prop where
  sinkhole : address ∈ sinkholeAddresses
  gap : ∃ c r, rest = c :: r ∧ isBlank c = true
  named : Text.words rest ≠ []
  single : '\n' ∉ rest

/-- The words of a line before its comment. -/
def uncommented (t : Text) : List Text := Text.words (Text.upTo '#' t)

theorem ne_of_isBlank {c : Char} (blank : isBlank c = true) : c ≠ '#' := by
  rintro rfl
  contradiction

/-- What follows a blank adds no names, if a comment follows or nothing but blanks. -/
theorem uncommented_append {c : Char} (blank : isBlank c = true) {u : Text}
    (silent : uncommented u = []) (t : Text) : uncommented (t ++ c :: u) = uncommented t := by
  by_cases marked : '#' ∈ t
  · obtain ⟨a, b, rfl, absent⟩ := List.eq_append_cons_of_mem marked
    rw [uncommented, uncommented, List.append_assoc, List.cons_append,
      Text.upTo_append_cons absent, Text.upTo_append_cons absent]
  · have front : Text.upTo '#' (t ++ c :: u) = t ++ c :: Text.upTo '#' u := by
      rw [Text.upTo_append marked, Text.upTo_cons (ne_of_isBlank blank)]
    rw [uncommented, front, Text.words_append blank, ← uncommented, silent, List.append_nil,
      uncommented, Text.upTo_of_not_mem marked]

theorem uncommented_comment (comment : Text) : uncommented ('#' :: comment) = [] := rfl

theorem uncommented_blanks {t : Text} (blank : ∀ c ∈ t, isBlank c = true) : uncommented t = [] :=
  Text.words_eq_nil.mpr fun c member => blank c ((Text.upTo_prefix '#' t).subset member)

theorem uncommented_dropEnd (t : Text) : uncommented (Text.dropEnd isBlank t) = uncommented t := by
  refine Text.apply_dropEnd (fun t c u blank blanks => ?_) t
  exact uncommented_append blank (uncommented_blanks blanks) t

theorem uncommented_dropWhile (t : Text) : uncommented (t.dropWhile isBlank) = uncommented t := by
  induction t with
  | nil => rfl
  | cons c t ih =>
      cases blank : isBlank c with
      | true =>
          rw [List.dropWhile_cons_of_pos blank, ih, uncommented, uncommented,
            Text.upTo_cons (ne_of_isBlank blank), Text.words_cons blank]
      | false => rw [List.dropWhile_cons_of_neg (Bool.eq_false_iff.mp blank)]

theorem hostNames_eq (t : Text) : hostNames t = (uncommented t).filter (!isSinkholeName ·) := rfl

theorem hostNames_trimmed (t : Text) :
    hostNames ((Text.dropEnd isBlank t).dropWhile isBlank) = hostNames t := by
  rw [hostNames_eq, hostNames_eq, uncommented_dropWhile, uncommented_dropEnd]

theorem hostNames_append_comment (t comment : Text) :
    hostNames (t ++ ' ' :: '#' :: comment) = hostNames t := by
  rw [hostNames_eq, hostNames_eq, uncommented_append rfl (uncommented_comment comment)]

namespace IsHosts

variable {address rest comment : Text}

theorem commented (hosts : IsHosts address rest) (single : '\n' ∉ comment) :
    IsHosts address (rest ++ ' ' :: '#' :: comment) where
  sinkhole := hosts.sinkhole
  gap := by
    obtain ⟨c, r, rfl, blank⟩ := hosts.gap
    exact ⟨c, _, rfl, blank⟩
  named := by
    rw [Text.words_append rfl]
    exact List.append_ne_nil_of_left_ne_nil hosts.named _
  single := by
    simp [hosts.single, single]

theorem exists_name (hosts : IsHosts address rest) : ∃ c ∈ rest, isBlank c = false := by
  by_contra none
  refine hosts.named (Text.words_eq_nil.mpr fun c member => ?_)
  by_contra filled
  exact none ⟨c, member, Bool.eq_false_iff.mpr filled⟩

theorem exists_digit (hosts : IsHosts address rest) :
    ∃ c t, address = c :: t ∧ isBlank c = false ∧ c ≠ '@' ∧
      ∀ u, Filter.isComment (c :: u) = false := by
  rcases eq_of_mem_sinkholeAddresses hosts.sinkhole with rfl | rfl
  · exact ⟨'0', _, rfl, rfl, by decide, fun _ => rfl⟩
  · exact ⟨'1', _, rfl, rfl, by decide, fun _ => rfl⟩

theorem not_mem_address (hosts : IsHosts address rest) : '\n' ∉ address := by
  rcases eq_of_mem_sinkholeAddresses hosts.sinkhole with rfl | rfl
  · decide
  · decide

theorem trim_eq (hosts : IsHosts address rest) :
    (address ++ rest).trim = address ++ Text.dropEnd isBlank rest := by
  obtain ⟨c, t, rfl, filled, -⟩ := hosts.exists_digit
  rw [Text.trim, Text.trimWith, List.cons_append,
    List.dropWhile_cons_of_neg (Bool.eq_false_iff.mp filled), ← List.cons_append,
    Text.dropEnd_append_left hosts.exists_name]

theorem hostsPart?_eq (hosts : IsHosts address rest) :
    hostsPart? (address ++ Text.dropEnd isBlank rest) =
      some ((Text.dropEnd isBlank rest).dropWhile isBlank) := by
  have gap : (Text.dropEnd isBlank rest).takeWhile isBlank ≠ [] := by
    obtain ⟨c, r, rfl, blank⟩ := hosts.gap
    obtain ⟨d, member, filled⟩ := hosts.exists_name
    have later : d ∈ r := by
      refine (List.mem_cons.mp member).resolve_left ?_
      rintro rfl
      rw [blank] at filled
      contradiction
    rw [← List.singleton_append, Text.dropEnd_append_left ⟨d, later, filled⟩,
      List.singleton_append, List.takeWhile_cons_of_pos blank]
    exact List.cons_ne_nil _ _
  have names : (Text.dropEnd isBlank rest).dropWhile isBlank ≠ [] := by
    intro empty
    have words := Text.words_dropWhile (Text.dropEnd isBlank rest)
    rw [empty, Text.words_dropEnd] at words
    exact hosts.named words.symm
  have single : ((Text.dropEnd isBlank rest).dropWhile isBlank).contains '\n' = false := by
    rw [← Bool.not_eq_true, List.contains_iff_mem]
    intro member
    exact hosts.single
      ((List.rdropWhile_prefix isBlank rest).subset ((List.dropWhile_sublist _).subset member))
  rw [hostsPart?, findSome?_sinkhole hosts.sinkhole]
  simp only [gap, names, single, if_false, Bool.false_eq_true]

theorem parse_trim (hosts : IsHosts address rest) :
    parse (address ++ rest).trim = .ok (.hosts (hostNames rest)) := by
  rw [hosts.trim_eq, parse_hosts hosts.hostsPart?_eq, hostNames_trimmed]

end IsHosts

end RuleLine

namespace Filter

/-! ## Marks of rules for the contents of pages -/

variable {c : Char}

theorem closesMark_cons (blank : isBlank c = true) (n : Nat) (t : Text) :
    closesMark n (c :: t) = false := by
  have apart {d : Char} (filled : isBlank d = false) : c ≠ d := by
    rintro rfl
    rw [blank] at filled
    contradiction
  cases n with
  | zero => simp [closesMark, apart (d := '#') rfl]
  | succ n =>
      simp [closesMark, apart (d := '#') rfl, apart (d := '@') rfl, apart (d := '$') rfl,
        apart (d := '?') rfl, apart (d := '%') rfl]

theorem closesMark_append (blank : isBlank c = true) (n : Nat) (s t : Text) :
    closesMark n (s ++ c :: t) = closesMark n s := by
  induction s generalizing n with
  | nil =>
      rw [List.nil_append, closesMark_cons blank]
      cases n <;> rfl
  | cons a s ih =>
      by_cases mark : a = '#'
      · subst mark
        cases n <;> rfl
      · cases n with
        | zero => simp [closesMark, mark]
        | succ n => simp [closesMark, ih]

/-- A mark does not reach over a blank. -/
theorem isCosmetic_append (blank : isBlank c = true) (s t : Text) :
    isCosmetic (s ++ c :: t) = (isCosmetic s || isCosmetic t) := by
  induction s with
  | nil => simp [isCosmetic, RuleLine.ne_of_isBlank blank]
  | cons a s ih =>
      rw [List.cons_append, isCosmetic, isCosmetic, closesMark_append blank, ih, Bool.or_assoc]

theorem isCosmetic_blanks {t : Text} (blank : ∀ c ∈ t, isBlank c = true) :
    isCosmetic t = false := by
  induction t with
  | nil => rfl
  | cons c t ih =>
      rw [List.forall_mem_cons] at blank
      rw [← List.nil_append (c :: t), isCosmetic_append blank.1, ih blank.2]
      rfl

theorem isCosmetic_dropEnd (t : Text) : isCosmetic (Text.dropEnd isBlank t) = isCosmetic t := by
  refine Text.apply_dropEnd (fun t c u blank blanks => ?_) t
  rw [isCosmetic_append blank, isCosmetic_blanks blanks, Bool.or_false]

/-! ## Loading one line -/

variable {address rest comment : Text}

open RuleLine (IsHosts hostNames)

/-- The filter with names of a hosts line. -/
def withHosts (f : Filter) (names : List Text) (rule : Rule) : Filter :=
  { f with rules := { f.rules with regular := names.foldl (Trie.addHost rule) f.rules.regular } }

theorem isSkipped_trim (hosts : IsHosts address rest) :
    isSkipped (address ++ rest).trim = isCosmetic (address ++ rest) := by
  have trimmed : (address ++ rest).trim = Text.dropEnd isBlank (address ++ rest) := by
    rw [hosts.trim_eq, Text.dropEnd_append_left hosts.exists_name]
  have cosmetic := isCosmetic_dropEnd (address ++ rest)
  rw [← trimmed] at cosmetic
  rw [isSkipped, cosmetic, hosts.trim_eq]
  obtain ⟨c, t, rfl, -, -, uncommented⟩ := hosts.exists_digit
  rw [List.cons_append, uncommented, decide_eq_false (List.cons_ne_nil _ _), Bool.false_or,
    Bool.false_or, List.cons_append]

theorem add_trim (hosts : IsHosts address rest) (f : Filter) (list : Text) :
    f.add (address ++ rest).trim list =
      .ok (f.withHosts (hostNames rest) ⟨(address ++ rest).trim, list, {}⟩, .regular,
        (hostNames rest).length) := by
  have regular : Text.after? "@@" (address ++ rest).trim = none := by
    obtain ⟨c, t, rfl, -, apart, -⟩ := hosts.exists_digit
    rw [hosts.trim_eq]
    simp [Text.after?, Ne.symm apart]
  rw [add, RuleSet.add, regular, Trie.add, hosts.parse_trim]
  rfl

theorem addList_of_isHosts (hosts : IsHosts address rest) (f : Filter) (list : Text) :
    f.addList (Utf8.encode (address ++ rest)) list =
      if isCosmetic (address ++ rest) then (f, {})
      else (f.withHosts (hostNames rest) ⟨(address ++ rest).trim, list, {}⟩,
        { rules := (hostNames rest).length }) := by
  have filled : address ++ rest ≠ [] := by
    obtain ⟨c, t, rfl, -⟩ := hosts.exists_digit
    exact List.cons_ne_nil _ _
  have single : '\n' ∉ address ++ rest := by
    rw [List.mem_append, not_or]
    exact ⟨hosts.not_mem_address, hosts.single⟩
  rw [addList, Lines.ofBytes_encode filled single, List.foldl_cons, List.foldl_nil, addListLine]
  simp only [isSkipped_trim hosts, add_trim hosts]
  split
  · rfl
  · simp [Counts.plus]

/-! ## A comment -/

theorem withHosts_alike (f : Filter) (names : List Text) {rule rule' : Rule}
    (same : rule'.unworded = rule.unworded) :
    (f.withHosts names rule).Alike (f.withHosts names rule') where
  rules := ⟨(Trie.Alike.refl _).addHosts same names, Trie.Alike.refl _⟩
  watch := rfl

/-- A comment on a hosts line makes no difference, to the counts or to what becomes of any later
request or response, unless the comment holds a mark of rules for the contents of pages: then the
line is passed over with all its names. -/
theorem addList_comment_iff (f : Filter) (list : Text) (hosts : IsHosts address rest)
    (single : '\n' ∉ comment) :
    let line := address ++ rest
    let plain := f.addList (Utf8.encode line) list
    let commented := f.addList (Utf8.encode (line ++ ' ' :: '#' :: comment)) list
    commented.2 = plain.2 ∧ plain.1.SameEffect commented.1 ↔
      isCosmetic line = true ∨ hostNames rest = [] ∨ isCosmetic ('#' :: comment) = false := by
  intro line plain commented
  have loaded : plain = if isCosmetic line then (f, {})
      else (f.withHosts (hostNames rest) ⟨line.trim, list, {}⟩,
        { rules := (hostNames rest).length }) :=
    addList_of_isHosts hosts f list
  have loaded' : commented = if isCosmetic line || isCosmetic ('#' :: comment) then (f, {})
      else (f.withHosts (hostNames rest) ⟨(line ++ ' ' :: '#' :: comment).trim, list, {}⟩,
        { rules := (hostNames rest).length }) := by
    have loaded := addList_of_isHosts (hosts.commented single) f list
    rwa [RuleLine.hostNames_append_comment, ← List.append_assoc, isCosmetic_append rfl] at loaded
  cases inLine : isCosmetic line with
  | true =>
      rw [inLine] at loaded loaded'
      rw [loaded, loaded']
      exact ⟨fun _ => Or.inl rfl, fun _ => ⟨rfl, (Alike.refl f).sameEffect⟩⟩
  | false =>
      rw [inLine] at loaded loaded'
      cases inComment : isCosmetic ('#' :: comment) with
      | true =>
          rw [inComment] at loaded'
          rw [loaded, loaded']
          constructor
          · rintro ⟨counts, -⟩
            have none_added : 0 = (hostNames rest).length := (Counts.mk.inj counts).1
            exact Or.inr (Or.inl (List.eq_nil_of_length_eq_zero none_added.symm))
          · rintro (cosmetic | none_named | plain)
            · contradiction
            · rw [none_named]
              exact ⟨rfl, (Alike.refl f).sameEffect⟩
            · contradiction
      | false =>
          rw [inComment] at loaded'
          rw [loaded, loaded']
          have alike : (f.withHosts (hostNames rest) ⟨line.trim, list, {}⟩).Alike
              (f.withHosts (hostNames rest) ⟨(line ++ ' ' :: '#' :: comment).trim, list, {}⟩) :=
            f.withHosts_alike (hostNames rest) rfl
          exact ⟨fun _ => Or.inr (Or.inr rfl), fun _ => ⟨rfl, alike.sameEffect⟩⟩

theorem addList_comment_iff_ads :
    let plain := ({} : Filter).addList (Utf8.encode "0.0.0.0 ads.com") []
    let commented := ({} : Filter).addList (Utf8.encode "0.0.0.0 ads.com # 100% ads") []
    commented.2 = plain.2 ∧ plain.1.SameEffect commented.1 := by
  have hosts : IsHosts "0.0.0.0" " ads.com" := by
    refine ⟨by decide, ⟨' ', _, rfl, rfl⟩, ?_, by decide⟩
    decide
  have single : '\n' ∉ (" 100% ads" : Text) := by decide
  exact (addList_comment_iff {} [] hosts single).mpr (by decide)

/-- A comment with a second number sign unblocks its line. -/
theorem unblocked_by_comment :
    let plain := ({} : Filter).addList (Utf8.encode "0.0.0.0 ads.com") []
    let commented := ({} : Filter).addList (Utf8.encode "0.0.0.0 ads.com ## ads") []
    let r : Http.Request :=
      { method := "GET", uri := ⟨some "http", "ads.com", "/", none⟩, version := .http11,
        headers := {} }
    plain.2 = { rules := 1 } ∧ commented.2 = {} ∧
      (plain.1.onRequest r).response = some (blockResponse r) ∧
        (commented.1.onRequest r).response = none := by
  decide +kernel

end Filter

end FilteringProxy
