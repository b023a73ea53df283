import FilteringProxy.Modifier.Condition
import FilteringProxy.Proofs.Modifier.Value

/-! # Lists of domains in writing

A list of domains is written as its entries between bars, all of them inverted or none. It is read
as these entries if the cut finds them. An expression with a flag ends with the flag, not with a
slash, so the cut finds it only where nothing follows.
-/

namespace FilteringProxy

/-! ## Entries in writing -/

namespace DomainEntry

/-- The text has no character that means something in a list. -/
structure IsPlain (t : Text) : Prop where
  bar : '|' ∉ t
  sign : '~' ∉ t
  slash : '/' ∉ t

theorem IsPlain.star {t : Text} (plain : IsPlain t) : IsPlain (t ++ ['*']) :=
  ⟨by simp [plain.bar], by simp [plain.sign], by simp [plain.slash]⟩

/-- An entry of a list of domains as a rule writes it. -/
inductive Written where
  | name (name : Text) (full : name ≠ []) (plain : IsPlain name) (ends : name.getLast? ≠ some '*')
  /-- A domain up to its top-level name, with an asterisk in the place of that. -/
  | anyTop (stem : Text) (plain : IsPlain stem)
  | pattern (source : Text) (eitherCase : Bool) (full : source ≠ []) (inside : '/' ∉ source)
      (valid : (Regex.parse? source).isSome)

namespace Written

/-- The entry stands for what a condition keeps of it. -/
inductive Denotes : Written → DomainEntry → Prop
  | name {t : Text} {full plain ends} : Denotes (.name t full plain ends) (.below t.lower)
  | anyTop {stem : Text} {plain} : Denotes (.anyTop stem plain) (.anyTop stem.lower)
  | pattern {source : Text} {eitherCase : Bool} {full inside valid} (r : RegexLiteral)
      (same : r.source = RegexLiteral.flag eitherCase ++ source) :
      Denotes (.pattern source eitherCase full inside valid) (.pattern r)

def text : Written → Text
  | name t .. => t
  | anyTop stem _ => stem ++ ['*']
  | pattern source eitherCase .. => RegexLiteral.write source eitherCase

/-- The entry with the sign of inversion before it or not. -/
def write (inverted : Bool) (e : Written) : Text := if inverted then '~' :: e.text else e.text

/-- The entry is an expression with a flag behind it. -/
def IsFlagged : Written → Prop
  | pattern _ eitherCase .. => eitherCase = true
  | _ => False

/-- The entry is no expression, or one that compiles with its flag. -/
def Compiles : Written → Prop
  | pattern source eitherCase .. =>
    (Regex.parse? (RegexLiteral.flag eitherCase ++ source)).isSome = true
  | _ => True

end Written

theorem parse_of_source {entry full : Text} (read : RegexLiteral.sourceOf? entry = some full)
    {d : DomainEntry} : parse entry = .ok d ↔ ∃ r, r.source = full ∧ d = .pattern r := by
  simp only [parse, bind_eq_ok, pure_eq_ok, RegexLiteral.parse, read]
  constructor
  · intro parsed
    obtain ⟨found, compiled, parsed⟩ := parsed
    cases literal : RegexLiteral.compile full with
    | error fault => simp [literal, Except.map] at compiled
    | ok r =>
        simp only [literal, Except.map, Except.ok.injEq] at compiled
        subst compiled
        cases parsed
        exact ⟨r, RegexLiteral.compile_eq_ok.mp literal, rfl⟩
  · intro known
    obtain ⟨r, same, rfl⟩ := known
    exact ⟨some r, by simp [RegexLiteral.compile_eq_ok.mpr same, Except.map], rfl⟩

theorem parse_of_no_source {entry : Text} (read : RegexLiteral.sourceOf? entry = none) :
    parse entry = .ok ((Text.before? ['*'] entry).elim (.below entry.lower)
      fun stem => .anyTop stem.lower) := by
  simp only [parse, RegexLiteral.parse, read]
  cases Text.before? ['*'] entry <;> rfl

namespace Written

theorem parse_text {e : Written} {d : DomainEntry} :
    DomainEntry.parse e.text = .ok d ↔ e.Denotes d := by
  cases e with
  | name t full plain ends =>
      have whole : Text.before? ['*'] t = none := by
        apply Text.before?_eq_none
        intro star
        obtain ⟨front, rfl⟩ := star
        simp at ends
      rw [text, parse_of_no_source (RegexLiteral.sourceOf?_eq_none plain.slash)]
      simp only [whole, Option.elim_none, Except.ok.injEq]
      constructor
      · intro same
        subst same
        exact .name
      · intro denotes
        cases denotes
        rfl
  | anyTop stem plain =>
      rw [text, parse_of_no_source (RegexLiteral.sourceOf?_eq_none plain.star.slash)]
      simp only [Text.before?_append, Option.elim_some, Except.ok.injEq]
      constructor
      · intro same
        subst same
        exact .anyTop
      · intro denotes
        cases denotes
        rfl
  | pattern source eitherCase full inside valid =>
      rw [text, parse_of_source (RegexLiteral.sourceOf?_write full eitherCase)]
      constructor
      · intro known
        obtain ⟨r, same, rfl⟩ := known
        exact .pattern r same
      · intro denotes
        cases denotes with
        | pattern r same => exact ⟨r, same, rfl⟩

theorem exists_denotes (e : Written) : (∃ d, e.Denotes d) ↔ e.Compiles := by
  cases e with
  | name => exact iff_of_true ⟨_, .name⟩ trivial
  | anyTop => exact iff_of_true ⟨_, .anyTop⟩ trivial
  | pattern source eitherCase =>
      constructor
      · intro denoted
        obtain ⟨d, denotes⟩ := denoted
        cases denotes with
        | pattern r same => simp [Compiles, ← same, r.compiled]
      · intro compiles
        obtain ⟨regex, compiled⟩ := Option.isSome_iff_exists.mp compiles
        exact ⟨.pattern ⟨_, regex, compiled⟩, .pattern _ rfl⟩

theorem text_eq_cons (e : Written) : ∃ c t, e.text = c :: t ∧ c ≠ '~' := by
  have unsigned {c : Char} {t : Text} (plain : IsPlain (c :: t)) : c ≠ '~' := by
    intro same
    exact plain.sign (by simp [same])
  cases e with
  | name t full plain =>
      cases t with
      | nil => exact absurd rfl full
      | cons c t => exact ⟨c, t, rfl, unsigned plain⟩
  | anyTop stem plain =>
      cases stem with
      | nil => exact ⟨'*', [], rfl, by decide⟩
      | cons c t => exact ⟨c, t ++ ['*'], rfl, unsigned plain⟩
  | pattern source eitherCase => exact ⟨'/', _, rfl, by decide⟩

theorem head?_text_append (e : Written) (rest : Text) : (e.text ++ rest).head? ≠ some '~' := by
  obtain ⟨c, t, begins, unsigned⟩ := e.text_eq_cons
  simpa [begins] using unsigned

theorem write_append (inverted : Bool) (e : Written) (rest : Text) :
    e.write inverted ++ rest = EntryList.signed (inverted, e.text ++ rest) :=
  EntryList.signed_append inverted e.text rest

theorem inversion_write (inverted : Bool) (e : Written) (rest : Text) :
    EntryList.inversion (e.write inverted ++ rest) = (inverted, e.text ++ rest) := by
  rw [write_append, EntryList.inversion_signed (e.head?_text_append rest)]

theorem split_write_append (inverted : Bool) (e : Written) (rest : Text) :
    EntryList.split (e.write inverted ++ rest) =
      (if inverted then ['~'] else []).foldr EntryList.extend
        (EntryList.splitFrom .inverted (e.text ++ rest)) := by
  rw [write_append, EntryList.split_signed (e.head?_text_append rest)]

/-- The cut finds an entry, unless it is an expression with a flag and something follows it. -/
theorem split_write (e : Written) (rest : Option Text) (ends : e.IsFlagged → rest = none)
    (inverted : Bool) :
    EntryList.split (e.write inverted ++ EntryList.behind rest) =
      e.write inverted :: EntryList.entriesBehind rest := by
  have unmarked {t : Text} (plain : IsPlain t) :
      EntryList.splitFrom .inverted (t ++ EntryList.behind rest) =
        t :: EntryList.entriesBehind rest := by
    apply EntryList.splitFrom_inverted_behind plain.bar
    intro slash
    exact plain.slash (List.mem_of_mem_head? slash)
  have cut : EntryList.splitFrom .inverted (e.text ++ EntryList.behind rest) =
      e.text :: EntryList.entriesBehind rest := by
    cases e with
    | name t full plain => exact unmarked plain
    | anyTop stem plain => exact unmarked plain.star
    | pattern source eitherCase full inside =>
        have closed : EntryList.splitFrom .expression
            ('/' :: (if eitherCase then ['i'] else []) ++ EntryList.behind rest) =
              ('/' :: if eitherCase then ['i'] else []) :: EntryList.entriesBehind rest := by
          cases eitherCase with
          | true =>
              rw [ends rfl]
              rfl
          | false => cases rest <;> rfl
        have opened (t : Text) : EntryList.splitFrom .inverted ('/' :: t) =
            EntryList.extend '/' (EntryList.splitFrom .expression t) := by
          simp [EntryList.splitFrom]
        simp only [List.cons_append] at closed
        simp only [text, RegexLiteral.write, List.cons_append, List.append_assoc, opened]
        rw [EntryList.splitFrom_expression_append inside, closed, EntryList.foldr_extend]
        rfl
  rw [split_write_append, cut, EntryList.foldr_extend]
  cases inverted <;> rfl

/-- The cut runs over an expression with a flag if something follows it. -/
theorem split_flagged {e : Written} (flagged : e.IsFlagged) (inverted : Bool) (rest : Text) :
    ∃ t more, EntryList.split (e.write inverted ++ '|' :: rest) =
      (e.write inverted ++ '|' :: t) :: more := by
  cases e with
  | name | anyTop => cases flagged
  | pattern source eitherCase full inside =>
      cases flagged
      obtain ⟨t, more, later⟩ := EntryList.exists_splitFrom .expression rest
      have run : EntryList.splitFrom .expression ('/' :: 'i' :: '|' :: rest) =
          ('/' :: 'i' :: '|' :: t) :: more := by
        simp [EntryList.splitFrom, later, EntryList.extend]
      have cut : EntryList.splitFrom .inverted (RegexLiteral.write source true ++ '|' :: rest) =
          (RegexLiteral.write source true ++ '|' :: t) :: more := by
        simp [RegexLiteral.write, EntryList.splitFrom, EntryList.extend, run,
          EntryList.splitFrom_expression_append inside, EntryList.foldr_extend]
      refine ⟨t, more, ?_⟩
      rw [split_write_append, text, cut, EntryList.foldr_extend]
      cases inverted <;> rfl

/-- What the cut makes of an expression with a flag and of what follows is no such expression. -/
theorem not_denotes_run {e : Written} (flagged : e.IsFlagged) {t : Text} {d : DomainEntry}
    (parsed : DomainEntry.parse (e.text ++ '|' :: t) = .ok d) : ¬ e.Denotes d := by
  intro denotes
  cases denotes with
  | name | anyTop => cases flagged
  | @pattern source eitherCase full inside valid r same =>
      cases flagged
      cases read : RegexLiteral.sourceOf? (RegexLiteral.write source true ++ '|' :: t) with
      | none =>
          rw [text, parse_of_no_source read] at parsed
          cases ends : Text.before? ['*'] (RegexLiteral.write source true ++ '|' :: t) <;>
            simp [ends] at parsed
      | some written =>
          obtain ⟨q, known, same'⟩ := (parse_of_source read).mp parsed
          cases same'
          obtain ⟨source', eitherCase, whole, same'⟩ := RegexLiteral.exists_write read
          have outside : '/' ∉ written := by
            rw [← known, same]
            simp [RegexLiteral.flag, inside]
          have inside' : '/' ∉ source' := by
            intro slash
            exact outside (by simp [same', slash])
          have same : RegexLiteral.write source' eitherCase =
              '/' :: (source ++ '/' :: 'i' :: '|' :: t) := by
            rw [← whole]
            simp [RegexLiteral.write]
          have ends := RegexLiteral.behind_write inside' inside same
          cases eitherCase <;> cases ends

end Written

end DomainEntry

namespace DomainCondition

open DomainEntry (Written)

/-- A list of domains in writing, all of its entries inverted or none. -/
def write (inverted : Bool) (entries : List Written) : Text :=
  Text.join ['|'] (entries.map (·.write inverted))

def checkEntry (_ entry : Text) : Except RuleError Unit :=
  if entry = [] then throw (.invalidModifier .domain .emptyEntry) else return ()

theorem parse_eq_ok {value : Text} {entries : List DomainEntry} {inverted : Bool} :
    parse value = .ok ⟨entries, inverted⟩ ↔
      EntryList.parse .domain checkEntry DomainEntry.parse none (EntryList.split value) =
        .ok (inverted, entries) := by
  apply EntryList.gather_eq_ok
  intro _ _ _ _ same
  exact mk.inj same

/-- The texts are read as what the entries stand for. -/
def Reads (seen : Option Bool) (inverted : Bool) (raws : List Text) (es : List Written) : Prop :=
  ∃ entries, EntryList.parse .domain checkEntry DomainEntry.parse seen raws =
    .ok (inverted, entries) ∧ List.Forall₂ Written.Denotes es entries

theorem reads_entry_iff {seen : Option Bool} {inverted : Bool}
    (agrees : seen.getD inverted = inverted) (e : Written) (es : List Written) (rest : List Text) :
    Reads seen inverted (e.write inverted :: rest) (e :: es) ↔
      e.Compiles ∧ Reads (some inverted) inverted rest es := by
  have sign := Written.inversion_write inverted e []
  have filled : e.text ≠ [] := by
    obtain ⟨c, t, begins, -⟩ := e.text_eq_cons
    simp [begins]
  simp only [List.append_nil] at sign
  simp only [Reads, EntryList.parse_cons, sign, agrees, Written.parse_text, checkEntry, filled,
    if_false, pure_eq_ok, ← Written.exists_denotes]
  constructor
  · intro read
    obtain ⟨entries, ⟨-, -, d, more, denotes, later, rfl⟩, denoted⟩ := read
    cases denoted with
    | cons _ denoted => exact ⟨⟨d, denotes⟩, more, later, denoted⟩
  · intro read
    obtain ⟨⟨d, denotes⟩, more, later, denoted⟩ := read
    exact ⟨d :: more, ⟨trivial, trivial, d, more, denotes, later, rfl⟩, .cons denotes denoted⟩

/-- A list is read as it was written exactly if the cut finds each of its entries. -/
theorem reads_write_iff {seen : Option Bool} {inverted : Bool}
    (agrees : seen.getD inverted = inverted) (first : Written) (more : List Written) :
    Reads seen inverted (EntryList.split (write inverted (first :: more))) (first :: more) ↔
      (∀ e ∈ (first :: more).dropLast, ¬ e.IsFlagged) ∧ ∀ e ∈ first :: more, e.Compiles := by
  induction more generalizing seen first with
  | nil =>
      have cut : EntryList.split (write inverted [first]) = [first.write inverted] := by
        have alone := first.split_write none (fun _ => rfl) inverted
        simpa [EntryList.behind, EntryList.entriesBehind, write, Text.join] using alone
      have nothing : Reads (some inverted) inverted [] [] := ⟨[], rfl, .nil⟩
      simp [cut, reads_entry_iff agrees, nothing]
  | cons next more ih =>
      have whole : write inverted (first :: next :: more) =
          first.write inverted ++ '|' :: write inverted (next :: more) := by
        simp [write, Text.join]
      by_cases flagged : first.IsFlagged
      · -- what is cut out first is more than the first entry, whatever follows
        obtain ⟨t, others, cut⟩ :=
          Written.split_flagged flagged inverted (write inverted (next :: more))
        constructor
        · intro read
          obtain ⟨entries, parsed, denoted⟩ := read
          rw [whole, cut, EntryList.parse_cons, Written.inversion_write] at parsed
          obtain ⟨-, -, d, rest, made, -, rfl⟩ := parsed
          cases denoted with
          | cons denotes _ => exact absurd denotes (Written.not_denotes_run flagged made)
        · intro allowed
          exact absurd flagged (allowed.1 first (by simp))
      · have cut : EntryList.split (write inverted (first :: next :: more)) =
            first.write inverted :: EntryList.split (write inverted (next :: more)) := by
          rw [whole]
          exact first.split_write (some _) (fun f => absurd f flagged) inverted
        rw [cut, reads_entry_iff agrees, ih rfl]
        simp only [List.dropLast_cons_cons, List.forall_mem_cons]
        tauto

/-- The list of entries between bars, all of them inverted or none, is read as these entries in
their order exactly if each expression with a flag stands at the end and compiles with its flag. -/
theorem parse_write_iff (first : Written) (more : List Written) (inverted : Bool) :
    (∃ entries, parse (write inverted (first :: more)) = .ok ⟨entries, inverted⟩ ∧
        List.Forall₂ Written.Denotes (first :: more) entries) ↔
      (∀ e ∈ (first :: more).dropLast, ¬ e.IsFlagged) ∧ ∀ e ∈ first :: more, e.Compiles := by
  rw [← @reads_write_iff none inverted rfl]
  simp only [Reads, parse_eq_ok]

/-- An expression with a flag runs on over the bar and is no expression then. -/
theorem flagged_runs_on :
    let entries : List Written :=
      [.pattern "a" true (by decide) (by decide) (by decide +kernel),
        .name "b.com" (by decide) ⟨by decide, by decide, by decide⟩ (by decide)]
    write false entries = ("/a/i|b.com" : Text) ∧ (∀ e ∈ entries, e.Compiles) ∧
      parse (write false entries) = .ok ⟨[.below "/a/i|b.com"], false⟩ ∧
        ¬ ∃ read, parse (write false entries) = .ok ⟨read, false⟩ ∧
          List.Forall₂ Written.Denotes entries read := by
  intro entries
  have parsed : parse (write false entries) = .ok ⟨[.below "/a/i|b.com"], false⟩ := by
    decide +kernel
  have compiles : (Regex.parse? (RegexLiteral.flag true ++ ("a" : Text))).isSome = true := by
    decide +kernel
  refine ⟨by decide, ?_, parsed, ?_⟩
  · simpa [entries, Written.Compiles] using compiles
  · intro kept
    obtain ⟨read, same, denoted⟩ := kept
    rw [parsed] at same
    cases same
    cases denoted.length_eq

end DomainCondition

end FilteringProxy
