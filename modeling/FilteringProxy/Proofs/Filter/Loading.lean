import FilteringProxy.Proofs.Modifier.Protected
import FilteringProxy.Proofs.Text.Lines

/-! # Loading a list

A list is loaded line by line. A line that is skipped or refused leaves nothing behind, so a list
does what its other lines do one after another, wherever it is cut and whatever else stands in it.
-/

namespace FilteringProxy.Filter

/-- The lines of a text that are to hold rules, without the blanks around them. -/
def ruleLines (text : Text) : List Text :=
  ((Text.splitOn '\n' text).map Text.trim).filter (!isSkipped ·)

/-- Add lines one by one and pass over those that are refused. Gives the filter and, for each of the
other lines, what it added. -/
def addEach (list : Text) : List Text → Filter → Filter × List (RuleKind × Nat)
  | [], f => (f, [])
  | line :: lines, f =>
    match f.add line list with
    | .ok (g, added) => ((addEach list lines g).1, added :: (addEach list lines g).2)
    | .error _ => addEach list lines f

/-- How much of a kind was added in all. -/
def inserted (kind : RuleKind) : List (RuleKind × Nat) → Nat
  | [] => 0
  | (k, n) :: added => (if k = kind then n else 0) + inserted kind added

theorem inserted_append (kind : RuleKind) (added more : List (RuleKind × Nat)) :
    inserted kind (added ++ more) = inserted kind added + inserted kind more := by
  induction added with
  | nil => exact (Nat.zero_add _).symm
  | cons first added ih => rw [List.cons_append, inserted, inserted, ih, Nat.add_assoc]

theorem add_error_iff (f : Filter) (line list : Text) :
    (∃ fault, f.add line list = .error fault) ↔
      ∃ fault, RuleLine.parse (ruleText line) = .error fault := by
  constructor
  · rintro ⟨fault, refused⟩
    cases read : RuleLine.parse (ruleText line) with
    | error fault => exact ⟨fault, rfl⟩
    | ok rule =>
        rw [ruleText] at read
        rw [add, RuleSet.add] at refused
        cases behind : Text.after? "@@" line with
        | none =>
            rw [behind] at read refused
            simp only [Trie.add, Option.getD_none ▸ read] at refused
            cases refused
        | some text =>
            rw [behind] at read refused
            simp only [Trie.add, Option.getD_some ▸ read] at refused
            cases refused
  · exact f.add_refused list

theorem addEach_append (list : Text) (lines more : List Text) (f : Filter) :
    addEach list (lines ++ more) f =
      ((addEach list more (addEach list lines f).1).1,
        (addEach list lines f).2 ++ (addEach list more (addEach list lines f).1).2) := by
  induction lines generalizing f with
  | nil => rfl
  | cons line lines ih =>
      rw [List.cons_append, addEach, addEach]
      cases f.add line list with
      | error fault => exact ih f
      | ok answer =>
          simp only [ih]
          rfl

theorem foldl_addListLine (list : Text) (lines : List Text) (f : Filter) (counts : Counts) :
    let each := addEach list ((lines.map Text.trim).filter (!isSkipped ·)) f
    lines.foldl (addListLine list) (f, counts) =
      (each.1, ⟨counts.rules + inserted .regular each.2,
        counts.exceptions + inserted .exception each.2⟩) := by
  induction lines generalizing f counts with
  | nil => rfl
  | cons line lines ih =>
      rw [List.foldl_cons, addListLine, List.map_cons, List.filter_cons]
      cases skipped : isSkipped line.trim with
      | true => exact ih f counts
      | false =>
          simp only [Bool.not_false, if_true, Bool.false_eq_true, if_false, addEach]
          cases f.add line.trim list with
          | error fault => exact ih f counts
          | ok answer =>
              obtain ⟨g, kind, n⟩ := answer
              simp only [ih]
              cases kind with
              | regular => simp [Counts.plus, inserted, Nat.add_assoc]
              | exception => simp [Counts.plus, inserted, Nat.add_assoc]

theorem addList_eq (f : Filter) (text list : Text) :
    f.addList (Utf8.encode text) list =
      ((addEach list (ruleLines text) f).1,
        ⟨inserted .regular (addEach list (ruleLines text) f).2,
          inserted .exception (addEach list (ruleLines text) f).2⟩) := by
  have lines := (Lines.ended_ofBytes text).filter_trim (!isSkipped ·) rfl
  rw [addList, foldl_addListLine, lines, ← ruleLines, Nat.zero_add, Nat.zero_add]

theorem ruleLines_append (text next : Text) :
    ruleLines (text ++ '\n' :: next) = ruleLines text ++ ruleLines next := by
  rw [ruleLines, Text.splitOn_append_cons, List.map_append, List.filter_append]
  rfl

theorem ruleLines_join {parts : List Text} (clean : ∀ part ∈ parts, '\n' ∉ part) :
    ruleLines (Text.join ['\n'] parts) = (parts.map Text.trim).filter (!isSkipped ·) := by
  by_cases some_part : parts = []
  · subst some_part
    rfl
  · rw [ruleLines, Text.splitOn_join some_part clean]

/-- A refused line adds nothing, wherever it stands. -/
theorem addEach_refused {line : Text}
    (refused : ∃ fault, RuleLine.parse (ruleText line) = .error fault) (list : Text)
    (before after : List Text) (f : Filter) :
    addEach list (before ++ line :: after) f = addEach list (before ++ after) f := by
  rw [addEach_append, addEach_append, addEach]
  obtain ⟨fault, wrong⟩ := (add_error_iff (addEach list before f).1 line list).mpr refused
  rw [wrong]

theorem addList_append (f : Filter) (text next list : Text) :
    let loaded := f.addList (Utf8.encode text) list
    let both := loaded.1.addList (Utf8.encode next) list
    f.addList (Utf8.encode (text ++ '\n' :: next)) list =
      (both.1, ⟨loaded.2.rules + both.2.rules, loaded.2.exceptions + both.2.exceptions⟩) := by
  intro loaded both
  have first : loaded = _ := addList_eq f text list
  have second : both = _ := addList_eq loaded.1 next list
  rw [addList_eq, ruleLines_append, addEach_append, second, first, inserted_append,
    inserted_append]

theorem addList_eraseIdx (f : Filter) {text line : Text} (list : Text) {place : Nat}
    (there : (Text.splitOn '\n' text)[place]? = some line)
    (refused : ∃ fault, RuleLine.parse (ruleText line.trim) = .error fault) :
    f.addList (Utf8.encode (Text.join ['\n'] ((Text.splitOn '\n' text).eraseIdx place))) list =
      f.addList (Utf8.encode text) list := by
  obtain ⟨inside, rfl⟩ := List.getElem?_eq_some_iff.mp there
  let before := (Text.splitOn '\n' text).take place
  let after := (Text.splitOn '\n' text).drop (place + 1)
  have whole : Text.splitOn '\n' text = before ++ (Text.splitOn '\n' text)[place] :: after := by
    rw [List.getElem_cons_drop, List.take_append_drop]
  have rest : (Text.splitOn '\n' text).eraseIdx place = before ++ after :=
    List.eraseIdx_eq_take_drop_succ _ _
  have clean : ∀ part ∈ before ++ after, '\n' ∉ part := by
    intro part member feed
    rw [← rest] at member
    exact (Text.mem_part (List.mem_of_mem_eraseIdx member) feed).1 rfl
  have same : addEach list (ruleLines (Text.join ['\n'] (before ++ after))) f =
      addEach list (ruleLines text) f := by
    rw [ruleLines_join clean, ruleLines, whole, List.map_append, List.map_append, List.map_cons,
      List.filter_append, List.filter_append, List.filter_cons]
    split
    · exact (addEach_refused refused list _ _ f).symm
    · rfl
  rw [addList_eq, addList_eq, rest, same]

/-- Loading a text adds its rule lines one by one and counts what they add. Cutting the text at a
line feed makes no difference, and neither does leaving out a line that is refused. -/
theorem addList_linewise (f : Filter) (text list : Text) :
    let loaded := f.addList (Utf8.encode text) list
    let each := addEach list (ruleLines text) f
    loaded = (each.1, ⟨inserted .regular each.2, inserted .exception each.2⟩) ∧
    (∀ next : Text,
      let both := loaded.1.addList (Utf8.encode next) list
      f.addList (Utf8.encode (text ++ '\n' :: next)) list =
        (both.1, ⟨loaded.2.rules + both.2.rules, loaded.2.exceptions + both.2.exceptions⟩)) ∧
    ∀ (place : Nat) (line : Text), (Text.splitOn '\n' text)[place]? = some line →
      (∃ (g : Filter) (name : Text) (fault : RuleError), g.add line.trim name = .error fault) →
        f.addList (Utf8.encode (Text.join ['\n'] ((Text.splitOn '\n' text).eraseIdx place))) list =
          loaded := by
  intro loaded each
  refine ⟨f.addList_eq text list, ?_, ?_⟩
  · intro next
    exact f.addList_append text next list
  · intro place line there refused
    obtain ⟨g, name, fault, wrong⟩ := refused
    exact f.addList_eraseIdx list there ((g.add_error_iff _ name).mp ⟨fault, wrong⟩)

/-- A refused line with blanks and a carriage return around it, between a rule and names of hosts;
nothing ends the last line. -/
theorem addList_linewise_returned :
    let text : Text :=
      "||a.com^\r\n  ||b.com^$unheard\r\n! note\n0.0.0.0 c.com d.com\n@@||e.com^\r"
    let loaded := ({} : Filter).addList (Utf8.encode text) "list"
    ({} : Filter).add "||b.com^$unheard" "list" = .error (.unknownModifier "unheard") ∧
      loaded.2 = { rules := 3, exceptions := 1 } ∧
      ({} : Filter).addList
        (Utf8.encode "||a.com^\r\n! note\n0.0.0.0 c.com d.com\n@@||e.com^\r") "list" = loaded := by
  intro text loaded
  have there : (Text.splitOn '\n' text)[1]? = some ("  ||b.com^$unheard\r" : Text) := by
    decide
  have refused : ({} : Filter).add "||b.com^$unheard" "list" =
      .error (.unknownModifier "unheard") := rfl
  have shorter : Text.join ['\n'] ((Text.splitOn '\n' text).eraseIdx 1) =
      "||a.com^\r\n! note\n0.0.0.0 c.com d.com\n@@||e.com^\r" := by decide
  refine ⟨refused, by decide +kernel, ?_⟩
  rw [← shorter]
  exact (addList_linewise {} text "list").2.2 1 _ there ⟨{}, "list", _, refused⟩

end FilteringProxy.Filter
