import FilteringProxy.Modifier.Basic
import FilteringProxy.Proofs.Modifier.Value
import Mathlib.Data.Fintype.OfMap
import Mathlib.Data.List.Basic
import Mathlib.Tactic.SplitIfs

/-! # What a list of modifiers says

A list is read modifier by modifier, and the set that it stands for holds each of them in the group
of what it does, in the order of the list. A kind of content is written by its name alone, with the
sign of inversion before it when it is excluded.
-/

namespace FilteringProxy

/-! ## The groups of a set -/

namespace ModifierSet

/-- A condition that must hold, if the modifier is one. -/
def required? : Modifier → Option Condition
  | .condition c => if c.isContent then none else some c
  | .edit _ => none

/-- A condition on the kind of content, if the modifier is one. -/
def content? : Modifier → Option Condition
  | .condition c => if c.isContent then some c else none
  | .edit _ => none

def edit? : Modifier → Option Edit
  | .condition _ => none
  | .edit e => some e

theorem foldl_add (modifiers : List Modifier) (s : ModifierSet) :
    modifiers.foldl add s =
      { required := s.required ++ modifiers.filterMap required?
        contents := s.contents ++ modifiers.filterMap content?
        edits := s.edits ++ modifiers.filterMap edit? } := by
  induction modifiers generalizing s with
  | nil => simp
  | cons m modifiers ih =>
      rw [List.foldl_cons, ih]
      cases m with
      | condition c =>
          simp only [add, List.filterMap_cons, required?, content?, edit?]
          cases c.isContent <;> simp
      | edit e => simp [add, List.filterMap_cons, required?, content?, edit?]

/-- What an entry says; nothing when it is refused or has no effect. -/
def said? (raw : Text) : Option Modifier := (Modifier.parse raw).toOption.join

theorem said?_eq_some {raw : Text} {m : Modifier} :
    said? raw = some m ↔ Modifier.parse raw = .ok (some m) := by
  cases read : Modifier.parse raw with
  | error fault => simp [said?, read, Except.toOption]
  | ok said => simp [said?, read, Except.toOption]

theorem parseInto_eq_ok {raws : List Text} {s t : ModifierSet} :
    parseInto s raws = .ok t ↔
      (∀ raw ∈ raws, ∃ said, Modifier.parse raw = .ok said) ∧
        t = (raws.filterMap said?).foldl add s := by
  induction raws generalizing s with
  | nil => simp [parseInto, eq_comm]
  | cons raw raws ih =>
      cases read : Modifier.parse raw with
      | error fault => simp [parseInto, bind, Except.bind, read]
      | ok said =>
          cases said with
          | none =>
              have silent : said? raw = none := by simp [said?, read, Except.toOption]
              simp [parseInto, bind, Except.bind, read, ih, silent]
          | some m =>
              have told : said? raw = some m := said?_eq_some.mpr read
              simp [parseInto, bind, Except.bind, read, ih, told]

/-- The set of what the entries say. -/
def ofEntries (raws : List Text) : ModifierSet where
  required := (raws.filterMap said?).filterMap required?
  contents := (raws.filterMap said?).filterMap content?
  edits := (raws.filterMap said?).filterMap edit?

/-- A list is accepted if every entry is, and its set is that of what the entries say. -/
theorem parse_eq_ok {list : Text} {s : ModifierSet} :
    parse list = .ok s ↔
      (∀ raw ∈ Text.splitOn ',' list, ∃ said, Modifier.parse raw = .ok said) ∧
        s = ofEntries (Text.splitOn ',' list) := by
  simp [parse, parseInto_eq_ok, foldl_add, ofEntries]

theorem exists_parse_iff {list : Text} :
    (∃ s, parse list = .ok s) ↔
      ∀ raw ∈ Text.splitOn ',' list, ∃ said, Modifier.parse raw = .ok said := by
  simp [parse_eq_ok]

theorem mem_contents_parse {list : Text} {s : ModifierSet} (read : parse list = .ok s)
    (c : Condition) :
    c ∈ s.contents ↔ c.isContent = true ∧
      ∃ raw ∈ Text.splitOn ',' list, Modifier.parse raw = .ok (some (.condition c)) := by
  have is_content (m : Modifier) : content? m = some c ↔ m = .condition c ∧ c.isContent = true := by
    cases m with
    | condition d =>
        simp only [content?]
        grind
    | edit e => simp [content?]
  obtain ⟨-, rfl⟩ := parse_eq_ok.mp read
  simp only [ofEntries, List.mem_filterMap, said?_eq_some, is_content]
  grind

end ModifierSet

/-! ## Kinds of content in writing -/

instance : Fintype ContentType :=
  Fintype.ofList [.document, .fetch, .font, .frame, .image, .object, .script, .stylesheet, .media,
    .other] fun kind => by cases kind <;> decide

/-- The names by which modifiers call kinds of content. -/
def ContentType.names : List Text :=
  ["document", "doc", "xmlhttprequest", "xhr", "font", "subdocument", "image", "object", "script",
    "stylesheet", "css", "media", "other"].map String.toList

theorem ContentType.mem_names {name : Text} {kind : ContentType}
    (named : ofName? name = some kind) : name ∈ names := by
  by_contra absent
  have other (t : Text) (member : t ∈ names) : (name = t) = False :=
    eq_false fun same => absurd (same ▸ member) absent
  simp only [ofName?, other "document" (by decide), other "doc" (by decide),
    other "xmlhttprequest" (by decide), other "xhr" (by decide), other "font" (by decide),
    other "subdocument" (by decide), other "image" (by decide), other "object" (by decide),
    other "script" (by decide), other "stylesheet" (by decide), other "css" (by decide),
    other "media" (by decide), other "other" (by decide), decide_false, Bool.or_self,
    Bool.false_eq_true, if_false, reduceCtorEq] at named

namespace Modifier

theorem ofText_contentName {name : Text} (member : name ∈ ContentType.names) :
    Written.ofText name = ⟨false, name, none⟩ ∧
      Written.ofText ('~' :: name) = ⟨true, name, none⟩ ∧ name ≠ [] := by
  revert name
  decide

theorem eq_of_ofText {t name : Text} {inverted : Bool}
    (written : Written.ofText t = ⟨inverted, name, none⟩) :
    t = if inverted then '~' :: name else name := by
  unfold Written.ofText at written
  cases cut : Text.cut? '=' t with
  | some parts => simp [cut] at written
  | none =>
      cases t with
      | nil =>
          simp [cut, EntryList.inversion] at written
          grind
      | cons c t =>
          by_cases sign : c = '~'
          · subst sign
            simp [cut, EntryList.inversion] at written
            grind
          · simp [cut, EntryList.inversion, sign] at written
            grind

theorem Written.meaning_eq_content {w : Written} {written : Text} {c : ContentCondition} :
    w.meaning written = .ok (some (.condition (.content c))) ↔
      ContentType.ofName? w.name = some c.kind ∧ w.inverted = c.inverted ∧ w.value = none := by
  have unnamed {name : Text} (other : ContentType.ofName? name = none) (same : w.name = name) :
      ¬ (ContentType.ofName? w.name = some c.kind ∧ w.inverted = c.inverted ∧ w.value = none) := by
    rw [same, other]
    simp
  unfold meaning
  split_ifs with domain method party header removeparam removeheader cookie all
  · exact iff_of_false (by simp [bind_eq_ok, pure_eq_ok]) (unnamed (by decide) domain)
  · exact iff_of_false (by simp [bind_eq_ok, pure_eq_ok]) (unnamed (by decide) method)
  · refine iff_of_false (by simp [bind_eq_ok, pure_eq_ok]) ?_
    simp only [Bool.or_eq_true, decide_eq_true_eq] at party
    cases party with
    | inl long => exact unnamed (by decide) long
    | inr short => exact unnamed (by decide) short
  · exact iff_of_false (by simp [bind_eq_ok, pure_eq_ok]) (unnamed (by decide) header)
  · exact iff_of_false (by simp [bind_eq_ok, pure_eq_ok]) (unnamed (by decide) removeparam)
  · exact iff_of_false (by simp [bind_eq_ok, pure_eq_ok]) (unnamed (by decide) removeheader)
  · exact iff_of_false (by simp [bind_eq_ok, pure_eq_ok]) (unnamed (by decide) cookie)
  · exact iff_of_false (by simp [pure_eq_ok]) (unnamed (by decide) all)
  · cases ContentType.ofName? w.name with
    | none => simp [throw, throwThe, MonadExceptOf.throw]
    | some kind =>
        obtain ⟨kind', sign⟩ := c
        cases w.value with
        | none => simp [refuseValue, bind_eq_ok, pure_eq_ok]
        | some value => simp [refuseValue]

/-- The modifier names a kind of content, or excludes it. -/
def NamesContent (raw : Text) (kind : ContentType) (inverted : Bool) : Prop :=
  ∃ name, Text.trim raw = (if inverted then '~' :: name else name) ∧
    ContentType.ofName? name = some kind

/-- A modifier is a condition on the kind of content exactly if it is the name of one. -/
theorem parse_eq_content {raw : Text} {kind : ContentType} {inverted : Bool} :
    parse raw = .ok (some (.condition (.content ⟨kind, inverted⟩))) ↔
      NamesContent raw kind inverted := by
  constructor
  · intro read
    simp only [parse] at read
    split at read
    · cases read
    · obtain ⟨named, sign, plain⟩ := Written.meaning_eq_content.mp read
      generalize written : Written.ofText (Text.trim raw) = w at named sign plain
      obtain ⟨inverted', name, value⟩ := w
      cases sign
      cases plain
      exact ⟨name, eq_of_ofText written, named⟩
  · rintro ⟨name, written, named⟩
    obtain ⟨straight, excluding, some_name⟩ := ofText_contentName (ContentType.mem_names named)
    have full : Text.trim raw ≠ [] := by
      rw [written]
      split
      · simp
      · exact some_name
    simp only [parse, if_neg full]
    apply Written.meaning_eq_content.mpr
    rw [written]
    cases inverted with
    | false => simp [straight, named]
    | true => simp [excluding, named]

instance (raw : Text) (kind : ContentType) (inverted : Bool) :
    Decidable (NamesContent raw kind inverted) :=
  decidable_of_iff _ parse_eq_content

end Modifier

end FilteringProxy
