import FilteringProxy.Modifier.Error
import FilteringProxy.Regex.Parse

/-! # Values of modifiers

Lists of entries between bars, and regular expressions between slashes. A bar inside of an
expression does not end its entry; only a slash and a bar together do.
-/

namespace FilteringProxy

/-- A regular expression as a rule writes it. It is known by its source: equal sources mean equal
expressions. -/
structure RegexLiteral where
  /-- The source, with the flag for either case in front when the rule asks for it. -/
  source : Text
  /-- The expression that the source spells. -/
  regex : Regex
  /-- The expression is what the source spells. -/
  compiled : Regex.parse? source = some regex

namespace RegexLiteral

theorem eq_of_source {a b : RegexLiteral} (h : a.source = b.source) : a = b := by
  obtain ⟨s, r, hr⟩ := a
  obtain ⟨t, q, hq⟩ := b
  cases h
  have : r = q := Option.some.inj (hr.symm.trans hq)
  cases this
  rfl

instance : DecidableEq RegexLiteral := fun a b =>
  if h : a.source = b.source then isTrue (eq_of_source h)
  else isFalse fun e => h (congrArg source e)

def compile (source : Text) : Except RuleError RegexLiteral :=
  match h : Regex.parse? source with
  | some regex => .ok ⟨source, regex, h⟩
  | none => .error (.invalidRegex source)

/-- The source of a value of the form `/source/` or `/source/i`, the latter with a flag in front.
Any other value is no expression, and neither is one with an empty source. -/
def sourceOf? (value : Text) : Option Text :=
  match value with
  | '/' :: inner =>
    let (source, flag) := match Text.before? "/i" inner with
      | some source => (some source, ("(?i)" : Text))
      | none => (Text.before? "/" inner, [])
    match source with
    | some (c :: cs) => some (flag ++ c :: cs)
    | _ => none
  | _ => none

/-- The expression that a value spells; nothing when the value is no expression. -/
def parse (value : Text) : Except RuleError (Option RegexLiteral) :=
  match sourceOf? value with
  | some source => (compile source).map some
  | none => .ok none

def matchesIn (r : RegexLiteral) (t : Text) : Bool := r.regex.matchesIn t

end RegexLiteral

namespace EntryList

/-- Where in an entry the next character stands. -/
inductive Place where
  | start
  /-- After the sign of inversion. -/
  | inverted
  | expression
  /-- Anywhere else. -/
  | plain
  deriving Repr, DecidableEq

/-- Put a character before the first entry. -/
def extend (c : Char) : List Text → List Text
  | [] => [[c]]
  | e :: es => (c :: e) :: es

def splitFrom : Place → Text → List Text
  | _, [] => [[]]
  | .expression, '/' :: '|' :: r => ['/'] :: splitFrom .start r
  | .expression, c :: r => extend c (splitFrom .expression r)
  | .start, c :: r =>
    if c = '|' then [] :: splitFrom .start r
    else if c = '~' then extend c (splitFrom .inverted r)
    else if c = '/' then extend c (splitFrom .expression r)
    else extend c (splitFrom .plain r)
  | .inverted, c :: r =>
    if c = '|' then [] :: splitFrom .start r
    else if c = '/' then extend c (splitFrom .expression r)
    else extend c (splitFrom .plain r)
  | .plain, c :: r =>
    if c = '|' then [] :: splitFrom .start r else extend c (splitFrom .plain r)

def split (value : Text) : List Text := splitFrom .start value

/-- The entry without the sign of inversion, and whether it had one. -/
def inversion : Text → Bool × Text
  | '~' :: r => (true, r)
  | t => (false, t)

/-- Two lists have the same length and each holds all entries of the other. -/
def same [BEq α] (a b : List α) : Bool :=
  a.length == b.length && a.all b.contains && b.all a.contains

/-- Read the entries of a list one by one, all of them inverted or none; `check` is asked before
inversion is compared, `make` after. -/
def parse (name : ModifierName) (check : Text → Text → Except RuleError Unit)
    (make : Text → Except RuleError α) :
    Option Bool → List Text → Except RuleError (Bool × List α)
  | seen, [] => .ok (seen.getD false, [])
  | seen, raw :: rest => do
    let (inverted, entry) := inversion raw
    check raw entry
    if seen.getD inverted != inverted then throw (.mixedInversion name)
    let value ← make entry
    let (all, values) ← parse name check make (some inverted) rest
    return (all, value :: values)

end EntryList

end FilteringProxy
