import FilteringProxy.Modifier.Condition
import FilteringProxy.Modifier.Edit

/-! # Modifiers

The part of a rule after its dollar sign is a list of modifiers: conditions, of which those on the
kind of content are alternatives and all others must hold together, and edits. A rule without edits
blocks.
-/

namespace FilteringProxy

open Http (Request Response Exchange)

inductive Modifier where
  | condition (c : Condition)
  | edit (e : Edit)
  deriving DecidableEq

namespace Modifier

def required (name : ModifierName) (value : Option Text) : Except RuleError Text :=
  match value with
  | some (c :: cs) => .ok (c :: cs)
  | _ => .error (.invalidModifier name .missingValue)

def refuseInversion (name : ModifierName) (inverted : Bool) : Except RuleError Unit :=
  if inverted then .error (.invalidModifier name .cannotBeInverted) else .ok ()

def refuseValue (name : ModifierName) (value : Option Text) : Except RuleError Unit :=
  if value.isSome then .error (.invalidModifier name .takesNoValue) else .ok ()

/-- A written modifier: the sign of inversion, the name, and the value after an equals sign. -/
structure Written where
  inverted : Bool
  name : Text
  value : Option Text
  deriving Repr, DecidableEq

def Written.ofText (t : Text) : Written :=
  let (name, value) := match Text.cut? '=' t with
    | some (name, value) => (name, some value)
    | none => (t, none)
  let (inverted, name) := EntryList.inversion name
  { inverted, name, value }

/-- Give a written modifier its meaning; `all` has none. -/
def Written.meaning (w : Written) (written : Text) : Except RuleError (Option Modifier) := do
  if w.name = ("domain" : Text) then
    refuseInversion .domain w.inverted
    let c ← DomainCondition.parse (← required .domain w.value)
    return some (.condition (.domain c))
  else if w.name = ("method" : Text) then
    refuseInversion .method w.inverted
    let c ← MethodCondition.parse (← required .method w.value)
    return some (.condition (.method c))
  else if w.name = ("third-party" : Text) || w.name = ("3p" : Text) then
    refuseValue .thirdParty w.value
    return some (.condition (.party { inverted := w.inverted }))
  else if w.name = ("header" : Text) then
    refuseInversion .header w.inverted
    let c ← HeaderCondition.parse (← required .header w.value)
    return some (.condition (.header c))
  else if w.name = ("removeparam" : Text) then
    refuseInversion .removeparam w.inverted
    return some (.edit (.parameters (← ParameterChoice.parse w.value)))
  else if w.name = ("removeheader" : Text) then
    refuseInversion .removeheader w.inverted
    let c ← HeaderRemoval.parse (← required .removeheader w.value)
    return some (.edit (.header c))
  else if w.name = ("cookie" : Text) then
    refuseInversion .cookie w.inverted
    return some (.edit (.cookies (← CookieChoice.parse w.value)))
  else if w.name = ("all" : Text) then
    return none
  else
    match ContentType.ofName? w.name with
    | some kind =>
      refuseValue .contentType w.value
      return some (.condition (.content { kind, inverted := w.inverted }))
    | none => throw (.unknownModifier written)

/-- Read one modifier; nothing when it has no effect. -/
def parse (raw : Text) : Except RuleError (Option Modifier) :=
  let written := Text.trim raw
  if written = [] then .error .emptyModifier
  else (Written.ofText written).meaning written

/-- The modifiers say the same, lists of entries in any order. -/
def same : Modifier → Modifier → Bool
  | condition a, condition b => a.same b
  | edit a, edit b => a == b
  | _, _ => false

end Modifier

/-- The modifiers of a rule, sorted by what they do. -/
structure ModifierSet where
  /-- Conditions that must all hold. -/
  required : List Condition := []
  /-- Conditions on the kind of content, one of which must hold if there are any. -/
  contents : List Condition := []
  /-- Edits, in the order of the list. -/
  edits : List Edit := []
  deriving DecidableEq

namespace ModifierSet

def add (s : ModifierSet) : Modifier → ModifierSet
  | .condition c =>
    if c.isContent then { s with contents := s.contents ++ [c] }
    else { s with required := s.required ++ [c] }
  | .edit e => { s with edits := s.edits ++ [e] }

def parseInto (s : ModifierSet) : List Text → Except RuleError ModifierSet
  | [] => .ok s
  | raw :: rest => do
    match ← Modifier.parse raw with
    | some m => parseInto (s.add m) rest
    | none => parseInto s rest

def parse (list : Text) : Except RuleError ModifierSet := parseInto {} (Text.splitOn ',' list)

def isEmpty (s : ModifierSet) : Bool := s.required.isEmpty && s.contents.isEmpty && s.edits.isEmpty

/-- All conditions, those on the kind of content last. -/
def conditions (s : ModifierSet) : List Condition := s.required ++ s.contents

/-- The conditions hold together, given which of them hold. -/
def holdsWhen (s : ModifierSet) (holds : Condition → Bool) : Bool :=
  s.required.all holds && (s.contents.isEmpty || s.contents.any holds)

/-- The conditions hold for a request before there is a response. -/
def holdsForRequest (s : ModifierSet) (r : Request) : Bool :=
  s.holdsWhen (·.holdsForRequest r)

/-- The conditions hold for a request and its response. -/
def holdsForExchange (s : ModifierSet) (e : Exchange) : Bool :=
  s.holdsWhen (·.holdsForExchange e)

/-- Apply edits one after another; the flag tells whether any of them took something away. -/
def applyAll (apply : Edit → α → Option α) : List Edit → α → α × Bool
  | [], a => (a, false)
  | e :: es, a =>
    match apply e a with
    | some b => ((applyAll apply es b).1, true)
    | none => applyAll apply es a

def onRequest (s : ModifierSet) (r : Request) : Request × Bool :=
  applyAll Edit.onRequest s.edits r

def onResponse (s : ModifierSet) (r : Response) : Response × Bool :=
  applyAll Edit.onResponse s.edits r

/-- Lists are the same place by place. -/
def sameAll (same : α → α → Bool) : List α → List α → Bool
  | [], [] => true
  | a :: as, b :: bs => same a b && sameAll same as bs
  | _, _ => false

/-- The sets say the same, modifier by modifier. -/
def same (a b : ModifierSet) : Bool :=
  sameAll Condition.same a.required b.required && sameAll Condition.same a.contents b.contents &&
    a.edits == b.edits

end ModifierSet

end FilteringProxy
