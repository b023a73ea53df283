import FilteringProxy.RuleSet
import FilteringProxy.Text.Lines

/-! # The filter

A filter reads lists line by line, decides about requests and responses, and reports each decision
to those who watch for its kind. A report tells the request as it was before any edit.
-/

namespace FilteringProxy

open Http (Request Response Exchange)

inductive Action where
  | block
  | redirect (target : Text)
  | modify
  deriving Repr, DecidableEq

structure Event where
  action : Action
  method : Text
  url : Text
  /-- The page that the request names, if it can be read. -/
  referer : Option Text
  rules : List AppliedRule
  deriving Repr, DecidableEq

structure Watch where
  block : Bool := false
  redirect : Bool := false
  modify : Bool := false
  deriving Repr, DecidableEq

def Watch.everything : Watch := ⟨true, true, true⟩

def Watch.reports (w : Watch) (e : Event) : List Event :=
  match e.action with
  | .block => if w.block then [e] else []
  | .redirect _ => if w.redirect then [e] else []
  | .modify => if w.modify then [e] else []

/-- How many rules and exceptions a list added. -/
structure Counts where
  rules : Nat := 0
  exceptions : Nat := 0
  deriving Repr, DecidableEq

def Counts.plus (c : Counts) (kind : RuleKind) (n : Nat) : Counts :=
  match kind with
  | .regular => { c with rules := c.rules + n }
  | .exception => { c with exceptions := c.exceptions + n }

structure Filter where
  rules : RuleSet := {}
  watch : Watch := {}

namespace Filter

def userList : Text := "My rules"

/-- The line is a comment or the head of a list: `!`, `[`, or a `#` that no `#` or `%` follows. -/
def isComment (line : Text) : Bool :=
  match line with
  | '!' :: _ => true
  | '[' :: _ => true
  | ['#'] => true
  | '#' :: c :: _ => c != '#' && c != '%'
  | _ => false

/-- The line begins with up to `n` of the signs that may stand between two number signs, and with
the second number sign after them. -/
def closesMark : Nat → Text → Bool
  | _, '#' :: _ => true
  | n + 1, c :: r => (c = '@' || c = '$' || c = '?' || c = '%') && closesMark n r
  | _, _ => false

/-- The line has a mark of rules for the contents of pages: two number signs with up to two other
signs between them. -/
def isCosmetic : Text → Bool
  | [] => false
  | c :: r => (c = '#' && closesMark 2 r) || isCosmetic r

/-- The line, without blanks around it, holds no rule for requests. -/
def isSkipped (line : Text) : Bool := line = [] || isComment line || isCosmetic line

def add (f : Filter) (line list : Text) : Except RuleError (Filter × RuleKind × Nat) := do
  let (rules, kind, n) ← f.rules.add line list
  return ({ f with rules }, kind, n)

/-- Add the rule of a line of a list; a line that holds none changes nothing. -/
def addListLine (list : Text) (state : Filter × Counts) (line : Text) : Filter × Counts :=
  let line := line.trim
  if isSkipped line then state
  else
    match state.1.add line list with
    | .ok (f, kind, n) => (f, state.2.plus kind n)
    | .error _ => state

def addList (f : Filter) (bytes : Bytes) (list : Text) : Filter × Counts :=
  (Lines.ofBytes bytes).foldl (addListLine list) (f, {})

def addUserRules (f : Filter) (lines : List Text) : Filter × Counts :=
  f.addList (Utf8.encode (Text.join ['\n'] lines)) userList

def report (r : Request) (action : Action) (rules : List Rule) : Event :=
  { action, method := r.method, url := r.uri.print, referer := r.headerText? "referer",
    rules := rules.map (·.applied) }

structure Outcome where
  request : Request
  /-- The answer, if the request is not to go on. -/
  response : Option Response
  events : List Event
  deriving DecidableEq

def onRequest (f : Filter) (r : Request) : Outcome :=
  match f.rules.onRequest r with
  | (edited, .allow) => ⟨edited, none, []⟩
  | (edited, .block rule) =>
    ⟨edited, some (blockResponse edited), f.watch.reports (report r .block [rule])⟩
  | (edited, .redirect target rules) =>
    ⟨edited, some (redirectResponse edited target),
      f.watch.reports (report r (.redirect target) rules)⟩
  | (edited, .modified rules) => ⟨edited, none, f.watch.reports (report r .modify rules)⟩

def onResponse (f : Filter) (e : Exchange) : Response × List Event :=
  match f.rules.onResponse e with
  | (edited, []) => (edited, [])
  | (edited, rules) => (edited, f.watch.reports (report e.request .modify rules))

end Filter

end FilteringProxy
