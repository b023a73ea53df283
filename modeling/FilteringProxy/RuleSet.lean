import FilteringProxy.Trie.Basic

/-! # Rule sets

The rules and exceptions of all lists, and what they do to an exchange: rules that no exception
cancels either block a request or take something away from it.
-/

namespace FilteringProxy

open Http (Request Response Exchange Headers)

/-- Whether a line is an exception. -/
inductive RuleKind where
  | regular
  | exception
  deriving Repr, DecidableEq

/-- What the rules decide about a request. -/
inductive Verdict where
  | allow
  | block (rule : Rule)
  /-- Rules changed the target; the client is to ask again. -/
  | redirect (target : Text) (rules : List Rule)
  /-- Rules changed the headers. -/
  | modified (rules : List Rule)
  deriving DecidableEq

/-- Rules and exceptions. -/
structure RuleSet where
  regular : Trie := {}
  exceptions : Trie := {}

namespace RuleSet

/-- Add a line; two at signs make it an exception. -/
def add (s : RuleSet) (line list : Text) : Except RuleError (RuleSet × RuleKind × Nat) :=
  match Text.after? "@@" line with
  | some rest => do
    let (t, n) ← s.exceptions.add rest line list
    return ({ s with exceptions := t }, .exception, n)
  | none => do
    let (t, n) ← s.regular.add line line list
    return ({ s with regular := t }, .regular, n)

def survivors (exceptions rules : List Rule) : List Rule :=
  rules.filter fun r => !exceptions.any (·.cancels r)

/-- Apply rules one after another, and keep those that took something away. -/
def applyAll (apply : Rule → α → α × Bool) : List Rule → α → α × List Rule
  | [], a => (a, [])
  | r :: rs, a =>
    match apply r a with
    | (b, true) => let (c, applied) := applyAll apply rs b; (c, r :: applied)
    | (b, false) => applyAll apply rs b

def rulesForRequest (s : RuleSet) (r : Request) : List Rule :=
  survivors (s.exceptions.findForRequest r) (s.regular.findForRequest r)

/-- The rules for a request and its response that no exception cancels. -/
def rulesForExchange (s : RuleSet) (e : Exchange) : List Rule :=
  survivors (s.exceptions.findForExchange e) (s.regular.findForExchange e)

/-- Decide about a request and edit it. -/
def onRequest (s : RuleSet) (r : Request) : Request × Verdict :=
  let rules := s.rulesForRequest r
  match rules.find? (·.blocks) with
  | some rule => (r, .block rule)
  | none =>
    let (edited, applied) := applyAll (fun rule => rule.modifiers.onRequest) rules r
    if applied = [] then (edited, .allow)
    else if edited.uri.same r.uri then (edited, .modified applied)
    else (edited, .redirect edited.uri.print applied)

/-- Edit a response; gives the rules that did. -/
def onResponse (s : RuleSet) (e : Exchange) : Response × List Rule :=
  applyAll (fun rule => rule.modifiers.onResponse) (s.rulesForExchange e) e.response

end RuleSet

def blockResponse (r : Request) : Response :=
  { status := 403, version := r.version,
    headers := ({} : Headers).append "content-length" (Utf8.encode "0") }

def redirectResponse (r : Request) (target : Text) : Response :=
  let location := match Http.fieldValue? (Utf8.encode target) with
    | some value => ({} : Headers).append "location" value
    | none => {}
  { status := 307, version := r.version,
    headers := location.append "content-length" (Utf8.encode "0") }

end FilteringProxy
