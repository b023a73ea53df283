import FilteringProxy.Modifier.Context
import FilteringProxy.Modifier.Value
import FilteringProxy.PublicSuffix

/-! # Conditions

A condition decides whether a rule applies to an exchange. All conditions but one look at the
request, in the response phase too; a condition on a response header never holds before there is a
response. A condition that lacks what it needs to know does not hold, inverted or not.
-/

namespace FilteringProxy

open Http (Request Response Exchange)

/-! ## Pages -/

inductive DomainEntry where
  /-- The domain and all domains below it. -/
  | below (domain : Text)
  /-- All domains in which the text, which ends where the top-level name begins, starts a label. -/
  | anyTop (stem : Text)
  /-- All hosts that the expression matches. -/
  | pattern (r : RegexLiteral)
  deriving DecidableEq

namespace DomainEntry

def covers : DomainEntry → Text → Bool
  | below domain, host =>
    host == domain || (Text.before? domain host).any fun head => Text.endsWith head ['.']
  | anyTop stem, host => Text.startsWith host stem || Text.hasPart host ('.' :: stem)
  | pattern r, host => r.matchesIn host

def parse (entry : Text) : Except RuleError DomainEntry := do
  match ← RegexLiteral.parse entry with
  | some r => return pattern r
  | none =>
    match Text.before? ['*'] entry with
    | some stem => return anyTop stem.lower
    | none => return below entry.lower

end DomainEntry

/-- The request belongs to a page of one of the domains, or to none of them. -/
structure DomainCondition where
  entries : List DomainEntry
  inverted : Bool
  deriving DecidableEq

namespace DomainCondition

def parse (value : Text) : Except RuleError DomainCondition := do
  let check (_ entry : Text) : Except RuleError Unit :=
    if entry = [] then throw (.invalidModifier .domain .emptyEntry) else return ()
  let (inverted, entries) ←
    EntryList.parse .domain check DomainEntry.parse none (EntryList.split value)
  return { entries, inverted }

/-- The condition holds for a request: the page counts, or the host itself if there is no page. -/
def holds (c : DomainCondition) (r : Request) : Bool :=
  match r.pageHost?.or r.host? with
  | some host => (c.entries.any (·.covers host)) != c.inverted
  | none => false

/-- The conditions have the same entries, in any order. -/
def same (a b : DomainCondition) : Bool :=
  a.inverted == b.inverted && EntryList.same a.entries b.entries

end DomainCondition

/-! ## Methods -/

/-- The request has one of the methods, or none of them. -/
structure MethodCondition where
  methods : List Text
  inverted : Bool
  deriving Repr, DecidableEq

namespace MethodCondition

def parse (value : Text) : Except RuleError MethodCondition := do
  let check (raw entry : Text) : Except RuleError Unit :=
    if entry ≠ [] ∧ entry.all Char.isAlpha then return ()
    else throw (.invalidModifier .method (.badMethod raw))
  let (inverted, methods) ←
    EntryList.parse .method check (fun entry => .ok entry.upper) none (EntryList.split value)
  return { methods, inverted }

def holds (c : MethodCondition) (r : Request) : Bool :=
  (c.methods.any (· == r.method)) != c.inverted

/-- The conditions have the same methods, in any order. -/
def same (a b : MethodCondition) : Bool :=
  a.inverted == b.inverted && EntryList.same a.methods b.methods

end MethodCondition

/-! ## Kinds of content -/

/-- What a request is for. -/
inductive ContentType where
  | document
  | fetch
  | font
  | frame
  | image
  | object
  | script
  | stylesheet
  | media
  | other
  deriving Repr, DecidableEq

namespace ContentType

/-- The kind of content that a modifier names. -/
def ofName? (name : Text) : Option ContentType :=
  if name = ("document" : Text) || name = ("doc" : Text) then some document
  else if name = ("xmlhttprequest" : Text) || name = ("xhr" : Text) then some fetch
  else if name = ("font" : Text) then some font
  else if name = ("subdocument" : Text) then some frame
  else if name = ("image" : Text) then some image
  else if name = ("object" : Text) then some object
  else if name = ("script" : Text) then some script
  else if name = ("stylesheet" : Text) || name = ("css" : Text) then some stylesheet
  else if name = ("media" : Text) then some media
  else if name = ("other" : Text) then some other
  else none

/-- The kind of content that a browser announces as the destination of a request. -/
def ofDestination (dest : Text) : ContentType :=
  if dest = ("document" : Text) then document
  else if dest = ("empty" : Text) then fetch
  else if dest = ("font" : Text) then font
  else if dest = ("frame" : Text) || dest = ("iframe" : Text) then frame
  else if dest = ("image" : Text) then image
  else if dest = ("object" : Text) || dest = ("embed" : Text) then object
  else if dest = ("script" : Text) then script
  else if dest = ("style" : Text) then stylesheet
  else if dest = ("audio" : Text) || dest = ("track" : Text) || dest = ("video" : Text) then media
  else other

end ContentType

/-- The request is for content of a kind, or is known to be for another kind. -/
structure ContentCondition where
  kind : ContentType
  inverted : Bool
  deriving Repr, DecidableEq

/-- The condition holds for a request, by the destination that the browser announces. -/
def ContentCondition.holds (c : ContentCondition) (r : Request) : Bool :=
  match r.headerText? "sec-fetch-dest" with
  | some dest => (ContentType.ofDestination dest == c.kind) != c.inverted
  | none => false

/-! ## Parties -/

/-- The request crosses from one site to another, or, inverted, stays within a site. -/
structure PartyCondition where
  inverted : Bool
  deriving Repr, DecidableEq

namespace PartyCondition

/-- The request crosses sites, if that can be told: browsers announce it; otherwise the sites of
page and target are compared. -/
def crossesBy? (registrable? : Text → Option Text) (r : Request) : Option Bool :=
  match r.headerText? "sec-fetch-site" with
  | some site =>
    if site = ("cross-site" : Text) then some true
    else if site = ("same-origin" : Text) || site = ("same-site" : Text) then some false
    else none
  | none =>
    match r.pageHost?, r.host? with
    | some page, some host => some (siteBy registrable? host != siteBy registrable? page)
    | _, _ => none

/-- The condition holds for a request by a look-up of registrable domains. -/
def holdsBy (registrable? : Text → Option Text) (c : PartyCondition) (r : Request) : Bool :=
  match crossesBy? registrable? r with
  | some crosses => crosses != c.inverted
  | none => false

/-- The request crosses sites by the list of public suffixes. -/
def crossesSites? (r : Request) : Option Bool := crossesBy? PublicSuffix.registrable? r

def holds (c : PartyCondition) (r : Request) : Bool := c.holdsBy PublicSuffix.registrable? r

end PartyCondition

/-! ## Response headers -/

/-- What the value of a header must be. -/
inductive ValueCondition where
  | any
  | exactly (text : Text)
  | pattern (r : RegexLiteral)
  deriving DecidableEq

/-- The value is as wanted; an expression asks for a readable value. -/
def ValueCondition.accepts : ValueCondition → Bytes → Bool
  | any, _ => true
  | exactly text, value => value == Utf8.encode text
  | pattern r, value => (Http.readable? value).any r.matchesIn

/-- The response has a header with a wanted value. -/
structure HeaderCondition where
  name : Text
  value : ValueCondition
  deriving DecidableEq

namespace HeaderCondition

/-- Read a header name with an optional value after a colon. -/
def parse (written : Text) : Except RuleError HeaderCondition := do
  let (name, expected) := match Text.cut? ':' written with
    | some (name, expected) => (name, some expected)
    | none => (written, none)
  let some name := Http.fieldName? (Text.trim name)
    | throw (.invalidModifier .header .badFieldName)
  match expected with
  | none => return { name, value := .any }
  | some [] => throw (.invalidModifier .header .emptyValue)
  | some expected =>
    match ← RegexLiteral.parse expected with
    | some r => return { name, value := .pattern r }
    | none => return { name, value := .exactly expected }

def holds (c : HeaderCondition) (r : Response) : Bool :=
  (r.headers.values c.name).any c.value.accepts

end HeaderCondition

/-! ## All conditions -/

inductive Condition where
  | domain (c : DomainCondition)
  | method (c : MethodCondition)
  | content (c : ContentCondition)
  | party (c : PartyCondition)
  | header (c : HeaderCondition)
  deriving DecidableEq

namespace Condition

/-- The condition holds for a request before there is a response. -/
def holdsForRequest : Condition → Request → Bool
  | domain c, r => c.holds r
  | method c, r => c.holds r
  | content c, r => c.holds r
  | party c, r => c.holds r
  | header _, _ => false

def holdsForExchange : Condition → Exchange → Bool
  | header c, e => c.holds e.response
  | c, e => c.holdsForRequest e.request

def isContent : Condition → Bool
  | content _ => true
  | _ => false

/-- The conditions say the same, lists of entries in any order. -/
def same : Condition → Condition → Bool
  | domain a, domain b => a.same b
  | method a, method b => a.same b
  | content a, content b => a == b
  | party a, party b => a == b
  | header a, header b => a == b
  | _, _ => false

end Condition

end FilteringProxy
