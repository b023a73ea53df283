import FilteringProxy.Http.Message
import FilteringProxy.Modifier.Value
import FilteringProxy.Url.Form

/-! # Edits

An edit takes something away from a request or a response. It gives the edited message, or nothing
when there is nothing to take away.
-/

namespace FilteringProxy

open Http (Request Response Headers Uri)

/-! ## Query parameters -/

/-- Which segments of a query to remove. -/
inductive ParameterChoice where
  | all
  /-- Those whose decoded name is the given one. -/
  | named (name : Text)
  /-- Those whose decoded name is another one. -/
  | notNamed (name : Text)
  /-- Those whose decoded `name=value` the expression matches. -/
  | pattern (r : RegexLiteral)
  /-- Those whose decoded `name=value` the expression does not match. -/
  | notPattern (r : RegexLiteral)
  deriving DecidableEq

namespace ParameterChoice

def parse (value : Option Text) : Except RuleError ParameterChoice :=
  match value with
  | none => .ok all
  | some [] => .ok all
  | some written => do
    let (inverted, name) := EntryList.inversion written
    if name = [] then throw (.invalidModifier .removeparam .emptyParameterName)
    match ← RegexLiteral.parse name with
    | some r => return if inverted then notPattern r else pattern r
    | none => return if inverted then notNamed name else named name

def selects (c : ParameterChoice) (segment : Text) : Bool :=
  let (name, value) := Url.decodeSegment segment
  match c with
  | all => true
  | named wanted => name == wanted
  | notNamed kept => name != kept
  | pattern r => r.matchesIn (name ++ '=' :: value)
  | notPattern r => !r.matchesIn (name ++ '=' :: value)

end ParameterChoice

/-- The target with another query; an empty one goes with its question mark. -/
def Http.Uri.withQuery (u : Uri) (query : Text) : Uri :=
  { u with path := u.shownPath, query := if query = [] then none else some query }

def ParameterChoice.edit (c : ParameterChoice) (r : Request) : Option Request :=
  match r.uri.query with
  | none => none
  | some query =>
    let segments := Text.splitOn '&' query
    if segments.any c.selects then
      some { r with uri := r.uri.withQuery (Text.join ['&'] (segments.filter (!c.selects ·))) }
    else none

/-! ## Headers -/

/-- Headers that no rule may remove, beside those for access control. -/
def protectedHeaders : List Text :=
  List.map String.toList ["origin", "timing-allow-origin", "allow", "cross-origin-embedder-policy",
    "cross-origin-opener-policy", "cross-origin-resource-policy", "content-security-policy",
    "content-security-policy-report-only", "expect-ct", "feature-policy", "permissions-policy",
    "origin-isolation", "strict-transport-security", "upgrade-insecure-requests",
    "x-content-type-options", "x-download-options", "x-frame-options",
    "x-permitted-cross-domain-policies", "x-powered-by", "x-xss-protection", "public-key-pins",
    "public-key-pins-report-only", "sec-websocket-key", "sec-websocket-extensions",
    "sec-websocket-accept", "sec-websocket-protocol", "sec-websocket-version", "sec-fetch-mode",
    "sec-fetch-dest", "sec-fetch-site", "sec-fetch-user", "referrer-policy", "content-type",
    "content-length", "accept", "accept-encoding", "host", "connection", "transfer-encoding",
    "upgrade", "p3p"]

def isProtected (name : Text) : Bool :=
  Text.startsWith name "access-control-" || protectedHeaders.contains name

inductive Side where
  | request
  | response
  deriving Repr, DecidableEq

/-- Remove a header from one side of an exchange. -/
structure HeaderRemoval where
  name : Text
  side : Side
  unprotected : isProtected name = false
  deriving DecidableEq

namespace HeaderRemoval

/-- Read the name of a header, of the request if that is written before it. -/
def parse (value : Text) : Except RuleError HeaderRemoval := do
  let (side, name) := match Text.after? "request:" value with
    | some name => (Side.request, name)
    | none => (Side.response, value)
  let some name := Http.fieldName? (Text.trim name)
    | throw (.invalidModifier .removeheader .badFieldName)
  if h : isProtected name = false then return { name, side, unprotected := h }
  else throw (.protectedHeader name)

def edit (c : HeaderRemoval) (side : Side) (h : Headers) : Option Headers :=
  if c.side = side ∧ h.has c.name then some (h.remove c.name) else none

end HeaderRemoval

/-! ## Cookies -/

/-- Which cookies to remove. -/
inductive CookieChoice where
  | all
  | named (name : Text)
  | pattern (r : RegexLiteral)
  deriving DecidableEq

namespace CookieChoice

def parse (value : Option Text) : Except RuleError CookieChoice :=
  match value with
  | none => .ok all
  | some [] => .ok all
  | some written => do
    match ← RegexLiteral.parse written with
    | some r => return pattern r
    | none =>
      if written.any fun c => c = ';' || c = ' ' || c = '=' then
        throw (.invalidModifier .cookie .badCookieName)
      return named written

def selects : CookieChoice → Text → Bool
  | all, _ => true
  | named wanted, name => name == wanted
  | pattern r, name => r.matchesIn name

/-- The name of a cookie: what stands before the first equals sign. -/
def nameOf (pair : Text) : Text := Text.trim (Text.upTo '=' pair)

/-- The cookies of a header value: what stands between semicolons, unless it is blank. -/
def pairs (value : Text) : List Text :=
  ((Text.splitOn ';' value).map Text.trim).filter (· ≠ [])

/-- Remove cookies from the headers of a request. What is left becomes one header. One value that
cannot be read makes the edit leave all of them alone. The flag tells whether the edit was made; if
what is left cannot be a value, it was not, though the headers are gone. -/
def rewriteRequest (c : CookieChoice) (h : Headers) : Headers × Bool :=
  match (h.values "cookie").mapM Http.readable? with
  | none => (h, false)
  | some values =>
    let cookies := values.flatMap pairs
    if cookies.any fun pair => c.selects (nameOf pair) then
      let kept := cookies.filter fun pair => !c.selects (nameOf pair)
      let bare := h.remove "cookie"
      if kept = [] then (bare, true)
      else
        match Http.fieldValue? (Utf8.encode (Text.join "; " kept)) with
        | some value => (bare.append "cookie" value, true)
        | none => (bare, false)
    else (h, false)

/-- The headers after the edit, if it was made. -/
def editRequest (c : CookieChoice) (h : Headers) : Option Headers :=
  match c.rewriteRequest h with
  | (edited, true) => some edited
  | (_, false) => none

def setsChosen (c : CookieChoice) (value : Bytes) : Bool :=
  (Http.readable? value).any fun pair => c.selects (nameOf pair)

def editResponse (c : CookieChoice) (h : Headers) : Option Headers :=
  if (h.values "set-cookie").any c.setsChosen then some (h.removeWhere "set-cookie" c.setsChosen)
  else none

end CookieChoice

/-! ## All edits -/

inductive Edit where
  | parameters (c : ParameterChoice)
  | header (c : HeaderRemoval)
  | cookies (c : CookieChoice)
  deriving DecidableEq

namespace Edit

def onRequest : Edit → Request → Option Request
  | parameters c, r => c.edit r
  | header c, r => (c.edit .request r.headers).map fun h => { r with headers := h }
  | cookies c, r => (c.editRequest r.headers).map fun h => { r with headers := h }

def onResponse : Edit → Response → Option Response
  | parameters _, _ => none
  | header c, r => (c.edit .response r.headers).map fun h => { r with headers := h }
  | cookies c, r => (c.editResponse r.headers).map fun h => { r with headers := h }

end Edit

end FilteringProxy
