import FilteringProxy.Text.Utf8

/-! # Request targets

A target is an absolute URI, a path with an optional query, an asterisk, or a bare authority. The
parts are kept as written, except that a fragment is dropped and the schemes `http` and `https` are
in lower case. An absolute URI without a path prints and compares as if its path were `/`.
-/

namespace FilteringProxy.Http

structure Uri where
  /-- The scheme of an absolute URI. -/
  scheme : Option Text
  /-- User information, host and port as written; empty when the target has no authority. -/
  authority : Text
  /-- The path as written, possibly empty. -/
  path : Text
  /-- What follows the question mark, if there is one. -/
  query : Option Text
  deriving Repr, DecidableEq

namespace Uri

/-- Longest target in bytes. -/
def lengthLimit : Nat := 65534

def isSchemeChar (c : Char) : Bool := c.isAlphanum || ("+-.~" : Text).contains c

def isAuthorityChar (c : Char) : Bool :=
  c.isAlphanum || ("!$&'()*+,-.;=_~:@[]" : Text).contains c

def endsAuthority (c : Char) : Bool := c = '/' || c = '?' || c = '#'

/-- A character that may stand in a path. Beside what a path may hold by rule, quotation marks and
braces are let through, and so is everything beyond ASCII. -/
def isPathChar (c : Char) : Bool :=
  let n := c.toNat
  n == 0x21 || n == 0x22 || (0x24 ≤ n && n ≤ 0x3B) || n == 0x3D || (0x40 ≤ n && n ≤ 0x5F) ||
    (0x61 ≤ n && n ≤ 0x7E) || 0x80 ≤ n

def isQueryChar (c : Char) : Bool :=
  let n := c.toNat
  n == 0x21 || (0x24 ≤ n && n ≤ 0x3B) || n == 0x3D || (0x3F ≤ n && n ≤ 0x7E) || 0x80 ≤ n

/-- The scheme of a text that goes on with `://`, and what follows. -/
def splitScheme (t : Text) : Option (Option Text × Text) :=
  let http : Text := "http://"
  let https : Text := "https://"
  if Text.sameLetters (t.take 7) http then some (some "http", t.drop 7)
  else if Text.sameLetters (t.take 8) https then some (some "https", t.drop 8)
  else if Utf8.size t ≤ 3 then some (none, t)
  else
    let name := t.takeWhile isSchemeChar
    match Text.after? "://" (t.dropWhile isSchemeChar) with
    | some rest => if 64 < name.length then none else some (some name, rest)
    | none => some (none, t)

/-- What has been seen of an authority. -/
structure AuthorityScan where
  colons : Nat := 0
  opened : Bool := false
  closed : Bool := false
  percent : Bool := false
  deriving Repr, DecidableEq

/-- The scan after one more character; `none` when the character makes the authority bad. -/
def AuthorityScan.step (s : AuthorityScan) (c : Char) : Option AuthorityScan :=
  if c = ':' then if 8 ≤ s.colons then none else some { s with colons := s.colons + 1 }
  else if c = '[' then if s.percent || s.opened then none else some { s with opened := true }
  else if c = ']' then
    if !s.opened || s.closed then none
    else some { s with closed := true, colons := 0, percent := false }
  else if c = '@' then some { s with colons := 0, percent := false }
  else if c = '%' then some { s with percent := true }
  else if isAuthorityChar c then some s
  else none

/-- The text is a good authority, possibly empty: brackets in pairs, at most one colon and no
percent sign outside of user information and brackets, and something after an `@`. -/
def isAuthority (t : Text) : Bool :=
  match t.foldlM AuthorityScan.step {} with
  | some s => s.opened == s.closed && s.colons ≤ 1 && !s.percent && t.getLast? != some '@'
  | none => false

def splitAuthority (t : Text) : Text × Text :=
  (t.takeWhile (!endsAuthority ·), t.dropWhile (!endsAuthority ·))

def parsePathAndQuery? (t : Text) : Option (Text × Option Text) :=
  let t := Text.upTo '#' t
  match Text.cut? '?' t with
  | some (path, query) =>
    if path.all isPathChar && query.all isQueryChar then some (path, some query) else none
  | none => if t.all isPathChar then some (t, none) else none

def parse? (t : Text) : Option Uri :=
  if t = [] ∨ lengthLimit < Utf8.size t then none
  else if t = ['*'] then some ⟨none, [], t, none⟩
  else if t.head? = some '/' then
    (parsePathAndQuery? t).map fun (path, query) => ⟨none, [], path, query⟩
  else
    match splitScheme t with
    | none => none
    | some (scheme, rest) =>
      let (authority, tail) := splitAuthority rest
      if !isAuthority authority then none
      else
        match scheme with
        | none => if tail = [] then some ⟨none, authority, [], none⟩ else none
        | some scheme =>
          if authority = [] then none
          else
            (parsePathAndQuery? tail).map fun (path, query) =>
              ⟨some scheme, authority, path, query⟩

/-- The target has a path, if only the `/` that an absolute URI always has. -/
def hasPath (u : Uri) : Bool := u.path ≠ [] || u.query.isSome || u.scheme.isSome

/-- The path, with `/` for the empty path of an absolute URI. -/
def shownPath (u : Uri) : Text :=
  if u.path = [] then (if u.hasPath then "/" else []) else u.path

/-- The printed form of a query with its question mark. -/
def showQuery : Option Text → Text
  | none => []
  | some q => '?' :: q

/-- Path and query as written, with `/` when both are empty; absent for a bare authority. -/
def pathAndQuery? (u : Uri) : Option Text :=
  if u.scheme.isSome || u.authority = [] then
    let written := u.path ++ showQuery u.query
    some (if written = [] then "/" else written)
  else none

def print (u : Uri) : Text :=
  (match u.scheme with
    | some s => s ++ ("://" : Text)
    | none => []) ++
  u.authority ++ u.shownPath ++ showQuery u.query

/-- Host and port: the authority after its last `@`. -/
def hostAndPort (authority : Text) : Text :=
  (authority.reverse.takeWhile (· != '@')).reverse

/-- The host of an authority, with the brackets of an IPv6 address. -/
def hostOf (authority : Text) : Text :=
  let t := hostAndPort authority
  match t with
  | '[' :: _ => t.takeWhile (· != ']') ++ [']']
  | _ => Text.upTo ':' t

def host? (u : Uri) : Option Text := if u.authority = [] then none else some (hostOf u.authority)

/-- What follows the last colon of an authority. -/
def portText (authority : Text) : Text := (authority.reverse.takeWhile (· != ':')).reverse

/-- The number after the last colon of an authority, if it is a port number. -/
def portNumber? (authority : Text) : Option Nat :=
  if !authority.contains ':' then none
  else
    let digits := match portText authority with
      | '+' :: ds => ds
      | ds => ds
    match Text.toNat? 10 digits with
    | some n => if n < 65536 then some n else none
    | none => none

def port? (u : Uri) : Option Nat := portNumber? u.authority

/-- Two targets are equal: scheme and authority up to letter case, path and query exactly. -/
def same (u v : Uri) : Bool :=
  u.scheme.map Text.lower == v.scheme.map Text.lower && Text.sameLetters u.authority v.authority &&
    u.shownPath == v.shownPath && u.query == v.query

end Uri

end FilteringProxy.Http
