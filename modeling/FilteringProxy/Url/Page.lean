import FilteringProxy.Url.Address
import FilteringProxy.Url.Form
import FilteringProxy.Url.HostName

/-! # The host of a page

A page names itself by an absolute URL, which browsers read leniently: blanks around it are dropped,
backslashes count as slashes and missing slashes are forgiven for the schemes of the web. Only the
host is wanted here, but a URL that is wrong elsewhere has no host either.
-/

namespace FilteringProxy.Url

/-- How the parts after a scheme are read. -/
inductive SchemeKind where
  /-- The schemes of the web: a host is required. -/
  | web
  /-- Local files: a host is allowed. -/
  | file
  /-- Any other scheme: a host only after two slashes, and taken as it is written. -/
  | other
  deriving Repr, DecidableEq

namespace SchemeKind

def ofScheme (scheme : Text) : SchemeKind :=
  if [("http" : Text), "https", "ws", "wss", "ftp"].contains scheme then web
  else if scheme = ("file" : Text) then file
  else other

/-- The character separates parts as a slash does. -/
def isSlash (k : SchemeKind) (c : Char) : Bool := c = '/' || (k ≠ other && c = '\\')

def endsAuthority (k : SchemeKind) (c : Char) : Bool := k.isSlash c || c = '?' || c = '#'

end SchemeKind

inductive PageHost where
  | none
  | named (host : Text)
  deriving Repr, DecidableEq

/-- The scheme of a URL in lower case, and what follows its colon. -/
def schemeOf? (t : Text) : Option (Text × Text) :=
  match t with
  | c :: _ =>
    if c.isAlpha then
      match t.dropWhile fun c => c.isAlphanum || c = '+' || c = '-' || c = '.' with
      | ':' :: rest =>
        some ((t.takeWhile fun c => c.isAlphanum || c = '+' || c = '-' || c = '.').map Char.toLower,
          rest)
      | _ => Option.none
    else Option.none
  | [] => Option.none

def bracketed? (host : Text) : Option Text :=
  match Text.before? [']'] (host.drop 1) with
  | some inside => (parseIpv6? inside).map fun pieces => ['['] ++ showIpv6 pieces ++ [']']
  | Option.none => Option.none

/-- A host of the web: an address, or a name in its ASCII form. -/
def webHost? (host : Text) : Option Text :=
  if host.head? = some '[' then bracketed? host
  else
    match Utf8.decode? (unescape (Utf8.encode host)) with
    | Option.none => Option.none
    | some decoded =>
      match hostName? decoded with
      | Option.none => Option.none
      | some name =>
        if name = [] then Option.none
        else if endsInNumber name then (parseLooseIpv4? name).map showIpv4
        else some name

/-- A host of another scheme: an address in brackets, or text without separators. -/
def opaqueHost? (host : Text) : Option Text :=
  if host.head? = some '[' then bracketed? host
  else if host.any fun c =>
      c = '\x00' || (" \t\n\r#/:<>?@[\\]^|" : Text).contains c then Option.none
  else
    some (host.flatMap fun c =>
      if c.toNat < 0x20 || 0x7F ≤ c.toNat then
        (Utf8.encode [c]).flatMap fun b =>
          ['%'] ++ (Nat.toDigits 16 (b.toNat / 16) ++ Nat.toDigits 16 (b.toNat % 16)).map
            Char.toUpper
      else [c])

/-- A port: digits up to the end of the authority, below 65536. -/
def isPort (t : Text) : Bool :=
  let digits := t.takeWhile Char.isDigit
  ((Text.toNat? 10 digits).getD 0) < 65536 &&
    match t.dropWhile Char.isDigit with
    | [] => true
    | c :: _ => c = '/' || c = '\\' || c = '?' || c = '#'

/-- Split a text at the colon that ends its host; a colon in brackets does not. -/
def splitPort : Bool → Text → Text × Option Text
  | _, [] => ([], Option.none)
  | inside, c :: r =>
    if c = ':' && !inside then ([], some r)
    else
      let inside := if c = '[' then true else if c = ']' then false else inside
      let (host, port) := splitPort inside r
      (c :: host, port)

def authorityHost? (kind : SchemeKind) (t : Text) : Option PageHost :=
  let authority := t.takeWhile (!kind.endsAuthority ·)
  let tail := t.dropWhile (!kind.endsAuthority ·)
  let hostAndPort := (authority.reverse.takeWhile (· != '@')).reverse
  let user := authority.take (authority.length - hostAndPort.length)
  let (host, port) := splitPort false hostAndPort
  let hasUser := user ≠ [] && user ≠ ['@'] && user ≠ [':', '@']
  if user = ['@'] && hostAndPort = [] && tail ≠ [] then Option.none
  else if host = [] then
    if kind = .web || port.isSome || hasUser then Option.none else some .none
  else
    match (if kind = .web then webHost? host else opaqueHost? host) with
    | Option.none => Option.none
    | some name =>
      match port with
      | some digits => if isPort (digits ++ tail) then some (.named name) else Option.none
      | Option.none => some (.named name)

def isDriveLetter : Text → Bool
  | [c, d] => c.isAlpha && (d = ':' || d = '|')
  | _ => false

/-- The host of a local file: the part after two slashes, unless it is this machine or the path
begins with a drive letter. -/
def fileHost? (t : Text) : Option PageHost :=
  let isEnd (c : Char) : Bool := c = '/' || c = '\\' || c = '?' || c = '#'
  match t with
  | a :: b :: rest =>
    if SchemeKind.file.isSlash a && SchemeKind.file.isSlash b then
      let host := rest.takeWhile (!isEnd ·)
      let path := (rest.dropWhile (!isEnd ·)).drop 1
      if host = [] || isDriveLetter host then some .none
      else
        match webHost? host with
        | Option.none => Option.none
        | some name =>
          if name = ("localhost" : Text) || isDriveLetter (path.takeWhile (!isEnd ·)) then
            some .none
          else some (.named name)
    else some .none
  | _ => some .none

/-- Read a URL and give its host; nothing when the text is no absolute URL. -/
def parsePage? (t : Text) : Option PageHost :=
  let t := Text.trimWith (fun c => c.toNat ≤ 0x20) t
  let t := t.filter fun c => !(c = '\t' || c = '\n' || c = '\r')
  match schemeOf? t with
  | Option.none => Option.none
  | some (scheme, rest) =>
    match SchemeKind.ofScheme scheme with
    | .web => authorityHost? .web (rest.dropWhile SchemeKind.web.isSlash)
    | .file => fileHost? rest
    | .other =>
      match Text.after? "//" rest with
      | some rest => authorityHost? .other rest
      | Option.none => some .none

/-- The host of the page with the given URL, in lower case. -/
def pageHost? (t : Text) : Option Text :=
  match parsePage? t with
  | some (.named host) => some host.lower
  | _ => Option.none

end FilteringProxy.Url
