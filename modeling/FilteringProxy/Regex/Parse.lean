import FilteringProxy.Regex.Basic

/-! # Reading regular expressions

The written form of an expression: literals, escapes, bracketed sets with their set operations,
groups, flags and repetitions. Expressions that look around or refer back are refused, and so is
every escape of a letter that has no meaning. A reader takes the rest of the text and gives back
what it read and what is left; `none` means that the text is no expression.
-/

namespace FilteringProxy.Regex

structure Flags where
  /-- Letters match in either case. -/
  fold : Bool := false
  /-- The signs `^` and `$` also match at line breaks. -/
  multiLine : Bool := false
  /-- The dot also matches line breaks. -/
  dotAll : Bool := false
  /-- Sets and literals speak of characters, not of bytes. -/
  unicode : Bool := true
  /-- A carriage return ends a line. -/
  crlf : Bool := false
  /-- Blanks and comments in the expression mean nothing. -/
  spaced : Bool := false
  deriving Repr, DecidableEq

inductive Atom where
  /-- A character; `byte` when it was written as two hexadecimal digits. -/
  | literal (c : Char) (byte : Bool)
  | named (s : CharSet)
  | look (l : Look)

namespace Flags

def dropComment : Text → Text
  | [] => []
  | c :: r => if c = '\n' then r else dropComment r

/-- Skip blanks and comments, as many as `n`, when they mean nothing. -/
def skipUpTo (f : Flags) : Nat → Text → Text
  | 0, t => t
  | _, [] => []
  | n + 1, c :: r =>
    if !f.spaced then c :: r
    else if isBlank c then skipUpTo f n r
    else if c = '#' then skipUpTo f n (dropComment r)
    else c :: r

/-- Skip blanks and comments when they mean nothing. -/
def skip (f : Flags) (t : Text) : Text := skipUpTo f (t.length + 1) t

def foldSet (f : Flags) (s : CharSet) : CharSet :=
  if f.fold then .folded (if f.unicode then .unicode else .ascii) s else s

/-- A set of bytes may hold ASCII members only: others would match half a character. -/
def checkSet (f : Flags) (s : CharSet) : Option CharSet :=
  if f.unicode || s.isAscii then some s else none

def wordSet (f : Flags) : CharSet :=
  if f.unicode then .named .word
  else .unions [.range 0x30 0x39, .range 0x41 0x5A, .single 0x5F, .range 0x61 0x7A]

def digitSet (f : Flags) : CharSet :=
  if f.unicode then .named .digit else .range 0x30 0x39

def blankSet (f : Flags) : CharSet :=
  if f.unicode then .named .blank else .unions [.range 9 13, .single 0x20]

/-- The expression for one character. A byte that is no character by itself has none. -/
def literal (f : Flags) (c : Char) (byte : Bool) : Option Regex :=
  if f.unicode || !byte || c.toNat < 0x80 then some (.set (f.foldSet (.single c.toNat)))
  else none

def dot (f : Flags) : Option Regex :=
  if !f.unicode then none
  else if f.dotAll then some (.set .all)
  else if f.crlf then some (.set (.complement (.unions [.single 0x0A, .single 0x0D])))
  else some (.set (.complement (.single 0x0A)))

def caret (f : Flags) : Look := if f.multiLine then .lineStart f.crlf else .start

def dollar (f : Flags) : Look := if f.multiLine then .lineEnd f.crlf else .finish

end Flags

def isMeta (c : Char) : Bool := ("\\.+*?()|[]\x7b\x7d^$#&-~" : Text).contains c

/-- A backslash may stand before any ASCII character that is no letter, digit or angle bracket. -/
def isEscapable (c : Char) : Bool :=
  isMeta c || (c.toNat < 0x80 && !c.isAlphanum && c != '<' && c != '>')

/-- The character with a code, if there is one. -/
def charOf? (code : Nat) : Option Char :=
  if h : code.isValidChar then some (Char.ofNatAux code h) else none

def readHexDigits (f : Flags) : Nat → Nat → Text → Option (Nat × Text)
  | 0, value, t => some (value, t)
  | n + 1, value, t =>
    match f.skip t with
    | [] => none
    | c :: r => do
      let d ← Text.digit? 16 c
      readHexDigits f n (value * 16 + d) r

def readHexBraced (f : Flags) : Nat → Option Nat → Text → Option (Nat × Text)
  | 0, _, _ => none
  | n + 1, value, t =>
    match f.skip t with
    | [] => none
    | '\x7d' :: r => value.map fun v => (v, f.skip r)
    | c :: r => do
      let d ← Text.digit? 16 c
      readHexBraced f n (some (value.getD 0 * 16 + d)) r

def readHex (f : Flags) (digits : Nat) (t : Text) : Option (Atom × Text) :=
  match f.skip t with
  | '\x7b' :: r => do
    let (code, rest) ← readHexBraced f (r.length + 1) none r
    let c ← charOf? code
    return (.literal c false, rest)
  | t => do
    let (code, rest) ← readHexDigits f digits 0 t
    let c ← charOf? code
    return (.literal c (digits == 2), f.skip rest)

def readName (f : Flags) : Nat → Text → Option (Text × Text)
  | 0, _ => none
  | n + 1, t =>
    match f.skip t with
    | [] => none
    | '\x7d' :: r => some ([], r)
    | c :: r => (readName f n r).map fun (name, rest) => (c :: name, rest)

/-- Names of properties compare without case, blanks, hyphens, underscores and a leading `is`, and
characters outside of ASCII count for nothing. The name of `ISO_Comment` is left as it is: without
its first two letters it would mean something else. -/
def plainName (t : Text) : Text :=
  let letters (t : Text) : Text :=
    Text.lower (t.filter fun c => c.toNat < 0x80 && !(c == ' ' || c == '_' || c == '-'))
  match t with
  | i :: s :: rest =>
    if i.toLower = 'i' && s.toLower = 's' then
      if letters rest = ['c'] then ['i', 's', 'c'] else letters rest
    else letters t
  | t => letters t

/-- The general categories by their plain names. No text holds a surrogate, so their category has no
name here. -/
def categoryNames : List (String × List String) :=
  [("lu", ["Lu"]), ("uppercaseletter", ["Lu"]), ("ll", ["Ll"]), ("lowercaseletter", ["Ll"]),
    ("lt", ["Lt"]), ("titlecaseletter", ["Lt"]), ("lc", ["Lu", "Ll", "Lt"]),
    ("casedletter", ["Lu", "Ll", "Lt"]), ("lm", ["Lm"]), ("modifierletter", ["Lm"]),
    ("lo", ["Lo"]), ("otherletter", ["Lo"]), ("l", ["Lu", "Ll", "Lt", "Lm", "Lo"]),
    ("letter", ["Lu", "Ll", "Lt", "Lm", "Lo"]), ("mn", ["Mn"]), ("nonspacingmark", ["Mn"]),
    ("mc", ["Mc"]), ("spacingmark", ["Mc"]), ("me", ["Me"]), ("enclosingmark", ["Me"]),
    ("m", ["Mn", "Mc", "Me"]), ("mark", ["Mn", "Mc", "Me"]), ("combiningmark", ["Mn", "Mc", "Me"]),
    ("nd", ["Nd"]), ("decimalnumber", ["Nd"]), ("digit", ["Nd"]), ("nl", ["Nl"]),
    ("letternumber", ["Nl"]), ("no", ["No"]), ("othernumber", ["No"]), ("n", ["Nd", "Nl", "No"]),
    ("number", ["Nd", "Nl", "No"]), ("pc", ["Pc"]), ("connectorpunctuation", ["Pc"]),
    ("pd", ["Pd"]), ("dashpunctuation", ["Pd"]), ("ps", ["Ps"]), ("openpunctuation", ["Ps"]),
    ("pe", ["Pe"]), ("closepunctuation", ["Pe"]), ("pi", ["Pi"]), ("initialpunctuation", ["Pi"]),
    ("pf", ["Pf"]), ("finalpunctuation", ["Pf"]), ("po", ["Po"]), ("otherpunctuation", ["Po"]),
    ("p", ["Pc", "Pd", "Ps", "Pe", "Pi", "Pf", "Po"]),
    ("punctuation", ["Pc", "Pd", "Ps", "Pe", "Pi", "Pf", "Po"]),
    ("punct", ["Pc", "Pd", "Ps", "Pe", "Pi", "Pf", "Po"]), ("sm", ["Sm"]), ("mathsymbol", ["Sm"]),
    ("sc", ["Sc"]), ("currencysymbol", ["Sc"]), ("sk", ["Sk"]), ("modifiersymbol", ["Sk"]),
    ("so", ["So"]), ("othersymbol", ["So"]), ("s", ["Sm", "Sc", "Sk", "So"]),
    ("symbol", ["Sm", "Sc", "Sk", "So"]), ("zs", ["Zs"]), ("spaceseparator", ["Zs"]),
    ("zl", ["Zl"]), ("lineseparator", ["Zl"]), ("zp", ["Zp"]), ("paragraphseparator", ["Zp"]),
    ("z", ["Zs", "Zl", "Zp"]), ("separator", ["Zs", "Zl", "Zp"]), ("cc", ["Cc"]),
    ("control", ["Cc"]), ("cntrl", ["Cc"]), ("cf", ["Cf"]), ("format", ["Cf"]),
    ("co", ["Co"]), ("privateuse", ["Co"]), ("cn", ["Cn"]), ("unassigned", ["Cn"]),
    ("c", ["Cc", "Cf", "Co", "Cn"]), ("other", ["Cc", "Cf", "Co", "Cn"])]

def categorySet? (name : Text) : Option CharSet :=
  if name = ("any" : Text) then some .all
  else if name = ("ascii" : Text) then some (.range 0 0x7F)
  else if name = ("assigned" : Text) then some (.complement (.named (.category ["Cn"])))
  else
    (categoryNames.find? fun entry => (entry.1 : Text) == name).map fun entry =>
      .named (.category (entry.2.map String.toList))

def scriptSet? (name : Text) : Option CharSet :=
  let code := (Unicode.scriptCodes.find? (plainName ·.2 == name)).map (·.1)
  (code <|> Unicode.scriptNames.find? (plainName · == name)).map fun s => .named (.script s)

def propertySet? (name : Text) : Option CharSet :=
  (Unicode.properties.find? (·.names.any (plainName · == name))).map fun p =>
    .named (.property p)

def nameSet? (name : Text) : Option CharSet :=
  propertySet? name <|> categorySet? name <|> scriptSet? name

def valueSet? (property value : Text) : Option CharSet :=
  let plain := plainName property
  if plain = ("gc" : Text) || plain = ("generalcategory" : Text) then
    categorySet? (plainName value)
  else if plain = ("sc" : Text) || plain = ("script" : Text) || plain = ("scx" : Text) ||
      plain = ("scriptextensions" : Text) then
    scriptSet? (plainName value)
  else none

def cutAt? (sign : Text) : Text → Option (Text × Text)
  | [] => none
  | c :: r =>
    match Text.after? sign (c :: r) with
    | some rest => some ([], rest)
    | none => (cutAt? sign r).map fun (front, rest) => (c :: front, rest)

/-- The set that stands between braces: a name, or a property and its value with a sign between
them. Every one of the signs is read as an equals sign. -/
def unicodeSet? (written : Text) : Option CharSet :=
  match cutAt? "!=" written <|> cutAt? ":" written <|> cutAt? "=" written with
  | some (property, value) => valueSet? property value
  | none => nameSet? (plainName written)

def readUnicodeSet (f : Flags) (negated : Bool) (t : Text) : Option (Atom × Text) :=
  let finish (name rest : Text) : Option (Atom × Text) := do
    let s ← if f.unicode then unicodeSet? name else none
    let s := f.foldSet s
    return (.named (if negated then .complement s else s), rest)
  match f.skip t with
  | [] => none
  | '\x7b' :: r => do
    let (name, rest) ← readName f (r.length + 1) r
    finish name rest
  | '\\' :: _ => none
  | c :: r => finish [c] (f.skip r)

def readBoundaryWord (f : Flags) : Nat → Text → Option (Text × Text)
  | 0, _ => none
  | n + 1, t =>
    match t with
    | [] => none
    | '\x7d' :: r => some ([], r)
    | c :: r =>
      if c.isAlpha || c = '-' then
        (readBoundaryWord f n (f.skip r)).map fun (word, rest) => (c :: word, rest)
      else none

def readBoundary (f : Flags) (t : Text) : Option (Atom × Text) :=
  let plain : Option (Atom × Text) := some (.look (.wordBoundary f.wordSet), t)
  match t with
  | '\x7b' :: r =>
    match f.skip r with
    | [] => none
    | c :: r' =>
      if c.isAlpha || c = '-' then do
        let (word, rest) ← readBoundaryWord f (r'.length + 2) (c :: r')
        let look ←
          if word = ("start" : Text) then some (Look.wordStart f.wordSet)
          else if word = ("end" : Text) then some (Look.wordEnd f.wordSet)
          else if word = ("start-half" : Text) then some (Look.wordStartHalf f.wordSet)
          else if word = ("end-half" : Text) then some (Look.wordEndHalf f.wordSet)
          else none
        return (.look look, rest)
      else plain
  | _ => plain

def readEscape (f : Flags) : Text → Option (Atom × Text)
  | [] => none
  | c :: r =>
    let one (code : Nat) : Option (Atom × Text) := some (.literal (Char.ofNat code) false, r)
    let set (s : CharSet) : Option (Atom × Text) := some (.named s, r)
    let without (s : CharSet) : Option (Atom × Text) :=
      (f.checkSet (.complement s)).map fun s => (.named s, r)
    match c with
    | 'x' => readHex f 2 r
    | 'u' => readHex f 4 r
    | 'U' => readHex f 8 r
    | 'p' => readUnicodeSet f false r
    | 'P' => readUnicodeSet f true r
    | 'd' => set f.digitSet
    | 'D' => without f.digitSet
    | 's' => set f.blankSet
    | 'S' => without f.blankSet
    | 'w' => set f.wordSet
    | 'W' => without f.wordSet
    | 'a' => one 0x07
    | 'f' => one 0x0C
    | 't' => one 0x09
    | 'n' => one 0x0A
    | 'r' => one 0x0D
    | 'v' => one 0x0B
    | 'A' => some (.look .start, r)
    | 'z' => some (.look .finish, r)
    | 'b' => readBoundary f r
    | 'B' => some (.look (.notWordBoundary f.wordSet), r)
    | '<' => some (.look (.wordStart f.wordSet), r)
    | '>' => some (.look (.wordEnd f.wordSet), r)
    | c => if isEscapable c then some (.literal c false, r) else none

/-! ## Bracketed sets -/

def asciiSet? (name : Text) : Option CharSet :=
  let upper := CharSet.range 0x41 0x5A
  let lower := CharSet.range 0x61 0x7A
  let digit := CharSet.range 0x30 0x39
  ([("alnum", CharSet.unions [digit, upper, lower]), ("alpha", .unions [upper, lower]),
    ("ascii", .range 0 0x7F), ("blank", .unions [.single 9, .single 0x20]),
    ("cntrl", .unions [.range 0 0x1F, .single 0x7F]), ("digit", digit),
    ("graph", .range 0x21 0x7E), ("lower", lower), ("print", .range 0x20 0x7E),
    ("punct", .unions [.range 0x21 0x2F, .range 0x3A 0x40, .range 0x5B 0x60, .range 0x7B 0x7E]),
    ("space", .unions [.range 9 13, .single 0x20]), ("upper", upper),
    ("word", .unions [digit, upper, .single 0x5F, lower]),
    ("xdigit", .unions [digit, .range 0x41 0x46, .range 0x61 0x66])].find?
      fun entry => (entry.1 : Text) == name).map (·.2)

/-- A named ASCII set after an opening bracket; anything else is no such set. -/
def readAsciiSet (f : Flags) (t : Text) : Option (CharSet × Text) :=
  match t with
  | ':' :: r =>
    let (negated, r) := match r with
      | '^' :: r => (true, r)
      | r => (false, r)
    let name := r.takeWhile (· != ':')
    match r.dropWhile (· != ':') with
    | ':' :: ']' :: rest => do
      let s ← asciiSet? name
      let s ← f.checkSet (if negated then .complement s else s)
      return (s, rest)
    | _ => none
  | _ => none

def readMember (f : Flags) : Text → Option (Atom × Text)
  | [] => none
  | '\\' :: r => readEscape f r
  | c :: r => some (.literal c false, r)

/-- The code of a literal in a bracketed set. -/
def memberCode (f : Flags) (c : Char) (byte : Bool) : Option Nat :=
  if f.unicode || byte || c.toNat < 0x80 then some c.toNat else none

def memberSet (f : Flags) : Atom → Option CharSet
  | .literal c byte => (memberCode f c byte).map .single
  | .named s => some s
  | .look _ => none

def readRange (f : Flags) (t : Text) : Option (CharSet × Text) := do
  let (first, rest) ← readMember f t
  let rest := f.skip rest
  let alone : Option (CharSet × Text) := (memberSet f first).map fun s => (s, rest)
  match rest with
  | [] => none
  | '-' :: r =>
    match f.skip r with
    | [] => none
    | ']' :: _ => alone
    | '-' :: _ => alone
    | r => do
      let (last, rest) ← readMember f r
      match first, last with
      | .literal a aByte, .literal b bByte =>
        let a ← memberCode f a aByte
        let b ← memberCode f b bByte
        if a ≤ b then some (.range a b, rest) else none
      | _, _ => none
  | _ => alone

inductive SetOperation where
  | inter
  | diff
  | symDiff

def SetOperation.apply : SetOperation → CharSet → CharSet → CharSet
  | inter => .inter
  | diff => .diff
  | symDiff => .symDiff

/-- The part of a bracketed set that is being read: the members so far, and what stands before the
last operation. -/
structure SetPart where
  members : CharSet := .none
  /-- The left side of the pending operation. -/
  pending : Option (SetOperation × CharSet) := none
  /-- How deep the members nest. -/
  depth : Nat := 0

namespace SetPart

def add (p : SetPart) (s : CharSet) (depth : Nat) : SetPart :=
  { p with members := .union p.members s, depth := max p.depth depth }

def value (f : Flags) (p : SetPart) : CharSet :=
  match p.pending with
  | none => p.members
  | some (op, left) => op.apply (f.foldSet left) (f.foldSet p.members)

def operate (f : Flags) (p : SetPart) (op : SetOperation) : SetPart :=
  { members := .none, pending := some (op, p.value f), depth := p.depth + 1 }

end SetPart

/-- What stands at the opening of a bracketed set: a negation sign, hyphens, a closing bracket that
comes first. -/
def readOpening (f : Flags) (t : Text) : Option ((Bool × SetPart) × Text) :=
  let (negated, t) := match f.skip t with
    | '^' :: r => (true, f.skip r)
    | t => (false, t)
  let rec hyphens : Nat → SetPart → Text → Bool × SetPart × Text
    | 0, p, t => (false, p, t)
    | n + 1, p, '-' :: r =>
      let (_, p, t) := hyphens n (p.add (.single 0x2D) 0) (f.skip r)
      (true, p, t)
    | _, p, t => (false, p, t)
  match hyphens (t.length + 1) {} t with
  | (_, _, []) => none
  | (false, p, ']' :: r) =>
    match f.skip r with
    | [] => none
    | r => some ((negated, p.add (.single 0x5D) 0), r)
  | (_, p, t) => some ((negated, p), t)

/-- An open bracketed set: whether it is negated, and its part so far. -/
abbrev OpenSet := Bool × SetPart

/-- The rest of a bracketed set; `outer` are the sets around the innermost open one. -/
def readSet (f : Flags) : Nat → List OpenSet → OpenSet → Text → Option ((CharSet × Nat) × Text)
  | 0, _, _, _ => none
  | n + 1, outer, (negated, part), t =>
    match f.skip t with
    | [] => none
    | '[' :: r =>
      match readAsciiSet f r with
      | some (s, rest) => readSet f n outer (negated, part.add s 0) rest
      | none => do
        let (opened, rest) ← readOpening f r
        readSet f n ((negated, part) :: outer) opened rest
    | ']' :: r => do
      let s := f.foldSet (part.value f)
      let s ← f.checkSet (if negated then .complement s else s)
      let depth := part.depth + 1
      match outer with
      | [] => some ((s, depth), r)
      | (negated, part) :: outer => readSet f n outer (negated, part.add s depth) r
    | '&' :: '&' :: r => readSet f n outer (negated, part.operate f .inter) r
    | '-' :: '-' :: r => readSet f n outer (negated, part.operate f .diff) r
    | '~' :: '~' :: r => readSet f n outer (negated, part.operate f .symDiff) r
    | t => do
      let (s, rest) ← readRange f t
      readSet f n outer (negated, part.add s 0) rest

def readBracketed (f : Flags) (t : Text) : Option ((CharSet × Nat) × Text) := do
  let (opened, rest) ← readOpening f t
  readSet f (rest.length + 1) [] opened rest

/-! ## Repetitions -/

/-- Decimal digits with blanks around them; numbers of more than 32 bits are refused. -/
def readCount (f : Flags) (t : Text) : Option (Option Nat × Text) :=
  let rec digits : Nat → Option Nat → Text → Option Nat × Text
    | 0, value, t => (value, t)
    | n + 1, value, c :: r =>
      if c.isDigit then digits n (some (value.getD 0 * 10 + (c.toNat - 0x30))) (f.skip r)
      else (value, c :: r)
    | _, value, [] => (value, [])
  let t := t.dropWhile isBlank
  let (value, rest) := digits (t.length + 1) none t
  if value.all (· < 0x100000000) then some (value, f.skip (rest.dropWhile isBlank)) else none

/-- The bounds of a repetition, after the opening brace. -/
def readBounds (f : Flags) (t : Text) : Option ((Nat × Option Nat) × Text) := do
  let (least, rest) ← readCount f (f.skip t)
  match rest with
  | '\x7d' :: r => least.map fun n => ((n, some n), f.skip r)
  | ',' :: r =>
    match f.skip r with
    | '\x7d' :: r => least.map fun n => ((n, none), f.skip r)
    | r => do
      let (most, rest) ← readCount f r
      match rest with
      | '\x7d' :: r => do
        let least ← least
        let most ← most
        if least ≤ most then some ((least, some most), f.skip r) else none
      | _ => none
  | _ => none

/-- A question mark after a repetition changes which match is preferred, not whether there is
one. -/
def skipLazy : Text → Text
  | '?' :: r => r
  | t => t

/-! ## Groups and flags -/

/-- The flags between a question mark and the end of the group opening. -/
def readFlags : Nat → List Char → Bool → Flags → Text → Option ((Flags × Bool × Char) × Text)
  | 0, _, _, _, _ => none
  | _, _, _, _, [] => none
  | n + 1, seen, negated, f, c :: r =>
    if c = ':' || c = ')' then
      if seen.head? = some '-' then none else some ((f, seen.isEmpty, c), r)
    else if seen.contains c then none
    else
      let on := !negated
      let next (negated : Bool) (f : Flags) := readFlags n (c :: seen) negated f r
      match c with
      | '-' => next true f
      | 'i' => next negated { f with fold := on }
      | 'm' => next negated { f with multiLine := on }
      | 's' => next negated { f with dotAll := on }
      | 'U' => next negated f
      | 'u' => next negated { f with unicode := on }
      | 'R' => next negated { f with crlf := on }
      | 'x' => next negated { f with spaced := on }
      | _ => none

def readGroupName (t : Text) : Option (Text × Text) :=
  let name := t.takeWhile (· != '>')
  let inner (c : Char) : Bool :=
    c = '_' || c = '.' || c = '[' || c = ']' || Unicode.isAlphabetic c.toNat ||
      Unicode.isNumber c.toNat
  match name, t.dropWhile (· != '>') with
  | c :: cs, '>' :: rest =>
    if (c = '_' || Unicode.isAlphabetic c.toNat) && cs.all inner then some (name, rest) else none
  | _, _ => none

/-- A finished piece of a sequence: flags alone are no piece that could be repeated. -/
inductive Piece where
  | flags
  | expression (r : Regex) (depth : Nat)

/-- The branches and the current sequence of an open group, with the flags to go back to. -/
structure Level where
  /-- The finished branches, the last one first. -/
  branches : List (Regex × Nat) := []
  /-- The pieces of the current branch, the last one first. -/
  pieces : List Piece := []
  /-- The flags in force before the group. -/
  outer : Flags := {}

/-- One expression from the pieces of a branch. -/
def sequence (pieces : List Piece) : Regex × Nat :=
  let parts := pieces.reverse.map fun
    | .flags => (empty, 0)
    | .expression r d => (r, d)
  match parts with
  | [] => (empty, 0)
  | [part] => part
  | part :: parts =>
    parts.foldl (fun (r, d) (r', d') => (cat r r', max d (d' + 1))) (part.1, part.2 + 1)

namespace Level

def push (l : Level) (p : Piece) : Level := { l with pieces := p :: l.pieces }

def branch (l : Level) : Level :=
  { l with branches := sequence l.pieces :: l.branches, pieces := [] }

def close (l : Level) : Regex × Nat :=
  let last := sequence l.pieces
  match l.branches with
  | [] => last
  | bs => bs.foldl (fun (r, d) (r', d') => (alt r' r, max d (d' + 1))) (last.1, last.2 + 1)

/-- The level with its last piece repeated. -/
def repeatLast (l : Level) (least : Nat) (most : Option Nat) : Option Level :=
  match l.pieces with
  | .expression r d :: pieces =>
    some { l with pieces := .expression (repeated r least most) (d + 1) :: pieces }
  | _ => none

end Level

/-- The whole expression: `n` bounds the steps, each of which reads a character. -/
def readAll : Nat → List Text → Flags → List Level → Level → Text → Option (Regex × Nat)
  | 0, _, _, _, _, _ => none
  | n + 1, names, f, outer, level, t =>
    match f.skip t with
    | [] =>
      match outer with
      | [] => some level.close
      | _ => none
    | '(' :: r =>
      match f.skip r with
      | '?' :: r =>
        let named (r : Text) : Option (Regex × Nat) := do
          let (name, rest) ← readGroupName r
          if names.contains name then none
          else readAll n (name :: names) f (level :: outer) { outer := f } rest
        match r with
        | 'P' :: '<' :: r => named r
        | '<' :: r => named r
        | r => do
          let ((inner, noFlags, closing), rest) ← readFlags (r.length + 1) [] false f r
          if closing = ')' then
            if noFlags then none
            else readAll n names inner outer (level.push .flags) rest
          else readAll n names inner (level :: outer) { outer := f } rest
      | r => readAll n names f (level :: outer) { outer := f } r
    | ')' :: r =>
      match outer with
      | [] => none
      | enclosing :: outer =>
        let (inner, depth) := level.close
        readAll n names level.outer outer (enclosing.push (.expression inner (depth + 1))) r
    | '|' :: r => readAll n names f outer level.branch r
    | '[' :: r => do
      let ((s, depth), rest) ← readBracketed f r
      readAll n names f outer (level.push (.expression (set s) depth)) rest
    | '?' :: r => do readAll n names f outer (← level.repeatLast 0 (some 1)) (skipLazy r)
    | '*' :: r => do readAll n names f outer (← level.repeatLast 0 none) (skipLazy r)
    | '+' :: r => do readAll n names f outer (← level.repeatLast 1 none) (skipLazy r)
    | '\x7b' :: r => do
      let ((least, most), rest) ← readBounds f r
      readAll n names f outer (← level.repeatLast least most) (skipLazy rest)
    | '.' :: r => do readAll n names f outer (level.push (.expression (← f.dot) 0)) r
    | '^' :: r => readAll n names f outer (level.push (.expression (look f.caret) 0)) r
    | '$' :: r => readAll n names f outer (level.push (.expression (look f.dollar) 0)) r
    | '\\' :: r => do
      let (atom, rest) ← readEscape f r
      let piece ← match atom with
        | .literal c byte => f.literal c byte
        | .named s => some (set (f.foldSet s))
        | .look l => some (look l)
      readAll n names f outer (level.push (.expression piece 0)) rest
    | c :: r => do readAll n names f outer (level.push (.expression (← f.literal c false) 0)) r

/-! ## Limits -/

/-- How deep groups, repetitions, sets and sequences may nest. -/
def depthLimit : Nat := 250

/-- How many separate ranges a set with a name has, or nearly so. -/
def NamedSet.ranges : NamedSet → Nat
  | .digit => 71
  | .blank => 10
  | .word => 780
  | .category codes => Unicode.stretches Unicode.categories codes.contains
  | .script name => Unicode.stretches Unicode.scripts (· == name)
  | .property p =>
    Unicode.stretches Unicode.categories p.categories.contains + p.additions.length +
      p.exceptions.length

/-- The room that a set takes once it is compiled, in bytes: a range of ASCII takes eight, a range
of longer characters as much as the steps from byte to byte that lead through it. -/
def CharSet.weight : CharSet → Nat
  | .range first last => if last < 0x80 then 8 else if first = last then 72 else 136
  | .named n => 64 * n.ranges
  | .union a b => a.weight + b.weight
  | .inter a b => max a.weight b.weight
  | .diff a b => max a.weight b.weight
  | .symDiff a b => a.weight + b.weight
  | .complement a => a.weight + 900
  | .folded .ascii a => 2 * a.weight
  | .folded .unicode a => 2 * a.weight + (if a.contains 0x4B || a.contains 0x53 then 140 else 0)

/-- The room that an expression takes once it is compiled, in bytes. A repetition is written out as
often as it asks for. -/
def weight : Regex → Nat
  | empty => 32
  | set (.range first last) =>
    if first = last then 32 * (Char.ofNat first).utf8Size
    else 64 + (CharSet.range first last).weight
  | set s => 64 + s.weight
  | look _ => 32
  | cat a b => a.weight + b.weight
  | alt a b => a.weight + b.weight + 8
  | repeated a least none => a.weight * max 1 least + 40
  | repeated a least (some most) => a.weight * least + (a.weight + 40) * (most - least) + 32

/-- The room that an expression may take. -/
def weightLimit : Nat := 10 * 0x100000

def parse? (t : Text) : Option Regex :=
  match readAll (2 * t.length + 2) [] {} [] {} t with
  | some (r, depth) => if depth ≤ depthLimit && r.weight ≤ weightLimit then some r else none
  | none => none

end FilteringProxy.Regex
