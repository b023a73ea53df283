import FilteringProxy.Unicode.Category
import FilteringProxy.Unicode.DirectionTable
import FilteringProxy.Unicode.Normal
import FilteringProxy.Url.MappingTable
import FilteringProxy.Url.Punycode

/-! # Host names in ASCII

A host name may be written with letters of any script and in any case. Its ASCII form is made in
four steps: every character is mapped, the text is composed, every label is checked, and labels with
characters beyond ASCII are written as punycode with the mark `xn--`.
-/

namespace FilteringProxy.Url

/-- A word of the mapping table: some code points and what they become. -/
structure Mapping where
  first : Nat
  last : Nat
  /-- Distance between the code points of the word. -/
  step : Nat
  /-- The targets move along with the code points. -/
  moving : Bool
  target : List Nat

namespace Mapping

def ofWord (word : Text) : Mapping :=
  let (source, target) := (Text.cut? ':' word).getD (word, [])
  let target := if target = [] then [] else (Text.splitOn ',' target).map Unicode.hex
  let make (range : Text × Text) (step : Nat) (moving : Bool) : Mapping :=
    { first := Unicode.hex range.1, last := Unicode.hex range.2, step, moving, target }
  match Text.cut? '=' source, Text.cut? '+' source, Text.cut? '/' source with
  | some range, _, _ => make range 1 false
  | _, some range, _ => make range 1 true
  | _, _, some range => make range 2 true
  | _, _, _ => make (source, source) 1 false

/-- The word speaks of the code point. -/
def covers (m : Mapping) (code : Nat) : Bool :=
  m.first ≤ code && code ≤ m.last && (code - m.first) % m.step == 0

end Mapping

def mappings : List Mapping := (Text.words (mappingWords : Text)).map Mapping.ofWord

/-- What a code point becomes in a host name. -/
def mapCode (code : Nat) : List Nat :=
  if code < 0x80 then [if 0x41 ≤ code && code ≤ 0x5A then code + 32 else code]
  else
    match mappings.find? (·.covers code) with
    | some m => if m.moving then m.target.map (· + (code - m.first)) else m.target
    | none => [code]

def mayStay (code : Nat) : Bool :=
  if code < 0x80 then true
  else if code = 0x200C || code = 0x200D then true
  else
    mapCode code == [code] &&
      !Unicode.hasCategory ["Cn", "Co", "Cs", "Cc", "Cf", "Zs", "Zl", "Zp"] code &&
      code != 0xFFFC && code != 0xFFFD && !(0x2FF0 ≤ code && code ≤ 0x2FFB)

/-- Joiners stand after a mark that suppresses a vowel. -/
def joinersFit : Option Nat → List Nat → Bool
  | _, [] => true
  | before, c :: rest =>
    (if c = 0x200C || c = 0x200D then before.any (Unicode.combiningClass · == 9) else true) &&
      joinersFit (some c) rest

/-- A label of characters beyond ASCII is well formed. -/
def isLabel (codes : List Nat) : Bool :=
  codes.all mayStay && Unicode.composed codes == codes && joinersFit none codes &&
    !codes.head?.any (Unicode.hasCategory ["Mn", "Mc", "Me"])

/-! ## Directions -/

def directions : List Unicode.Run :=
  Unicode.layRuns 0 ((Text.words (Unicode.directionRuns : Text)).map fun word =>
    match Text.cut? ':' word with
    | some (code, length) => (code, (Text.toNat? 10 length).getD 0)
    | none => (word, 0))

/-- The direction of a code point is one of `codes`. -/
def hasDirection (codes : List String) (code : Nat) : Bool :=
  codes.any fun c => Unicode.valueAt directions code == (c : Text)

/-- The label holds a character that is written from right to left. -/
def runsLeft (codes : List Nat) : Bool := codes.any (hasDirection ["R", "AL", "AN"])

/-- The directions within a label fit together. -/
def directionsFit (codes : List Nat) : Bool :=
  let core := (codes.reverse.dropWhile (hasDirection ["NSM"])).reverse
  match codes, core.getLast? with
  | first :: _, some last =>
    if hasDirection ["R", "AL"] first then
      codes.all (hasDirection ["R", "AL", "AN", "EN", "ES", "CS", "ET", "ON", "BN", "NSM"]) &&
        hasDirection ["R", "AL", "EN", "AN"] last &&
        !(codes.any (hasDirection ["EN"]) && codes.any (hasDirection ["AN"]))
    else
      hasDirection ["L"] first &&
        codes.all (hasDirection ["L", "EN", "ES", "CS", "ET", "ON", "BN", "NSM"]) &&
        hasDirection ["L", "EN"] last
  | _, _ => true

/-! ## The ASCII form -/

/-- A character that no host name may hold in its ASCII form. -/
def isForbidden (c : Char) : Bool :=
  c.toNat ≤ 0x20 || c.toNat = 0x7F || ("%#/:<>?@[\\]^|" : Text).contains c

/-- The code points that a label stands for, if it is well formed. -/
def labelCodes? (label : List Nat) : Option (List Nat) :=
  let written := label.map Char.ofNat
  match Text.after? "xn--" written with
  | some tail =>
    if label.all (· < 0x80) then
      match Punycode.decode? tail with
      | some codes =>
        if codes.all (· < 0x80) || !isLabel codes then none
        else if Punycode.encode codes == tail then some codes
        else none
      | none => none
    else none
  | none => if label.all (· < 0x80) || isLabel label then some label else none

/-- The ASCII form of a label. -/
def labelText (codes : List Nat) : Text :=
  if codes.all (· < 0x80) then codes.map Char.ofNat
  else ("xn--" : Text) ++ Punycode.encode codes

/-- Code points between single full stops. -/
def splitLabels (codes : List Nat) : List (List Nat) :=
  (Text.splitOn '.' (codes.map Char.ofNat)).map (·.map Char.toNat)

/-- The ASCII form of a host name, if it has one. -/
def hostName? (t : Text) : Option Text :=
  let plain := t.all fun c => c.toNat < 0x80
  let marked := (Text.splitOn '.' t.lower).any (Text.startsWith · "xn--")
  if plain && !marked then
    if t.any isForbidden then none else some t.lower
  else
    let codes := Unicode.composed ((t.map Char.toNat).flatMap mapCode)
    match (splitLabels codes).mapM labelCodes? with
    | none => none
    | some labels =>
      if labels.any runsLeft && !labels.all directionsFit then none
      else
        let name := Text.join ['.'] (labels.map labelText)
        if name.any isForbidden then none else some name

end FilteringProxy.Url
