import FilteringProxy.Unicode.Category
import FilteringProxy.Unicode.PropertyTable

/-! # Named properties of characters

The properties that a character has or lacks, read from the property table: most follow from the
general category, up to a few additions and exceptions.
-/

namespace FilteringProxy.Unicode

/-- A property that a character has or lacks. -/
structure Property where
  /-- The names of the property. -/
  names : List Text
  /-- The general categories whose characters have the property. -/
  categories : List Text
  /-- First and last code points of the ranges that have the property whatever their category. -/
  additions : List (Nat × Nat)
  /-- First and last code points of the ranges that lack the property whatever their category. -/
  exceptions : List (Nat × Nat)
  deriving Repr, DecidableEq

/-- Two hexadecimal numbers with a hyphen between them, or one for a range of one code point. -/
def rangeOfWord (word : Text) : Nat × Nat :=
  let number (digits : Text) : Nat := (Text.toNat? 16 digits).getD 0
  match Text.cut? '-' word with
  | some (first, last) => (number first, number last)
  | none => (number word, number word)

def inRanges (ranges : List (Nat × Nat)) (code : Nat) : Bool :=
  ranges.any fun (first, last) => first ≤ code && code ≤ last

def properties : List Property :=
  propertyRows.map fun (names, categories, additions, exceptions) =>
    { names := Text.words (names : Text)
      categories := Text.words (categories : Text)
      additions := (Text.words (additions : Text)).map rangeOfWord
      exceptions := (Text.words (exceptions : Text)).map rangeOfWord }

namespace Property

def holds (p : Property) (code : Nat) : Bool :=
  inRanges p.additions code || (hasCategory p.categories code && !inRanges p.exceptions code)

end Property

def hasProperty (name : Text) (code : Nat) : Bool :=
  match properties.find? (·.names.contains name) with
  | some p => p.holds code
  | none => false

/-- A letter of any script, or a mark or number that counts as one. -/
def isAlphabetic (code : Nat) : Bool :=
  if code < 0x80 then (0x41 ≤ code && code ≤ 0x5A) || (0x61 ≤ code && code ≤ 0x7A)
  else hasProperty "Alphabetic" code

/-- A letter, a mark, a digit, a connector such as `_`, or a joiner. -/
def isWord (code : Nat) : Bool :=
  if code < 0x80 then
    (0x30 ≤ code && code ≤ 0x39) || (0x41 ≤ code && code ≤ 0x5A) || code == 0x5F ||
      (0x61 ≤ code && code ≤ 0x7A)
  else
    hasCategory ["Mn", "Mc", "Me", "Nd", "Pc"] code || hasProperty "Alphabetic" code ||
      hasProperty "Join_Control" code

/-- The character extends the one before it, as a combining accent does. -/
def isExtender (code : Nat) : Bool :=
  if code < 0x300 then false else hasProperty "Grapheme_Extend" code

end FilteringProxy.Unicode
