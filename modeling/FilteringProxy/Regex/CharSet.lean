import FilteringProxy.Unicode.Case
import FilteringProxy.Unicode.Property
import FilteringProxy.Unicode.Script

/-! # Sets of characters

What one position of a regular expression accepts: ranges, properties and their combinations.
Membership is decided when a character is looked at, so no set is ever expanded.
-/

namespace FilteringProxy.Regex

/-- A set of characters that an expression calls by a name. -/
inductive NamedSet where
  | digit
  | blank
  | word
  /-- The characters of the general categories with these codes. -/
  | category (codes : List Text)
  /-- The characters of the script with this name. -/
  | script (name : Text)
  /-- The characters that have a property. -/
  | property (p : Unicode.Property)
  deriving Repr, DecidableEq

/-- Which characters count as the same letter in a match without regard to case. -/
inductive Folding where
  /-- All scripts. -/
  | unicode
  /-- The letters of ASCII only. -/
  | ascii
  deriving Repr, DecidableEq

inductive CharSet where
  | range (first last : Nat)
  | named (n : NamedSet)
  | union (a b : CharSet)
  | inter (a b : CharSet)
  /-- The code points of the first set that are not in the second. -/
  | diff (a b : CharSet)
  /-- The code points in exactly one of the sets. -/
  | symDiff (a b : CharSet)
  /-- The code points outside the set. -/
  | complement (a : CharSet)
  | folded (f : Folding) (a : CharSet)
  deriving Repr, DecidableEq

namespace NamedSet

def contains : NamedSet → Nat → Bool
  | .digit, c => Unicode.isDigit c
  | .blank, c => isBlank (Char.ofNat c)
  | .word, c => Unicode.isWord c
  | .category codes, c => Unicode.hasCategory codes c
  | .script name, c => Unicode.script c == name
  | .property p, c => p.holds c

end NamedSet

namespace Folding

/-- The code points that count as the same letter as the given one. -/
def mates : Folding → Nat → List Nat
  | .unicode, c => Unicode.foldMates c
  | .ascii, c => Unicode.asciiFoldMates c

end Folding

namespace CharSet

def single (code : Nat) : CharSet := range code code

def none : CharSet := range 1 0

def all : CharSet := range 0 0x10FFFF

def unions (sets : List CharSet) : CharSet := sets.foldr union none

def contains : CharSet → Nat → Bool
  | range first last, c => first ≤ c && c ≤ last
  | named n, c => n.contains c
  | union a b, c => a.contains c || b.contains c
  | inter a b, c => a.contains c && b.contains c
  | diff a b, c => a.contains c && !b.contains c
  | symDiff a b, c => a.contains c != b.contains c
  | complement a, c => !a.contains c
  | folded f a, c => (f.mates c).any a.contains

/-- Among the code points of one byte the set has ASCII members only. -/
def isAscii (s : CharSet) : Bool :=
  (List.range 0x80).all fun i => !s.contains (0x80 + i)

end CharSet

end FilteringProxy.Regex
