import FilteringProxy.Text.Blank
import FilteringProxy.Unicode.CaseTable

/-! # Letters that differ by case only

Two characters fold together when they have the same simple case folding; a class of such
characters has at most four members. Matching without regard to case asks whether any member of
the class of a character is wanted.
-/

namespace FilteringProxy.Unicode

/-- The classes of two or more code points that fold together. -/
def foldingClasses : List (List Nat) :=
  (Text.words (caseClasses : Text)).map fun word =>
    (Text.splitOn ',' word).map fun digits => (Text.toNat? 16 digits).getD 0

/-- The two cases of an ASCII letter; any other code point is alone. -/
def asciiFoldMates (code : Nat) : List Nat :=
  if 0x41 ≤ code && code ≤ 0x5A then [code, code + 32]
  else if 0x61 ≤ code && code ≤ 0x7A then [code - 32, code]
  else [code]

/-- All code points that fold together with the given one, itself included. The letters K and S are
the only ones of ASCII that have a mate outside of it: the signs for kelvin and for long s. -/
def foldMates (code : Nat) : List Nat :=
  if code < 0x80 then
    asciiFoldMates code ++
      (if code == 0x4B || code == 0x6B then [0x212A]
       else if code == 0x53 || code == 0x73 then [0x17F]
       else [])
  else (foldingClasses.find? (·.contains code)).getD [code]

end FilteringProxy.Unicode
