import FilteringProxy.Text.Basic

/-! # Blank characters

The characters with the property `White_Space`: they separate names in a hosts line and are trimmed
from both ends of a rule. A byte order mark is not among them.
-/

namespace FilteringProxy

/-- The character has the property `White_Space`. -/
def isBlank (c : Char) : Bool :=
  let n := c.toNat
  (9 ≤ n && n ≤ 13) || n == 0x20 || n == 0x85 || n == 0xA0 || n == 0x1680 ||
    (0x2000 ≤ n && n ≤ 0x200A) || n == 0x2028 || n == 0x2029 || n == 0x202F || n == 0x205F ||
    n == 0x3000

namespace Text

/-- The text without blanks at both ends. -/
def trim (t : Text) : Text := trimWith isBlank t

/-- The words of a text: its longest runs of characters that are not blank. -/
def words (t : Text) : List Text := runsWithout isBlank t

end Text

end FilteringProxy
