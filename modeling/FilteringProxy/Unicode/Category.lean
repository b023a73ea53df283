import FilteringProxy.Text.Blank
import FilteringProxy.Unicode.CategoryTable

/-! # General categories

The general category of a character, and the classes that follow from it: decimal digits, numbers
and the characters that are printed as they are.
-/

namespace FilteringProxy.Unicode

structure Run where
  first : Nat
  last : Nat
  value : Text

/-- Lay runs of the given values and lengths one after another, from `start` on. -/
def layRuns (start : Nat) : List (Text × Nat) → List Run
  | [] => []
  | (value, length) :: rest =>
    { first := start, last := start + length - 1, value } :: layRuns (start + length) rest

def valueAt (runs : List Run) (code : Nat) : Text :=
  match runs.find? fun run => run.first ≤ code && code ≤ run.last with
  | some run => run.value
  | none => []

/-- How many separate stretches of a table have values that satisfy `wanted`. -/
def stretches (runs : List Run) (wanted : Text → Bool) : Nat :=
  (runs.foldl (fun (count, inside) run =>
    if wanted run.value then (if inside then count else count + 1, true) else (count, false))
    (0, false)).1

/-- The runs of the category table: two letters and a length in each word. -/
def categories : List Run :=
  layRuns 0 ((Text.words (categoryRuns : Text)).map fun word =>
    (word.take 2, (Text.toNat? 10 (word.drop 2)).getD 0))

/-- The two-letter code of the general category of a code point. -/
def category (code : Nat) : Text := valueAt categories code

/-- The general category of the code point is one of `codes`. -/
def hasCategory (codes : List Text) (code : Nat) : Bool := codes.contains (category code)

/-- A decimal digit of any script. -/
def isDigit (code : Nat) : Bool :=
  if code < 0x80 then 0x30 ≤ code && code ≤ 0x39 else hasCategory ["Nd"] code

/-- A digit, letter number or other number of any script. -/
def isNumber (code : Nat) : Bool :=
  if code < 0x80 then 0x30 ≤ code && code ≤ 0x39 else hasCategory ["Nd", "Nl", "No"] code

/-- A character that quoting shows as it is: neither a control, format or private character, nor
unassigned, nor a space other than U+0020. -/
def isPrintable (code : Nat) : Bool :=
  if code < 0x7F then 0x20 ≤ code
  else !hasCategory ["Cc", "Cf", "Cs", "Co", "Cn", "Zl", "Zp", "Zs"] code

end FilteringProxy.Unicode
