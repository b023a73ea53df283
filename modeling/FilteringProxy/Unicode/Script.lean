import FilteringProxy.Unicode.Category
import FilteringProxy.Unicode.ScriptTable

/-! # Scripts

The script that a character is written in.
-/

namespace FilteringProxy.Unicode

/-- The runs of the script table: a name, a colon and a length in each word. -/
def scripts : List Run :=
  layRuns 0 ((Text.words (scriptRuns : Text)).map fun word =>
    match Text.cut? ':' word with
    | some (name, length) => (name, (Text.toNat? 10 length).getD 0)
    | none => (word, 0))

def script (code : Nat) : Text := valueAt scripts code

/-- The names of all scripts in the table, but for the one that means that there is none. -/
def scriptNames : List Text :=
  ((scripts.map (·.value)).eraseDups).filter (· != ("Unknown" : Text))

def scriptCodes : List (Text × Text) :=
  (Text.words (scriptCodeWords : Text)).filterMap (Text.cut? ':')

end FilteringProxy.Unicode
