import FilteringProxy.Unicode.Property

/-! # Quoted text

A text between double quotes, with every character that would not be seen as itself escaped: quotes
and backslashes by a backslash, a few controls by a letter, all others by their code.
-/

namespace FilteringProxy.Text

def escapeCode (c : Char) : Text :=
  ("\\u\x7b" : Text) ++ Nat.toDigits 16 c.toNat ++ ("\x7d" : Text)

/-- A character as it stands in quoted text. -/
def quoteChar (c : Char) : Text :=
  if c = '\x00' then "\\0"
  else if c = '\t' then "\\t"
  else if c = '\r' then "\\r"
  else if c = '\n' then "\\n"
  else if c = '\\' then "\\\\"
  else if c = '"' then "\\\""
  else if Unicode.isExtender c.toNat || !Unicode.isPrintable c.toNat then escapeCode c
  else [c]

def quote (t : Text) : Text := ['"'] ++ t.flatMap quoteChar ++ ['"']

end FilteringProxy.Text
