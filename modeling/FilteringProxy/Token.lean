import FilteringProxy.Text.Basic

/-! # Tokens

Addresses and patterns are compared token by token. A text is cut into delimiters, each a token of
its own, and the runs between them; nothing is lost and nothing is normalised.
-/

namespace FilteringProxy

/-- A token: a delimiter, or a run of characters without one. -/
abbrev Token := Text

namespace Token

/-- A character that is a token of its own. -/
def isDelimiter (c : Char) : Bool := (".-_/?=&:^*" : Text).contains c

/-- What separates a scheme from what follows; it is one token although its characters are
delimiters. -/
def schemeSeparator : Token := [':', '/', '/']

/-- The token does not begin with a delimiter. -/
def isRun : Token → Bool
  | [] => false
  | c :: _ => !isDelimiter c

/-- Put a character before the first token if that is a run, and make it a run of its own
otherwise. -/
def extendRun (c : Char) : List Token → List Token
  | [] => [[c]]
  | t :: ts => if isRun t then (c :: t) :: ts else [c] :: t :: ts

/-- A character of text that separates: neither a letter or digit of ASCII nor one of `_-.%`. -/
def isSeparatorChar (c : Char) : Bool :=
  !(c.isAlphanum || c == '_' || c == '-' || c == '.' || c == '%')

/-- The token can stand for a `^` in a pattern: one of its characters separates. -/
def isSeparator (t : Token) : Bool := t.any isSeparatorChar

end Token

def tokenize : Text → List Token
  | [] => []
  | ':' :: '/' :: '/' :: rest => Token.schemeSeparator :: tokenize rest
  | c :: rest =>
    if Token.isDelimiter c then [c] :: tokenize rest else Token.extendRun c (tokenize rest)

end FilteringProxy
