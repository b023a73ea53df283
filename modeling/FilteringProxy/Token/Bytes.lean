import FilteringProxy.Text.Utf8
import FilteringProxy.Token

/-! # Cutting bytes

The bytes of a text are cut in one pass from left to right. The pass keeps two offsets: where those
bytes begin that no token has yet, and how far it has come. It looks for bytes only, wherever the
characters of the text begin.
-/

namespace FilteringProxy.Token

/-- The bytes from one offset up to another. -/
structure Span where
  start : Nat
  stop : Nat
  deriving Repr, DecidableEq

/-- A byte that is a token of its own. -/
def isDelimiterByte (b : UInt8) : Bool := (Utf8.encode ".-_/?=&:^*").contains b

/-- The bytes that no token has yet, if there are any. -/
def pending (start i : Nat) : List Span := if start < i then [⟨start, i⟩] else []

/-- The tokens that are found in the bytes from offset `i` on, with the bytes from `start` on before
them. -/
def scan (start i : Nat) : Bytes → List Span
  | [] => pending start i
  | 0x3A :: 0x2F :: 0x2F :: rest => pending start i ++ ⟨i, i + 3⟩ :: scan (i + 3) (i + 3) rest
  | b :: rest =>
    if isDelimiterByte b then pending start i ++ ⟨i, i + 1⟩ :: scan (i + 1) (i + 1) rest
    else scan start (i + 1) rest

/-- The bytes of a span. -/
def Span.slice (s : Span) (bytes : Bytes) : Bytes := (bytes.drop s.start).take (s.stop - s.start)

/-- Where the tokens of some bytes are. -/
def spans (bytes : Bytes) : List Span := scan 0 0 bytes

end FilteringProxy.Token
