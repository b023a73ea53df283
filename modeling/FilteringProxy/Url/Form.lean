import FilteringProxy.Text.Utf8

/-! # Escapes

Percent escapes in hosts and the encoding of names and values in a query.
-/

namespace FilteringProxy.Url

/-- The value of a hexadecimal digit given as a byte. -/
def hexByte? (b : UInt8) : Option UInt8 :=
  (Text.digit? 16 (Char.ofNat b.toNat)).map fun d => UInt8.ofNat d

/-- Bytes with every complete percent escape put in its place; other percent signs stay. -/
def unescape : Bytes → Bytes
  | [] => []
  | b :: r =>
    if b = 0x25 then
      match r with
      | x :: y :: rest =>
        match hexByte? x, hexByte? y with
        | some high, some low => (high * 16 + low) :: unescape rest
        | _, _ => b :: unescape (x :: y :: rest)
      | r => b :: unescape r
    else b :: unescape r

/-- A name or value of a query: a plus sign is a space, escapes stand for bytes, and bytes that are
no text become U+FFFD. -/
def decodeForm (t : Text) : Text :=
  Utf8.decodeLenient (unescape ((Utf8.encode t).map fun b => if b = 0x2B then 0x20 else b))

/-- The decoded name and value of one segment of a query, split at its first equals sign. -/
def decodeSegment (segment : Text) : Text × Text :=
  match Text.cut? '=' segment with
  | some (name, value) => (decodeForm name, decodeForm value)
  | none => (decodeForm segment, [])

end FilteringProxy.Url
