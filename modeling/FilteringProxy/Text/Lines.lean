import FilteringProxy.Text.Utf8

/-! # Lines of a filter list

A list arrives as bytes. Its lines end at line feeds, and a carriage return before a line feed
belongs to the line end. The first line that is no text ends the list; the lines before it count.
-/

namespace FilteringProxy.Lines

/-- The pieces that line ends close, and what follows the last line end unless it is empty. -/
def split : Bytes → List Bytes
  | [] => []
  | b :: r =>
    if b = 0x0A then [] :: split r
    else if b = 0x0D && r.head? == some 0x0A then split r
    else
      match split r with
      | [] => [[b]]
      | line :: lines => (b :: line) :: lines

/-- The lines of a list, as texts, up to the first that is no text. -/
def ofBytes (bytes : Bytes) : List Text :=
  let rec texts : List Bytes → List Text
    | [] => []
    | line :: lines =>
      match Utf8.decode? line with
      | some t => t :: texts lines
      | none => []
  texts (split bytes)

end FilteringProxy.Lines
