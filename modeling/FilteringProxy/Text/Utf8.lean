import FilteringProxy.Text.Basic

/-! # Text as bytes

Texts are written as UTF-8. Bytes are read character by character; a longest piece that could have
begun a character but does not complete one is a fault, and a lenient reader puts U+FFFD in its
place.
-/

namespace FilteringProxy

abbrev Bytes := List UInt8

namespace Utf8

/-- The UTF-8 form of a text. -/
def encode (t : Text) : Bytes := t.flatMap String.utf8EncodeChar

/-- A byte that continues a character, within bounds that depend on the bytes before it. -/
def continues (first last b : UInt8) : Bool := first ≤ b && b ≤ last

/-- The bounds of the second byte of a character, by its first byte. -/
def secondBounds (b : UInt8) : UInt8 × UInt8 :=
  if b = 0xE0 then (0xA0, 0xBF)
  else if b = 0xED then (0x80, 0x9F)
  else if b = 0xF0 then (0x90, 0xBF)
  else if b = 0xF4 then (0x80, 0x8F)
  else (0x80, 0xBF)

/-- The number of bytes of a character by its first byte; zero for a byte that begins none. -/
def width (b : UInt8) : Nat :=
  if b < 0x80 then 1
  else if 0xC2 ≤ b && b ≤ 0xDF then 2
  else if 0xE0 ≤ b && b ≤ 0xEF then 3
  else if 0xF0 ≤ b && b ≤ 0xF4 then 4
  else 0

/-- The low six bits of a byte, put after the bits read so far. -/
def shiftIn (code : Nat) (b : UInt8) : Nat := code * 64 + (b.toNat % 64)

/-- Read bytes as characters; `none` stands for a piece that is no character. -/
def read : Bytes → List (Option Char)
  | [] => []
  | b :: r =>
    if width b = 1 then some (Char.ofNat b.toNat) :: read r
    else
      let (low, high) := secondBounds b
      match r with
      | [] => [none]
      | c :: r₂ =>
        if width b = 0 || !continues low high c then none :: read (c :: r₂)
        else if width b = 2 then some (Char.ofNat (shiftIn (b.toNat % 32) c)) :: read r₂
        else
          match r₂ with
          | [] => [none]
          | d :: r₃ =>
            if !continues 0x80 0xBF d then none :: read (d :: r₃)
            else if width b = 3 then
              some (Char.ofNat (shiftIn (shiftIn (b.toNat % 16) c) d)) :: read r₃
            else
              match r₃ with
              | [] => [none]
              | e :: r₄ =>
                if !continues 0x80 0xBF e then none :: read (e :: r₄)
                else
                  some (Char.ofNat (shiftIn (shiftIn (shiftIn (b.toNat % 8) c) d) e)) :: read r₄

/-- The text that the bytes stand for, if every byte belongs to a character. -/
def decode? (bytes : Bytes) : Option Text := (read bytes).mapM id

/-- The text that the bytes stand for, with U+FFFD for every piece that is no character. -/
def decodeLenient (bytes : Bytes) : Text := (read bytes).map (·.getD (Char.ofNat 0xFFFD))

/-- The number of bytes of a text. -/
def size (t : Text) : Nat := t.foldl (fun n c => n + c.utf8Size) 0

end Utf8

end FilteringProxy
