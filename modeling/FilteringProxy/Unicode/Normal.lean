import FilteringProxy.Text.Blank
import FilteringProxy.Unicode.CompositionTable

/-! # Composed text

Text in its composed normal form: characters are taken apart, combining marks are put into the
order of their classes, and what can be put together again is.
-/

namespace FilteringProxy.Unicode

/-- A character that is made of two, or is another form of one. -/
structure Decomposition where
  whole : Nat
  first : Nat
  /-- The mark that follows, if any. -/
  second : Option Nat
  /-- The two parts are put together again. -/
  composes : Bool

/-- A number in hexadecimal digits, zero for any other text. -/
def hex (t : Text) : Nat := (Text.toNat? 16 t).getD 0

def Decomposition.ofWord (word : Text) : Decomposition :=
  let parts (t : Text) : Nat × Option Nat :=
    match Text.cut? ',' t with
    | some (a, b) => (hex a, some (hex b))
    | none => (hex t, none)
  match Text.cut? '=' word with
  | some (source, whole) =>
    let (first, second) := parts source
    { whole := hex whole, first, second, composes := true }
  | none =>
    let (source, whole) := (Text.cut? '<' word).getD (word, word)
    let (first, second) := parts source
    { whole := hex whole, first, second, composes := false }

def decompositions : List Decomposition :=
  (Text.words (decompositionWords : Text)).map Decomposition.ofWord

/-- The combining classes other than zero: first and last code point, class. -/
def combiningClasses : List (Nat × Nat × Nat) :=
  (Text.words (combiningClassWords : Text)).map fun word =>
    let (range, value) := (Text.cut? ':' word).getD (word, [])
    let (first, last) := (Text.cut? '-' range).getD (range, range)
    (hex first, hex last, (Text.toNat? 10 value).getD 0)

def combiningClass (code : Nat) : Nat :=
  if code < 0x300 then 0
  else
    match combiningClasses.find? fun (first, last, _) => first ≤ code && code ≤ last with
    | some (_, _, value) => value
    | none => 0

/-- Take a code point apart, at most `n` times over, by a look-up of its parts. -/
def takeApartBy (partsOf? : Nat → Option Decomposition) : Nat → Nat → List Nat
  | 0, code => [code]
  | n + 1, code =>
    if code < 0xC0 then [code]
    else if 0xAC00 ≤ code && code ≤ 0xD7A3 then
      let s := code - 0xAC00
      let tail := s % 28
      [0x1100 + s / 588, 0x1161 + s % 588 / 28] ++ if tail = 0 then [] else [0x11A7 + tail]
    else
      match partsOf? code with
      | some d => takeApartBy partsOf? n d.first ++ d.second.toList
      | none => [code]

/-- Take a code point apart as far as it goes; the longest chains of the table have four steps. -/
def takeApart (code : Nat) : List Nat :=
  takeApartBy (fun code => decompositions.find? (·.whole == code)) 8 code

/-- Put a mark into a reversed row of code points, before all marks of a higher class. -/
def insertMark (code : Nat) : List Nat → List Nat
  | [] => [code]
  | c :: row =>
    if combiningClass c ≤ combiningClass code || combiningClass code = 0 then code :: c :: row
    else c :: insertMark code row

/-- Code points with their marks in the order of their classes. -/
def orderMarks (codes : List Nat) : List Nat :=
  (codes.foldl (fun row c => insertMark c row) []).reverse

/-- The code point may be the first part of a composed character: of the ASCII characters only
letters and the signs for comparing are. -/
def opensPair (code : Nat) : Bool :=
  0x80 ≤ code || (0x3C ≤ code && code ≤ 0x3E) || (0x41 ≤ code && code ≤ 0x5A) ||
    (0x61 ≤ code && code ≤ 0x7A)

/-- The character that two make together, if any. Nothing below the first combining mark is a second
part. -/
def compose? (a b : Nat) : Option Nat :=
  if !opensPair a || b < 0x300 then none
  else if 0x1100 ≤ a && a < 0x1113 && 0x1161 ≤ b && b < 0x1176 then
    some (0xAC00 + ((a - 0x1100) * 21 + (b - 0x1161)) * 28)
  else if 0xAC00 ≤ a && a ≤ 0xD7A3 && (a - 0xAC00) % 28 = 0 && 0x11A8 ≤ b && b < 0x11C3 then
    some (a + (b - 0x11A7))
  else
    (decompositions.find? fun d => d.composes && d.first == a && d.second == some b).map (·.whole)

/-- Put together what can be: `starter` is the last character that is no mark, `marks` what stands
after it so far, the last one first, and `done` what lies before it. -/
def putTogether : List Nat → Option Nat → List Nat → List Nat → List Nat
  | [], starter, marks, done => done ++ starter.toList ++ marks.reverse
  | c :: rest, none, marks, done =>
    if combiningClass c = 0 then putTogether rest (some c) [] (done ++ marks.reverse)
    else putTogether rest none (c :: marks) done
  | c :: rest, some s, marks, done =>
    let blocked := match marks with
      | [] => false
      | m :: _ => combiningClass c ≤ combiningClass m
    match (if blocked then none else compose? s c) with
    | some whole => putTogether rest (some whole) marks done
    | none =>
      if combiningClass c = 0 then putTogether rest (some c) [] (done ++ [s] ++ marks.reverse)
      else putTogether rest (some s) (c :: marks) done

/-- The composed form of a row of code points. -/
def composed (codes : List Nat) : List Nat :=
  if codes.all (· < 0xC0) then codes
  else putTogether (orderMarks (codes.flatMap takeApart)) none [] []

end FilteringProxy.Unicode
