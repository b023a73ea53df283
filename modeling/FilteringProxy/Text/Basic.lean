/-! # Text

A text is a list of characters, so that every rule about text is a rule about lists. Literals are
written as strings and read as texts through a coercion.
-/

namespace FilteringProxy

/-- A text: its characters in order. -/
abbrev Text := List Char

instance : Coe String Text := ⟨String.toList⟩

namespace Text

/-- The text with ASCII letters in lower case; all other characters stay. -/
def lower (t : Text) : Text := t.map Char.toLower

/-- The text with ASCII letters in upper case; all other characters stay. -/
def upper (t : Text) : Text := t.map Char.toUpper

/-- Two texts agree up to the case of ASCII letters. -/
def sameLetters (s t : Text) : Bool := s.lower == t.lower

/-- What follows `head` in a text that begins with it. -/
def after? : (head t : Text) → Option Text
  | [], t => some t
  | _ :: _, [] => none
  | h :: head, c :: t => if h = c then after? head t else none

/-- What precedes `tail` in a text that ends with it. -/
def before? (tail t : Text) : Option Text :=
  (after? tail.reverse t.reverse).map List.reverse

def startsWith (t head : Text) : Bool := (after? head t).isSome

def endsWith (t tail : Text) : Bool := (before? tail t).isSome

/-- The text has `part` somewhere inside. -/
def hasPart (t part : Text) : Bool :=
  match t with
  | [] => part.isEmpty
  | _ :: r => startsWith t part || hasPart r part

/-- The parts of a text between single separators; always at least one part. -/
def splitOn (sep : Char) : Text → List Text
  | [] => [[]]
  | c :: r =>
    if c = sep then [] :: splitOn sep r
    else
      match splitOn sep r with
      | [] => [[c]]
      | part :: parts => (c :: part) :: parts

/-- The text before and after the first separator, if there is one. -/
def cut? (sep : Char) : Text → Option (Text × Text)
  | [] => none
  | c :: r =>
    if c = sep then some ([], r)
    else (cut? sep r).map fun (a, b) => (c :: a, b)

/-- The text before the first separator, or all of it. -/
def upTo (sep : Char) (t : Text) : Text := t.takeWhile (· != sep)

/-- The texts in order with `sep` between neighbours. -/
def join (sep : Text) : List Text → Text
  | [] => []
  | [t] => t
  | t :: ts => t ++ sep ++ join sep ts

/-- The text without its longest end of characters that satisfy `p`. -/
def dropEnd (p : Char → Bool) (t : Text) : Text := (t.reverse.dropWhile p).reverse

/-- The text without `p` characters at both ends. -/
def trimWith (p : Char → Bool) (t : Text) : Text := dropEnd p (t.dropWhile p)

/-- The longest runs of characters that do not satisfy `p`. -/
def runsWithout (p : Char → Bool) : Text → List Text
  | [] => []
  | c :: r =>
    if p c then runsWithout p r
    else
      match r with
      | [] => [[c]]
      | d :: _ =>
        if p d then [c] :: runsWithout p r
        else
          match runsWithout p r with
          | [] => [[c]]
          | run :: runs => (c :: run) :: runs

/-- A number in decimal digits. -/
def ofNat (n : Nat) : Text := Nat.toDigits 10 n

/-- The digit of a character in a base up to sixteen. -/
def digit? (base : Nat) (c : Char) : Option Nat :=
  let v :=
    if '0' ≤ c && c ≤ '9' then c.toNat - '0'.toNat
    else if 'a' ≤ c && c ≤ 'f' then c.toNat - 'a'.toNat + 10
    else if 'A' ≤ c && c ≤ 'F' then c.toNat - 'A'.toNat + 10
    else base
  if v < base then some v else none

/-- The number that a non-empty text of digits stands for. -/
def toNat? (base : Nat) : Text → Option Nat
  | [] => none
  | t => t.foldlM (fun n c => (digit? base c).map (n * base + ·)) 0

end Text

end FilteringProxy
