import FilteringProxy.Regex.CharSet

/-! # Regular expressions and their matches

An expression is a tree; matching is a relation between two boundaries of the text, and `ends`
computes, for a set of boundaries, all boundaries at which a match that starts in the set can end.
A set of boundaries is a natural number whose bit `i` stands for the boundary before character `i`.
-/

namespace FilteringProxy

inductive Regex.Look where
  | start
  | finish
  /-- The start of a line; with `crlf` also carriage returns end lines. -/
  | lineStart (crlf : Bool)
  /-- The end of a line; with `crlf` also carriage returns end lines. -/
  | lineEnd (crlf : Bool)
  | wordBoundary (isWord : Regex.CharSet)
  /-- Word characters on both sides or on neither. -/
  | notWordBoundary (isWord : Regex.CharSet)
  /-- A word character only after the boundary. -/
  | wordStart (isWord : Regex.CharSet)
  /-- A word character only before the boundary. -/
  | wordEnd (isWord : Regex.CharSet)
  /-- No word character before the boundary. -/
  | wordStartHalf (isWord : Regex.CharSet)
  /-- No word character after the boundary. -/
  | wordEndHalf (isWord : Regex.CharSet)
  deriving Repr, DecidableEq

inductive Regex where
  /-- Matches nothing but the empty text. -/
  | empty
  /-- Matches one character of the set. -/
  | set (s : Regex.CharSet)
  /-- Matches the empty text at the boundaries that satisfy the condition. -/
  | look (l : Regex.Look)
  /-- Matches a match of `a` followed by a match of `b`. -/
  | cat (a b : Regex)
  /-- Matches what `a` or `b` matches. -/
  | alt (a b : Regex)
  /-- Matches at least `least` and, if there is a bound, at most `most` matches of `a` in a row. -/
  | repeated (a : Regex) (least : Nat) (most : Option Nat)
  deriving Repr, DecidableEq

namespace Regex

structure Subject where
  /-- The characters of the text, as code points. -/
  codes : Array Nat

namespace Subject

def ofText (t : Text) : Subject := ⟨(t.map Char.toNat).toArray⟩

/-- The code point before boundary `i`. -/
def before? (s : Subject) (i : Nat) : Option Nat := if i = 0 then none else s.codes[i - 1]?

/-- The code point after boundary `i`. -/
def after? (s : Subject) (i : Nat) : Option Nat := s.codes[i]?

/-- The boundaries below `n` that satisfy `p`, as bits. -/
def collect (p : Nat → Bool) : Nat → Nat
  | 0 => 0
  | n + 1 => collect p n ||| (if p n then 1 <<< n else 0)

end Subject

namespace Look

/-- A line ends before the code point. -/
def isLineBreak (crlf : Bool) (c : Nat) : Bool := c == 0x0A || (crlf && c == 0x0D)

def holds (l : Look) (left right : Option Nat) : Bool :=
  let word (w : CharSet) : Option Nat → Bool := fun side => side.any w.contains
  match l with
  | start => left.isNone
  | finish => right.isNone
  | lineStart false => left.all (isLineBreak false)
  | lineEnd false => right.all (isLineBreak false)
  | lineStart true =>
    left.all fun c => c == 0x0A || (c == 0x0D && right != some 0x0A)
  | lineEnd true =>
    right.all fun c => c == 0x0D || (c == 0x0A && left != some 0x0D)
  | wordBoundary w => word w left != word w right
  | notWordBoundary w => word w left == word w right
  | wordStart w => !word w left && word w right
  | wordEnd w => word w left && !word w right
  | wordStartHalf w => !word w left
  | wordEndHalf w => !word w right

end Look

/-- Apply `f` to a growing set of boundaries until nothing is added; `n` bounds the rounds, and each
round but the last adds a boundary. -/
def closure (f : Nat → Nat) : Nat → Nat → Nat
  | 0, reached => reached
  | n + 1, reached =>
    let more := reached ||| f reached
    if more = reached then reached else closure f n more

/-- Apply `f` to a set of boundaries `n` times. -/
def applyTimes (f : Nat → Nat) : Nat → Nat → Nat
  | 0, from' => from'
  | n + 1, from' => if from' = 0 then 0 else applyTimes f n (f from')

/-- Apply `f` to a set of boundaries up to `n` times and keep what is reached on the way. -/
def applyUpTo (f : Nat → Nat) : Nat → Nat → Nat → Nat
  | 0, _, reached => reached
  | n + 1, front, reached =>
    let next := f front
    if next ||| reached = reached then reached else applyUpTo f n next (reached ||| next)

/-- All boundaries at which a match can end that starts at a boundary of the set. -/
def ends (s : Subject) : Regex → Nat → Nat
  | empty, starts => starts
  | set cs, starts =>
    if starts = 0 then 0
    else (Subject.collect (fun i => starts.testBit i && (s.after? i).any cs.contains)
      s.codes.size) <<< 1
  | look l, starts =>
    if starts = 0 then 0
    else Subject.collect (fun i => starts.testBit i && l.holds (s.before? i) (s.after? i))
      (s.codes.size + 1)
  | cat a b, starts => ends s b (ends s a starts)
  | alt a b, starts => ends s a starts ||| ends s b starts
  | repeated a least most, starts =>
    let entered := applyTimes (ends s a) least starts
    match most with
    | none => closure (ends s a) (s.codes.size + 1) entered
    | some most => applyUpTo (ends s a) (most - least) entered entered

def matchesIn (r : Regex) (t : Text) : Bool :=
  let s := Subject.ofText t
  ends s r ((1 <<< (s.codes.size + 1)) - 1) != 0

end Regex

end FilteringProxy
