import FilteringProxy.Text.Basic

/-! # Labels in ASCII

The ASCII form of a host label that holds other characters: its plain characters, a hyphen, and the
places and values of the others as numbers of variable length.
-/

namespace FilteringProxy.Url.Punycode

/-- The character of a digit in base thirty-six. -/
def digitChar (d : Nat) : Char :=
  if d < 26 then Char.ofNat (0x61 + d) else Char.ofNat (0x30 + (d - 26))

/-- The digit of a character in base thirty-six. -/
def digit? (c : Char) : Option Nat :=
  let n := c.toNat
  if 0x61 ≤ n && n ≤ 0x7A then some (n - 0x61)
  else if 0x41 ≤ n && n ≤ 0x5A then some (n - 0x41)
  else if 0x30 ≤ n && n ≤ 0x39 then some (n - 0x30 + 26)
  else none

/-- The value from which on a digit at position `k` is followed by another one. -/
def threshold (k bias : Nat) : Nat :=
  if k ≤ bias + 1 then 1 else if bias + 26 ≤ k then 26 else k - bias

theorem threshold_pos (k bias : Nat) : 0 < threshold k bias := by
  unfold threshold; split
  · decide
  · split <;> omega

/-- Divide a large difference down, counting thirty-six for each step. -/
def adaptDown (delta k : Nat) : Nat × Nat :=
  if 455 < delta then adaptDown (delta / 35) (k + 36) else (delta, k)
termination_by delta
decreasing_by omega

/-- The bias for the next number. -/
def adapt (delta points : Nat) (first : Bool) : Nat :=
  let delta := if first then delta / 700 else delta / 2
  let (delta, k) := adaptDown (delta + delta / points) 0
  k + 36 * delta / (delta + 38)

/-- A number in digits of variable length. -/
def digits (bias k q : Nat) : Text :=
  let t := threshold k bias
  if q < t then [digitChar q]
  else digitChar (t + (q - t) % (36 - t)) :: digits bias (k + 36) ((q - t) / (36 - t))
termination_by q
decreasing_by
  have := threshold_pos k bias
  calc (q - threshold k bias) / (36 - threshold k bias)
      ≤ q - threshold k bias := Nat.div_le_self _ _
    _ < q := by omega

/-- What the writer carries along. -/
structure Writer where
  out : Text
  delta : Nat
  bias : Nat
  written : Nat

/-- Pass one character of the label while the characters with value `m` are written. -/
def Writer.pass (plain m : Nat) (w : Writer) (code : Nat) : Writer :=
  if code < m then { w with delta := w.delta + 1 }
  else if code = m then
    { out := w.out ++ digits w.bias 36 w.delta, delta := 0,
      bias := adapt w.delta (w.written + 1) (w.written == plain), written := w.written + 1 }
  else w

/-- Write the characters of each value in `values`, which ascend. -/
def writeValues (codes : List Nat) (plain : Nat) : List Nat → Nat → Writer → Writer
  | [], _, w => w
  | m :: values, n, w =>
    let w := { w with delta := w.delta + (m - n) * (w.written + 1) }
    let w := codes.foldl (Writer.pass plain m) w
    writeValues codes plain values (m + 1) { w with delta := w.delta + 1 }

/-- Put a value into an ascending row, once. -/
def insertValue (x : Nat) : List Nat → List Nat
  | [] => [x]
  | y :: ys =>
    if x < y then x :: y :: ys else if x = y then y :: ys else y :: insertValue x ys

/-- The ASCII form of a row of code points, without the mark that says so. -/
def encode (codes : List Nat) : Text :=
  let plain := codes.filter (· < 0x80)
  let values := (codes.filter (0x80 ≤ ·)).foldl (fun row c => insertValue c row) []
  let head : Text := plain.map Char.ofNat ++ if plain = [] then [] else ['-']
  (writeValues codes plain.length values 0x80
    { out := head, delta := 0, bias := 72, written := plain.length }).out

/-- Read one number: its value added to `i`, and the rest of the text. -/
def readNumber (bias : Nat) : Nat → Nat → Nat → Text → Option (Nat × Text)
  | _, _, _, [] => none
  | k, w, i, c :: r =>
    match digit? c with
    | none => none
    | some d =>
      let i := i + d * w
      let t := threshold k bias
      if d < t then some (i, r) else readNumber bias (k + 36) (w * (36 - t)) i r

theorem readNumber_shorter {bias k w i : Nat} {t : Text} {j : Nat} {r : Text}
    (h : readNumber bias k w i t = some (j, r)) : r.length < t.length := by
  induction t generalizing k w i with
  | nil => simp [readNumber] at h
  | cons c rest ih =>
    simp only [readNumber] at h
    split at h
    · simp at h
    · split at h
      · simp only [Option.some.injEq, Prod.mk.injEq] at h
        simp [← h.2]
      · have := ih h
        simp only [List.length_cons]
        omega

/-- Read all numbers and put the characters that they stand for into `codes`. -/
def readNumbers (bias n i : Nat) (codes : List Nat) (t : Text) : Option (List Nat) :=
  match t with
  | [] => some codes
  | c :: r =>
    match _h : readNumber bias 36 1 i (c :: r) with
    | none => none
    | some (j, rest) =>
      let size := codes.length + 1
      let bias := adapt (j - i) size (i == 0)
      let n := n + j / size
      if 0x10FFFF < n then none
      else
        readNumbers bias n (j % size + 1)
          (codes.take (j % size) ++ [n] ++ codes.drop (j % size)) rest
termination_by t.length
decreasing_by
  have := readNumber_shorter _h
  simpa using this

/-- The code points of the plain characters and of the numbers in a label. -/
def decode? (t : Text) : Option (List Nat) :=
  if t.contains '-' then
    let tail := (t.reverse.takeWhile (· != '-')).reverse
    let plain := t.take (t.length - tail.length - 1)
    if plain.all fun c => c.toNat < 0x80 then
      readNumbers 72 0x80 0 (plain.map Char.toNat) tail
    else none
  else readNumbers 72 0x80 0 [] t

end FilteringProxy.Url.Punycode
