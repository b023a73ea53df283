import FilteringProxy.Proofs.Text.Utf8
import FilteringProxy.Proofs.Token.Decomposition
import FilteringProxy.Token.Bytes

/-! # Cutting bytes where characters begin

A pass over the bytes of a text looks for bytes of delimiters, and no other character has such a
byte. So it finds the tokens of the text, each with all the bytes of its characters.
-/

namespace FilteringProxy.Token

open Utf8 (encode)

/-- Where the bytes of some tokens are when those of the first one begin at an offset. -/
def spansOf (start : Nat) : List Token → List Span
  | [] => []
  | t :: ts =>
    ⟨start, start + (encode t).length⟩ :: spansOf (start + (encode t).length) ts

theorem spansOf_append (start : Nat) (ts us : List Token) :
    spansOf start (ts ++ us) =
      spansOf start ts ++ spansOf (start + (encode ts.flatten).length) us := by
  induction ts generalizing start with
  | nil => rfl
  | cons t ts ih =>
      rw [List.cons_append, spansOf, ih, spansOf, List.cons_append, List.flatten_cons,
        Utf8.encode_append, List.length_append, Nat.add_assoc]

/-! ## Bytes of delimiters -/

theorem utf8EncodeChar_delimiter {c : Char} (delimiter : isDelimiter c = true) :
    ∃ b, String.utf8EncodeChar c = [b] ∧ isDelimiterByte b = true := by
  have table : (".-_/?=&:^*" : Text).all (fun d =>
      String.utf8EncodeChar d = [UInt8.ofNat d.toNat] ∧ isDelimiterByte (UInt8.ofNat d.toNat)) := by
    decide
  exact ⟨_, of_decide_eq_true (List.all_eq_true.mp table c (List.contains_iff_mem.mp delimiter))⟩

theorem isDelimiterByte_of_mem {c : Char} {b : UInt8} (run : isDelimiter c = false)
    (member : b ∈ String.utf8EncodeChar c) : isDelimiterByte b = false := by
  by_contra found
  have inside : b ∈ encode ".-_/?=&:^*" := by simpa [isDelimiterByte] using found
  have ascii : b.toNat < 0x80 := by
    have table : (encode ".-_/?=&:^*").all (·.toNat < 0x80) := by decide
    exact of_decide_eq_true (List.all_eq_true.mp table b inside)
  have same : Char.ofNat b.toNat ∈ [c] :=
    Utf8.mem_of_mem_encode ascii (by simpa [encode] using member)
  have delimiter : isDelimiter c = true := by
    rw [← List.mem_singleton.mp same]
    exact List.contains_iff_mem.mpr (Utf8.mem_of_mem_encode ascii inside)
  rw [run] at delimiter
  cases delimiter

theorem separator_of_encode {t : Text} {bytes : Bytes} (whole : encode t = 58 :: 47 :: 47 :: bytes) :
    ∃ rest, t = ':' :: '/' :: '/' :: rest := by
  obtain ⟨u, rfl, slashes⟩ := Utf8.exists_cons_of_encode (by decide) whole
  obtain ⟨v, rfl, slash⟩ := Utf8.exists_cons_of_encode (by decide) slashes
  obtain ⟨rest, rfl, -⟩ := Utf8.exists_cons_of_encode (by decide) slash
  exact ⟨rest, rfl⟩

/-- Where no separator begins in a text, none begins in its bytes. -/
theorem not_separator_bytes {c : Char} {t : Text} {b : UInt8}
    (overlap : ∀ rest, c = ':' → t = '/' :: '/' :: rest → False)
    (bytes : String.utf8EncodeChar c = [b]) :
    ∀ more, b = 58 → encode t = 47 :: 47 :: more → False := by
  rintro more rfl behind
  have whole : encode (c :: t) = 58 :: 47 :: 47 :: more := by
    rw [Utf8.encode_cons, bytes, behind]
    rfl
  obtain ⟨rest, same⟩ := separator_of_encode whole
  obtain ⟨colon, slashes⟩ := List.cons.inj same
  exact overlap rest colon slashes

/-! ## The pass over a text -/

theorem scan_cons {b : UInt8} {rest : Bytes} (start i : Nat)
    (single : ∀ more, b = 58 → rest = 47 :: 47 :: more → False) :
    scan start i (b :: rest) =
      if isDelimiterByte b then pending start i ++ ⟨i, i + 1⟩ :: scan (i + 1) (i + 1) rest
      else scan start (i + 1) rest :=
  scan.eq_3 start i b rest single

theorem scan_append {bytes : Bytes} (run : ∀ b ∈ bytes, isDelimiterByte b = false) (rest : Bytes)
    (start i : Nat) : scan start i (bytes ++ rest) = scan start (i + bytes.length) rest := by
  induction bytes generalizing i with
  | nil => rfl
  | cons b bytes ih =>
      rw [List.forall_mem_cons] at run
      have no_colon : b ≠ 58 := by
        rintro rfl
        cases run.1
      rw [List.cons_append, scan_cons start i fun _ colon _ => no_colon colon, run.1,
        if_neg Bool.false_ne_true, ih run.2, List.length_cons]
      congr 1
      omega

theorem pending_eq {r : Text} (plain : IsPlain r) (start : Nat) :
    pending start (start + (encode r).length) = spansOf start (tokenize r) := by
  cases r with
  | nil => simp [pending, encode, tokenize, spansOf]
  | cons c r =>
      have longer : 0 < (encode (c :: r)).length := by
        rw [Utf8.encode_cons, List.length_append]
        have some_byte := List.length_pos_of_ne_nil (String.utf8EncodeChar_ne_nil (c := c))
        omega
      rw [tokenize_of_isPlain plain (List.cons_ne_nil c r), pending, if_pos (by omega)]
      rfl

/-- What no token has yet is a text without a delimiter; with it in front, the tokens that the pass
finds are those of the text. -/
theorem scan_encode {r : Text} (plain : IsPlain r) (t : Text) (start : Nat) :
    scan start (start + (encode r).length) (encode t) = spansOf start (tokenize (r ++ t)) := by
  induction t using tokenize.induct generalizing r start with
  | case1 => rw [List.append_nil, ← pending_eq plain]; rfl
  | case2 rest ih =>
      have bytes : encode (':' :: '/' :: '/' :: rest) = 58 :: 47 :: 47 :: encode rest := rfl
      have cut : tokenize (r ++ ':' :: '/' :: '/' :: rest) =
          tokenize r ++ schemeSeparator :: tokenize rest := by
        rw [← tokenize_around_separator, List.append_assoc]
        rfl
      have later := ih (r := []) (List.forall_mem_nil _) (start + (encode r).length + 3)
      rw [bytes, scan.eq_2, pending_eq plain, cut, spansOf_append, flatten_tokenize]
      exact congrArg _ (congrArg _ later)
  | case3 c rest overlap delimiter ih =>
      obtain ⟨b, bytes, found⟩ := utf8EncodeChar_delimiter delimiter
      have cut := tokenize_around_delimiter plain delimiter (not_separator_front overlap)
      have later := ih (r := []) (List.forall_mem_nil _) (start + (encode r).length + 1)
      have length : (encode [c]).length = 1 := by simp [encode, bytes]
      rw [Utf8.encode_cons, bytes, List.singleton_append,
        scan_cons _ _ (not_separator_bytes overlap bytes), if_pos found, pending_eq plain, cut,
        spansOf_append, flatten_tokenize, spansOf, length]
      exact congrArg _ (congrArg _ later)
  | case4 c rest overlap run ih =>
      rw [Bool.not_eq_true] at run
      have longer : IsPlain (r ++ [c]) :=
        List.forall_mem_append.mpr ⟨plain, List.forall_mem_singleton.mpr run⟩
      have later := ih longer start
      rw [Utf8.encode_append, List.length_append, ← Nat.add_assoc, List.append_assoc] at later
      rw [Utf8.encode_cons, scan_append fun b => isDelimiterByte_of_mem run]
      simpa [encode] using later

/-- The bytes of a text are cut where the bytes of its tokens begin and end. -/
theorem spans_encode (s : Text) : spans (encode s) = spansOf 0 (tokenize s) :=
  scan_encode (r := []) nofun s 0

/-! ## Spans of whole characters -/

/-- The span is where a part of the text has its bytes. -/
def Span.Holds (s : Span) (whole : Text) (t : Token) : Prop :=
  ∃ front behind : Text, whole = front ++ t ++ behind ∧ s.start = (encode front).length ∧
    s.stop = (encode (front ++ t)).length

theorem Span.Holds.slice {s : Span} {whole : Text} {t : Token} (holds : s.Holds whole t) :
    s.slice (encode whole) = encode t := by
  obtain ⟨front, behind, rfl, start, stop⟩ := holds
  have length : s.stop - s.start = (encode t).length := by
    rw [start, stop, Utf8.encode_append, List.length_append, Nat.add_sub_cancel_left]
  rw [Span.slice, length, start, Utf8.encode_append, Utf8.encode_append, List.append_assoc,
    List.drop_left, List.take_left]

theorem spansOf_holds (front : Text) (ts : List Token) :
    List.Forall₂ (·.Holds (front ++ ts.flatten)) (spansOf (encode front).length ts) ts := by
  induction ts generalizing front with
  | nil => exact .nil
  | cons t ts ih =>
      have later := ih (front ++ t)
      rw [Utf8.encode_append, List.length_append, List.append_assoc, ← List.flatten_cons] at later
      refine .cons ⟨front, ts.flatten, by simp, rfl, ?_⟩ later
      rw [Utf8.encode_append, List.length_append]

theorem spans_holds (s : Text) :
    List.Forall₂ (·.Holds s) (spans (encode s)) (tokenize s) := by
  have holds := spansOf_holds [] (tokenize s)
  rw [flatten_tokenize] at holds
  rw [spans_encode]
  exact holds

/-- The tokens of a text are the one row of delimiters and of runs without one that makes up the
text, has each sign between scheme and host as one token and no two runs side by side. So they
determine the text. A pass over its bytes finds them in order, each where a part of the text begins
and ends, so that no character is cut. -/
theorem tokenize_unique_row (s : Text) :
    (∀ ts, Decomposes s ts ↔ ts = tokenize s) ∧
    (∀ r, tokenize r = tokenize s ↔ r = s) ∧
    List.Forall₂ (·.Holds s) (spans (encode s)) (tokenize s) ∧
    (spans (encode s)).map (·.slice (encode s)) = (tokenize s).map encode := by
  refine ⟨fun ts => decomposes_iff, fun r => ⟨fun same => ?_, congrArg tokenize⟩, spans_holds s, ?_⟩
  · rw [← flatten_tokenize r, same, flatten_tokenize]
  · have sliced := (spans_holds s).imp fun _ _ holds => holds.slice
    rw [← List.forall₂_eq_eq_eq, List.forall₂_map_left_iff, List.forall₂_map_right_iff]
    exact sliced

example : spans (encode "ü://é.") = [⟨0, 2⟩, ⟨2, 5⟩, ⟨5, 7⟩, ⟨7, 8⟩] := by decide

end FilteringProxy.Token
