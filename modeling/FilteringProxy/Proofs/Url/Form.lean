import FilteringProxy.Proofs.Text.Split
import FilteringProxy.Url.Form

/-! # What a segment of a query means

The encoding of names and values in a query is said here byte by byte, and a segment as a name with
a value or without one. The decoder agrees with it on every text, broken escapes included.
-/

namespace FilteringProxy.Url

/-- The bytes do not go on with two hexadecimal digits. -/
def NoDigits (code : Bytes) : Prop :=
  ∀ x y rest, code = x :: y :: rest → hexByte? x = none ∨ hexByte? y = none

/-- The bytes that encoded bytes stand for. -/
inductive Unescapes : Bytes → Bytes → Prop
  | nil : Unescapes [] []
  | space {code bytes : Bytes} (later : Unescapes code bytes) :
      Unescapes (0x2B :: code) (0x20 :: bytes)
  | escape {x y a b : UInt8} {code bytes : Bytes} (high : hexByte? x = some a)
      (low : hexByte? y = some b) (later : Unescapes code bytes) :
      Unescapes (0x25 :: x :: y :: code) ((a * 16 + b) :: bytes)
  /-- A percent sign without two hexadecimal digits stands for itself. -/
  | percent {code bytes : Bytes} (alone : NoDigits code) (later : Unescapes code bytes) :
      Unescapes (0x25 :: code) (0x25 :: bytes)
  | other {b : UInt8} {code bytes : Bytes} (not_plus : b ≠ 0x2B) (not_percent : b ≠ 0x25)
      (later : Unescapes code bytes) : Unescapes (b :: code) (b :: bytes)

/-- A plus sign is a space. -/
def spaced (b : UInt8) : UInt8 := if b = 0x2B then 0x20 else b

theorem hexByte?_spaced (b : UInt8) : hexByte? (spaced b) = hexByte? b := by
  unfold spaced
  split
  · rename_i plus
    subst plus
    decide
  · rfl

theorem NoDigits.spaced {code : Bytes} (alone : NoDigits code) : NoDigits (code.map spaced) := by
  intro x y rest whole
  cases code with
  | nil => cases whole
  | cons u code =>
      cases code with
      | nil => cases whole
      | cons v code =>
          cases whole
          rw [hexByte?_spaced, hexByte?_spaced]
          exact alone u v code rfl

theorem unescape_escape {x y a b : UInt8} (high : hexByte? x = some a) (low : hexByte? y = some b)
    (rest : Bytes) : unescape (0x25 :: x :: y :: rest) = (a * 16 + b) :: unescape rest := by
  rw [unescape]
  simp [high, low]

theorem unescape_percent {code : Bytes} (alone : NoDigits code) :
    unescape (0x25 :: code) = 0x25 :: unescape code := by
  rw [unescape.eq_def]
  cases code with
  | nil => simp
  | cons x code =>
      cases code with
      | nil => simp
      | cons y rest =>
          cases alone x y rest rfl with
          | inl none_high => simp [none_high]
          | inr none_low => cases high : hexByte? x <;> simp [none_low]

theorem unescape_other {b : UInt8} (other : b ≠ 0x25) (code : Bytes) :
    unescape (b :: code) = b :: unescape code := by
  rw [unescape.eq_def]
  simp [other]

theorem unescape_of_not_mem {code : Bytes} (plain : 0x25 ∉ code) : unescape code = code := by
  induction code with
  | nil => rfl
  | cons b code ih =>
      rw [List.mem_cons, not_or] at plain
      rw [unescape_other (Ne.symm plain.1), ih plain.2]

theorem mem_unescape {b : UInt8} {code : Bytes} (no_digit : hexByte? b = none) (other : b ≠ 0x25)
    (member : b ∈ code) : b ∈ unescape code := by
  have behind {c : UInt8} {rest : Bytes} (apart : b ≠ c) (member : b ∈ c :: rest) : b ∈ rest :=
    (List.mem_cons.mp member).resolve_left apart
  have digit {c a : UInt8} (hex : hexByte? c = some a) : b ≠ c := by
    rintro rfl
    rw [no_digit] at hex
    cases hex
  fun_induction unescape code with
  | case1 => cases member
  | case2 x y rest high low second first ih =>
      have left := behind (digit second) (behind (digit first) (behind other member))
      exact List.mem_cons_of_mem _ (ih left)
  | case3 x y rest _ ih => exact List.mem_cons_of_mem _ (ih (behind other member))
  | case4 rest _ ih => exact List.mem_cons_of_mem _ (ih (behind other member))
  | case5 c rest _ ih =>
      rcases List.mem_cons.mp member with rfl | later
      · exact List.mem_cons_self
      · exact List.mem_cons_of_mem _ (ih later)

theorem unescapes_unescape (code : Bytes) : Unescapes code (unescape (code.map spaced)) := by
  -- an escape takes three bytes at once, so the induction is on the number of bytes
  induction length : code.length using Nat.strongRecOn generalizing code with
  | ind n ih =>
      cases code with
      | nil => exact .nil
      | cons b code =>
          have later := ih code.length (by simp [← length]) code rfl
          rw [List.map_cons]
          by_cases plus : b = 0x2B
          · subst plus
            rw [spaced, if_pos rfl, unescape_other (by decide)]
            exact .space later
          rw [spaced, if_neg plus]
          by_cases percent : b = 0x25
          · subst percent
            by_cases alone : NoDigits code
            · rw [unescape_percent alone.spaced]
              exact .percent alone later
            · simp only [NoDigits, not_forall, not_or] at alone
              obtain ⟨x, y, rest, rfl, high, low⟩ := alone
              obtain ⟨a, high⟩ := Option.ne_none_iff_exists'.mp high
              obtain ⟨b, low⟩ := Option.ne_none_iff_exists'.mp low
              rw [List.map_cons, List.map_cons, unescape_escape ((hexByte?_spaced x).trans high)
                ((hexByte?_spaced y).trans low)]
              have shorter : rest.length < n := by
                simp only [← length, List.length_cons]
                omega
              exact .escape high low (ih rest.length shorter rest rfl)
          · rw [unescape_other percent]
            exact .other plus percent later

theorem Unescapes.eq_unescape {code bytes : Bytes} (stands : Unescapes code bytes) :
    bytes = unescape (code.map spaced) := by
  have percent : Url.spaced 0x25 = 0x25 := by decide
  induction stands with
  | nil => rfl
  | space later ih =>
      rw [List.map_cons, unescape_other (by decide), ← ih]
      rfl
  | escape high low later ih =>
      simp only [List.map_cons, percent]
      rw [unescape_escape ((hexByte?_spaced _).trans high) ((hexByte?_spaced _).trans low), ← ih]
  | percent alone later ih =>
      rw [List.map_cons, percent, unescape_percent alone.spaced, ← ih]
  | @other b code bytes not_plus not_percent later ih =>
      have same : spaced b = b := if_neg not_plus
      rw [List.map_cons, same, unescape_other not_percent, ← ih]

/-- The text that a name or value in a query stands for. -/
def Decodes (written decoded : Text) : Prop :=
  ∃ bytes, Unescapes (Utf8.encode written) bytes ∧ decoded = Utf8.decodeLenient bytes

theorem decodes_iff {written decoded : Text} :
    Decodes written decoded ↔ decodeForm written = decoded := by
  constructor
  · intro stands
    obtain ⟨bytes, stands, rfl⟩ := stands
    rw [stands.eq_unescape]
    rfl
  · intro same
    exact ⟨_, unescapes_unescape _, same.symm⟩

/-- The name and the value that a segment of a query gives. -/
inductive Means : Text → Text → Text → Prop
  | bare {segment n : Text} (unsigned : '=' ∉ segment) (name : Decodes segment n) :
      Means segment n []
  | pair {front back n v : Text} (first : '=' ∉ front) (name : Decodes front n)
      (value : Decodes back v) : Means (front ++ '=' :: back) n v

theorem means_iff {segment name value : Text} :
    Means segment name value ↔ decodeSegment segment = (name, value) := by
  unfold decodeSegment
  constructor
  · intro means
    cases means with
    | bare unsigned name =>
        rw [Text.cut?_eq_none.mpr unsigned]
        simp [decodes_iff.mp name]
    | pair first name value =>
        rw [Text.cut?_append first]
        simp [decodes_iff.mp name, decodes_iff.mp value]
  · intro decoded
    cases cut : Text.cut? '=' segment with
    | none =>
        simp only [cut, Prod.mk.injEq] at decoded
        obtain ⟨name, rfl⟩ := decoded
        exact .bare (Text.cut?_eq_none.mp cut) (decodes_iff.mpr name)
    | some parts =>
        obtain ⟨front, back⟩ := parts
        simp only [cut, Prod.mk.injEq] at decoded
        obtain ⟨whole, first⟩ := Text.cut?_eq_some cut
        subst whole
        exact .pair first (decodes_iff.mpr decoded.1) (decodes_iff.mpr decoded.2)

end FilteringProxy.Url
