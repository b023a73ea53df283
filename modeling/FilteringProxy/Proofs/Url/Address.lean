import FilteringProxy.Proofs.Reading
import FilteringProxy.Proofs.Text.Case
import FilteringProxy.Proofs.Text.Number
import FilteringProxy.Proofs.Text.Words
import FilteringProxy.Url.Address

/-! # Addresses in writing

What a text is that has been read as an address: it has few labels, or no character that belongs to
no number. An address is written in small letters and digits, one of version 4 as four labels and
one of version 6 as a single one.
-/

namespace FilteringProxy.Url

/-! ## Version 4 -/

theorem octet?_ofNat : ∀ n < 256, octet? (Text.ofNat n) = some n := by
  decide +kernel

theorem ipv4Bytes_lt (n : Nat) : ∀ b ∈ ipv4Bytes n, b < 256 := by
  simp only [ipv4Bytes, List.forall_mem_cons, List.not_mem_nil, false_implies, implies_true,
    and_true]
  omega

theorem splitOn_showIpv4 (n : Nat) :
    Text.splitOn '.' (showIpv4 n) = (ipv4Bytes n).map Text.ofNat := by
  apply Text.splitOn_join
  · simp [ipv4Bytes]
  · intro part member dot
    obtain ⟨b, -, rfl⟩ := List.mem_map.mp member
    cases Text.isDigit_of_mem_ofNat dot

theorem isSome_parseIpv4?_showIpv4 (n : Nat) : (parseIpv4? (showIpv4 n)).isSome = true := by
  have read : ((ipv4Bytes n).map Text.ofNat).mapM octet? = some (ipv4Bytes n) := by
    rw [Reading.mapM_eq_some, List.map_map]
    exact List.map_congr_left fun b member => octet?_ofNat b (ipv4Bytes_lt n b member)
  rw [parseIpv4?, splitOn_showIpv4, read]
  rfl

theorem mem_showIpv4 {n : Nat} {c : Char} (member : c ∈ showIpv4 n) : c = '.' ∨ c.isDigit = true := by
  rcases Text.mem_of_mem_join member with dot | ⟨part, there, inside⟩
  · exact Or.inl (List.mem_singleton.mp dot)
  · obtain ⟨b, -, rfl⟩ := List.mem_map.mp there
    exact Or.inr (Text.isDigit_of_mem_ofNat inside)

theorem lower_showIpv4 (n : Nat) : (showIpv4 n).lower = showIpv4 n := by
  apply Text.lower_eq_self
  intro c member
  rcases mem_showIpv4 member with rfl | digit
  · decide
  · exact Text.toLower_of_isDigit digit

theorem dropEnd_showIpv4 (n : Nat) : Text.dropEnd (· == '.') (showIpv4 n) = showIpv4 n := by
  obtain ⟨k, parts⟩ := Text.splitOn_dropEnd '.' (showIpv4 n)
  cases k with
  | zero =>
      rw [List.replicate_zero, List.append_nil] at parts
      rw [← Text.join_splitOn '.' (Text.dropEnd _ _), ← parts, Text.join_splitOn]
  | succ k =>
      have empty : [] ∈ Text.splitOn '.' (showIpv4 n) := by
        rw [parts, List.replicate_succ]
        exact List.mem_append_right _ List.mem_cons_self
      rw [splitOn_showIpv4] at empty
      obtain ⟨b, -, nothing⟩ := List.mem_map.mp empty
      exact absurd nothing Nat.toDigits_ne_nil

theorem octet?_eq_none {part : Text} {c : Char} (member : c ∈ part)
    (other : Text.digit? 10 c = none) : octet? part = none := by
  rw [octet?, Text.toNat?_eq_none member other, ite_self]

theorem parseIpv4?_eq_none {t : Text} {c : Char} (member : c ∈ t) (other : Text.digit? 10 c = none)
    (apart : c ≠ '.') : parseIpv4? t = none := by
  obtain ⟨part, there, inside⟩ := Text.exists_part member apart
  have unread : (Text.splitOn '.' t).mapM octet? = none :=
    Reading.mapM_eq_none.mpr ⟨part, there, octet?_eq_none inside other⟩
  rw [parseIpv4?, unread]

/-! ### Loosely written -/

theorem length_labels {host : Text} {n : Nat} (read : parseLooseIpv4? host = some n) :
    (Text.splitOn '.' (Text.dropEnd (· == '.') host)).length ≤ 4 := by
  obtain ⟨k, parts⟩ := Text.splitOn_dropEnd '.' host
  have few : ¬4 < (if (Text.splitOn '.' host).getLast? = some [] then
      (Text.splitOn '.' host).dropLast else Text.splitOn '.' host).length := by
    intro many
    simp only [parseLooseIpv4?, if_pos many, reduceCtorEq] at read
  split at few
  · rename_i last
    rw [parts, List.length_dropLast, List.length_append, List.length_replicate] at few
    cases k with
    | succ k => omega
    | zero =>
        rw [parts, List.replicate_zero, List.append_nil] at last
        rw [Text.getLast?_splitOn_dropEnd last]
        decide
  · rw [parts, List.length_append] at few
    omega

/-! ## Version 6 -/

theorem parsePiece?_eq_none {part : Text} {c : Char} (member : c ∈ part)
    (other : Text.digit? 16 c = none) : parsePiece? part = none := by
  rw [parsePiece?, Text.toNat?_eq_none member other, ite_self]

theorem parsePieces?_eq_none {tail : Bool} {parts : List Text} {part : Text} {c : Char}
    (there : part ∈ parts) (member : c ∈ part) (hex : Text.digit? 16 c = none)
    (decimal : Text.digit? 10 c = none) (apart : c ≠ '.') : parsePieces? tail parts = none := by
  induction parts with
  | nil => cases there
  | cons first rest ih =>
      rcases List.mem_cons.mp there with rfl | later
      · have no_piece := parsePiece?_eq_none member hex
        cases rest with
        | nil => simp [parsePieces?, no_piece, parseIpv4?_eq_none member decimal apart]
        | cons next rest => simp [parsePieces?, no_piece]
      · cases rest with
        | nil => cases later
        | cons next rest => simp [parsePieces?, ih later]

theorem cutDoubleColon?_eq_some {t left right : Text} (cut : cutDoubleColon? t = some (left, right)) :
    t = left ++ "::" ++ right := by
  fun_induction cutDoubleColon? t generalizing left with
  | case1 => cases cut
  | case2 r =>
      cases cut
      rfl
  | case3 c r _ ih =>
      simp only [Option.map_eq_some_iff, Prod.exists, Prod.mk.injEq] at cut
      obtain ⟨front, back, found, rfl, rfl⟩ := cut
      rw [ih found]
      rfl

theorem parseIpv6?_eq_none {t : Text} {c : Char} (member : c ∈ t) (hex : Text.digit? 16 c = none)
    (decimal : Text.digit? 10 c = none) (stop : c ≠ '.') (colon : c ≠ ':') :
    parseIpv6? t = none := by
  have unread {tail : Bool} {side : Text} (inside : c ∈ side) :
      parsePieces? tail (if side = [] then [] else Text.splitOn ':' side) = none := by
    obtain ⟨part, there, here⟩ := Text.exists_part inside colon
    rw [if_neg (List.ne_nil_of_mem inside)]
    exact parsePieces?_eq_none there here hex decimal stop
  simp only [parseIpv6?]
  cases cut : cutDoubleColon? t with
  | none => simp [unread member]
  | some sides =>
      rw [cutDoubleColon?_eq_some cut, List.append_assoc, List.mem_append, List.mem_append] at member
      rcases member with left | between | right
      · simp [unread left]
      · simp [colon] at between
      · simp [unread right]

theorem mem_showIpv6 {pieces : List Nat} {c : Char} (member : c ∈ showIpv6 pieces) :
    c = ':' ∨ ∃ d < 16, c = Nat.digitChar d := by
  have joined {ns : List Nat} (inside : c ∈ Text.join [':'] (ns.map (Nat.toDigits 16 ·))) :
      c = ':' ∨ ∃ d < 16, c = Nat.digitChar d := by
    rcases Text.mem_of_mem_join inside with colon | ⟨part, there, here⟩
    · exact Or.inl (List.mem_singleton.mp colon)
    · obtain ⟨n, -, rfl⟩ := List.mem_map.mp there
      exact Or.inr (Text.exists_digitChar here)
  simp only [showIpv6] at member
  split at member
  · simp only [List.append_assoc, List.mem_append] at member
    rcases member with front | between | back
    · exact joined front
    · exact Or.inl (by simpa using between)
    · exact joined back
  · exact joined member

theorem lower_showIpv6 (pieces : List Nat) : (showIpv6 pieces).lower = showIpv6 pieces := by
  have digits : ∀ d < 16, (Nat.digitChar d).toLower = Nat.digitChar d := by decide
  apply Text.lower_eq_self
  intro c member
  rcases mem_showIpv6 member with rfl | ⟨d, small, rfl⟩
  · decide
  · exact digits d small

theorem dot_not_mem_showIpv6 (pieces : List Nat) : '.' ∉ showIpv6 pieces := by
  have digits : ∀ d < 16, '.' ≠ Nat.digitChar d := by decide
  intro member
  rcases mem_showIpv6 member with colon | ⟨d, small, same⟩
  · cases colon
  · exact digits d small same

end FilteringProxy.Url
