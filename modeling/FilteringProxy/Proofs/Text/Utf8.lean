import FilteringProxy.Proofs.Reading
import FilteringProxy.Proofs.Text.Case
import FilteringProxy.Text.Utf8

/-! # Texts and their bytes

The bytes of a text determine it, and reading them gives it back. A text that is a part of another
has no more bytes, and letter case makes no difference.
-/

namespace FilteringProxy.Utf8

/-! ## Size -/

theorem foldl_size (t : Text) (n : Nat) :
    t.foldl (fun n c => n + c.utf8Size) n = n + size t := by
  induction t generalizing n with
  | nil => rfl
  | cons c t ih =>
      change t.foldl _ (n + c.utf8Size) = n + t.foldl _ (0 + c.utf8Size)
      rw [ih, ih, Nat.zero_add, Nat.add_assoc]

theorem size_cons (c : Char) (t : Text) : size (c :: t) = c.utf8Size + size t := by
  rw [size, List.foldl_cons, Nat.zero_add, foldl_size]

theorem size_append (s t : Text) : size (s ++ t) = size s + size t := by
  rw [size, List.foldl_append, foldl_size, ← size]

theorem size_pos {t : Text} (h : t ≠ []) : 0 < size t := by
  cases t with
  | nil => exact absurd rfl h
  | cons c t =>
      rw [size_cons]
      exact Nat.lt_add_right _ c.utf8Size_pos

theorem size_le (t : Text) : size t ≤ 4 * t.length := by
  induction t with
  | nil => exact Nat.le_refl _
  | cons c t ih =>
      have here := c.utf8Size_le_four
      rw [size_cons, List.length_cons]
      omega

theorem size_le_of_sublist {s t : Text} (sub : s.Sublist t) : size s ≤ size t := by
  induction sub with
  | slnil => exact Nat.le_refl _
  | cons c sub ih =>
      rw [size_cons]
      exact Nat.le_add_left_of_le ih
  | cons_cons c sub ih =>
      rw [size_cons, size_cons]
      exact Nat.add_le_add_left ih _

theorem size_lt_of_sublist {s t : Text} (sub : s.Sublist t) (apart : s ≠ t) : size s < size t := by
  induction sub with
  | slnil => exact absurd rfl apart
  | cons c sub ih =>
      have part := size_le_of_sublist sub
      have here := c.utf8Size_pos
      rw [size_cons]
      omega
  | cons_cons c sub ih =>
      have part := ih fun same => apart (congrArg _ same)
      rw [size_cons, size_cons]
      omega

theorem utf8Size_toLower (c : Char) : c.toLower.utf8Size = c.utf8Size := by
  rcases Text.toLower_cases c with same | ⟨_, high, moved⟩
  · rw [same]
  · have narrow {d : Char} (h : d.toNat ≤ 127) : d.utf8Size = 1 :=
      Char.utf8Size_eq_one_iff.mpr (UInt32.le_iff_toNat_le.mpr h)
    rw [narrow (by omega), narrow (by omega)]

theorem size_lower (t : Text) : size t.lower = size t := by
  induction t with
  | nil => rfl
  | cons c t ih =>
      have split : Text.lower (c :: t) = c.toLower :: Text.lower t := rfl
      rw [split, size_cons, size_cons, utf8Size_toLower, ih]

/-! ## Reading bytes back -/

theorem encode_append (s t : Text) : encode (s ++ t) = encode s ++ encode t :=
  List.flatMap_append

theorem encode_cons (c : Char) (t : Text) :
    encode (c :: t) = String.utf8EncodeChar c ++ encode t :=
  List.flatMap_cons

theorem encode_injective : Function.Injective encode := by
  intro s t same
  have bytes : s.utf8Encode = t.utf8Encode := congrArg List.toByteArray same
  have read := congrArg ByteArray.utf8Decode? bytes
  rw [List.utf8Decode?_utf8Encode, List.utf8Decode?_utf8Encode] at read
  exact (Array.mk.inj (Option.some.inj read))

theorem toNat_ofNat {n : Nat} (h : n < 256) : (UInt8.ofNat n).toNat = n :=
  UInt8.toNat_ofNat_of_lt h

theorem width_eq_one {b : UInt8} (h : b.toNat < 0x80) : width b = 1 := by
  rw [width, if_pos (UInt8.lt_iff_toNat_lt.mpr h)]

theorem not_lt_of_le {b : UInt8} (h : 0x80 ≤ b.toNat) : ¬ b < 0x80 := by
  rw [UInt8.lt_iff_toNat_lt]
  exact Nat.not_lt.mpr h

theorem width_eq_two {b : UInt8} (low : 0xC2 ≤ b.toNat) (high : b.toNat ≤ 0xDF) : width b = 2 := by
  have wide := not_lt_of_le (b := b) (by omega)
  simp [width, wide, UInt8.le_iff_toNat_le, low, high]

theorem width_eq_three {b : UInt8} (low : 0xE0 ≤ b.toNat) (high : b.toNat ≤ 0xEF) :
    width b = 3 := by
  have wide := not_lt_of_le (b := b) (by omega)
  have wider : ¬ b.toNat ≤ 0xDF := by omega
  simp [width, wide, UInt8.le_iff_toNat_le, low, high, wider]

theorem width_eq_four {b : UInt8} (low : 0xF0 ≤ b.toNat) (high : b.toNat ≤ 0xF4) : width b = 4 := by
  have wide := not_lt_of_le (b := b) (by omega)
  have wider : ¬ b.toNat ≤ 0xDF := by omega
  have widest : ¬ b.toNat ≤ 0xEF := by omega
  simp [width, wide, UInt8.le_iff_toNat_le, low, high, wider, widest]

theorem continues_iff {first last b : UInt8} :
    continues first last b = true ↔ first.toNat ≤ b.toNat ∧ b.toNat ≤ last.toNat := by
  rw [continues, Bool.and_eq_true, decide_eq_true_eq, decide_eq_true_eq, UInt8.le_iff_toNat_le,
    UInt8.le_iff_toNat_le]

/-- After some first bytes, the second one has narrower bounds than those that come later. -/
theorem continues_secondBounds {b c : UInt8} (later : 0x80 ≤ c.toNat ∧ c.toNat ≤ 0xBF)
    (short : b.toNat = 0xE0 → 0xA0 ≤ c.toNat) (surrogate : b.toNat = 0xED → c.toNat ≤ 0x9F)
    (short' : b.toNat = 0xF0 → 0x90 ≤ c.toNat) (large : b.toNat = 0xF4 → c.toNat ≤ 0x8F) :
    continues (secondBounds b).1 (secondBounds b).2 c = true := by
  rw [secondBounds, continues_iff]
  split_ifs with e0 ed f0 f4
  · exact ⟨short (congrArg UInt8.toNat e0), later.2⟩
  · exact ⟨later.1, surrogate (congrArg UInt8.toNat ed)⟩
  · exact ⟨short' (congrArg UInt8.toNat f0), later.2⟩
  · exact ⟨later.1, large (congrArg UInt8.toNat f4)⟩
  · exact later

theorem continues_ofNat {n : Nat} (small : n < 64) :
    continues 0x80 0xBF (UInt8.ofNat (n + 128)) = true := by
  rw [continues_iff, toNat_ofNat (by omega)]
  exact ⟨Nat.le_add_left _ _, Nat.le_of_lt_succ (Nat.add_lt_add_right small 128)⟩

theorem shiftIn_ofNat {code n : Nat} (small : n < 64) :
    shiftIn code (UInt8.ofNat (n + 128)) = code * 64 + n := by
  rw [shiftIn, toNat_ofNat (by omega)]
  omega

theorem read_of_width_two {b c : UInt8} (width : width b = 2)
    (second : continues (secondBounds b).1 (secondBounds b).2 c = true) (r : Bytes) :
    read (b :: c :: r) = some (Char.ofNat (shiftIn (b.toNat % 32) c)) :: read r := by
  rw [read.eq_def]
  simp [width, second]

theorem read_of_width_three {b c d : UInt8} (width : width b = 3)
    (second : continues (secondBounds b).1 (secondBounds b).2 c = true)
    (third : continues 0x80 0xBF d = true) (r : Bytes) :
    read (b :: c :: d :: r) =
      some (Char.ofNat (shiftIn (shiftIn (b.toNat % 16) c) d)) :: read r := by
  rw [read.eq_def]
  simp [width, second, third]

theorem read_of_width_four {b c d e : UInt8} (width : width b = 4)
    (second : continues (secondBounds b).1 (secondBounds b).2 c = true)
    (third : continues 0x80 0xBF d = true) (fourth : continues 0x80 0xBF e = true) (r : Bytes) :
    read (b :: c :: d :: e :: r) =
      some (Char.ofNat (shiftIn (shiftIn (shiftIn (b.toNat % 8) c) d) e)) :: read r := by
  rw [read.eq_def]
  simp [width, second, third, fourth]

/-- A character is read back from its bytes, whatever follows. -/
theorem read_utf8EncodeChar (c : Char) (r : Bytes) :
    read (String.utf8EncodeChar c ++ r) = some c :: read r := by
  have back : Char.ofNat c.val.toNat = c := Char.ofNat_toNat c
  have valid : c.val.toNat < 0xD800 ∨ 0xDFFF < c.val.toNat ∧ c.val.toNat < 0x110000 := c.valid
  rw [String.utf8EncodeChar.eq_1]
  generalize c.val.toNat = v at back valid
  split_ifs with one two three
  · have first : (UInt8.ofNat v).toNat = v := toNat_ofNat (by omega)
    rw [List.singleton_append, read.eq_def]
    dsimp only
    rw [if_pos (width_eq_one (by omega)), first, back]
  · have first : (UInt8.ofNat (v / 64 % 32 + 192)).toNat = v / 64 % 32 + 192 :=
      toNat_ofNat (by omega)
    have second : (UInt8.ofNat (v % 64 + 128)).toNat = v % 64 + 128 := toNat_ofNat (by omega)
    have whole : (v / 64 % 32 + 192) % 32 * 64 + v % 64 = v := by omega
    rw [List.cons_append, List.singleton_append, read_of_width_two, shiftIn_ofNat (by omega),
      first, whole, back]
    · apply width_eq_two <;> omega
    · apply continues_secondBounds <;> omega
  · have first : (UInt8.ofNat (v / 4096 % 16 + 224)).toNat = v / 4096 % 16 + 224 :=
      toNat_ofNat (by omega)
    have second : (UInt8.ofNat (v / 64 % 64 + 128)).toNat = v / 64 % 64 + 128 :=
      toNat_ofNat (by omega)
    have whole : ((v / 4096 % 16 + 224) % 16 * 64 + v / 64 % 64) * 64 + v % 64 = v := by omega
    rw [List.cons_append, List.cons_append, List.singleton_append, read_of_width_three,
      shiftIn_ofNat (by omega), shiftIn_ofNat (by omega), first, whole, back]
    · apply width_eq_three <;> omega
    · apply continues_secondBounds <;> omega
    · exact continues_ofNat (by omega)
  · have first : (UInt8.ofNat (v / 262144 % 8 + 240)).toNat = v / 262144 % 8 + 240 :=
      toNat_ofNat (by omega)
    have second : (UInt8.ofNat (v / 4096 % 64 + 128)).toNat = v / 4096 % 64 + 128 :=
      toNat_ofNat (by omega)
    have whole : (((v / 262144 % 8 + 240) % 8 * 64 + v / 4096 % 64) * 64 + v / 64 % 64) * 64 +
        v % 64 = v := by omega
    rw [List.cons_append, List.cons_append, List.cons_append, List.singleton_append,
      read_of_width_four, shiftIn_ofNat (by omega), shiftIn_ofNat (by omega),
      shiftIn_ofNat (by omega), first, whole, back]
    · apply width_eq_four <;> omega
    · apply continues_secondBounds <;> omega
    · exact continues_ofNat (by omega)
    · exact continues_ofNat (by omega)

theorem read_encode (t : Text) : read (encode t) = t.map some := by
  induction t with
  | nil => rfl
  | cons c t ih =>
      rw [encode, List.flatMap_cons, read_utf8EncodeChar, List.map_cons, ← ih, encode]

theorem decode?_encode (t : Text) : decode? (encode t) = some t := by
  rw [decode?, read_encode, Reading.mapM_eq_some, List.map_id]

/-! ## ASCII among the bytes -/

theorem utf8EncodeChar_ascii {c : Char} (ascii : c.toNat < 0x80) :
    String.utf8EncodeChar c = [UInt8.ofNat c.toNat] := by
  have short : c.val.toNat ≤ 127 := Nat.le_of_lt_succ ascii
  rw [String.utf8EncodeChar.eq_1, if_pos short]
  rfl

theorem encode_cons_ascii {b : UInt8} (ascii : b.toNat < 0x80) (t : Text) :
    encode (Char.ofNat b.toNat :: t) = b :: encode t := by
  have code : (Char.ofNat b.toNat).toNat = b.toNat := by
    have valid : b.toNat.isValidChar := Or.inl (by omega)
    rw [Char.ofNat, dif_pos valid]
    rfl
  have low : (Char.ofNat b.toNat).toNat < 0x80 := by rwa [code]
  rw [encode_cons, utf8EncodeChar_ascii low, code, UInt8.ofNat_toNat, List.singleton_append]

theorem le_of_mem_utf8EncodeChar {c : Char} (beyond : 127 < c.val.toNat) :
    ∀ b ∈ String.utf8EncodeChar c, 128 ≤ b.toNat := by
  rw [String.utf8EncodeChar.eq_1, if_neg (Nat.not_le.mpr beyond)]
  split
  · simp only [List.forall_mem_cons, UInt8.toNat_ofNat', List.not_mem_nil, false_implies,
      implies_true, and_true]
    omega
  · split
    · simp only [List.forall_mem_cons, UInt8.toNat_ofNat', List.not_mem_nil, false_implies,
      implies_true, and_true]
      omega
    · simp only [List.forall_mem_cons, UInt8.toNat_ofNat', List.not_mem_nil, false_implies,
      implies_true, and_true]
      omega

theorem mem_of_mem_encode {b : UInt8} (ascii : b.toNat < 0x80) {t : Text} (member : b ∈ encode t) :
    Char.ofNat b.toNat ∈ t := by
  obtain ⟨c, inside, byte⟩ := List.mem_flatMap.mp member
  by_cases beyond : 127 < c.val.toNat
  · have high := le_of_mem_utf8EncodeChar beyond b byte
    omega
  · have low : c.toNat < 0x80 := Nat.lt_succ_of_le (Nat.not_lt.mp beyond)
    rw [utf8EncodeChar_ascii low, List.mem_singleton] at byte
    rw [byte, toNat_ofNat (by omega), Char.ofNat_toNat]
    exact inside

theorem head?_of_encode {b : UInt8} (ascii : b.toNat < 0x80) {t : Text}
    (first : (encode t).head? = some b) : t.head? = some (Char.ofNat b.toNat) := by
  cases t with
  | nil => cases first
  | cons c t =>
      rw [encode_cons, List.head?_append_of_ne_nil _ String.utf8EncodeChar_ne_nil] at first
      have member : b ∈ encode [c] := by
        rw [encode, List.flatMap_singleton]
        exact List.mem_of_mem_head? first
      rw [List.mem_singleton.mp (mem_of_mem_encode ascii member), List.head?_cons]

theorem exists_cons_of_encode {b : UInt8} (ascii : b.toNat < 0x80) {t : Text} {bytes : Bytes}
    (whole : encode t = b :: bytes) :
    ∃ rest, t = Char.ofNat b.toNat :: rest ∧ encode rest = bytes := by
  have first := head?_of_encode ascii (t := t) (by rw [whole, List.head?_cons])
  obtain ⟨rest, rfl⟩ := List.head?_eq_some_iff.mp first
  rw [encode_cons_ascii ascii] at whole
  exact ⟨rest, rfl, (List.cons.inj whole).2⟩

theorem mem_encode {c : Char} (ascii : c.toNat < 0x80) {t : Text} (member : c ∈ t) :
    UInt8.ofNat c.toNat ∈ encode t := by
  refine List.mem_flatMap.mpr ⟨c, member, ?_⟩
  rw [utf8EncodeChar_ascii ascii]
  exact List.mem_singleton_self _

theorem le_secondBounds (b : UInt8) : 0x80 ≤ (secondBounds b).1.toNat := by
  rw [secondBounds]
  split_ifs <;> decide

/-- An ASCII byte is read as its character, as no other character takes it in. -/
theorem mem_read {b : UInt8} (ascii : b.toNat < 0x80) {bytes : Bytes} (member : b ∈ bytes) :
    some (Char.ofNat b.toNat) ∈ read bytes := by
  have behind {c : UInt8} {rest : Bytes} (apart : b ≠ c) (member : b ∈ c :: rest) : b ∈ rest :=
    (List.mem_cons.mp member).resolve_left apart
  have first {c : UInt8} (wide : ¬width c = 1) : b ≠ c := by
    rintro rfl
    exact wide (width_eq_one ascii)
  have next {low high c : UInt8} (bound : 0x80 ≤ low.toNat)
      (inside : continues low high c = true) : b ≠ c := by
    rintro rfl
    have above := (continues_iff.mp inside).1
    omega
  have second {c d low high : UInt8} (bounds : secondBounds c = (low, high))
      (taken : ¬(decide (width c = 0) || !continues low high d) = true) : b ≠ d := by
    have bound := le_secondBounds c
    rw [bounds] at bound
    simp only [Bool.or_eq_true, Bool.not_eq_true', not_or, Bool.not_eq_false] at taken
    exact next bound taken.2
  have later {d : UInt8} (taken : ¬(!continues 0x80 0xBF d) = true) : b ≠ d :=
    next (by decide : 0x80 ≤ (0x80 : UInt8).toNat) (by simpa using taken)
  fun_induction read bytes with
  | case1 => cases member
  | case2 c rest one ih =>
      rcases List.mem_cons.mp member with rfl | member
      · exact List.mem_cons_self
      · exact List.mem_cons_of_mem _ (ih member)
  | case3 c wide => exact absurd (behind (first wide) member) List.not_mem_nil
  | case4 c wide _ _ _ d rest _ ih => exact List.mem_cons_of_mem _ (ih (behind (first wide) member))
  | case5 c wide _ _ bounds d rest taken _ ih =>
      exact List.mem_cons_of_mem _ (ih (behind (second bounds taken) (behind (first wide) member)))
  | case6 c wide _ _ bounds d taken =>
      have none_left := behind (second bounds taken) (behind (first wide) member)
      cases none_left
  | case7 c wide _ _ bounds d taken _ e rest _ ih =>
      exact List.mem_cons_of_mem _ (ih (behind (second bounds taken) (behind (first wide) member)))
  | case8 c wide _ _ bounds d taken _ e rest more _ ih =>
      have left := behind (second bounds taken) (behind (first wide) member)
      exact List.mem_cons_of_mem _ (ih (behind (later more) left))
  | case9 c wide _ _ bounds d taken _ e more =>
      have left := behind (second bounds taken) (behind (first wide) member)
      exact absurd (behind (later more) left) List.not_mem_nil
  | case10 c wide _ _ bounds d taken _ e more _ f rest _ ih =>
      have left := behind (second bounds taken) (behind (first wide) member)
      exact List.mem_cons_of_mem _ (ih (behind (later more) left))
  | case11 c wide _ _ bounds d taken _ e more _ f rest last ih =>
      have left := behind (second bounds taken) (behind (first wide) member)
      exact List.mem_cons_of_mem _ (ih (behind (later last) (behind (later more) left)))

theorem mem_of_decode? {b : UInt8} (ascii : b.toNat < 0x80) {bytes : Bytes} {t : Text}
    (read : decode? bytes = some t) (member : b ∈ bytes) : Char.ofNat b.toNat ∈ t := by
  have whole := Reading.mapM_eq_some.mp read
  have found := mem_read ascii member
  rw [List.map_id] at whole
  rw [whole] at found
  simpa using found

end FilteringProxy.Utf8
