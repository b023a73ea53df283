import FilteringProxy.Proofs.Text.Split
import FilteringProxy.Proofs.Text.Utf8
import FilteringProxy.Text.Blank
import FilteringProxy.Text.Lines

/-! # The lines of a text

A list is cut into lines as bytes. For a text these are its parts between line feeds, without the
carriage return that a part may end with, and without the last part if nothing is in it.
-/

namespace FilteringProxy.Lines

/-- Put bytes that end no line in front of the first line. -/
def prepend (bytes : Bytes) : List Bytes → List Bytes
  | [] => [bytes]
  | line :: lines => (bytes ++ line) :: lines

theorem split_cons {b : UInt8} {rest : Bytes} (inside : b ≠ 0x0A)
    (alone : b = 0x0D → rest.head? ≠ some 0x0A) : split (b :: rest) = prepend [b] (split rest) := by
  have no_end : (b = 0x0D && rest.head? == some 0x0A) = false := by
    rw [Bool.and_eq_false_imp, decide_eq_true_eq]
    exact fun ret => beq_eq_false_iff_ne.mpr (alone ret)
  rw [split, if_neg inside, no_end]
  cases split rest <;> rfl

theorem split_append {bytes : Bytes} (some_byte : bytes ≠ []) (high : ∀ b ∈ bytes, 128 ≤ b.toNat)
    (rest : Bytes) : split (bytes ++ rest) = prepend bytes (split rest) := by
  induction bytes with
  | nil => exact absurd rfl some_byte
  | cons b bytes ih =>
      rw [List.forall_mem_cons] at high
      have apart {d : UInt8} (low : d.toNat < 128) : b ≠ d := by
        rintro rfl
        exact Nat.not_lt.mpr high.1 low
      have first : split (b :: (bytes ++ rest)) = prepend [b] (split (bytes ++ rest)) :=
        split_cons (apart (by decide)) fun ret => absurd ret (apart (by decide))
      rw [List.cons_append, first]
      cases bytes with
      | nil =>
          rw [List.nil_append]
      | cons next bytes =>
          rw [ih (List.cons_ne_nil _ _) high.2]
          cases split rest <;> rfl

theorem split_encode_cons {c : Char} {t : Text} (inside : c ≠ '\n')
    (alone : c = '\r' → t.head? ≠ some '\n') :
    split (Utf8.encode (c :: t)) = prepend (String.utf8EncodeChar c) (split (Utf8.encode t)) := by
  rw [Utf8.encode_cons]
  by_cases beyond : 127 < c.val.toNat
  · exact split_append String.utf8EncodeChar_ne_nil (Utf8.le_of_mem_utf8EncodeChar beyond) _
  · have ascii : c.toNat < 0x80 := Nat.lt_succ_of_le (Nat.not_lt.mp beyond)
    have back {b : UInt8} (same : UInt8.ofNat c.toNat = b) : c = Char.ofNat b.toNat := by
      rw [← same, Utf8.toNat_ofNat (by omega), Char.ofNat_toNat]
    rw [Utf8.utf8EncodeChar_ascii ascii, List.singleton_append]
    refine split_cons (fun feed => inside (back feed)) fun ret first => ?_
    exact alone (back ret) (Utf8.head?_of_encode (by decide) first)

/-- The lines that belong to the parts of a text between line feeds. -/
inductive Ended : List Text → List Text → Prop where
  /-- Nothing stands behind the last line feed. -/
  | nothing : Ended [[]] []
  /-- No line feed ends the last line. -/
  | last {line : Text} (some_char : line ≠ []) : Ended [line] [line]
  | feed {line : Text} {parts lines : List Text} (later : Ended parts lines) :
      Ended (line :: parts) (line :: lines)
  /-- A carriage return before the line feed belongs to the end of the line. -/
  | returned {line : Text} {parts lines : List Text} (later : Ended parts lines) :
      Ended ((line ++ ['\r']) :: parts) (line :: lines)

theorem Ended.prepend {c : Char} {part : Text} {parts lines : List Text}
    (ended : Ended (part :: parts) lines) :
    ∃ longer, Ended ((c :: part) :: parts) longer ∧
      Lines.prepend (String.utf8EncodeChar c) (lines.map Utf8.encode) =
        longer.map Utf8.encode := by
  cases ended with
  | nothing => exact ⟨[[c]], .last (List.cons_ne_nil _ _), by simp [Lines.prepend, Utf8.encode]⟩
  | last => exact ⟨[c :: part], .last (List.cons_ne_nil _ _), rfl⟩
  | feed later => exact ⟨_, .feed later, rfl⟩
  | @returned line _ lines later =>
      have longer : Ended ((c :: line ++ ['\r']) :: parts) ((c :: line) :: lines) :=
        .returned later
      exact ⟨_, longer, rfl⟩

theorem Ended.returned_nil {parts lines : List Text} (ended : Ended ([] :: parts) lines)
    (some_part : parts ≠ []) : Ended (['\r'] :: parts) lines := by
  generalize whole : [] :: parts = row at ended
  cases ended with
  | nothing => exact absurd (List.cons.inj whole).2 some_part
  | last => exact absurd (List.cons.inj whole).2 some_part
  | feed later =>
      obtain ⟨rfl, rfl⟩ := List.cons.inj whole
      have returned : Ended (([] ++ ['\r']) :: parts) ([] :: _) := .returned later
      exact returned
  | @returned line _ _ later =>
      exact absurd (List.cons.inj whole).1.symm (List.append_ne_nil_of_right_ne_nil _ (by decide))

/-- The bytes of a text are cut into the bytes of its lines. -/
theorem exists_split_encode (t : Text) :
    ∃ lines, Ended (Text.splitOn '\n' t) lines ∧
      split (Utf8.encode t) = lines.map Utf8.encode := by
  induction t with
  | nil => exact ⟨[], .nothing, rfl⟩
  | cons c t ih =>
      obtain ⟨lines, ended, cut⟩ := ih
      by_cases feed : c = '\n'
      · subst feed
        refine ⟨[] :: lines, .feed ended, ?_⟩
        rw [List.map_cons, ← cut]
        rfl
      · obtain ⟨part, parts, whole, longer⟩ := Text.splitOn_cons feed t
        rw [longer]
        rw [whole] at ended
        by_cases before : c = '\r' ∧ t.head? = some '\n'
        · obtain ⟨rfl, first⟩ := before
          obtain ⟨rest, rfl⟩ : ∃ rest, t = '\n' :: rest := List.head?_eq_some_iff.mp first
          obtain ⟨rfl, rfl⟩ : [] = part ∧ Text.splitOn '\n' rest = parts := List.cons.inj whole
          exact ⟨lines, ended.returned_nil (Text.splitOn_ne_nil _ _), cut⟩
        · obtain ⟨lines', ended', same⟩ := ended.prepend (c := c)
          refine ⟨lines', ended', ?_⟩
          rw [split_encode_cons feed fun ret first => before ⟨ret, first⟩, cut, same]

theorem texts_encode (lines : List Text) : ofBytes.texts (lines.map Utf8.encode) = lines := by
  induction lines with
  | nil => rfl
  | cons line lines ih => simp only [List.map_cons, ofBytes.texts, Utf8.decode?_encode, ih]

/-- The lines of a text are its parts, but for what belongs to their ends. -/
theorem ended_ofBytes (t : Text) : Ended (Text.splitOn '\n' t) (ofBytes (Utf8.encode t)) := by
  obtain ⟨lines, ended, cut⟩ := exists_split_encode t
  rwa [ofBytes, cut, texts_encode]

theorem ofBytes_encode {t : Text} (filled : t ≠ []) (single : '\n' ∉ t) :
    ofBytes (Utf8.encode t) = [t] := by
  have ended := ended_ofBytes t
  rw [Text.splitOn_of_not_mem single] at ended
  generalize ofBytes (Utf8.encode t) = lines at ended
  cases ended with
  | nothing => exact absurd rfl filled
  | last => rfl
  | feed later => cases later
  | returned later => cases later

/-- Line ends make no difference to what trimmed lines have on them. -/
theorem Ended.filter_trim {parts lines : List Text} (ended : Ended parts lines)
    (wanted : Text → Bool) (blank : wanted [] = false) :
    (lines.map Text.trim).filter wanted = (parts.map Text.trim).filter wanted := by
  induction ended with
  | nothing => exact (List.filter_cons_of_neg (Bool.eq_false_iff.mp blank)).symm
  | last => rfl
  | feed later ih => rw [List.map_cons, List.map_cons, List.filter_cons, List.filter_cons, ih]
  | @returned line _ _ later ih =>
      have trimmed : (line ++ ['\r']).trim = line.trim := Text.trimWith_append_singleton rfl line
      rw [List.map_cons, List.map_cons, List.filter_cons, List.filter_cons, ih, trimmed]

end FilteringProxy.Lines
