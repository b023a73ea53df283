import FilteringProxy.Proofs.Reading
import FilteringProxy.Proofs.Text.Case
import FilteringProxy.Proofs.Text.Split
import FilteringProxy.Url.HostName

/-! # What the ASCII form of a host name keeps

A name that is already in ASCII only loses its capital letters. In any name, an ASCII character that
composes with no other passes through all four steps, so that a name with a forbidden one of them has
no ASCII form.
-/

namespace FilteringProxy

/-! ## Composing -/

namespace Unicode

variable {code other : Nat} {codes row : List Nat}

/-- An ASCII character that composes with no other. -/
structure IsLone (code : Nat) : Prop where
  ascii : code < 0x80
  closed : opensPair code = false

theorem IsLone.compose?_left (lone : IsLone code) (other : Nat) : compose? code other = none := by
  simp [compose?, lone.closed]

theorem IsLone.compose?_right (lone : IsLone code) (other : Nat) : compose? other code = none := by
  have low : code < 0x300 := lone.ascii.trans (by decide)
  simp [compose?, low]

theorem mem_insertMark : code ∈ insertMark other row ↔ code = other ∨ code ∈ row := by
  induction row with
  | nil => simp [insertMark]
  | cons c row ih =>
      rw [insertMark]
      split
      · exact List.mem_cons
      · rw [List.mem_cons, ih, List.mem_cons, or_left_comm]

theorem mem_orderMarks : code ∈ orderMarks codes ↔ code ∈ codes := by
  have run (row : List Nat) :
      code ∈ codes.foldl (fun row c => insertMark c row) row ↔ code ∈ row ∨ code ∈ codes := by
    induction codes generalizing row with
    | nil => simp
    | cons c codes ih =>
        rw [List.foldl_cons, ih, mem_insertMark, List.mem_cons, or_assoc, or_left_comm]
  rw [orderMarks, List.mem_reverse, run]
  exact or_iff_right List.not_mem_nil

/-- Putting together neither takes the character up nor leaves it out. -/
theorem IsLone.mem_putTogether (lone : IsLone code) {rest marks done : List Nat}
    {starter : Option Nat}
    (member : code ∈ rest ∨ code ∈ starter.toList ∨ code ∈ marks ∨ code ∈ done) :
    code ∈ putTogether rest starter marks done := by
  fun_induction putTogether rest starter marks done with
  | case1 => simp_all; tauto
  | case2 c rest marks done mark ih => exact ih (by simp_all; tauto)
  | case3 c rest marks done mark ih => exact ih (by simp_all; tauto)
  | case4 c rest s marks done blocked whole made ih =>
      rw [Option.ite_none_left_eq_some] at made
      have not_first : code ≠ s := by
        rintro rfl
        rw [lone.compose?_left] at made
        exact nomatch made.2
      have not_second : code ≠ c := by
        rintro rfl
        rw [lone.compose?_right] at made
        exact nomatch made.2
      exact ih (by simp_all; tauto)
  | case5 c rest s marks done blocked apart starts ih => exact ih (by simp_all; tauto)
  | case6 c rest s marks done blocked apart mark ih => exact ih (by simp_all; tauto)

theorem takeApartBy_of_ascii (ascii : code < 0x80) (partsOf? : Nat → Option Decomposition)
    (n : Nat) : takeApartBy partsOf? n code = [code] := by
  have low : code < 0xC0 := by omega
  cases n with
  | zero => rfl
  | succ n => rw [takeApartBy, if_pos low]

theorem takeApart_of_ascii (ascii : code < 0x80) : takeApart code = [code] :=
  takeApartBy_of_ascii ascii _ 8

theorem IsLone.mem_composed (lone : IsLone code) (member : code ∈ codes) :
    code ∈ composed codes := by
  rw [composed]
  split
  · exact member
  · apply lone.mem_putTogether
    rw [mem_orderMarks, List.mem_flatMap]
    refine Or.inl ⟨code, member, ?_⟩
    rw [takeApart_of_ascii lone.ascii]
    exact List.mem_singleton_self code

theorem composed_of_ascii (ascii : ∀ c ∈ codes, c < 0x80) : composed codes = codes := by
  refine if_pos (List.all_eq_true.mpr fun c member => decide_eq_true ?_)
  exact (ascii c member).trans (by decide)

end Unicode

/-! ## Labels -/

namespace Url

open Unicode (IsLone)

variable {code : Nat} {codes label : List Nat}

namespace Punycode

theorem out_pass (plain m : Nat) (w : Writer) (code : Nat) : w.out <+: (w.pass plain m code).out := by
  rw [Writer.pass]
  split
  · exact List.prefix_rfl
  split
  · exact List.prefix_append _ _
  · exact List.prefix_rfl

theorem out_foldl (plain m : Nat) (w : Writer) (codes : List Nat) :
    w.out <+: (codes.foldl (Writer.pass plain m) w).out := by
  induction codes generalizing w with
  | nil => exact List.prefix_rfl
  | cons code codes ih => exact (out_pass plain m w code).trans (ih _)

theorem out_writeValues (codes : List Nat) (plain : Nat) (values : List Nat) (n : Nat)
    (w : Writer) : w.out <+: (writeValues codes plain values n w).out := by
  induction values generalizing n w with
  | nil => exact List.prefix_rfl
  | cons m values ih =>
      let moved : Writer := { w with delta := w.delta + (m - n) * (w.written + 1) }
      let passed := codes.foldl (Writer.pass plain m) moved
      have here : w.out <+: passed.out := out_foldl plain m moved codes
      exact here.trans (ih (m + 1) { passed with delta := passed.delta + 1 })

theorem mem_encode (ascii : code < 0x80) (member : code ∈ codes) :
    Char.ofNat code ∈ encode codes := by
  apply (out_writeValues ..).subset
  have plain : code ∈ codes.filter (· < 0x80) :=
    List.mem_filter.mpr ⟨member, decide_eq_true ascii⟩
  exact List.mem_append_left _ (List.mem_map_of_mem plain)

end Punycode

theorem labelCodes?_eq_some (read : labelCodes? label = some codes) :
    labelText codes = label.map Char.ofNat ∨ codes = label ∧ label.all (· < 0x80) = false := by
  rw [labelCodes?] at read
  cases marked : Text.after? "xn--" (label.map Char.ofNat) with
  | none =>
      simp only [marked, Option.ite_none_right_eq_some, Option.some.injEq] at read
      obtain ⟨-, rfl⟩ := read
      cases ascii : label.all (· < 0x80) with
      | false => exact Or.inr ⟨rfl, rfl⟩
      | true => exact Or.inl (if_pos ascii)
  | some tail =>
      simp only [marked, Option.ite_none_right_eq_some] at read
      obtain ⟨ascii, read⟩ := read
      split at read
      · simp only [Option.ite_none_left_eq_some, Option.ite_none_right_eq_some, Option.some.injEq,
          Bool.or_eq_true, not_or, beq_iff_eq] at read
        obtain ⟨⟨beyond, -⟩, same, rfl⟩ := read
        rw [labelText, if_neg beyond, same]
        exact Or.inl (Text.after?_eq_some marked).symm
      · cases read

theorem labelText_of_ascii (read : labelCodes? label = some codes)
    (ascii : label.all (· < 0x80) = true) : labelText codes = label.map Char.ofNat := by
  refine (labelCodes?_eq_some read).resolve_right fun beyond => ?_
  rw [ascii] at beyond
  cases beyond.2

theorem mem_labelText (read : labelCodes? label = some codes) (ascii : code < 0x80)
    (member : code ∈ label) : Char.ofNat code ∈ labelText codes := by
  rcases labelCodes?_eq_some read with same | ⟨rfl, beyond⟩
  · rw [same]
    exact List.mem_map_of_mem member
  · rw [labelText, if_neg (Bool.eq_false_iff.mp beyond)]
    exact List.mem_append_right _ (Punycode.mem_encode ascii member)

/-! ## Names -/

theorem mapCode_of_ascii : ∀ n < 0x80, mapCode n = [(Char.ofNat n).toLower.toNat] := by
  decide

theorem mapCode_of_lone : ∀ n < 0x80, Unicode.opensPair n = false → mapCode n = [n] := by
  decide

theorem flatMap_mapCode {t : Text} (ascii : ∀ c ∈ t, c.toNat < 0x80) :
    (t.map Char.toNat).flatMap mapCode = t.lower.map Char.toNat := by
  have each (c : Char) (member : c ∈ t) : mapCode c.toNat = [c.toLower.toNat] := by
    rw [mapCode_of_ascii c.toNat (ascii c member), Char.ofNat_toNat]
  rw [List.flatMap_map, List.flatMap_congr each, Text.lower, List.map_map]
  exact List.map_eq_flatMap.symm

theorem map_ofNat_toNat (t : Text) : (t.map Char.toNat).map Char.ofNat = t := by
  simp [Function.comp_def, Char.ofNat_toNat]

theorem splitLabels_map (t : Text) :
    splitLabels (t.map Char.toNat) = (Text.splitOn '.' t).map (·.map Char.toNat) := by
  rw [splitLabels, map_ofNat_toNat]

theorem mem_splitLabels {c : Char} (member : c.toNat ∈ codes) (other : c ≠ '.') :
    ∃ label ∈ splitLabels codes, c.toNat ∈ label := by
  have there : c ∈ codes.map Char.ofNat := by
    have shown := List.mem_map_of_mem (f := Char.ofNat) member
    rwa [Char.ofNat_toNat] at shown
  obtain ⟨part, split, inside⟩ := Text.exists_part there other
  exact ⟨part.map Char.toNat, List.mem_map_of_mem split, List.mem_map_of_mem inside⟩

/-- How a name in ASCII form comes about. -/
theorem hostName?_eq_some {t name : Text} (read : hostName? t = some name) :
    (t.all (·.toNat < 0x80) = true ∧ name = t.lower ∧ t.any isForbidden = false) ∨
      ∃ labels,
        (splitLabels (Unicode.composed ((t.map Char.toNat).flatMap mapCode))).mapM labelCodes? =
          some labels ∧
        name = Text.join ['.'] (labels.map labelText) ∧ name.any isForbidden = false := by
  simp only [hostName?] at read
  split at read
  · rename_i plain
    rw [Bool.and_eq_true] at plain
    simp only [Option.ite_none_left_eq_some, Option.some.injEq, Bool.not_eq_true] at read
    exact Or.inl ⟨plain.1, read.2.symm, read.1⟩
  · split at read
    · cases read
    · rename_i labels found
      simp only [Option.ite_none_left_eq_some, Option.some.injEq, Bool.not_eq_true] at read
      obtain ⟨-, allowed, rfl⟩ := read
      exact Or.inr ⟨labels, found, rfl, allowed⟩

theorem hostName?_of_ascii {t name : Text} (ascii : ∀ c ∈ t, c.toNat < 0x80)
    (read : hostName? t = some name) : name = t.lower := by
  rcases hostName?_eq_some read with ⟨-, same, -⟩ | ⟨labels, found, rfl, -⟩
  · exact same
  · have low : ∀ code ∈ t.lower.map Char.toNat, code < 0x80 := by
      simp only [Text.lower, List.map_map, List.forall_mem_map, Function.comp_apply]
      exact fun c member => Text.toNat_toLower_lt (ascii c member)
    rw [flatMap_mapCode ascii, Unicode.composed_of_ascii low, splitLabels_map] at found
    have written : labels.map labelText = Text.splitOn '.' t.lower := by
      have parts := Reading.map_of_mapM found (h := (·.map Char.ofNat)) (by
        intro label member codes read
        obtain ⟨part, inside, rfl⟩ := List.mem_map.mp member
        refine labelText_of_ascii read (List.all_eq_true.mpr fun code here => decide_eq_true ?_)
        obtain ⟨c, there, rfl⟩ := List.mem_map.mp here
        exact low _ (List.mem_map_of_mem (Text.mem_part inside there).2))
      rw [parts, List.map_map]
      exact (List.map_congr_left fun part _ => map_ofNat_toNat part).trans (List.map_id _)
    rw [written, Text.join_splitOn]

/-- A name with a forbidden character that nothing composes with has no ASCII form. -/
theorem not_mem_of_hostName? {t name : Text} {c : Char} (lone : IsLone c.toNat)
    (forbidden : isForbidden c = true) (read : hostName? t = some name) : c ∉ t := by
  intro member
  rcases hostName?_eq_some read with ⟨-, -, allowed⟩ | ⟨labels, found, rfl, allowed⟩
  · exact List.any_eq_false.mp allowed c member forbidden
  · have mapped : c.toNat ∈ (t.map Char.toNat).flatMap mapCode := by
      rw [List.mem_flatMap]
      refine ⟨c.toNat, List.mem_map_of_mem member, ?_⟩
      rw [mapCode_of_lone _ lone.ascii lone.closed]
      exact List.mem_singleton_self _
    have inside_dot : c ≠ '.' := by
      rintro rfl
      cases forbidden
    obtain ⟨label, there, inside⟩ := mem_splitLabels (lone.mem_composed mapped) inside_dot
    obtain ⟨codes, kept, read⟩ := Reading.exists_result found there
    have last : c ∈ labelText codes := by
      have shown := mem_labelText read lone.ascii inside
      rwa [Char.ofNat_toNat] at shown
    have whole : c ∈ Text.join ['.'] (labels.map labelText) :=
      Text.mem_join (List.mem_map_of_mem kept) last
    exact List.any_eq_false.mp allowed c whole forbidden

end Url

end FilteringProxy
