import FilteringProxy.Proofs.Modifier.Faults
import FilteringProxy.Proofs.Rule.Line

/-! # The forms of a line

A line is a hosts line, or it is tried for four more forms, one after another. All of them end the
address at the first dollar sign and want something behind that, so the first form that fits is
told by how the address begins, and no form fits a line without an address that has no modifiers
either, or with nothing behind its dollar sign.
-/

namespace FilteringProxy

namespace RuleLine

variable {line address : Text} {written : Option Text}

/-! ## Hosts lines -/

/-- The line has an address for unwanted hosts, a blank, and something behind it; more blanks would
do. -/
def IsHostsForm (line : Text) : Prop :=
  ∃ address ∈ sinkholeAddresses, ∃ (blank : Char) (rest : Text),
    isBlank blank = true ∧ rest ≠ [] ∧ line = address ++ blank :: rest

theorem isSome_hostsPart?_iff (single : '\n' ∉ line) :
    (hostsPart? line).isSome = true ↔ IsHostsForm line := by
  constructor
  · intro named
    unfold hostsPart? at named
    split at named
    · cases named
    · rename_i rest found
      obtain ⟨address, sinkhole, behind⟩ := List.exists_of_findSome?_eq_some found
      have whole := Text.after?_eq_some behind
      cases rest with
      | nil => cases named
      | cons c rest =>
          cases blank : isBlank c with
          | false => simp [blank] at named
          | true =>
              refine ⟨address, sinkhole, c, rest, blank, ?_, whole⟩
              rintro rfl
              simp [blank] at named
  · intro form
    obtain ⟨address, sinkhole, blank, rest, is_blank, full, rfl⟩ := form
    rw [hostsPart?, findSome?_sinkhole sinkhole]
    simp only [List.takeWhile_cons_of_pos is_blank, List.dropWhile_cons_of_pos is_blank,
      List.cons_ne_nil, if_false]
    split_ifs with silent enough broken
    · rfl
    · -- nothing but blanks: the last of them is none that ends a line
      have all : rest.takeWhile isBlank = rest := by
        have parts := List.takeWhile_append_dropWhile (p := isBlank) (l := rest)
        rwa [silent, List.append_nil] at parts
      refine absurd ⟨?_, ?_⟩ enough
      · rw [all, List.length_cons]
        have some_rest := List.length_pos_iff.mpr full
        omega
      · rw [all]
        intro last
        exact single (List.mem_append_right _ (List.mem_of_getLast? last))
    · refine absurd ?_ single
      have member := (List.dropWhile_sublist isBlank).subset (List.contains_iff_mem.mp broken)
      exact List.mem_append_right _ (List.mem_cons_of_mem _ member)
    · rfl

/-! ## The first dollar sign -/

/-- What is written behind an address: nothing, or modifiers behind a dollar sign. -/
def behindAddress : Option Text → Text
  | none => []
  | some modifiers => '$' :: modifiers

/-- The line is an address up to its first dollar sign, and what stands behind that. -/
structure CutAt (line address : Text) (written : Option Text) : Prop where
  whole : line = address ++ behindAddress written
  first : '$' ∉ address

theorem cutModifiers_eq_iff :
    cutModifiers line = (address, written) ↔ CutAt line address written := by
  constructor
  · intro cut
    unfold cutModifiers at cut
    split at cut
    · rename_i found
      cases cut
      obtain ⟨whole, absent⟩ := Text.cut?_eq_some found
      exact ⟨whole, absent⟩
    · rename_i absent
      cases cut
      exact ⟨(List.append_nil _).symm, Text.cut?_eq_none.mp absent⟩
  · intro cut
    obtain ⟨rfl, absent⟩ := cut
    cases written with
    | none =>
        have uncut := Text.cut?_eq_none.mpr absent
        simp [cutModifiers, behindAddress, uncut]
    | some modifiers => simp [cutModifiers, behindAddress, Text.cut?_append absent]

namespace CutAt

theorem unique {front : Text} {behind : Option Text} (cut : CutAt line address written)
    (other : CutAt line front behind) : front = address ∧ behind = written := by
  have same := (cutModifiers_eq_iff.mpr other).symm.trans (cutModifiers_eq_iff.mpr cut)
  exact Prod.mk.inj same

theorem cons {c : Char} (plain : c ≠ '$') (cut : CutAt line address written) :
    CutAt (c :: line) (c :: address) written where
  whole := by rw [cut.whole, List.cons_append]
  first := by simp [plain.symm, cut.first]

theorem of_cons {c : Char} (cut : CutAt line (c :: address) written) :
    ∃ rest, line = c :: rest ∧ CutAt rest address written :=
  ⟨_, cut.whole, rfl, fun member => cut.first (List.mem_cons_of_mem c member)⟩

end CutAt

/-! ## Forms -/

/-- The line has the form of an anchor with this address and these modifiers. -/
inductive Fits : Text → Anchor → Text → Option Text → Prop
  | domain {rest address : Text} {written : Option Text} (full : address ≠ [])
      (cut : CutAt rest address written) (ends : areModifiers written = true) :
      Fits ('|' :: '|' :: rest) .domain address written
  | address {rest address : Text} {c : Char} {written : Option Text} (other : c ≠ '|')
      (cut : CutAt rest (c :: address) written) (ends : areModifiers written = true) :
      Fits ('|' :: rest) .address (c :: address) written
  | anywhere {line address : Text} {written : Option Text} (full : address ≠ [])
      (cut : CutAt line address written) (ends : areModifiers written = true) :
      Fits line .anywhere address written
  | everything {modifiers : Text} (ends : areModifiers (some modifiers) = true) :
      Fits ('$' :: modifiers) .everything [] (some modifiers)

/-- The forms that are tried before that of an anchor. -/
def earlier : Anchor → List Anchor
  | .domain => []
  | .address => [.domain]
  | .anywhere => [.domain, .address]
  | .everything => [.domain, .address, .anywhere]

/-- The form of an anchor is the first that fits the line. -/
structure IsFirst (line : Text) (anchor : Anchor) (address : Text) (written : Option Text) :
    Prop where
  fits : Fits line anchor address written
  misfits : ∀ other ∈ earlier anchor, ∀ address written, ¬ Fits line other address written

/-- The part before the first dollar sign begins as a form wants it. -/
inductive Opens : Text → Anchor → Text → Prop
  | domain {address : Text} (full : address ≠ []) : Opens ('|' :: '|' :: address) .domain address
  | address {address : Text} {c : Char} (other : c ≠ '|') :
      Opens ('|' :: c :: address) .address (c :: address)
  | anywhere {address : Text} (full : address ≠ []) : Opens address .anywhere address
  | everything : Opens [] .everything []

/-- All forms cut a line at its first dollar sign. -/
theorem fits_iff {front : Text} {anchor : Anchor} {behind : Option Text}
    (cut : CutAt line front behind) :
    Fits line anchor address written ↔
      Opens front anchor address ∧ written = behind ∧ areModifiers written = true ∧
        (front = [] → written ≠ none) := by
  constructor
  · intro fits
    cases fits with
    | domain full inner ends =>
        obtain ⟨rfl, rfl⟩ := cut.unique ((inner.cons (by decide)).cons (by decide))
        exact ⟨.domain full, rfl, ends, nofun⟩
    | address other inner ends =>
        obtain ⟨rfl, rfl⟩ := cut.unique (inner.cons (by decide))
        exact ⟨.address other, rfl, ends, nofun⟩
    | anywhere full inner ends =>
        obtain ⟨rfl, rfl⟩ := cut.unique inner
        exact ⟨.anywhere full, rfl, ends, fun empty => absurd empty full⟩
    | @everything modifiers ends =>
        have inner : CutAt ('$' :: modifiers) [] (some modifiers) := ⟨rfl, List.not_mem_nil⟩
        obtain ⟨rfl, rfl⟩ := cut.unique inner
        exact ⟨.everything, rfl, ends, nofun⟩
  · intro parts
    obtain ⟨opens, rfl, ends, told⟩ := parts
    cases opens with
    | domain full =>
        obtain ⟨_, rfl, second⟩ := cut.of_cons
        obtain ⟨_, rfl, inner⟩ := second.of_cons
        exact .domain full inner ends
    | address other =>
        obtain ⟨_, rfl, inner⟩ := cut.of_cons
        exact .address other inner ends
    | anywhere full => exact .anywhere full cut ends
    | everything =>
        cases written with
        | none => exact absurd rfl (told rfl)
        | some modifiers =>
            cases cut.whole
            exact .everything ends

/-! ## The beginning of an address -/

/-- How an address can begin, each address in one way only. -/
inductive Begins : Text → Anchor → Text → Prop
  | nothing : Begins [] .everything []
  /-- Bars with nothing behind them are an address themselves. -/
  | bars {address : Text} (short : address = ['|'] ∨ address = ['|', '|']) :
      Begins address .anywhere address
  | domain {c : Char} {rest : Text} : Begins ('|' :: '|' :: c :: rest) .domain (c :: rest)
  | address {c : Char} {rest : Text} (other : c ≠ '|') :
      Begins ('|' :: c :: rest) .address (c :: rest)
  | plain {c : Char} {rest : Text} (other : c ≠ '|') : Begins (c :: rest) .anywhere (c :: rest)

theorem exists_begins (front : Text) : ∃ anchor address, Begins front anchor address := by
  cases front with
  | nil => exact ⟨_, _, .nothing⟩
  | cons c rest =>
      by_cases first : c = '|'
      · subst first
        cases rest with
        | nil => exact ⟨_, _, .bars (.inl rfl)⟩
        | cons c rest =>
            by_cases second : c = '|'
            · subst second
              cases rest with
              | nil => exact ⟨_, _, .bars (.inr rfl)⟩
              | cons c rest => exact ⟨_, _, .domain⟩
            · exact ⟨_, _, .address second⟩
      · exact ⟨_, _, .plain first⟩

/-- The anchor and the address that a text in front of the first dollar sign stands for. -/
def placement (address : Text) : Anchor × Text :=
  if "||" <+: address ∧ 2 < address.length then (.domain, address.drop 2)
  else if "|" <+: address ∧ (address.drop 1).head?.any (· != '|') then (.address, address.drop 1)
  else if address = [] then (.everything, [])
  else (.anywhere, address)

namespace Begins

variable {front : Text} {anchor : Anchor}

theorem anchorOf_eq (begins : Begins front anchor address) :
    anchorOf front = (anchor, address) := by
  cases begins with
  | nothing | domain => rfl
  | bars short => rcases short with rfl | rfl <;> rfl
  | address other => simp [anchorOf, other]
  | plain other => simp [anchorOf, other]

theorem placement_eq (begins : Begins front anchor address) :
    placement front = (anchor, address) := by
  cases begins with
  | nothing => rfl
  | bars short => rcases short with rfl | rfl <;> rfl
  | domain => simp [placement, List.cons_prefix_cons]
  | address other => simp [placement, List.cons_prefix_cons, other, other.symm]
  | plain other => simp [placement, List.cons_prefix_cons, other.symm]

theorem opens (begins : Begins front anchor address) : Opens front anchor address := by
  cases begins with
  | nothing => exact .everything
  | bars short => exact .anywhere (by rcases short with rfl | rfl <;> simp)
  | domain => exact .domain (by simp)
  | address other => exact .address other
  | plain => exact .anywhere (by simp)

/-- No form that is tried earlier wants this beginning. -/
theorem not_opens (begins : Begins front anchor address) :
    ∀ other ∈ earlier anchor, ∀ a, ¬ Opens front other a := by
  intro other member a opens
  cases opens with
  | domain full =>
      cases begins with
      | bars short => simp [full] at short
      | domain => simp [earlier] at member
      | address apart | plain apart => exact apart rfl
  | address apart =>
      cases begins with
      | bars short => simp [apart] at short
      | domain => exact apart rfl
      | address => simp [earlier] at member
      | plain apart => exact apart rfl
  | anywhere full =>
      cases begins with
      | nothing => exact full rfl
      | bars | domain | address | plain => simp [earlier] at member
  | everything =>
      cases begins with
      | nothing => simp [earlier] at member
      | bars short => simp at short

end Begins

theorem Opens.unique {front address' : Text} {anchor : Anchor} (opens : Opens front anchor address)
    (other : Opens front anchor address') : address = address' := by
  cases opens <;> cases other <;> rfl

theorem earlier_or_later (anchor other : Anchor) :
    anchor = other ∨ anchor ∈ earlier other ∨ other ∈ earlier anchor := by
  cases anchor <;> cases other <;> decide

theorem anchorOf_eq_placement (address : Text) : anchorOf address = placement address := by
  obtain ⟨anchor, rest, begins⟩ := exists_begins address
  rw [begins.anchorOf_eq, begins.placement_eq]

theorem anchorOf_eq_iff {front : Text} {anchor : Anchor} :
    anchorOf front = (anchor, address) ↔
      Opens front anchor address ∧ ∀ other ∈ earlier anchor, ∀ a, ¬ Opens front other a := by
  obtain ⟨found, rest, begins⟩ := exists_begins front
  rw [begins.anchorOf_eq]
  constructor
  · intro same
    cases same
    exact ⟨begins.opens, begins.not_opens⟩
  · intro first
    obtain ⟨opens, misfits⟩ := first
    rcases earlier_or_later found anchor with rfl | before | after
    · rw [begins.opens.unique opens]
    · exact absurd begins.opens (misfits found before rest)
    · exact absurd opens (begins.not_opens anchor after address)

/-! ## The first form that fits -/

theorem exists_fits_iff (cut : CutAt line address written) :
    (∃ anchor a w, Fits line anchor a w) ↔
      areModifiers written = true ∧ (address = [] → written ≠ none) := by
  constructor
  · intro fitting
    obtain ⟨anchor, a, w, fits⟩ := fitting
    obtain ⟨-, rfl, ends, told⟩ := (fits_iff cut).mp fits
    exact ⟨ends, told⟩
  · intro parts
    obtain ⟨ends, told⟩ := parts
    obtain ⟨opens, -⟩ := anchorOf_eq_iff.mp (rfl : anchorOf address = (_, (anchorOf address).2))
    exact ⟨_, _, _, (fits_iff cut).mpr ⟨opens, rfl, ends, told⟩⟩

theorem isFirst_iff {front : Text} {anchor : Anchor} {behind : Option Text}
    (cut : CutAt line front behind) :
    IsFirst line anchor address written ↔
      anchorOf front = (anchor, address) ∧ written = behind ∧ areModifiers written = true ∧
        (front = [] → written ≠ none) := by
  rw [anchorOf_eq_iff]
  constructor
  · intro first
    obtain ⟨opens, same, ends, told⟩ := (fits_iff cut).mp first.fits
    refine ⟨⟨opens, fun other member a opens' => ?_⟩, same, ends, told⟩
    exact first.misfits other member a written ((fits_iff cut).mpr ⟨opens', same, ends, told⟩)
  · intro parts
    obtain ⟨⟨opens, misfits⟩, same, ends, told⟩ := parts
    refine ⟨(fits_iff cut).mpr ⟨opens, same, ends, told⟩, fun other member a w fits => ?_⟩
    exact misfits other member a ((fits_iff cut).mp fits).1

/-- The line is cut off at its dollar sign, or there is nothing on it. -/
def IsFormless (address : Text) (written : Option Text) : Prop :=
  address = [] ∧ (written = none ∨ written = some []) ∨ written = some []

instance (address : Text) (written : Option Text) : Decidable (IsFormless address written) :=
  inferInstanceAs (Decidable (_ ∨ _))

theorem isFormless_iff (single : '\n' ∉ line) (cut : CutAt line address written) :
    (!areModifiers written || (address = [] && written.isNone)) = true ↔
      IsFormless address written := by
  cases written with
  | none => simp [areModifiers, IsFormless]
  | some modifiers =>
      have inside : '\n' ∉ modifiers := by
        rw [cut.whole] at single
        simp only [behindAddress, List.mem_append, List.mem_cons, not_or] at single
        exact single.2.2
      simp [areModifiers, IsFormless, inside]

theorem modifiersOf_readsModifiers (written : Option Text) :
    ReadsModifiers (modifiersOf written) := by
  cases written with
  | none => exact .ok _
  | some written => exact ModifierSet.parse_readsModifiers written

theorem accepted_iff :
    (!areModifiers written || (address = [] && written.isNone)) = false ↔
      areModifiers written = true ∧ (address = [] → written ≠ none) := by
  cases areModifiers written <;> simp [Option.isSome_iff_ne_none]

theorem not_isFormless_iff (single : '\n' ∉ line) (cut : CutAt line address written) :
    ¬ IsFormless address written ↔
      areModifiers written = true ∧ (address = [] → written ≠ none) := by
  rw [← isFormless_iff single cut, Bool.not_eq_true, accepted_iff]

/-- A line that is no hosts line says what the first form that fits it says. -/
theorem parse_eq_pattern_iff {anchor : Anchor} {modifiers : ModifierSet}
    (unnamed : hostsPart? line = none) :
    parse line = .ok (.pattern anchor address modifiers) ↔
      ∃ written, IsFirst line anchor address written ∧ modifiersOf written = .ok modifiers := by
  constructor
  · intro accepted
    generalize said : RuleLine.pattern anchor address modifiers = r at accepted
    cases parse_eq_ok.mp accepted with
    | hosts named => cases said
    | pattern _ cut full read =>
        cases said
        obtain ⟨ends, told⟩ := accepted_iff.mp full
        exact ⟨_, (isFirst_iff (cutModifiers_eq_iff.mp cut)).mpr ⟨rfl, rfl, ends, told⟩, read⟩
  · intro found
    obtain ⟨written, first, read⟩ := found
    generalize cut : cutModifiers line = parts
    obtain ⟨front, behind⟩ := parts
    obtain ⟨anchored, rfl, ends, told⟩ := (isFirst_iff (cutModifiers_eq_iff.mp cut)).mp first
    have said := Says.pattern unnamed cut (accepted_iff.mpr ⟨ends, told⟩) read
    rw [anchored] at said
    exact parse_eq_ok.mpr said

theorem parse_eq_unknownFormat_iff (unnamed : hostsPart? line = none) :
    parse line = .error .unknownFormat ↔
      ∀ anchor address written, ¬ Fits line anchor address written := by
  generalize parts : cutModifiers line = cut
  obtain ⟨front, behind⟩ := cut
  have cut := cutModifiers_eq_iff.mp parts
  have fitting : (∀ anchor address written, ¬ Fits line anchor address written) ↔
      ¬ ∃ anchor address written, Fits line anchor address written := by
    simp only [not_exists]
  rw [fitting, exists_fits_iff cut, ← accepted_iff, Bool.not_eq_false, parse_pattern unnamed parts]
  split
  · rename_i refused
    simp [refused]
  · rename_i accepted
    simp only [accepted, Bool.false_eq_true, iff_false]
    intro failed
    cases read : modifiersOf behind with
    | error fault =>
        rw [read] at failed
        cases failed
        exact modifiersOf_readsModifiers behind read
    | ok modifiers =>
        rw [read] at failed
        cases failed

theorem parse_eq_error_iff {fault : RuleError} (single : '\n' ∉ line)
    (unnamed : hostsPart? line = none) (cut : CutAt line address written)
    (formed : ¬ IsFormless address written) :
    parse line = .error fault ↔
      ∃ modifiers, written = some modifiers ∧ ModifierSet.parse modifiers = .error fault := by
  have accepted := accepted_iff.mpr ((not_isFormless_iff single cut).mp formed)
  rw [parse_pattern unnamed (cutModifiers_eq_iff.mpr cut), accepted, if_neg Bool.false_ne_true]
  cases written with
  | none => simp [modifiersOf, Except.map]
  | some modifiers =>
      cases read : ModifierSet.parse modifiers with
      | error other => simp [modifiersOf, read, Except.map]
      | ok set => simp [modifiersOf, read, Except.map]

end RuleLine

end FilteringProxy
