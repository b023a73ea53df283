import FilteringProxy.Proofs.Modifier.Context
import FilteringProxy.Proofs.Modifier.DomainList
import FilteringProxy.Proofs.Modifier.Listing

/-! # Inverted conditions

Of a condition and its inversion exactly one holds where the request tells what they ask for, and
neither holds where it does not. In a list of entries the sign of inversion stands before every
entry or before none: signs before all of them invert the condition, and signs before some of them
make the list unreadable.
-/

namespace FilteringProxy

open Http (Request)

/-! ## Complements -/

/-- Exactly one of two answers is given where something is known, and none where it is not. -/
structure Complement (known : Request → Prop) (holds opposite : Request → Bool) : Prop where
  one : ∀ r, known r → holds r = !opposite r
  neither : ∀ r, ¬ known r → holds r = false ∧ opposite r = false

/-- Inversion is the complement of a test on what a request tells. -/
theorem Complement.of_context {α : Type} {known : Request → Prop} {holds opposite : Request → Bool}
    (context? : Request → Option α) (test : α → Bool) {inverted : Bool}
    (knows : ∀ r, known r ↔ (context? r).isSome = true)
    (straight : ∀ r, holds r = (context? r).any fun a => test a != inverted)
    (turned : ∀ r, opposite r = (context? r).any fun a => test a != !inverted) :
    Complement known holds opposite := by
  constructor
  · intro r known
    obtain ⟨a, told⟩ := Option.isSome_iff_exists.mp ((knows r).mp known)
    simp [straight, turned, told]
  · intro r unknown
    have silent : context? r = none := by
      rw [← Option.not_isSome_iff_eq_none, ← knows]
      exact unknown
    simp [straight, turned, silent]

namespace Http.Request

/-- The request tells a host to ask about: that of its page, or its own. -/
def KnowsHost (r : Request) : Prop :=
  (∃ page, r.pageHost? = some page) ∨ ∃ host, r.host? = some host

def KnowsDestination (r : Request) : Prop := ∃ dest, r.headerText? "sec-fetch-dest" = some dest

/-- The request tells whether it crosses sites. -/
inductive KnowsSites (r : Request) : Prop
  | announced {site : Text} (read : r.headerText? "sec-fetch-site" = some site)
      (decides : site = ("cross-site" : Text) ∨ site = ("same-origin" : Text) ∨
        site = ("same-site" : Text))
  /-- Nothing readable is announced, but the sites of page and target can be compared. -/
  | compared {page host : Text} (silent : r.headerText? "sec-fetch-site" = none)
      (from_page : r.pageHost? = some page) (to_host : r.host? = some host)

theorem knowsHost_iff (r : Request) : r.KnowsHost ↔ (r.pageHost?.or r.host?).isSome = true := by
  rw [KnowsHost, Option.isSome_or, Bool.or_eq_true, Option.isSome_iff_exists,
    Option.isSome_iff_exists]

theorem knowsDestination_iff (r : Request) : r.KnowsDestination ↔ r.announced?.isSome = true := by
  rw [KnowsDestination, announced?, Option.isSome_map, Option.isSome_iff_exists]

theorem knowsSites_iff (lookup? : Text → Option Text) (r : Request) :
    r.KnowsSites ↔ (PartyCondition.crossesBy? lookup? r).isSome = true := by
  unfold PartyCondition.crossesBy?
  constructor
  · intro known
    cases known with
    | announced read decides =>
        simp only [read]
        split_ifs with cross same
        · rfl
        · rfl
        · simp only [Bool.or_eq_true, decide_eq_true_eq] at same
          exact absurd (decides.resolve_left cross) same
    | compared silent from_page to_host =>
        rw [silent, from_page, to_host]
        rfl
  · intro told
    split at told
    · rename_i site read
      split_ifs at told with cross same
      · exact .announced read (.inl cross)
      · simp only [Bool.or_eq_true, decide_eq_true_eq] at same
        exact .announced read (.inr same)
      · cases told
    · rename_i silent
      split at told
      · rename_i from_page to_host
        exact .compared silent from_page to_host
      · cases told

end Http.Request

/-- The same entries, inverted if they were not. -/
def DomainCondition.opposite (c : DomainCondition) : DomainCondition :=
  { c with inverted := !c.inverted }

def MethodCondition.opposite (c : MethodCondition) : MethodCondition :=
  { c with inverted := !c.inverted }

theorem DomainCondition.complement (c : DomainCondition) :
    Complement Request.KnowsHost c.holds c.opposite.holds :=
  .of_context (fun r => r.pageHost?.or r.host?) (fun host => c.entries.any (·.covers host))
    Request.knowsHost_iff c.holds_eq c.opposite.holds_eq

theorem MethodCondition.complement (c : MethodCondition) :
    Complement (fun _ => True) c.holds c.opposite.holds :=
  .of_context (fun r => some r.method) (fun method => c.methods.any (· == method))
    (fun _ => by simp) (fun _ => rfl) fun _ => rfl

theorem ContentCondition.complement (kind : ContentType) :
    Complement Request.KnowsDestination (holds ⟨kind, false⟩) (holds ⟨kind, true⟩) :=
  .of_context Request.announced? (· == kind) Request.knowsDestination_iff (holds_eq _) (holds_eq _)

theorem PartyCondition.complement (lookup? : Text → Option Text) :
    Complement Request.KnowsSites (holdsBy lookup? ⟨false⟩) (holdsBy lookup? ⟨true⟩) :=
  .of_context (crossesBy? lookup?) id (Request.knowsSites_iff lookup?) (holdsBy_eq lookup? _)
    (holdsBy_eq lookup? _)

/-! ## The sign of inversion before a name -/

/-- The name is written for a condition, and with the sign before it for the inverted one. -/
structure Modifier.Names (name : Text) (condition : Bool → Condition) : Prop where
  straight : parse name = .ok (some (.condition (condition false)))
  inverted : parse ('~' :: name) = .ok (some (.condition (condition true)))

theorem ContentType.names_content {name : Text} {kind : ContentType}
    (named : ofName? name = some kind) :
    Modifier.Names name fun inverted => .content ⟨kind, inverted⟩ := by
  have whole : Text.trim name = name ∧ Text.trim ('~' :: name) = '~' :: name := by
    have member := mem_names named
    clear named
    revert name
    decide
  constructor
  · exact Modifier.parse_eq_content.mpr ⟨name, whole.1, named⟩
  · exact Modifier.parse_eq_content.mpr ⟨name, whole.2, named⟩

theorem PartyCondition.names_party :
    ∀ name ∈ ["third-party", "3p"].map String.toList,
      Modifier.Names name fun inverted => .party ⟨inverted⟩ := by
  intro name member
  simp only [List.map_cons, List.map_nil, List.mem_cons, List.not_mem_nil, or_false] at member
  rcases member with rfl | rfl <;> exact ⟨by rfl, by rfl⟩

/-! ## The sign of inversion before entries -/

namespace EntryList

/-- The text begins neither an expression nor with a sign, and holds no bar. -/
structure IsBare (t : Text) : Prop where
  bar : '|' ∉ t
  slash : t.head? ≠ some '/'
  sign : t.head? ≠ some '~'

/-- A list in writing, with a sign before some of its entries. -/
def write (entries : List (Bool × Text)) : Text := Text.join ['|'] (entries.map signed)

variable {entry : Bool × Text} {entries : List (Bool × Text)}

theorem split_signed_behind (bare : IsBare entry.2) (rest : Option Text) :
    split (signed entry ++ behind rest) = signed entry :: entriesBehind rest := by
  obtain ⟨inverted, t⟩ := entry
  have unsigned : (t ++ behind rest).head? ≠ some '~' := by
    cases t with
    | nil => cases rest <;> simp [behind]
    | cons c t => simpa using bare.sign
  rw [signed_append, split_signed unsigned, splitFrom_inverted_behind bare.bar bare.slash,
    foldr_extend]
  cases inverted <;> rfl

theorem split_write (some_entry : entries ≠ []) (bare : ∀ entry ∈ entries, IsBare entry.2) :
    split (write entries) = entries.map signed := by
  induction entries with
  | nil => exact absurd rfl some_entry
  | cons entry entries ih =>
      obtain ⟨here, later⟩ := List.forall_mem_cons.mp bare
      cases entries with
      | nil => simpa [behind, entriesBehind, write, Text.join] using split_signed_behind here none
      | cons next entries =>
          have cut := split_signed_behind here (some (write (next :: entries)))
          rw [entriesBehind, ih (by simp) later] at cut
          simpa [behind, write, Text.join] using cut

variable {α : Type} {name : ModifierName} {check : Text → Text → Except RuleError Unit}
  {make : Text → Except RuleError α} {inverted : Bool} {values : List α}

theorem isRead_signed_iff (bare : IsBare entry.2) {value : α} :
    IsRead check make inverted (signed entry) value ↔
      entry.1 = inverted ∧ check (signed entry) entry.2 = .ok () ∧ make entry.2 = .ok value := by
  have parts := inversion_signed bare.sign
  have sign := congrArg Prod.fst parts
  have text := congrArg Prod.snd parts
  constructor
  · intro read
    exact ⟨sign ▸ read.sign, text ▸ read.checked, text ▸ read.made⟩
  · intro read
    obtain ⟨same, checked, made⟩ := read
    exact ⟨sign.trans same, text.symm ▸ checked, text.symm ▸ made⟩

/-- A list in writing is read as its entries if all of them have the sign of the condition. -/
theorem parse_signed_iff (some_entry : entries ≠ []) (bare : ∀ entry ∈ entries, IsBare entry.2) :
    parse name check make none (split (write entries)) = .ok (inverted, values) ↔
      (∀ entry ∈ entries, entry.1 = inverted) ∧
        List.Forall₂ (fun entry value => check (signed entry) entry.2 = .ok () ∧
          make entry.2 = .ok value) entries values := by
  rw [split_write some_entry bare, parse_none_eq_ok (by simpa using some_entry),
    List.forall₂_map_left_iff, ← List.forall₂_and_left]
  have known (R : Bool × Text → α → Prop) :
      List.Forall₂ R entries values ↔
        List.Forall₂ (fun entry value => IsBare entry.2 ∧ R entry value) entries values := by
    rw [List.forall₂_and_left, and_iff_right bare]
  refine (known _).trans (Iff.trans ?_ (known _).symm)
  simp only [and_congr_right fun bare => isRead_signed_iff bare]

/-- What signs before the entries of a list in writing do to what is read. -/
structure Inverts {γ : Type} (parseList : Text → Except RuleError γ) (opposite : γ → γ) :
    Prop where
  every : ∀ texts : List Text, texts ≠ [] → (∀ t ∈ texts, IsBare t) → ∀ c,
    parseList (write (texts.map (false, ·))) = .ok c ↔
      parseList (write (texts.map (true, ·))) = .ok (opposite c)
  mixed : ∀ entries : List (Bool × Text), (∀ entry ∈ entries, IsBare entry.2) →
    (∃ entry ∈ entries, entry.1 = true) → (∃ entry ∈ entries, entry.1 = false) →
      ∃ fault, parseList (write entries) = .error fault

theorem Inverts.of_parse {γ : Type} {parseList : Text → Except RuleError γ} {opposite : γ → γ}
    {sign : γ → Bool} {values : γ → List α}
    (reads : ∀ value c, parseList value = .ok c ↔
      parse name check make none (split value) = .ok (sign c, values c))
    (blind : ∀ raw raw' t, check raw t = .ok () → check raw' t = .ok ())
    (turned : ∀ c, sign (opposite c) = !sign c) (kept : ∀ c, values (opposite c) = values c) :
    Inverts parseList opposite := by
  constructor
  · intro texts some_text bare c
    have all_bare (s : Bool) : ∀ entry ∈ texts.map (s, ·), IsBare entry.2 := by
      simpa using bare
    have some_entry (s : Bool) : texts.map (s, ·) ≠ [] := by simpa using some_text
    have checked (raw raw' t : Text) : check raw t = .ok () ↔ check raw' t = .ok () :=
      ⟨blind raw raw' t, blind raw' raw t⟩
    obtain ⟨t, member⟩ := List.exists_mem_of_ne_nil texts some_text
    have signs (s s' : Bool) : (∀ entry ∈ texts.map (s, ·), entry.1 = s') ↔ s = s' := by
      simp only [List.forall_mem_map]
      exact ⟨fun all => all t member, fun same _ _ => same⟩
    rw [reads, reads, parse_signed_iff (some_entry false) (all_bare false),
      parse_signed_iff (some_entry true) (all_bare true), signs, signs, turned, kept,
      List.forall₂_map_left_iff, List.forall₂_map_left_iff]
    simp only [checked _ []]
    cases sign c <;> simp
  · intro entries bare with_sign without_sign
    obtain ⟨first, first_member, first_sign⟩ := with_sign
    obtain ⟨second, second_member, second_sign⟩ := without_sign
    cases read : parseList (write entries) with
    | error fault => exact ⟨fault, rfl⟩
    | ok c =>
        have all := ((parse_signed_iff (List.ne_nil_of_mem first_member) bare).mp
          ((reads _ c).mp read)).1
        have same := (all first first_member).trans (all second second_member).symm
        rw [first_sign, second_sign] at same
        cases same

end EntryList

theorem DomainCondition.inverts : EntryList.Inverts parse opposite :=
  .of_parse (fun _ _ => parse_eq_ok) (fun _ _ _ accepted => accepted) (fun _ => rfl) fun _ => rfl

namespace MethodCondition

def checkEntry (raw entry : Text) : Except RuleError Unit :=
  if entry ≠ [] ∧ entry.all Char.isAlpha then return ()
  else throw (.invalidModifier .method (.badMethod raw))

theorem parse_eq_ok {value : Text} {methods : List Text} {inverted : Bool} :
    parse value = .ok ⟨methods, inverted⟩ ↔
      EntryList.parse .method checkEntry (fun entry => .ok entry.upper) none
        (EntryList.split value) = .ok (inverted, methods) := by
  apply EntryList.gather_eq_ok
  intro _ _ _ _ same
  exact mk.inj same

theorem inverts : EntryList.Inverts parse opposite := by
  refine .of_parse (fun _ _ => parse_eq_ok) ?_ (fun _ => rfl) fun _ => rfl
  intro raw raw' t accepted
  unfold checkEntry at accepted ⊢
  split at accepted
  · rename_i good
    rw [if_pos good]
    rfl
  · cases accepted

end MethodCondition

/-- Inversion is complement where the context is known and silence where it is not. Signs before
all entries of a list invert it, and signs before some of them make it unreadable. -/
theorem Condition.inversion_sound :
    (∀ c : DomainCondition, Complement Request.KnowsHost c.holds c.opposite.holds) ∧
    (∀ c : MethodCondition, Complement (fun _ => True) c.holds c.opposite.holds) ∧
    (∀ kind, Complement Request.KnowsDestination
      (ContentCondition.holds ⟨kind, false⟩) (ContentCondition.holds ⟨kind, true⟩)) ∧
    (∀ name kind, ContentType.ofName? name = some kind →
      Modifier.Names name fun inverted => .content ⟨kind, inverted⟩) ∧
    (∀ lookup? : Text → Option Text, Complement Request.KnowsSites
      (PartyCondition.holdsBy lookup? ⟨false⟩) (PartyCondition.holdsBy lookup? ⟨true⟩)) ∧
    (∀ name ∈ ["third-party", "3p"].map String.toList,
      Modifier.Names name fun inverted => .party ⟨inverted⟩) ∧
    EntryList.Inverts DomainCondition.parse DomainCondition.opposite ∧
    EntryList.Inverts MethodCondition.parse MethodCondition.opposite :=
  ⟨DomainCondition.complement, MethodCondition.complement, ContentCondition.complement,
    fun _ _ => ContentType.names_content, PartyCondition.complement, PartyCondition.names_party,
    DomainCondition.inverts, MethodCondition.inverts⟩

/-- A list of domains with no sign, with both signs and with one of them, and two requests: one
with an unreadable page for a known host, and one that tells no host at all. -/
theorem Condition.inversion_sound_domains :
    let c : DomainCondition := ⟨[.below "a.com", .anyTop "b."], false⟩
    let aimed : Request :=
      ⟨"GET", ⟨some "http", "a.com", "/", none⟩, .http11, ⟨[⟨"referer", [255]⟩]⟩⟩
    let aimless : Request := ⟨"GET", ⟨none, [], "/", none⟩, .http11, ⟨[]⟩⟩
    DomainCondition.parse "a.com|B.*" = .ok c ∧
      DomainCondition.parse "~a.com|~B.*" = .ok c.opposite ∧
      (∃ fault, DomainCondition.parse "a.com|~B.*" = .error fault) ∧
      c.holds aimed = (!c.opposite.holds aimed) ∧
      c.holds aimless = false ∧ c.opposite.holds aimless = false := by
  intro c aimed aimless
  obtain ⟨domain, -, -, -, -, -, ⟨every, mixed⟩, -⟩ := inversion_sound
  have bare : ∀ t ∈ (["a.com", "B.*"] : List String).map String.toList, EntryList.IsBare t := by
    intro t member
    simp only [List.map_cons, List.map_nil, List.mem_cons, List.not_mem_nil, or_false] at member
    rcases member with rfl | rfl <;> exact ⟨by decide, by decide, by decide⟩
  have straight : DomainCondition.parse "a.com|B.*" = .ok c := by rfl
  have turned : DomainCondition.parse "~a.com|~B.*" = .ok c.opposite :=
    (every _ (by simp) bare c).mp straight
  have some_signs : ∃ fault, DomainCondition.parse "a.com|~B.*" = .error fault := by
    have marked := mixed [(false, "a.com"), (true, "B.*")]
    exact marked (by simpa using bare) ⟨_, .tail _ (.head _), rfl⟩ ⟨_, .head _, rfl⟩
  have known : aimed.KnowsHost := .inr ⟨"a.com".toList, by rfl⟩
  have unknown : ¬ aimless.KnowsHost := by
    rw [Request.knowsHost_iff]
    decide
  exact ⟨straight, turned, some_signs, (domain c).one aimed known,
    (domain c).neither aimless unknown⟩

end FilteringProxy
