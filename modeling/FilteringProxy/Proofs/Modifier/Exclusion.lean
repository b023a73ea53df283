import FilteringProxy.Proofs.Modifier.Context
import FilteringProxy.Proofs.Modifier.Listing

/-! # Excluded kinds of content

A list can exclude kinds of content. All conditions on the kind of content are alternatives, those
that exclude one too, so an excluded kind is refused only if no other kind is excluded beside it.
-/

namespace FilteringProxy.ModifierSet

open Http (Request)

/-- The list excludes a kind of content. -/
def Excludes (list : Text) (kind : ContentType) : Prop :=
  ∃ raw ∈ Text.splitOn ',' list, Modifier.NamesContent raw kind true

/-- The list asks for no kind of content; it may exclude some. -/
def AsksForNone (list : Text) : Prop :=
  ∀ raw ∈ Text.splitOn ',' list, ∀ kind, ¬ Modifier.NamesContent raw kind false

instance (list : Text) (kind : ContentType) : Decidable (Excludes list kind) :=
  inferInstanceAs (Decidable (∃ raw ∈ Text.splitOn ',' list, Modifier.NamesContent raw kind true))

instance (list : Text) : Decidable (AsksForNone list) :=
  inferInstanceAs
    (Decidable (∀ raw ∈ Text.splitOn ',' list, ∀ kind, ¬ Modifier.NamesContent raw kind false))

theorem mem_contents_iff {list : Text} {s : ModifierSet} (read : parse list = .ok s)
    (kind : ContentType) (inverted : Bool) :
    .content ⟨kind, inverted⟩ ∈ s.contents ↔
      ∃ raw ∈ Text.splitOn ',' list, Modifier.NamesContent raw kind inverted := by
  simp [mem_contents_parse read, Condition.isContent, Modifier.parse_eq_content]

/-- What an excluding list says on the kind of content holds if some other kind is excluded. -/
theorem any_contents_iff {list : Text} {s : ModifierSet} {r : Request} {kind : ContentType}
    (read : parse list = .ok s) (unasked : AsksForNone list)
    (announced : r.announced? = some kind) :
    s.contents.any (·.holdsForRequest r) = true ↔ ∃ second ≠ kind, Excludes list second := by
  have holds (c : ContentCondition) : (Condition.content c).holdsForRequest r =
      ((kind == c.kind) != c.inverted) := by
    simp [Condition.holdsForRequest, ContentCondition.holds_eq, announced]
  rw [List.any_eq_true]
  constructor
  · intro some_holds
    obtain ⟨c, member, held⟩ := some_holds
    have content := ((mem_contents_parse read c).mp member).1
    cases c with
    | domain | method | party | header => cases content
    | content c =>
        obtain ⟨second, inverted⟩ := c
        obtain ⟨raw, entry, named⟩ := (mem_contents_iff read second inverted).mp member
        cases inverted with
        | false => exact absurd named (unasked raw entry second)
        | true =>
            refine ⟨second, ?_, raw, entry, named⟩
            intro same
            simp [holds, same] at held
  · intro another
    obtain ⟨second, apart, excluded⟩ := another
    refine ⟨.content ⟨second, true⟩, (mem_contents_iff read second true).mpr excluded, ?_⟩
    simp [holds, Ne.symm apart]

/-- For content of an excluded kind a list that asks for no kind holds exactly if its other
conditions hold and it excludes one more kind. So the only kind that a list excludes is refused,
whatever else the list says; with a second one beside it, the conditions on the kind of content
refuse nothing that is announced. -/
theorem holdsForRequest_excluded_iff {list : Text} {s : ModifierSet} {r : Request}
    {kind : ContentType} (read : parse list = .ok s) (unasked : AsksForNone list)
    (announced : r.announced? = some kind) (excluded : Excludes list kind) :
    s.holdsForRequest r = true ↔
      (∀ c ∈ s.required, c.holdsForRequest r = true) ∧ ∃ second ≠ kind, Excludes list second := by
  have some_content : s.contents.isEmpty = false := by
    rw [List.isEmpty_eq_false_iff]
    exact List.ne_nil_of_mem ((mem_contents_iff read kind true).mpr excluded)
  rw [holdsForRequest, holdsWhen, some_content, Bool.false_or, Bool.and_eq_true, List.all_eq_true,
    any_contents_iff read unasked announced]

/-- A rule for all content but scripts, with an address that would do, lets a script be. -/
theorem holdsForRequest_excluded_iff_script :
    let list : Text := "~script,~script,method=get"
    let r : Request :=
      { method := "GET", uri := ⟨some "http", "a.com", "/x", none⟩, version := .http11,
        headers := ⟨[⟨"sec-fetch-dest", Utf8.encode "script"⟩]⟩ }
    ∃ s, parse list = .ok s ∧ AsksForNone list ∧ r.announced? = some .script ∧
      Excludes list .script ∧ s.holdsForRequest r = false := by
  intro list r
  have accepted : (parse list).toOption.isSome = true := by decide +kernel
  obtain ⟨s, read⟩ := Option.isSome_iff_exists.mp accepted
  have read : parse list = .ok s := by
    cases parsed : parse list with
    | error fault => simp [parsed, Except.toOption] at read
    | ok t => simpa [parsed, Except.toOption] using read
  have unasked : AsksForNone list := by decide +kernel
  have announced : r.announced? = some .script := by decide +kernel
  have excluded : Excludes list .script := by decide +kernel
  refine ⟨s, read, unasked, announced, excluded, Bool.eq_false_iff.mpr fun held => ?_⟩
  obtain ⟨-, second, apart, other⟩ :=
    (holdsForRequest_excluded_iff read unasked announced excluded).mp held
  have only : ∀ kind, Excludes list kind → kind = .script := by decide +kernel
  exact apart (only second other)

/-- Scripts are excluded, and images too, and so a script is not refused: it is no image. -/
theorem excluded_script_holds :
    let list : Text := "~script,~image"
    let r : Request :=
      { method := "GET", uri := ⟨some "http", "a.com", "/x", none⟩, version := .http11,
        headers := ⟨[⟨"sec-fetch-dest", Utf8.encode "script"⟩]⟩ }
    AsksForNone list ∧ r.announced? = some .script ∧ Excludes list .script ∧
      (parse list).map (·.holdsForRequest r) = .ok true := by
  decide +kernel

end FilteringProxy.ModifierSet
