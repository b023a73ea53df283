import FilteringProxy.Modifier.Basic
import FilteringProxy.Proofs.Text.Split

/-! # The context of a request

All that conditions can learn about a request comes to four answers: its method, the page that it
counts for, the kind of content that is announced, and whether it is known to cross sites. Requests
with the same answers meet the same conditions, and other requests are told apart by some condition.
-/

namespace FilteringProxy

open Http (Request Response Exchange)

/-! ## What a condition looks at -/

namespace Http.Request

/-- The kind of content that the request is announced to be for. -/
def announced? (r : Request) : Option ContentType :=
  (r.headerText? "sec-fetch-dest").map ContentType.ofDestination

/-- The requests look the same to all conditions. -/
structure SameContext (r s : Request) : Prop where
  method : s.method = r.method
  page : s.pageHost?.or s.host? = r.pageHost?.or r.host?
  content : s.announced? = r.announced?
  crossing : PartyCondition.crossesSites? s = PartyCondition.crossesSites? r

/-- The names of the headers that conditions on a request read. -/
def contextNames : List Text := ["referer", "sec-fetch-dest", "sec-fetch-site"]

theorem SameContext.of_values {r s : Request} (method : s.method = r.method)
    (host : s.host? = r.host?)
    (kept : ∀ name ∈ contextNames, s.headers.values name = r.headers.values name) :
    r.SameContext s := by
  have text (name : Text) (member : name ∈ contextNames) :
      s.headerText? name = r.headerText? name := by
    rw [headerText?, headerText?, Headers.first?, Headers.first?, kept name member]
  have referer := text "referer" (by decide)
  have dest := text "sec-fetch-dest" (by decide)
  have site := text "sec-fetch-site" (by decide)
  have page : s.pageHost? = r.pageHost? := by rw [pageHost?, pageHost?, referer]
  constructor
  · exact method
  · rw [page, host]
  · rw [announced?, announced?, dest]
  · simp only [PartyCondition.crossesSites?, PartyCondition.crossesBy?, site, page, host]

end Http.Request

open Http.Request (SameContext)

namespace Condition

/-- The condition waits for a header of the response. -/
def readsResponse : Condition → Bool
  | header _ => true
  | _ => false

theorem holdsForExchange_eq {c : Condition} (blind : c.readsResponse = false) (e : Exchange) :
    c.holdsForExchange e = c.holdsForRequest e.request := by
  cases c with
  | header c => cases blind
  | domain | method | content | party => rfl

end Condition

theorem ContentCondition.holds_eq (c : ContentCondition) (r : Request) :
    c.holds r = r.announced?.any fun kind => (kind == c.kind) != c.inverted := by
  rw [ContentCondition.holds, Http.Request.announced?]
  cases r.headerText? "sec-fetch-dest" <;> rfl

theorem DomainCondition.holds_eq (c : DomainCondition) (r : Request) :
    c.holds r =
      (r.pageHost?.or r.host?).any fun host => (c.entries.any (·.covers host)) != c.inverted := by
  rw [DomainCondition.holds]
  cases r.pageHost?.or r.host? <;> rfl

theorem PartyCondition.holdsBy_eq (registrable? : Text → Option Text) (c : PartyCondition)
    (r : Request) :
    c.holdsBy registrable? r = (crossesBy? registrable? r).any (· != c.inverted) := by
  rw [PartyCondition.holdsBy]
  cases crossesBy? registrable? r <;> rfl

theorem PartyCondition.holds_eq (c : PartyCondition) (r : Request) :
    c.holds r = (crossesSites? r).any (· != c.inverted) :=
  c.holdsBy_eq PublicSuffix.registrable? r

theorem Http.Request.SameContext.holdsForRequest {r s : Request} (same : r.SameContext s)
    (c : Condition) : c.holdsForRequest s = c.holdsForRequest r := by
  cases c with
  | domain c => exact (c.holds_eq s).trans (same.page ▸ (c.holds_eq r).symm)
  | method c =>
      rw [Condition.holdsForRequest, Condition.holdsForRequest, MethodCondition.holds,
        MethodCondition.holds, same.method]
  | content c => exact (c.holds_eq s).trans (same.content ▸ (c.holds_eq r).symm)
  | party c => exact (c.holds_eq s).trans (same.crossing ▸ (c.holds_eq r).symm)
  | header c => rfl

/-! ## Conditions tell contexts apart -/

/-- What is known of a value is settled by asking for each value in turn. -/
theorem eq_of_any_beq [DecidableEq α] {a b : Option α}
    (alike : ∀ x, a.any (· == x) = b.any (· == x)) : a = b := by
  cases a with
  | none =>
      cases b with
      | none => rfl
      | some y => simpa using alike y
  | some x =>
      have found := alike x
      rw [Option.any_some, beq_self_eq_true, eq_comm, Option.any_eq_true_iff_get] at found
      obtain ⟨known, same⟩ := found
      rw [← eq_of_beq same, Option.some_get]

namespace DomainEntry

theorem covers_self (host : Text) : (below host).covers host = true := by
  rw [covers, beq_self_eq_true, Bool.true_or]

theorem suffix_of_covers {domain host : Text} (covered : (below domain).covers host = true) :
    domain <:+ host := by
  simp only [covers, Bool.or_eq_true, beq_iff_eq, Option.any_eq_true] at covered
  rcases covered with rfl | ⟨head, before, _⟩
  · exact List.suffix_refl host
  · obtain ⟨turned, behind, _⟩ := Option.map_eq_some_iff.mp before
    rw [← List.reverse_prefix, Text.after?_eq_some behind]
    exact List.prefix_append _ _

end DomainEntry

/-- Conditions on the page tell pages apart, and a page from none. -/
theorem page_eq_of_alike {a b : Option Text}
    (alike : ∀ c : DomainCondition,
      (a.any fun host => (c.entries.any (·.covers host)) != c.inverted) =
        b.any fun host => (c.entries.any (·.covers host)) != c.inverted) : a = b := by
  have known : a.isSome = b.isSome := by
    have every := alike ⟨[], true⟩
    cases a <;> cases b <;> first | rfl | cases every
  have below {x y : Text} (there : a = some x) (here : b = some y) : x <:+ y ∧ y <:+ x := by
    subst there here
    have first := alike ⟨[.below x], false⟩
    have second := alike ⟨[.below y], false⟩
    simp only [Option.any_some, List.any_cons, List.any_nil, Bool.or_false, Bool.bne_false,
      DomainEntry.covers_self] at first second
    exact ⟨DomainEntry.suffix_of_covers first.symm, DomainEntry.suffix_of_covers second⟩
  cases a with
  | none => exact (Option.not_isSome_iff_eq_none.mp (known ▸ Bool.false_ne_true)).symm
  | some x =>
      obtain ⟨y, rfl⟩ := Option.isSome_iff_exists.mp known.symm
      obtain ⟨back, forth⟩ := below rfl rfl
      exact congrArg some (back.sublist.antisymm forth.sublist)

theorem sameContext_of_conditions {r s : Request}
    (alike : ∀ c : Condition, c.readsResponse = false →
      c.holdsForRequest s = c.holdsForRequest r) : r.SameContext s := by
  constructor
  · have method := alike (.method ⟨[r.method], false⟩) rfl
    simp only [Condition.holdsForRequest, MethodCondition.holds, List.any_cons, List.any_nil,
      Bool.or_false, Bool.bne_false, beq_self_eq_true, beq_iff_eq] at method
    exact method.symm
  · apply page_eq_of_alike
    intro c
    rw [← c.holds_eq, ← c.holds_eq]
    exact alike (.domain c) rfl
  · apply eq_of_any_beq
    intro kind
    have content := alike (.content ⟨kind, false⟩) rfl
    simpa only [Condition.holdsForRequest, ContentCondition.holds_eq, Bool.bne_false] using content
  · apply eq_of_any_beq
    intro crosses
    have party := alike (.party ⟨!crosses⟩) rfl
    have asked : (fun x => x != !crosses) = (· == crosses) := by
      funext x
      cases x <;> cases crosses <;> rfl
    simpa only [Condition.holdsForRequest, PartyCondition.holds_eq, asked] using party

/-! ## Sets of modifiers -/

namespace ModifierSet

/-- Some condition waits for a header of the response. -/
def readsResponse (s : ModifierSet) : Bool := s.conditions.any (·.readsResponse)

theorem holdsWhen_of_map_eq {s t : ModifierSet} {holds holds' : Condition → Bool}
    (required : s.required.map holds = t.required.map holds')
    (contents : s.contents.map holds = t.contents.map holds') :
    s.holdsWhen holds = t.holdsWhen holds' := by
  have all := congrArg (List.all · id) required
  have any := congrArg (List.any · id) contents
  have empty := congrArg List.isEmpty contents
  simp only [List.all_map, List.any_map, List.isEmpty_map, Function.id_comp] at all any empty
  rw [holdsWhen, holdsWhen, all, any, empty]

theorem holdsWhen_congr {s : ModifierSet} {holds holds' : Condition → Bool}
    (alike : ∀ c ∈ s.conditions, holds c = holds' c) : s.holdsWhen holds = s.holdsWhen holds' := by
  apply holdsWhen_of_map_eq
  · exact List.map_congr_left fun c member => alike c (List.mem_append_left _ member)
  · exact List.map_congr_left fun c member => alike c (List.mem_append_right _ member)

theorem holdsForExchange_eq {s : ModifierSet} (blind : s.readsResponse = false) (e : Exchange) :
    s.holdsForExchange e = s.holdsForRequest e.request := by
  apply holdsWhen_congr
  intro c member
  exact Condition.holdsForExchange_eq
    (Bool.eq_false_iff.mpr (List.any_eq_false.mp blind c member)) e

end ModifierSet

theorem Http.Request.SameContext.modifiers_hold {r s : Request} (same : r.SameContext s)
    (m : ModifierSet) : m.holdsForRequest s = m.holdsForRequest r :=
  m.holdsWhen_congr fun c _ => same.holdsForRequest c

end FilteringProxy
