import FilteringProxy.Proofs.Modifier.Strip

/-! # Edits make messages lighter

A message is weighed at several places: its query by the number of segments, each of its headers by
the number of values, the cookie header by that of its cookies too. An edit that takes something
away makes the message lighter at some place and heavier at none, so no later edit can restore what
it was.
-/

namespace FilteringProxy

open Http (Request Response Headers Field Uri)

/-- Heavier at no place and lighter at one. -/
structure Lighter (weigh : α → ι → Nat) (a b : α) : Prop where
  everywhere : ∀ i, weigh b i ≤ weigh a i
  somewhere : ∃ i, weigh b i < weigh a i

theorem Lighter.trans {weigh : α → ι → Nat} {a b c : α} (first : Lighter weigh a b)
    (second : Lighter weigh b c) : Lighter weigh a c := by
  obtain ⟨i, less⟩ := first.somewhere
  exact ⟨fun j => (second.everywhere j).trans (first.everywhere j),
    i, (second.everywhere i).trans_lt less⟩

theorem Lighter.ne {weigh : α → ι → Nat} {a b : α} (h : Lighter weigh a b) : b ≠ a := by
  rintro rfl
  obtain ⟨i, less⟩ := h.somewhere
  exact Nat.lt_irrefl _ less

namespace Http.Headers

variable {h k : Headers} {name other : Text} {p : Text → Bool}

/-- The number of values of a name; cookies count too. -/
def weight (h : Headers) (name : Text) : Nat :=
  (h.values name).length + if name = "cookie" then (h.cookies?.getD []).length else 0

theorem weight_congr (same : k.values name = h.values name) : k.weight name = h.weight name := by
  rw [weight, weight, same]
  split
  · rename_i here
    subst here
    rw [cookies?_of_values same]
  · rfl

theorem values_ne_of_weight_ne (apart : k.weight name ≠ h.weight name) :
    k.values name ≠ h.values name := fun same => apart (weight_congr same)

theorem weight_remove_same (h : Headers) (name : Text) : (h.remove name).weight name = 0 := by
  rw [weight, values_remove_same]
  split
  · rename_i here
    subst here
    rw [cookies?_remove]
    rfl
  · rfl

theorem lighter_remove (found : h.has name = true) : Lighter weight h (h.remove name) := by
  refine ⟨fun other => ?_, name, ?_⟩
  · by_cases here : other = name
    · subst here
      rw [weight_remove_same]
      exact Nat.zero_le _
    · exact (weight_congr (values_remove_of_ne h here)).le
  · rw [weight_remove_same, weight]
    have some_value : 0 < (h.values name).length := List.length_pos_iff.mpr (has_iff.mp found)
    omega

/-- One header remains, and in it fewer cookies. -/
theorem weight_dropCookies (taken : h.anyCookie p = true) :
    (h.dropCookies p).weight "cookie" < h.weight "cookie" := by
  obtain ⟨cookies, read, some_cookie, dropped⟩ := exists_of_anyCookie taken
  have kept := cookies?_dropCookies h p
  have fewer := Removal.length_filter_of_any some_cookie
  have some_value : 0 < (h.values "cookie").length := by
    rw [List.length_pos_iff]
    intro no_value
    simp only [cookies?, no_value, List.mapM_nil, Option.pure_def, Option.map_some,
      List.flatMap_nil, Option.some.injEq] at read
    subst read
    cases some_cookie
  rw [read, Option.map_some] at kept
  have one_value : ((h.dropCookies p).values "cookie").length ≤ 1 := by
    rw [dropped]
    by_cases none_left : cookies.filter (!p ·) = []
    · rw [setCookies, if_pos none_left, values_remove_same]
      exact Nat.zero_le 1
    · rw [values_setCookies h none_left]
      exact Nat.le_refl 1
  rw [weight, weight, if_pos rfl, if_pos rfl, kept, read, Option.getD_some, Option.getD_some]
  omega

theorem lighter_dropCookies (taken : h.anyCookie p = true) :
    Lighter weight h (h.dropCookies p) := by
  refine ⟨fun name => ?_, "cookie", weight_dropCookies taken⟩
  by_cases here : name = "cookie"
  · subst here
    exact (weight_dropCookies taken).le
  · exact (weight_congr (values_dropCookies_of_ne h p here)).le

end Http.Headers

namespace Http

/-- The weight of a request: of its query at no name, of a header at its name. -/
def Request.weight (r : Request) : Option Text → Nat
  | none => r.uri.segments.length
  | some name => r.headers.weight name

/-- What an edit does to a request. The target only changes together with the number of segments. -/
structure Request.Reduced (r s : Request) : Prop where
  lighter : Lighter Request.weight r s
  target : s.uri = r.uri ∨ s.uri.segments.length < r.uri.segments.length

theorem Request.Reduced.trans {r s t : Request} (first : r.Reduced s) (second : s.Reduced t) :
    r.Reduced t := by
  refine ⟨first.lighter.trans second.lighter, ?_⟩
  rcases second.target with same | fewer
  · rw [same]
    exact first.target
  · exact Or.inr (fewer.trans_le (first.lighter.everywhere none))

theorem Request.Reduced.of_headers {r : Request} {h : Headers}
    (lighter : Lighter Headers.weight r.headers h) : r.Reduced { r with headers := h } := by
  obtain ⟨name, less⟩ := lighter.somewhere
  refine ⟨⟨fun place => ?_, some name, less⟩, Or.inl rfl⟩
  cases place with
  | none => exact Nat.le_refl _
  | some name => exact lighter.everywhere name

theorem Request.Reduced.of_target {r : Request} {u : Uri}
    (fewer : u.segments.length < r.uri.segments.length) : r.Reduced { r with uri := u } := by
  refine ⟨⟨fun place => ?_, none, fewer⟩, Or.inr fewer⟩
  cases place with
  | none => exact fewer.le
  | some name => exact Nat.le_refl _

/-- The weight of a response: the number of values of a name. -/
def Response.weight (r : Response) (name : Text) : Nat := (r.headers.values name).length

end Http

namespace Edit

theorem onRequest_reduced {e : Edit} {r s : Request} (edited : e.onRequest r = some s) :
    r.Reduced s := by
  rw [onRequest_eq, Option.ite_none_right_eq_some, Option.some.injEq] at edited
  obtain ⟨taken, rfl⟩ := edited
  cases e with
  | parameters c => exact .of_target (Uri.length_segments_dropSegments taken)
  | header c =>
      obtain ⟨side, found⟩ := of_decide_eq_true taken
      rw [strip, HeaderRemoval.strip, if_pos side]
      exact .of_headers (Headers.lighter_remove found)
  | cookies c => exact .of_headers (Headers.lighter_dropCookies taken)

theorem onResponse_lighter {e : Edit} {r s : Response} (edited : e.onResponse r = some s) :
    Lighter Response.weight r s := by
  rw [onResponse_eq, Option.ite_none_right_eq_some, Option.some.injEq] at edited
  obtain ⟨taken, rfl⟩ := edited
  obtain ⟨f, member, chosen⟩ := List.any_eq_true.mp taken
  refine ⟨fun name => (Headers.values_filter_sublist r.headers _ name).length_le, f.name, ?_⟩
  exact Headers.length_values_filter member (by rw [chosen, Bool.not_true])

end Edit

end FilteringProxy
