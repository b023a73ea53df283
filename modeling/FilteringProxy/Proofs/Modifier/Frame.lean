import FilteringProxy.Proofs.Modifier.Strip

/-! # What edits leave alone

A message is pruned when nothing was added to it and all that went may go: segments of the query,
cookies, and whole headers that are not protected.
-/

namespace FilteringProxy

open Http (Request Response Headers Field Uri)

namespace Http

/-- The cookie header of `k` has one value, and that holds some of the cookies of `h` in order. -/
def Headers.SomeCookies (h k : Headers) : Prop :=
  ∃ cookies value text, h.cookies? = some cookies ∧ k.values "cookie" = [value] ∧
    readable? value = some text ∧ CookieChoice.pairs text ≠ [] ∧
    (CookieChoice.pairs text).Sublist cookies

/-- What may become of a request. -/
structure Request.Pruned (r s : Request) : Prop where
  method : s.method = r.method
  version : s.version = r.version
  scheme : s.uri.scheme = r.uri.scheme
  authority : s.uri.authority = r.uri.authority
  path : s.uri.path = r.uri.path ∨ r.uri.path = [] ∧ s.uri.path = "/"
  segments : s.uri.segments.Sublist r.uri.segments
  values : ∀ name, s.headers.values name = r.headers.values name ∨ s.headers.values name = [] ∨
    name = "cookie" ∧ r.headers.SomeCookies s.headers
  guarded : ∀ name, isProtected name = true → s.headers.values name = r.headers.values name

/-- What may become of a response. -/
structure Response.Pruned (r s : Response) : Prop where
  status : s.status = r.status
  version : s.version = r.version
  values : ∀ name, s.headers.values name = r.headers.values name ∨ s.headers.values name = [] ∨
    name = "set-cookie" ∧ (s.headers.values name).Sublist (r.headers.values name)
  guarded : ∀ name, isProtected name = true → s.headers.values name = r.headers.values name

namespace Headers

variable {h k l : Headers}

theorem cookies?_of_value {value : Bytes} {text : Text} (one : h.values "cookie" = [value])
    (read : readable? value = some text) : h.cookies? = some (CookieChoice.pairs text) := by
  rw [cookies?, one, List.mapM_cons, read, List.mapM_nil]
  simp only [Option.bind_eq_bind, Option.bind_some, Option.pure_def, Option.map_some,
    List.flatMap_cons, List.flatMap_nil, List.append_nil]

theorem SomeCookies.of_values {j : Headers} (left : k.SomeCookies l)
    (first : j.values "cookie" = k.values "cookie") : j.SomeCookies l := by
  obtain ⟨cookies, rest⟩ := left
  exact ⟨cookies, by rwa [cookies?_of_values first]⟩

/-- Cookies cannot come back once the header is gone. -/
theorem not_someCookies_of_values_nil (gone : k.values "cookie" = []) : ¬k.SomeCookies l := by
  rintro ⟨cookies, value, text, read, _, _, some_pair, sub⟩
  have none_left : cookies = [] := by
    simp only [cookies?, gone, List.mapM_nil, Option.pure_def, Option.map_some, List.flatMap_nil,
      Option.some.injEq] at read
    exact read.symm
  rw [none_left, List.sublist_nil] at sub
  exact some_pair sub

theorem SomeCookies.trans (first : h.SomeCookies k) (second : k.SomeCookies l) :
    h.SomeCookies l := by
  obtain ⟨cookies, value, text, read, one, readable, _, sub⟩ := first
  obtain ⟨kept, value', text', read', one', readable', some_pair, sub'⟩ := second
  rw [cookies?_of_value one readable, Option.some.injEq] at read'
  subst read'
  exact ⟨cookies, value', text', read, one', readable', some_pair, sub'.trans sub⟩

theorem values_dropCookies (h : Headers) (p : Text → Bool) :
    (h.dropCookies p).values "cookie" = h.values "cookie" ∨
      (h.dropCookies p).values "cookie" = [] ∨ h.SomeCookies (h.dropCookies p) := by
  cases taken : h.anyCookie p with
  | false =>
      rw [dropCookies_of_not_any taken]
      exact Or.inl rfl
  | true =>
      obtain ⟨cookies, read, _, dropped⟩ := exists_of_anyCookie taken
      have good (cookie : Text) (member : cookie ∈ cookies.filter (!p ·)) :=
        isCookie_of_mem read cookie (List.mem_of_mem_filter member)
      rw [dropped]
      by_cases none_left : cookies.filter (!p ·) = []
      · rw [setCookies, if_pos none_left]
        exact Or.inr (Or.inl (values_remove_same h "cookie"))
      · refine Or.inr (Or.inr ⟨cookies, _, _, read, values_setCookies h none_left,
          readable?_setCookies good, ?_⟩)
        rw [CookieChoice.pairs_join good]
        exact ⟨none_left, List.filter_sublist⟩

end Headers

/-! ## Pruning again -/

theorem Request.Pruned.refl (r : Request) : r.Pruned r :=
  ⟨rfl, rfl, rfl, rfl, Or.inl rfl, List.Sublist.refl _, fun _ => Or.inl rfl, fun _ _ => rfl⟩

theorem Request.Pruned.trans {r s t : Request} (first : r.Pruned s) (second : s.Pruned t) :
    r.Pruned t where
  method := second.method.trans first.method
  version := second.version.trans first.version
  scheme := second.scheme.trans first.scheme
  authority := second.authority.trans first.authority
  path := by
    rcases second.path with same | ⟨empty, slash⟩
    · rw [same]
      exact first.path
    · rcases first.path with same | ⟨_, slash'⟩
      · exact Or.inr ⟨same ▸ empty, slash⟩
      · rw [slash'] at empty
        cases empty
  segments := second.segments.trans first.segments
  values := fun name => by
    rcases second.values name with same | gone | ⟨rfl, left⟩
    · rcases first.values name with same' | gone' | ⟨rfl, cookies, value, text, read, one, rest⟩
      · exact Or.inl (same.trans same')
      · exact Or.inr (Or.inl (same.trans gone'))
      · exact Or.inr (Or.inr ⟨rfl, cookies, value, text, read, same.trans one, rest⟩)
    · exact Or.inr (Or.inl gone)
    · rcases first.values "cookie" with same' | gone' | ⟨_, left'⟩
      · exact Or.inr (Or.inr ⟨rfl, left.of_values same'.symm⟩)
      · exact absurd left (Headers.not_someCookies_of_values_nil gone')
      · exact Or.inr (Or.inr ⟨rfl, left'.trans left⟩)
  guarded := fun name h => (second.guarded name h).trans (first.guarded name h)

theorem Response.Pruned.refl (r : Response) : r.Pruned r :=
  ⟨rfl, rfl, fun _ => Or.inl rfl, fun _ _ => rfl⟩

theorem Response.Pruned.trans {r s t : Response} (first : r.Pruned s) (second : s.Pruned t) :
    r.Pruned t where
  status := second.status.trans first.status
  version := second.version.trans first.version
  values := fun name => by
    rcases second.values name with same | gone | ⟨rfl, sub⟩
    · rw [same]
      exact first.values name
    · exact Or.inr (Or.inl gone)
    · refine Or.inr (Or.inr ⟨rfl, sub.trans ?_⟩)
      rcases first.values "set-cookie" with same' | gone' | ⟨_, sub'⟩
      · rw [same']
      · rw [gone']
        exact List.nil_sublist _
      · exact sub'
  guarded := fun name h => (second.guarded name h).trans (first.guarded name h)

end Http

/-! ## One edit -/

theorem cookies_unprotected : isProtected "cookie" = false ∧ isProtected "set-cookie" = false := by
  decide +kernel

namespace HeaderRemoval

theorem name_ne_of_isProtected (c : HeaderRemoval) {name : Text}
    (guarded : isProtected name = true) :
    name ≠ c.name := by
  rintro rfl
  rw [c.unprotected] at guarded
  cases guarded

theorem values_strip (c : HeaderRemoval) (side : Side) (h : Headers) (name : Text) :
    (c.strip side h).values name = h.values name ∨
      name = c.name ∧ (c.strip side h).values name = [] := by
  rw [strip]
  split
  · by_cases here : name = c.name
    · subst here
      exact Or.inr ⟨rfl, Headers.values_remove_same ..⟩
    · exact Or.inl (Headers.values_remove_of_ne _ here)
  · exact Or.inl rfl

end HeaderRemoval

namespace Edit

theorem strip_pruned (e : Edit) (r : Request) : r.Pruned (e.strip r) := by
  have kept := Http.Request.Pruned.refl r
  cases e with
  | parameters c =>
      exact { kept with
        path := Uri.path_dropSegments ..
        scheme := Uri.scheme_dropSegments ..
        authority := Uri.authority_dropSegments ..
        segments := Uri.segments_dropSegments_sublist .. }
  | header c =>
      have values := c.values_strip .request r.headers
      exact { kept with
        values := fun name => (values name).imp_right fun gone => Or.inl gone.2
        guarded := fun name guarded =>
          (values name).resolve_right fun gone => c.name_ne_of_isProtected guarded gone.1 }
  | cookies c =>
      exact { kept with
        values := fun name => by
          by_cases here : name = "cookie"
          · subst here
            exact (Headers.values_dropCookies r.headers c.takes).imp_right
              (Or.imp_right fun left => ⟨rfl, left⟩)
          · exact Or.inl (Headers.values_dropCookies_of_ne _ _ here)
        guarded := fun name guarded => by
          refine Headers.values_dropCookies_of_ne _ _ fun here => ?_
          rw [here, cookies_unprotected.1] at guarded
          cases guarded }

theorem values_stripResponse {e : Edit} {r : Response} {name : Text}
    (spared : ∀ value, e.takesField ⟨name, value⟩ = false) :
    (e.stripResponse r).headers.values name = r.headers.values name := by
  have all := Headers.values_filter_of_iff r.headers name (p := (!e.takesField ·))
    (q := fun _ => true) fun f _ here => by
      subst here
      rw [spared f.value, Bool.not_false]
  rwa [List.filter_true] at all

theorem values_stripResponse_header (c : HeaderRemoval) (r : Response) (name : Text) :
    ((header c).stripResponse r).headers.values name = r.headers.values name ∨
      name = c.name ∧ ((header c).stripResponse r).headers.values name = [] := by
  by_cases taken : c.side = .response ∧ name = c.name
  · have gone := Headers.values_filter_of_iff r.headers name
      (p := (!(header c).takesField ·)) (q := fun _ => false) fun f _ here => by
        simp only [takesField, taken.1, here, taken.2, decide_true, beq_self_eq_true,
          Bool.and_self, Bool.not_true]
    rw [List.filter_false] at gone
    exact Or.inr ⟨taken.2, gone⟩
  · refine Or.inl (values_stripResponse fun _ => ?_)
    simpa only [takesField, Bool.and_eq_false_iff, decide_eq_false_iff_not, beq_eq_false_iff_ne,
      not_and_or] using taken

theorem stripResponse_pruned (e : Edit) (r : Response) : r.Pruned (e.stripResponse r) := by
  have kept := Http.Response.Pruned.refl r
  cases e with
  | parameters c =>
      exact { kept with
        values := fun name => Or.inl (values_stripResponse fun _ => rfl)
        guarded := fun name _ => values_stripResponse fun _ => rfl }
  | header c =>
      have values := values_stripResponse_header c r
      exact { kept with
        values := fun name => (values name).imp_right fun gone => Or.inl gone.2
        guarded := fun name guarded =>
          (values name).resolve_right fun gone => c.name_ne_of_isProtected guarded gone.1 }
  | cookies c =>
      have others {name : Text} (apart : name ≠ "set-cookie") :
          ((cookies c).stripResponse r).headers.values name = r.headers.values name :=
        values_stripResponse fun _ => by
          simp only [takesField, beq_false_of_ne apart, Bool.false_and]
      exact { kept with
        values := fun name => by
          by_cases here : name = "set-cookie"
          · exact Or.inr (Or.inr ⟨here, Headers.values_filter_sublist ..⟩)
          · exact Or.inl (others here)
        guarded := fun name guarded => others fun here => by
          rw [here, cookies_unprotected.2] at guarded
          cases guarded }

end Edit

end FilteringProxy
