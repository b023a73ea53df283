import FilteringProxy.Modifier.Edit
import FilteringProxy.Proofs.Http.Headers
import FilteringProxy.Proofs.Reading
import FilteringProxy.Proofs.Removal
import FilteringProxy.Proofs.Text.Split

/-! # Dropping cookies of a request

The cookies of a request are what its cookie headers hold between semicolons. A removal writes those
that it keeps into one header, and from that header the same cookies are read again. So the cookies
are a view of the headers through which one removal after another is a removal from a list.
-/

namespace FilteringProxy

open Http (Headers Request)

/-! ## Cookies of one value -/

namespace CookieChoice

/-- What a cookie is when it has been read from a value. -/
structure IsCookie (cookie : Text) : Prop where
  nonempty : cookie ≠ []
  closed : ';' ∉ cookie
  trimmed : Text.trim cookie = cookie
  readable : ∀ c ∈ cookie, Http.IsReadable c

theorem isCookie_of_mem_pairs {value : Bytes} {t cookie : Text}
    (read : Http.readable? value = some t) (member : cookie ∈ pairs t) : IsCookie cookie := by
  obtain ⟨trimmed, nonempty⟩ := List.mem_filter.mp member
  obtain ⟨part, inside, rfl⟩ := List.mem_map.mp trimmed
  refine ⟨of_decide_eq_true nonempty, fun semicolon => ?_, Text.trimWith_trimWith isBlank part,
    fun c here => ?_⟩
  · exact (Text.mem_part inside (Text.mem_of_mem_trimWith semicolon)).1 rfl
  · have in_text := (Text.mem_part inside (Text.mem_of_mem_trimWith here)).2
    exact Http.isReadable_of_readable? read in_text

theorem pairs_of_cookie {cookie : Text} (good : IsCookie cookie) : pairs cookie = [cookie] := by
  simp only [pairs, Text.splitOn_of_not_mem good.closed, List.map_singleton, good.trimmed,
    List.filter_cons, decide_eq_true good.nonempty, if_true, List.filter_nil]

theorem pairs_append {cookie : Text} (good : IsCookie cookie) (t : Text) :
    pairs (cookie ++ ';' :: t) = cookie :: pairs t := by
  simp only [pairs, Text.splitOn_append good.closed, List.map_cons, good.trimmed,
    List.filter_cons, decide_eq_true good.nonempty, if_true]

theorem pairs_blank (t : Text) : pairs (' ' :: t) = pairs t := by
  have apart : ' ' ≠ ';' := by decide
  obtain ⟨part, parts, whole, more⟩ := Text.splitOn_cons apart t
  have blank : Text.trim (' ' :: part) = Text.trim part := Text.trimWith_cons (by decide) part
  rw [pairs, pairs, whole, more, List.map_cons, List.map_cons, blank]

theorem pairs_join {cookies : List Text} (good : ∀ cookie ∈ cookies, IsCookie cookie) :
    pairs (Text.join "; " cookies) = cookies := by
  induction cookies with
  | nil => decide
  | cons cookie rest ih =>
      have here := good cookie List.mem_cons_self
      have later := ih fun other member => good other (List.mem_cons_of_mem _ member)
      cases rest with
      | nil => exact pairs_of_cookie here
      | cons next rest =>
          have joined : Text.join "; " (cookie :: next :: rest) =
              cookie ++ ';' :: ' ' :: Text.join "; " (next :: rest) := List.append_assoc ..
          rw [joined, pairs_append here, pairs_blank, later]

theorem readable_join {cookies : List Text} (good : ∀ cookie ∈ cookies, IsCookie cookie) {c : Char}
    (member : c ∈ Text.join "; " cookies) : Http.IsReadable c := by
  rcases Text.mem_of_mem_join member with between | ⟨cookie, there, inside⟩
  · rcases List.mem_cons.mp between with rfl | blank
    · exact ⟨59, by decide, by decide⟩
    · rcases List.mem_singleton.mp blank with rfl
      exact ⟨32, by decide, by decide⟩
  · exact (good cookie there).readable c inside

end CookieChoice

/-! ## Cookies of a header map -/

namespace Http.Headers

open CookieChoice (pairs IsCookie)

variable {h k : Headers} {p q : Text → Bool} {cookies : List Text} {name : Text}

/-- The cookies in order, unless one of their headers cannot be read. -/
def cookies? (h : Headers) : Option (List Text) :=
  ((h.values "cookie").mapM readable?).map (·.flatMap pairs)

/-- Some cookie satisfies the condition, and all can be read. -/
def anyCookie (h : Headers) (p : Text → Bool) : Bool := h.cookies?.any (·.any p)

/-- The map with these cookies in one header, or in none if there are no cookies. -/
def setCookies (h : Headers) (cookies : List Text) : Headers :=
  if cookies = [] then h.remove "cookie"
  else h.replace "cookie" (Utf8.encode (Text.join "; " cookies))

/-- The map without some cookies. -/
def dropCookies (h : Headers) (p : Text → Bool) : Headers :=
  match h.cookies? with
  | none => h
  | some cookies => if cookies.any p then h.setCookies (cookies.filter (!p ·)) else h

theorem isCookie_of_mem (read : h.cookies? = some cookies) :
    ∀ cookie ∈ cookies, IsCookie cookie := by
  intro cookie member
  obtain ⟨texts, values, rfl⟩ := Option.map_eq_some_iff.mp read
  obtain ⟨t, text, inside⟩ := List.mem_flatMap.mp member
  obtain ⟨value, -, readable⟩ := Reading.exists_of_mem values text
  exact CookieChoice.isCookie_of_mem_pairs readable inside

/-! ### Setting cookies -/

theorem cookies?_of_values (same : h.values "cookie" = k.values "cookie") :
    h.cookies? = k.cookies? := by
  rw [cookies?, cookies?, same]

theorem cookies?_remove (h : Headers) : (h.remove "cookie").cookies? = some [] := by
  rw [cookies?, values_remove_same]
  rfl

theorem values_setCookies_of_ne (h : Headers) (cookies : List Text) (apart : name ≠ "cookie") :
    (h.setCookies cookies).values name = h.values name := by
  rw [setCookies]
  split
  · exact values_remove_of_ne h apart
  · exact values_replace_of_ne h apart _

theorem values_setCookies (h : Headers) (some_cookie : cookies ≠ []) :
    (h.setCookies cookies).values "cookie" = [Utf8.encode (Text.join "; " cookies)] := by
  rw [setCookies, if_neg some_cookie, values_replace_same]

theorem readable?_setCookies (good : ∀ cookie ∈ cookies, IsCookie cookie) :
    readable? (Utf8.encode (Text.join "; " cookies)) = some (Text.join "; " cookies) :=
  readable?_encode fun _ member => CookieChoice.readable_join good member

theorem fieldValue?_join (good : ∀ cookie ∈ cookies, IsCookie cookie) :
    fieldValue? (Utf8.encode (Text.join "; " cookies)) =
      some (Utf8.encode (Text.join "; " cookies)) :=
  fieldValue?_of_readable? (readable?_setCookies good)

theorem cookies?_setCookies (h : Headers) (good : ∀ cookie ∈ cookies, IsCookie cookie) :
    (h.setCookies cookies).cookies? = some cookies := by
  by_cases empty : cookies = []
  · rw [setCookies, if_pos empty, cookies?_remove, empty]
  · rw [cookies?, values_setCookies h empty, List.mapM_cons, readable?_setCookies good,
      List.mapM_nil]
    simp only [Option.bind_eq_bind, Option.bind_some, Option.pure_def, Option.map_some,
      List.flatMap_cons, List.flatMap_nil, List.append_nil, CookieChoice.pairs_join good]

theorem remove_setCookies (h : Headers) (cookies : List Text) :
    (h.setCookies cookies).remove "cookie" = h.remove "cookie" := by
  rw [setCookies]
  split
  · exact remove_remove h "cookie"
  · exact remove_replace_same h "cookie" _

theorem remove_setCookies_of_ne (h : Headers) (cookies : List Text) (apart : name ≠ "cookie") :
    (h.setCookies cookies).remove name = (h.remove name).setCookies cookies := by
  simp only [setCookies]
  split
  · exact remove_comm h "cookie" name
  · exact remove_replace_of_ne h apart _

theorem setCookies_setCookies (h : Headers) (cookies others : List Text) :
    (h.setCookies cookies).setCookies others = h.setCookies others := by
  rw [setCookies, replace, remove_setCookies, setCookies, replace]

/-! ### Dropping cookies -/

theorem dropCookies_of_not_any (h_any : h.anyCookie p = false) : h.dropCookies p = h := by
  cases read : h.cookies? with
  | none => rw [dropCookies, read]
  | some cookies =>
      rw [anyCookie, read, Option.any_some] at h_any
      simp only [dropCookies, read, h_any, Bool.false_eq_true, if_false]

theorem exists_of_anyCookie (h_any : h.anyCookie p = true) :
    ∃ cookies, h.cookies? = some cookies ∧ cookies.any p = true ∧
      h.dropCookies p = h.setCookies (cookies.filter (!p ·)) := by
  cases read : h.cookies? with
  | none =>
      rw [anyCookie, read] at h_any
      cases h_any
  | some cookies =>
      rw [anyCookie, read, Option.any_some] at h_any
      exact ⟨cookies, rfl, h_any, by simp only [dropCookies, read, h_any, if_true]⟩

theorem values_dropCookies_of_ne (h : Headers) (p : Text → Bool) (apart : name ≠ "cookie") :
    (h.dropCookies p).values name = h.values name := by
  rw [dropCookies]
  split
  · rfl
  · split
    · exact values_setCookies_of_ne h _ apart
    · rfl

theorem cookies?_dropCookies (h : Headers) (p : Text → Bool) :
    (h.dropCookies p).cookies? = h.cookies?.map (·.filter (!p ·)) := by
  cases read : h.cookies? with
  | none =>
      rw [dropCookies, read, Option.map_none]
      exact read
  | some cookies =>
      have good := isCookie_of_mem read
      rw [Option.map_some]
      cases taken : cookies.any p with
      | false => simp only [dropCookies, read, taken, Bool.false_eq_true, if_false,
          Removal.filter_of_not_any taken]
      | true =>
          simp only [dropCookies, read, taken, if_true]
          exact cookies?_setCookies h
            fun cookie member => good cookie (List.mem_of_mem_filter member)

theorem dropCookies_dropCookies (h : Headers) (p q : Text → Bool) :
    (h.dropCookies p).dropCookies q = h.dropCookies fun cookie => p cookie || q cookie := by
  have left := cookies?_dropCookies h p
  cases read : h.cookies? with
  | none =>
      rw [read, Option.map_none] at left
      simp only [dropCookies, read]
  | some cookies =>
      rw [read, Option.map_some] at left
      have both := Removal.filter_filter_not cookies p q
      rw [dropCookies, left]
      simp only [both, dropCookies, read, Removal.any_or]
      cases first : cookies.any p with
      | false =>
          rw [Removal.filter_of_not_any first]
          simp only [Bool.false_eq_true, if_false, Bool.false_or]
      | true =>
          simp only [if_true, Bool.true_or, setCookies_setCookies]
          split
          · rfl
          · rename_i none_left
            rw [← both, Removal.filter_of_not_any (Bool.eq_false_iff.mpr none_left)]

/-- A header that is removed goes together with its cookies, whichever goes first. -/
theorem remove_dropCookies (h : Headers) (p : Text → Bool) (name : Text) :
    (h.dropCookies p).remove name = (h.remove name).dropCookies p := by
  by_cases here : name = "cookie"
  · subst here
    have gone : (h.remove "cookie").dropCookies p = h.remove "cookie" := by
      simp only [dropCookies, cookies?_remove, List.any_nil, Bool.false_eq_true, if_false]
    rw [gone, dropCookies]
    split
    · rfl
    · split
      · exact remove_setCookies h _
      · rfl
  · have same : (h.remove name).cookies? = h.cookies? :=
      cookies?_of_values (values_remove_of_ne h (Ne.symm here))
    rw [dropCookies, dropCookies, same]
    split
    · rfl
    · split
      · exact remove_setCookies_of_ne h _ here
      · rfl

end Http.Headers

/-- The condition that a choice puts on a cookie. -/
def CookieChoice.takes (c : CookieChoice) (cookie : Text) : Bool :=
  c.selects (nameOf cookie)

namespace CookieChoice

variable (c : CookieChoice) (h : Headers)

/-- The cookies that are kept always fit a value, so the headers are never taken away for nothing. -/
theorem rewriteRequest_eq :
    c.rewriteRequest h = (h.dropCookies c.takes, h.anyCookie c.takes) := by
  have condition (pair : Text) : c.selects (nameOf pair) = c.takes pair := rfl
  cases values : (h.values "cookie").mapM Http.readable? with
  | none =>
      have unread : h.cookies? = none := by rw [Headers.cookies?, values, Option.map_none]
      simp only [rewriteRequest, values, Headers.dropCookies, Headers.anyCookie, unread,
        Option.any_none]
  | some texts =>
      have read : h.cookies? = some (texts.flatMap pairs) := by
        rw [Headers.cookies?, values, Option.map_some]
      have good := Headers.isCookie_of_mem read
      simp only [rewriteRequest, values, Headers.dropCookies, Headers.anyCookie, read,
        Option.any_some, condition]
      cases taken : (texts.flatMap pairs).any c.takes with
      | false => simp only [Bool.false_eq_true, if_false]
      | true =>
          have fits := Headers.fieldValue?_join
            fun cookie member => good cookie (List.mem_of_mem_filter (p := (!c.takes ·)) member)
          simp only [if_true, fits, Headers.setCookies, Headers.replace]
          split
          · rfl
          · rfl

theorem editRequest_eq :
    c.editRequest h = if h.anyCookie c.takes then some (h.dropCookies c.takes) else none := by
  rw [editRequest, rewriteRequest_eq]
  cases h.anyCookie c.takes with
  | false => rfl
  | true => rfl

theorem getD_editRequest : (c.editRequest h).getD h = h.dropCookies c.takes := by
  rw [editRequest_eq]
  split
  · rfl
  · rename_i nothing
    exact (Headers.dropCookies_of_not_any (Bool.eq_false_iff.mpr nothing)).symm

/-- An edit that was not made leaves the headers as they were. -/
theorem rewriteRequest_eq_editRequest :
    c.rewriteRequest h = ((c.editRequest h).getD h, (c.editRequest h).isSome) := by
  rw [rewriteRequest_eq, getD_editRequest, editRequest_eq]
  cases h.anyCookie c.takes with
  | false => rfl
  | true => rfl

end CookieChoice

end FilteringProxy
