import FilteringProxy.Proofs.Modifier.Cookie
import FilteringProxy.Proofs.Text.Words

/-! # Cookies that stay behind

A removal takes its cookies out of a request and the settings of its cookies out of a response. In a
request one value that cannot be read keeps all cookies; in a response each value stands for itself,
but its name is cut out of the whole value, with the attributes.
-/

namespace FilteringProxy

open Http (Headers Field)

/-! ## Requests -/

namespace Http.Headers

variable {h : Headers} {cookies : List Text}

/-- The cookies of those headers that can be read. -/
def readableCookies (h : Headers) : List Text := (h.texts "cookie").flatMap CookieChoice.pairs

theorem readableCookies_of_cookies? (read : h.cookies? = some cookies) :
    h.readableCookies = cookies := by
  obtain ⟨texts, values, rfl⟩ := Option.map_eq_some_iff.mp read
  rw [readableCookies, Headers.texts, Reading.filterMap_of_mapM values]

theorem cookies?_eq_none : h.cookies? = none ↔ ∃ value ∈ h.values "cookie", readable? value = none :=
  Option.map_eq_none_iff.trans Reading.mapM_eq_none

theorem readable_of_cookies? (read : h.cookies? = some cookies) :
    ∀ value ∈ h.values "cookie", (readable? value).isSome := by
  intro value member
  by_contra unread
  have missing : h.cookies? = none :=
    cookies?_eq_none.mpr ⟨value, member, Option.not_isSome_iff_eq_none.mp unread⟩
  rw [read] at missing
  cases missing

end Http.Headers

namespace CookieChoice

/-- A removal has left none of its cookies, and all others. -/
structure Cleans (c : CookieChoice) (before after : Headers) : Prop where
  gone : ∀ cookie ∈ after.readableCookies, c.takes cookie = false
  kept : (before.readableCookies.filter (!c.takes ·)).Sublist after.readableCookies

theorem cleans_dropCookies (c : CookieChoice) {h : Headers} {cookies : List Text}
    (read : h.cookies? = some cookies) : c.Cleans h (h.dropCookies c.takes) := by
  have left := h.cookies?_dropCookies c.takes
  rw [read, Option.map_some] at left
  have after := Headers.readableCookies_of_cookies? left
  constructor
  · intro cookie member
    rw [after] at member
    simpa using (List.mem_filter.mp member).2
  · rw [Headers.readableCookies_of_cookies? read, after]

/-- A removal does its work on all readable cookies unless there is some for it and a value that
cannot be read. -/
theorem cleans_iff (c : CookieChoice) (h : Headers) :
    c.Cleans h ((c.editRequest h).getD h) ↔
      (∀ value ∈ h.values "cookie", (Http.readable? value).isSome) ∨
        ∀ cookie ∈ h.readableCookies, c.takes cookie = false := by
  rw [c.getD_editRequest]
  cases read : h.cookies? with
  | some cookies =>
      exact iff_of_true (c.cleans_dropCookies read) (Or.inl (Headers.readable_of_cookies? read))
  | none =>
      have same : h.dropCookies c.takes = h := by rw [Headers.dropCookies, read]
      obtain ⟨value, member, unread⟩ := Headers.cookies?_eq_none.mp read
      rw [same]
      constructor
      · intro clean
        exact Or.inr clean.gone
      · rintro (readable | nothing)
        · have readable := readable value member
          rw [unread] at readable
          cases readable
        · exact ⟨nothing, List.filter_sublist⟩

/-- A value that cannot be read protects the cookie of the other. -/
theorem not_cleans_beside_unreadable :
    ¬ (named "a").Cleans ⟨[⟨"cookie", Utf8.encode "a=1"⟩, ⟨"cookie", [0xE9]⟩]⟩
      (((named "a").editRequest
        ⟨[⟨"cookie", Utf8.encode "a=1"⟩, ⟨"cookie", [0xE9]⟩]⟩).getD
          ⟨[⟨"cookie", Utf8.encode "a=1"⟩, ⟨"cookie", [0xE9]⟩]⟩) := by
  intro clean
  have still := clean.gone "a=1" (by decide +kernel)
  revert still
  decide +kernel

/-! ## Responses -/

/-- A value that sets a cookie: the cookie and, behind a semicolon, its attributes. -/
def setValue (pair : Text) : Option Text → Text
  | none => pair
  | some attributes => pair ++ ';' :: attributes

/-- The attributes make no difference to whether the cookie is chosen. Its name ends at the first
equals sign of the whole value, and with attributes that cannot be read it has none. -/
def NamesAlike (c : CookieChoice) (pair attributes : Text) : Prop :=
  if (Http.readable? (Utf8.encode attributes)).isSome then
    '=' ∈ pair ∨ c.selects (Text.trim pair) =
      c.selects (Text.trim (pair ++ ';' :: Text.upTo '=' attributes))
  else c.takes pair = false

theorem isBlank_apart {d : Char} (blank : isBlank d = true) : d ≠ '=' := by
  rintro rfl
  revert blank
  decide

theorem nameOf_dropWhile (t : Text) : nameOf (t.dropWhile isBlank) = nameOf t := by
  induction t with
  | nil => rfl
  | cons d t ih =>
      cases blank : isBlank d with
      | false => rw [List.dropWhile_cons_of_neg (Bool.eq_false_iff.mp blank)]
      | true =>
          rw [List.dropWhile_cons_of_pos blank, ih, nameOf, nameOf,
            Text.upTo_cons (isBlank_apart blank), Text.trim, Text.trim, Text.trimWith_cons blank]

theorem nameOf_trim (t : Text) : nameOf (Text.trim t) = nameOf t := by
  rw [Text.trim, Text.trimWith, Text.apply_dropEnd (f := nameOf), nameOf_dropWhile]
  intro t d u first rest
  have blank : ∀ e ∈ d :: u, isBlank e = true := by
    rw [List.forall_mem_cons]
    exact ⟨first, rest⟩
  by_cases present : '=' ∈ t
  · rw [nameOf, nameOf, Text.upTo_append_of_mem present]
  · have plain : '=' ∉ d :: u := fun member => isBlank_apart (blank '=' member) rfl
    rw [nameOf, nameOf, Text.upTo_append present, Text.upTo_of_not_mem plain,
      Text.upTo_of_not_mem present]
    exact Text.trimWith_append blank t

theorem takes_trim (c : CookieChoice) (t : Text) : c.takes (Text.trim t) = c.takes t :=
  congrArg c.selects (nameOf_trim t)

theorem values_editResponse (c : CookieChoice) (h : Headers) :
    ((c.editResponse h).getD h).values "set-cookie" =
      (h.values "set-cookie").filter (!c.setsChosen ·) := by
  rw [editResponse]
  split
  · exact h.values_filter_of_iff "set-cookie" fun f _ here => by simp [here]
  · rename_i nothing
    exact (Removal.filter_of_not_any (Bool.eq_false_iff.mpr nothing)).symm

theorem setsChosen_encode (c : CookieChoice) (t : Text) :
    c.setsChosen (Utf8.encode t) = ((Http.readable? (Utf8.encode t)).isSome && c.takes t) := by
  cases read : Http.readable? (Utf8.encode t) with
  | none => simp [setsChosen, read]
  | some s =>
      have same := (Http.readable?_encode_eq_some.mp read).2
      subst same
      simp [setsChosen, read, takes]

/-- Behind a cookie that can be read, the attributes decide whether the value can be. -/
theorem isSome_readable?_setValue {pair : Text} (readable : ∀ d ∈ pair, Http.IsReadable d)
    (attributes : Text) :
    (Http.readable? (Utf8.encode (setValue pair (some attributes)))).isSome =
      (Http.readable? (Utf8.encode attributes)).isSome := by
  have semicolon : Http.IsReadable ';' := ⟨59, by decide, by decide⟩
  rw [Bool.eq_iff_iff, Http.isSome_readable?_encode, Http.isSome_readable?_encode, setValue,
    List.forall_mem_append, List.forall_mem_cons]
  exact and_iff_right readable |>.trans (and_iff_right semicolon)

theorem setsChosen_setValue_iff {c : CookieChoice} {pair : Text}
    (readable : ∀ d ∈ pair, Http.IsReadable d) (attributes : Option Text) :
    (c.setsChosen (Utf8.encode (setValue pair attributes)) = true ↔ c.takes pair = true) ↔
      ∀ a ∈ attributes, c.NamesAlike pair a := by
  rw [c.setsChosen_encode]
  cases attributes with
  | none => simp [setValue, Http.isSome_readable?_encode.mpr readable]
  | some a =>
      simp only [isSome_readable?_setValue readable, Option.mem_def, Option.some.injEq,
        forall_eq', NamesAlike]
      split
      · rename_i visible
        rw [visible, Bool.true_and, ← Bool.eq_iff_iff, takes, takes, setValue, nameOf, nameOf]
        by_cases named : '=' ∈ pair
        · simp [named, Text.upTo_append_of_mem named]
        · rw [Text.upTo_append named, Text.upTo_of_not_mem named,
            Text.upTo_cons (by decide : ';' ≠ '=')]
          simp [named, eq_comm]
      · rename_i hidden
        simp [hidden]

/-- A cookie is taken out of a response as it is taken out of a request exactly when its name does
not change with the attributes behind it. -/
theorem taken_alike_iff {c : CookieChoice} {pair : Text}
    (readable : ∀ d ∈ pair, Http.IsReadable d) (attributes : Option Text)
    {sent received : Headers} {cookies : List Text} (read : sent.cookies? = some cookies)
    (carried : Text.trim pair ∈ cookies)
    (set : Utf8.encode (setValue pair attributes) ∈ received.values "set-cookie") :
    (Utf8.encode (setValue pair attributes) ∉
        ((c.editResponse received).getD received).values "set-cookie" ↔
      Text.trim pair ∉ ((c.editRequest sent).getD sent).readableCookies) ↔
      ∀ a ∈ attributes, c.NamesAlike pair a := by
  have left := sent.cookies?_dropCookies c.takes
  rw [read, Option.map_some] at left
  rw [c.getD_editRequest, Headers.readableCookies_of_cookies? left, c.values_editResponse,
    ← setsChosen_setValue_iff readable]
  simp only [List.mem_filter, set, carried, true_and, Bool.not_eq_true', Bool.not_eq_false,
    takes_trim]

/-- A cookie with an equals sign is named by what stands before it, whatever the attributes. -/
theorem taken_alike_path :
    ((Utf8.encode "track=1; Path=/" ∉
        (((named "track").editResponse
          ⟨[⟨"set-cookie", Utf8.encode "track=1; Path=/"⟩]⟩).getD
            ⟨[⟨"set-cookie", Utf8.encode "track=1; Path=/"⟩]⟩).values "set-cookie") ↔
      Text.trim "track=1" ∉ (((named "track").editRequest
        ⟨[⟨"cookie", Utf8.encode "track=1"⟩]⟩).getD
          ⟨[⟨"cookie", Utf8.encode "track=1"⟩]⟩).readableCookies) := by
  have readable : Http.readable? (Utf8.encode "track=1") = some "track=1".toList := by
    decide +kernel
  have sent : (⟨[⟨"cookie", Utf8.encode "track=1"⟩]⟩ : Headers).cookies? =
      some ["track=1".toList] := by decide +kernel
  refine (taken_alike_iff (fun d => Http.isReadable_of_readable? readable) (some " Path=/") sent
    ?_ ?_).mpr ?_
  · decide +kernel
  · decide +kernel
  · intro a member
    cases member
    exact (if_pos (by decide +kernel)).mpr (Or.inl (by decide))

/-- Without an equals sign the name reaches into the attributes, and only the request loses it. -/
theorem not_taken_alike_bare :
    ¬((Utf8.encode "track; Path=/" ∉
        (((named "track").editResponse
          ⟨[⟨"set-cookie", Utf8.encode "track; Path=/"⟩]⟩).getD
            ⟨[⟨"set-cookie", Utf8.encode "track; Path=/"⟩]⟩).values "set-cookie") ↔
      Text.trim "track" ∉ (((named "track").editRequest
        ⟨[⟨"cookie", Utf8.encode "track"⟩]⟩).getD
          ⟨[⟨"cookie", Utf8.encode "track"⟩]⟩).readableCookies) := by
  decide +kernel

end CookieChoice

end FilteringProxy
