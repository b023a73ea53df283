import FilteringProxy.Proofs.Http.Headers
import FilteringProxy.Proofs.Modifier.Context
import FilteringProxy.Proofs.Url.Page

/-! # A page and itself

The site of a request is taken from its target as it is written, and the site of the page from the
page's URL, where a host has been read already. The two are the same for a page and its own URL
unless the host is an address in an unusual form.
-/

namespace FilteringProxy

open Http (Uri Request)
open Http.Uri (hostOf)

variable {lookup? : Text → Option Text} {host address : Text}

/-! ## Sites -/

/-- A look-up of domains gives the last labels of a host. -/
def GivesLastLabels (lookup? : Text → Option Text) : Prop :=
  ∀ host domain, lookup? host = some domain →
    Text.splitOn '.' domain <:+ Text.splitOn '.' host

theorem PublicSuffix.givesLastLabels : GivesLastLabels registrable? := by
  intro host domain found
  simp only [registrable?, Option.ite_none_left_eq_some, Option.some.injEq] at found
  obtain ⟨-, rfl⟩ := found
  generalize suffixLength (Text.splitOn '.' host).reverse = n
  have last : ((Text.splitOn '.' host).reverse.take (n + 1)).reverse <:+ Text.splitOn '.' host := by
    rw [← List.reverse_prefix, List.reverse_reverse]
    exact List.take_prefix _ _
  have some_label : ((Text.splitOn '.' host).reverse.take (n + 1)).reverse ≠ [] := by
    simp [Text.splitOn_ne_nil]
  rw [Text.splitOn_join some_label fun part member stop => ?_]
  · exact last
  · exact (Text.mem_part (last.subset member) stop).1 rfl

theorem siteBy_suffix (labels : GivesLastLabels lookup?) (host : Text) :
    Text.splitOn '.' (siteBy lookup? host) <:+
      Text.splitOn '.' (Text.dropEnd (· == '.') host) := by
  simp only [siteBy]
  split
  · exact List.suffix_rfl
  · cases found : lookup? (Text.dropEnd (· == '.') host) with
    | none => exact List.suffix_rfl
    | some domain => exact labels _ _ found

theorem siteBy_dropEnd (lookup? : Text → Option Text) (host : Text) :
    siteBy lookup? (Text.dropEnd (· == '.') host) = siteBy lookup? host := by
  simp only [siteBy, Text.dropEnd_dropEnd]

/-! ## Sites of addresses -/

theorem eq_of_splitOn_suffix {s t : Text} (last : Text.splitOn '.' s <:+ [t]) : s = t := by
  obtain ⟨front, whole⟩ := last
  cases front with
  | nil =>
      rw [List.nil_append] at whole
      rw [← Text.join_splitOn '.' s, whole]
      rfl
  | cons part front => simp [Text.splitOn_ne_nil] at whole

theorem siteBy_of_not_mem (labels : GivesLastLabels lookup?) {t : Text} (no_stop : '.' ∉ t) :
    siteBy lookup? t = t := by
  have last := siteBy_suffix labels t
  have whole : Text.dropEnd (· == '.') t = t := by
    apply Text.dropEnd_eq_self
    intro c member
    rw [beq_eq_false_iff_ne]
    rintro rfl
    exact no_stop member
  rw [whole, Text.splitOn_of_not_mem no_stop] at last
  exact eq_of_splitOn_suffix last

theorem siteBy_showIpv4 (lookup? : Text → Option Text) (n : Nat) :
    siteBy lookup? (Url.showIpv4 n) = Url.showIpv4 n := by
  have plain (bracket : Char) (other : bracket ≠ '.') (no_digit : bracket.isDigit = false) :
      ∀ c ∈ Url.showIpv4 n, (c == bracket) = false := by
    intro c member
    rw [beq_eq_false_iff_ne]
    rintro rfl
    rcases Url.mem_showIpv4 member with stop | digit
    · exact other stop
    · rw [no_digit] at digit
      cases digit
  have is_address : Url.isAddress (Url.showIpv4 n) = true := by
    obtain ⟨m, parsed⟩ := Option.isSome_iff_exists.mp (Url.isSome_parseIpv4?_showIpv4 n)
    simp only [Url.isAddress, Url.addressBytes?, parsed, Option.isSome_some]
  simp only [siteBy, Url.dropEnd_showIpv4,
    Text.dropWhile_eq_self (plain '[' (by decide) (by decide)),
    Text.dropEnd_eq_self (plain ']' (by decide) (by decide)), is_address, if_true]

theorem siteBy_address (labels : GivesLastLabels lookup?) (stands : Url.StandsFor host address) :
    siteBy lookup? address = address := by
  cases stands with
  | @numbers _ n _ => exact siteBy_showIpv4 lookup? n
  | @pieces _ pieces _ =>
      exact siteBy_of_not_mem labels (by simp [Url.dot_not_mem_showIpv6])

/-- A host whose last labels are its address is written like it. -/
theorem eq_of_suffix (stands : Url.StandsFor host address)
    (last : Text.splitOn '.' address <:+
      Text.splitOn '.' (Text.dropEnd (· == '.') host.lower)) :
    Text.dropEnd (· == '.') host.lower = address := by
  cases stands with
  | @numbers _ n read =>
      have few := Url.length_labels read
      have four : (Text.splitOn '.' (Url.showIpv4 n)).length = 4 := by
        rw [Url.splitOn_showIpv4]
        rfl
      have same := last.eq_of_length_le (by omega)
      rw [← Text.join_splitOn '.' (Url.showIpv4 n), same, Text.join_splitOn]
  | @pieces inside pieces read =>
      have small : Text.lower ('[' :: (inside ++ [']'])) = '[' :: (Text.lower inside ++ [']']) := by
        simp [Text.lower]
      have whole : Text.dropEnd (· == '.') ('[' :: (Text.lower inside ++ [']'])) =
          '[' :: (Text.lower inside ++ [']']) :=
        Text.dropEnd_append_left (s := '[' :: Text.lower inside) (t := [']'])
          ⟨']', by decide, by decide⟩
      rw [small, whole] at last ⊢
      have ending := Text.join_suffix ['.'] last
      rw [Text.join_splitOn, Text.join_splitOn] at ending
      obtain ⟨front, same⟩ := ending
      cases front with
      | nil => exact same.symm
      | cons c front =>
          have later := (List.cons.inj same).2
          have bracket : '[' ∈ Text.lower inside ++ [']'] := by
            rw [← later]
            exact List.mem_append_right _ List.mem_cons_self
          rcases List.mem_append.mp bracket with within | closing
          · exact absurd (Text.mem_of_mem_lower (by decide) within)
              (Url.not_mem_of_parseIpv6? read (Or.inl rfl))
          · cases List.mem_singleton.mp closing

/-- A host has the site of its address exactly when it is written like it. -/
theorem siteBy_eq_iff (labels : GivesLastLabels lookup?) (stands : Url.StandsFor host address) :
    siteBy lookup? host.lower = siteBy lookup? address ↔
      Text.dropEnd (· == '.') host.lower = address := by
  have own := siteBy_address labels stands
  constructor
  · intro same
    have last := siteBy_suffix labels host.lower
    rw [same, own] at last
    exact eq_of_suffix stands last
  · intro same
    rw [← siteBy_dropEnd, same]

/-! ## Requests from the own page -/

/-- The host is a name, or an address in its usual form; full stops at the end do not count. -/
def Url.SpelledOut (host : Text) : Prop :=
  ∀ address ∈ Url.address? host, Text.dropEnd (· == '.') host.lower = address

/-- The request comes from the page with the text of its own target as URL. -/
structure FromOwnPage (u : Uri) (r : Request) : Prop where
  target : r.uri = u
  unannounced : r.headers.first? "sec-fetch-site" = none
  referer : r.headers.first? "referer" = some (Utf8.encode u.print)

theorem siteBy_page_iff (labels : GivesLastLabels lookup?) (host : Text) :
    siteBy lookup? host.lower = siteBy lookup? ((Url.address? host).getD host.lower) ↔
      Url.SpelledOut host := by
  rw [Url.SpelledOut]
  cases found : Url.address? host with
  | none => simp
  | some address => simpa using siteBy_eq_iff labels (Url.standsFor_of_address? found)

namespace FromOwnPage

variable {written page : Text} {u : Uri} {r : Request}

theorem crossesBy?_eq (own : FromOwnPage u r) (named : u.authority ≠ [])
    (shown : Url.pageHost? u.print = some page) (lookup? : Text → Option Text) :
    PartyCondition.crossesBy? lookup? r =
      if (Http.readable? (Utf8.encode u.print)).isSome then
        some (siteBy lookup? (hostOf u.authority).lower != siteBy lookup? page)
      else none := by
  have unannounced : r.headerText? "sec-fetch-site" = none := by
    rw [Http.Request.headerText?, own.unannounced, Option.bind_none]
  have host : r.host? = some (hostOf u.authority).lower := by
    rw [Http.Request.host?, own.target, Uri.host?, if_neg named, Option.map_some]
  have referer : r.pageHost? = (Http.readable? (Utf8.encode u.print)).bind Url.pageHost? := by
    rw [Http.Request.pageHost?, Http.Request.headerText?, own.referer, Option.bind_some]
  rw [PartyCondition.crossesBy?, unannounced, host, referer]
  cases read : Http.readable? (Utf8.encode u.print) with
  | none => rfl
  | some t =>
      rw [(Http.readable?_encode_eq_some.mp read).2, Option.bind_some, shown]
      rfl

end FromOwnPage

/-- A request for a target with nothing but its own page in the headers. -/
def requestFor (u : Uri) : Request :=
  ⟨"GET", u, .http11, ⟨[⟨"referer", Utf8.encode u.print⟩]⟩⟩

theorem fromOwnPage_requestFor (u : Uri) : FromOwnPage u (requestFor u) := by
  constructor
  · rfl
  · rfl
  · rfl

/-- A page is first-party to itself exactly when its URL can be read and its host is a name or
spelled as an address usually is. -/
theorem PartyCondition.own_page_iff (labels : GivesLastLabels lookup?) {written : Text}
    {u : Uri} {r : Request} (parsed : Uri.parse? written = some u)
    (web : u.scheme = some ("http" : Text) ∨ u.scheme = some ("https" : Text))
    (accepted : (Url.pageHost? u.print).isSome = true) (own : FromOwnPage u r) :
    (holdsBy lookup? ⟨false⟩ r = false ∧ holdsBy lookup? ⟨true⟩ r = true) ↔
      (∀ c ∈ u.print, Http.IsReadable c) ∧ Url.SpelledOut (hostOf u.authority) := by
  obtain ⟨page, shown⟩ := Option.isSome_iff_exists.mp accepted
  obtain ⟨scheme, good, -⟩ := Url.absolute_of_web parsed web
  have page_form := Url.pageHost?_print parsed web shown
  have crosses := own.crossesBy?_eq good.some_authority shown lookup?
  rw [holdsBy_eq, holdsBy_eq, crosses, ← Http.isSome_readable?_encode]
  split
  · rename_i readable
    rw [page_form, ← siteBy_page_iff labels]
    simp [readable]
  · rename_i unreadable
    simp [unreadable]

/-- A name with capital letters and a full stop at its end. -/
theorem PartyCondition.own_page_name :
    holdsBy PublicSuffix.registrable? ⟨false⟩ (requestFor ⟨some "http", "A.com.", "/", none⟩) =
        false ∧
      holdsBy PublicSuffix.registrable? ⟨true⟩ (requestFor ⟨some "http", "A.com.", "/", none⟩) =
        true := by
  have parsed : Uri.parse? "http://A.com./" = some ⟨some "http", "A.com.", "/", none⟩ := by
    decide +kernel
  refine (own_page_iff PublicSuffix.givesLastLabels parsed (Or.inl rfl) ?_
    (fromOwnPage_requestFor _)).mpr ⟨?_, ?_⟩
  · decide +kernel
  · rw [← Http.isSome_readable?_encode]
    decide +kernel
  · have name : Url.address? (hostOf "A.com.") = none := by decide +kernel
    intro address member
    rw [name] at member
    cases member

/-- A page at `127.1` names itself as `127.0.0.1`, and so is third-party to itself. -/
theorem PartyCondition.not_own_page_shortened :
    Uri.parse? "http://127.1/" = some ⟨some "http", "127.1", "/", none⟩ ∧
      Url.pageHost? "http://127.1/" = some "127.0.0.1".toList ∧
      FromOwnPage ⟨some "http", "127.1", "/", none⟩
        (requestFor ⟨some "http", "127.1", "/", none⟩) ∧
      ¬(holdsBy PublicSuffix.registrable? ⟨false⟩ (requestFor ⟨some "http", "127.1", "/", none⟩) =
          false ∧
        holdsBy PublicSuffix.registrable? ⟨true⟩ (requestFor ⟨some "http", "127.1", "/", none⟩) =
          true) := by
  refine ⟨?_, ?_, fromOwnPage_requestFor _, ?_⟩
  · decide +kernel
  · decide +kernel
  · decide +kernel

end FilteringProxy
