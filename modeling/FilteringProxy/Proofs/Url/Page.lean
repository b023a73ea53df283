import FilteringProxy.Proofs.Http.Absolute
import FilteringProxy.Proofs.Http.Host
import FilteringProxy.Proofs.Url.Address
import FilteringProxy.Proofs.Url.Form
import FilteringProxy.Proofs.Url.HostName
import FilteringProxy.Url.Page

/-! # The host of a page and the host of a target

An absolute target of the web can also be read as the URL of a page. Both readings find the same
host, but they write it differently: as the target has it, and as its name in small letters or the
usual form of its address.
-/

namespace FilteringProxy.Url

open Http (Uri)
open Http.Uri (AuthorityScan hostOf hostAndPort isAuthority isAuthorityChar)

/-- The address that a host stands for, in its usual form; nothing for a name. -/
def address? (host : Text) : Option Text :=
  if host.head? = some '[' then bracketed? host
  else if endsInNumber host.lower then (parseLooseIpv4? host.lower).map showIpv4
  else none

/-! ## Hosts of the web -/

section

variable {host page : Text}

theorem webHost?_eq_some (no_bracket : host.head? ≠ some '[') (read : webHost? host = some page) :
    ∃ t name, Utf8.decode? (unescape (Utf8.encode host)) = some t ∧ hostName? t = some name ∧
      (if endsInNumber name then (parseLooseIpv4? name).map showIpv4 else some name) =
        some page := by
  rw [webHost?, if_neg no_bracket] at read
  cases decoded : Utf8.decode? (unescape (Utf8.encode host)) with
  | none =>
      simp only [decoded] at read
      cases read
  | some t =>
      cases named : hostName? t with
      | none =>
          simp only [decoded, named] at read
          cases read
      | some name =>
          simp only [decoded, named, Option.ite_none_left_eq_some] at read
          exact ⟨t, name, rfl, named, read.2⟩

theorem eq_of_webHost? (ascii : ∀ c ∈ host, c.toNat < 0x80)
    (plain : host.head? ≠ some '[' → '%' ∉ host) (read : webHost? host = some page) :
    page = (address? host).getD host.lower := by
  by_cases bracket : host.head? = some '['
  · rw [webHost?, if_pos bracket] at read
    rw [address?, if_pos bracket, read, Option.getD_some]
  · obtain ⟨t, name, decoded, named, shown⟩ := webHost?_eq_some bracket read
    have unescaped : unescape (Utf8.encode host) = Utf8.encode host := by
      apply unescape_of_not_mem
      intro member
      exact plain bracket (Utf8.mem_of_mem_encode (by decide) member)
    rw [unescaped, Utf8.decode?_encode] at decoded
    cases decoded
    have small := hostName?_of_ascii ascii named
    subst small
    rw [address?, if_neg bracket]
    split at shown
    · rename_i number
      rw [if_pos number, shown, Option.getD_some]
    · rename_i no_number
      rw [if_neg no_number]
      exact (Option.some.inj shown).symm

theorem mem_of_unescape {c : Char} (ascii : c.toNat < 0x80)
    (no_digit : hexByte? (UInt8.ofNat c.toNat) = none) (no_percent : UInt8.ofNat c.toNat ≠ 0x25)
    {t : Text} (decoded : Utf8.decode? (unescape (Utf8.encode host)) = some t)
    (member : c ∈ host) : c ∈ t := by
  have byte : (UInt8.ofNat c.toNat).toNat = c.toNat := Utf8.toNat_ofNat (by omega)
  have kept := mem_unescape no_digit no_percent (Utf8.mem_encode ascii member)
  have there := Utf8.mem_of_decode? (byte.trans_lt ascii) decoded kept
  rwa [byte, Char.ofNat_toNat] at there

theorem not_mem_of_webHost? {c : Char} (bracket : c = '[' ∨ c = ']')
    (no_bracket : host.head? ≠ some '[') (read : webHost? host = some page) : c ∉ host := by
  obtain ⟨t, name, decoded, named, -⟩ := webHost?_eq_some no_bracket read
  intro member
  rcases bracket with rfl | rfl
  · have there := mem_of_unescape (by decide) (by decide) (by decide) decoded member
    exact not_mem_of_hostName? ⟨by decide, by decide⟩ (by decide) named there
  · have there := mem_of_unescape (by decide) (by decide) (by decide) decoded member
    exact not_mem_of_hostName? ⟨by decide, by decide⟩ (by decide) named there

theorem bracketed?_eq_some (bracket : host.head? = some '[') (read : bracketed? host = some page) :
    ∃ inside pieces, host = '[' :: (inside ++ [']']) ∧ parseIpv6? inside = some pieces ∧
      page = '[' :: (showIpv6 pieces ++ [']']) := by
  obtain ⟨rest, rfl⟩ := List.head?_eq_some_iff.mp bracket
  rw [bracketed?, List.drop_one, List.tail_cons] at read
  cases ending : Text.before? [']'] rest with
  | none =>
      rw [ending] at read
      cases read
  | some inside =>
      rw [ending] at read
      obtain ⟨pieces, parsed, rfl⟩ := Option.map_eq_some_iff.mp read
      exact ⟨inside, pieces, by rw [← Text.before?_eq_some ending], parsed, rfl⟩

/-- How a host stands for an address: by one number or more, or by the pieces in brackets. -/
inductive StandsFor : Text → Text → Prop
  | numbers {host : Text} {n : Nat} (read : parseLooseIpv4? host.lower = some n) :
      StandsFor host (showIpv4 n)
  | pieces {inside : Text} {pieces : List Nat} (read : parseIpv6? inside = some pieces) :
      StandsFor ('[' :: (inside ++ [']'])) ('[' :: (showIpv6 pieces ++ [']']))

theorem standsFor_of_address? {address : Text} (found : address? host = some address) :
    StandsFor host address := by
  rw [address?] at found
  split at found
  · rename_i bracket
    obtain ⟨inside, pieces, rfl, read, rfl⟩ := bracketed?_eq_some bracket found
    exact .pieces read
  · rw [Option.ite_none_right_eq_some] at found
    obtain ⟨n, read, rfl⟩ := Option.map_eq_some_iff.mp found.2
    exact .numbers read

theorem StandsFor.lower {address : Text} (stands : StandsFor host address) :
    address.lower = address := by
  cases stands with
  | @numbers _ n _ => exact lower_showIpv4 n
  | @pieces _ pieces _ =>
      have small : (showIpv6 pieces ++ [']']).lower = showIpv6 pieces ++ [']'] :=
        List.map_append.trans (congrArg (· ++ [']']) (lower_showIpv6 pieces))
      exact congrArg ('[' :: ·) small

theorem not_mem_of_parseIpv6? {inside : Text} {pieces : List Nat}
    (parsed : parseIpv6? inside = some pieces) {c : Char} (bracket : c = '[' ∨ c = ']') :
    c ∉ inside := by
  intro member
  have unread : parseIpv6? inside = none := by
    rcases bracket with rfl | rfl
    · exact parseIpv6?_eq_none member (by decide) (by decide) (by decide) (by decide)
    · exact parseIpv6?_eq_none member (by decide) (by decide) (by decide) (by decide)
  rw [parsed] at unread
  cases unread

end

/-! ## The end of the host -/

/-- A port with its colon, if there is one. -/
def showPort : Option Text → Text
  | none => []
  | some port => ':' :: port

theorem splitPort_eq {inside : Bool} {t host : Text} {port : Option Text}
    (split : splitPort inside t = (host, port)) : t = host ++ showPort port := by
  induction t generalizing inside host port with
  | nil =>
      cases split
      rfl
  | cons c t ih =>
      rw [splitPort] at split
      split at split
      · rename_i colon
        simp only [Bool.and_eq_true, decide_eq_true_eq] at colon
        cases split
        rw [colon.1]
        rfl
      · cases split
        exact congrArg (c :: ·) (ih rfl)

theorem splitPort_of_not_mem {t host : Text} {port : Option Text}
    (split : splitPort false t = (host, port)) (closed : '[' ∉ host) : host = Text.upTo ':' t := by
  induction t generalizing host port with
  | nil =>
      cases split
      rfl
  | cons c t ih =>
      rw [splitPort] at split
      split at split
      · rename_i colon
        simp only [Bool.not_false, Bool.and_true, decide_eq_true_eq] at colon
        cases split
        rw [colon]
        rfl
      · rename_i other
        simp only [Bool.not_false, Bool.and_true, decide_eq_true_eq] at other
        cases split
        rw [List.mem_cons, not_or] at closed
        rw [Text.upTo_cons other]
        have outside : (if c = '[' then true else if c = ']' then false else false) = false := by
          rw [if_neg (Ne.symm closed.1), ite_self]
        simp only [outside] at closed ⊢
        exact congrArg (c :: ·) (ih rfl closed.2)

/-- Both readings end the host at the same place. -/
theorem hostOf_of_splitPort {authority host page : Text} {port : Option Text}
    (split : splitPort false (hostAndPort authority) = (host, port))
    (read : webHost? host = some page) : hostOf authority = host := by
  by_cases bracket : host.head? = some '['
  · rw [webHost?, if_pos bracket] at read
    obtain ⟨inside, pieces, rfl, parsed, -⟩ := bracketed?_eq_some bracket read
    have whole := splitPort_eq split
    have closed : ']' ∉ '[' :: inside := by
      rw [List.mem_cons, not_or]
      exact ⟨by decide, not_mem_of_parseIpv6? parsed (Or.inr rfl)⟩
    have regroup : '[' :: (inside ++ [']']) ++ showPort port =
        '[' :: inside ++ ']' :: showPort port := by
      simp
    rw [regroup] at whole
    rw [hostOf, whole]
    have cut := Text.upTo_append_cons closed (showPort port)
    change Text.upTo ']' ('[' :: inside ++ ']' :: showPort port) ++ [']'] = _
    rw [cut]
    rfl
  · have open_bracket := not_mem_of_webHost? (Or.inl rfl) bracket read
    have same := splitPort_of_not_mem split open_bracket
    rw [hostOf]
    split
    · rename_i rest front
      rw [front, Text.upTo_cons (by decide)] at same
      rw [same] at bracket
      exact absurd rfl bracket
    · exact same.symm

/-! ## Escapes -/

theorem percent_step {s s' : AuthorityScan} {c : Char} (closing : c ≠ ']') (user : c ≠ '@')
    (step : s.step c = some s') (marked : s.percent = true ∨ c = '%') : s'.percent = true := by
  rw [AuthorityScan.step, if_neg closing, if_neg user] at step
  split at step
  · rename_i colon
    rw [Option.ite_none_left_eq_some, Option.some.injEq] at step
    rw [← step.2]
    exact marked.resolve_right (by rw [colon]; decide)
  split at step
  · rename_i bracket
    rw [Option.ite_none_left_eq_some, Option.some.injEq] at step
    rw [← step.2]
    exact marked.resolve_right (by rw [bracket]; decide)
  split at step
  · cases step
    rfl
  · rename_i other
    rw [Option.ite_none_right_eq_some, Option.some.injEq] at step
    rw [← step.2]
    exact marked.resolve_right other

theorem percent_foldlM {t : Text} {s s' : AuthorityScan} (closing : ']' ∉ t) (user : '@' ∉ t)
    (scanned : t.foldlM AuthorityScan.step s = some s') (marked : s.percent = true ∨ '%' ∈ t) :
    s'.percent = true := by
  induction t generalizing s with
  | nil =>
      cases scanned
      exact marked.resolve_right List.not_mem_nil
  | cons c t ih =>
      rw [List.mem_cons, not_or] at closing user
      rw [List.foldlM_cons] at scanned
      obtain ⟨next, step, rest⟩ := Option.bind_eq_some_iff.mp scanned
      refine ih closing.2 user.2 rest ?_
      rw [List.mem_cons, ← or_assoc] at marked
      refine marked.imp_left fun here => ?_
      exact percent_step (Ne.symm closing.1) (Ne.symm user.1) step (here.imp_right Eq.symm)

/-- Host and port hold no escape unless there is a closing bracket. -/
theorem percent_not_mem {authority : Text} (good : isAuthority authority = true)
    (closing : ']' ∉ hostAndPort authority) : '%' ∉ hostAndPort authority := by
  intro member
  obtain ⟨s, run, unmarked⟩ := Uri.exists_scan good
  obtain ⟨front, whole⟩ : hostAndPort authority <:+ authority := by
    rw [← List.reverse_prefix, hostAndPort, List.reverse_reverse]
    exact Text.upTo_prefix '@' authority.reverse
  rw [← whole, List.foldlM_append] at run
  obtain ⟨middle, -, scanned⟩ := Option.bind_eq_some_iff.mp run
  have marked := percent_foldlM closing (Uri.not_mem_hostAndPort authority) scanned (Or.inr member)
  rw [unmarked] at marked
  cases marked

/-! ## Authorities of the web -/

theorem isDigit_of_isPort {digits tail : Text} (port : isPort (digits ++ tail) = true)
    (inside : ∀ c ∈ digits, SchemeKind.web.endsAuthority c = false) :
    ∀ c ∈ digits, c.isDigit = true := by
  cases left : digits.dropWhile Char.isDigit with
  | nil => exact List.dropWhile_eq_nil_iff.mp left
  | cons c rest =>
      have member : c ∈ digits := by
        apply (List.dropWhile_sublist Char.isDigit).subset
        rw [left]
        exact List.mem_cons_self
      have front : (digits ++ tail).dropWhile Char.isDigit = c :: (rest ++ tail) := by
        rw [List.dropWhile_append, left]
        rfl
      have closed := inside c member
      simp_all [isPort, SchemeKind.endsAuthority, SchemeKind.isSlash]

theorem authorityHost?_eq_some {authority tail : Text} {found : PageHost}
    (inside : ∀ c ∈ authority, SchemeKind.web.endsAuthority c = false)
    (front : ∀ c ∈ tail.head?, SchemeKind.web.endsAuthority c = true)
    (read : authorityHost? .web (authority ++ tail) = some found) :
    ∃ host port page, splitPort false (hostAndPort authority) = (host, port) ∧
      webHost? host = some page ∧ found = .named page ∧
      ∀ digits ∈ port, isPort (digits ++ tail) = true := by
  have all : ∀ c ∈ authority, (!SchemeKind.web.endsAuthority c) = true := fun c member => by
    rw [inside c member, Bool.not_false]
  have taken : (authority ++ tail).takeWhile (!SchemeKind.web.endsAuthority ·) = authority := by
    rw [List.takeWhile_append_of_pos all]
    cases tail with
    | nil => exact List.append_nil authority
    | cons c tail => rw [List.takeWhile_cons_of_neg (by simp [front c rfl]), List.append_nil]
  have left : (authority ++ tail).dropWhile (!SchemeKind.web.endsAuthority ·) = tail := by
    rw [List.dropWhile_append_of_pos all]
    cases tail with
    | nil => rfl
    | cons c tail => rw [List.dropWhile_cons_of_neg (by simp [front c rfl])]
  have behind_user : (authority.reverse.takeWhile (· != '@')).reverse = hostAndPort authority := rfl
  simp only [authorityHost?, taken, left, behind_user, decide_true, Bool.true_or, if_true,
    Option.ite_none_left_eq_some] at read
  cases split : splitPort false (hostAndPort authority) with
  | mk host port =>
      simp only [split] at read
      obtain ⟨-, -, read⟩ := read
      cases named : webHost? host with
      | none =>
          rw [named] at read
          cases read
      | some page =>
          rw [named] at read
          cases port with
          | none =>
              cases read
              exact ⟨host, none, page, rfl, named, rfl, nofun⟩
          | some digits =>
              simp only [Option.ite_none_right_eq_some, Option.some.injEq] at read
              obtain ⟨port, rfl⟩ := read
              refine ⟨host, some digits, page, rfl, named, rfl, fun shown member => ?_⟩
              cases member
              exact port

theorem percent_not_mem_host {authority tail host page : Text} {port : Option Text}
    (good : isAuthority authority = true)
    (inside : ∀ c ∈ authority, SchemeKind.web.endsAuthority c = false)
    (split : splitPort false (hostAndPort authority) = (host, port))
    (no_bracket : host.head? ≠ some '[') (accepted : webHost? host = some page)
    (digits : ∀ shown ∈ port, isPort (shown ++ tail) = true) : '%' ∉ host := by
  have whole := splitPort_eq split
  have closing : ']' ∉ hostAndPort authority := by
    rw [whole, List.mem_append, not_or]
    refine ⟨not_mem_of_webHost? (Or.inr rfl) no_bracket accepted, ?_⟩
    cases port with
    | none => exact List.not_mem_nil
    | some shown =>
        have within : ∀ c ∈ shown, SchemeKind.web.endsAuthority c = false := by
          intro c member
          have there : c ∈ hostAndPort authority := by
            rw [whole]
            exact List.mem_append_right _ (List.mem_cons_of_mem _ member)
          exact inside c (Uri.mem_of_mem_hostAndPort there)
        intro member
        rcases List.mem_cons.mp member with colon | bracket
        · cases colon
        · cases isDigit_of_isPort (digits shown rfl) within ']' bracket
  have plain := percent_not_mem good closing
  rw [whole, List.mem_append, not_or] at plain
  exact plain.1

/-! ## The page that a target names -/

theorem absolute_of_web {written : Text} {u : Uri} (parsed : Uri.parse? written = some u)
    (web : u.scheme = some ("http" : Text) ∨ u.scheme = some ("https" : Text)) :
    ∃ scheme, u.Absolute scheme ∧ (scheme = "http" ∨ scheme = "https") := by
  rcases web with http | https
  · exact ⟨_, Uri.absolute_of_parse parsed http, Or.inl rfl⟩
  · exact ⟨_, Uri.absolute_of_parse parsed https, Or.inr rfl⟩

theorem parsePage?_print {u : Uri} {scheme : Text} (good : u.Absolute scheme)
    (web : scheme = "http" ∨ scheme = "https")
    (inside : ∀ c ∈ u.authority, SchemeKind.web.endsAuthority c = false) :
    parsePage? u.print = authorityHost? .web (u.authority ++ (u.shownPath ++ Uri.showQuery u.query)) := by
  have visible := good.visible
  have trimmed : Text.trimWith (fun c => c.toNat ≤ 0x20) u.print = u.print :=
    Text.trimWith_eq_self fun c member => decide_eq_false (Nat.not_le.mpr (visible c member).1)
  have filtered : u.print.filter (fun c => !(c = '\t' || c = '\n' || c = '\r')) = u.print := by
    refine List.filter_eq_self.mpr fun c member => ?_
    have apart {d : Char} (low : d.toNat < 33) : c ≠ d := by
      rintro rfl
      exact Nat.not_lt.mpr (visible c member).1 low
    simp [apart (d := '\t') (by decide), apart (d := '\n') (by decide),
      apart (d := '\r') (by decide)]
  have read : schemeOf? u.print =
      some (scheme, '/' :: '/' :: (u.authority ++ (u.shownPath ++ Uri.showQuery u.query))) := by
    rw [good.print_eq_shown]
    rcases web with rfl | rfl
    · rfl
    · rfl
  have kind : SchemeKind.ofScheme scheme = .web := by
    rcases web with rfl | rfl
    · decide
    · decide
  have slashes : ('/' :: '/' :: (u.authority ++ (u.shownPath ++ Uri.showQuery u.query))).dropWhile
      SchemeKind.web.isSlash = u.authority ++ (u.shownPath ++ Uri.showQuery u.query) := by
    cases named : u.authority with
    | nil => exact absurd named good.some_authority
    | cons c rest =>
        have plain : SchemeKind.web.isSlash c = false := by
          have closed := inside c (named ▸ List.mem_cons_self)
          simp only [SchemeKind.endsAuthority, Bool.or_eq_false_iff] at closed
          exact closed.1.1
        rw [List.dropWhile_cons_of_pos (by decide), List.dropWhile_cons_of_pos (by decide),
          List.cons_append, List.dropWhile_cons_of_neg (Bool.eq_false_iff.mp plain)]
  simp only [parsePage?, trimmed, filtered, read, kind, slashes]

theorem ascii_of_isAuthorityChar {c : Char} (good : isAuthorityChar c = true) :
    c.toNat < 0x80 := by
  have marks : ("!$&'()*+,-.;=_~:@[]" : Text).all (fun d => d.toNat < 0x80) = true := by decide
  rw [isAuthorityChar, Bool.or_eq_true, List.contains_iff_mem] at good
  rcases good with letter | mark
  · exact Text.toNat_of_isAlphanum letter
  · exact of_decide_eq_true (List.all_eq_true.mp marks c mark)

theorem ascii_of_isAuthority {authority : Text} (good : isAuthority authority = true) :
    ∀ c ∈ authority, c.toNat < 0x80 := by
  intro c member
  rcases Uri.chars_of_isAuthority good c member with inside | rfl
  · exact ascii_of_isAuthorityChar inside
  · decide

/-- What ends an authority on the web ends it in any target, but for the backslash, which stands in
none. -/
theorem web_inside {u : Uri} {scheme : Text} (good : u.Absolute scheme) :
    ∀ c ∈ u.authority, SchemeKind.web.endsAuthority c = false := by
  intro c member
  have closed := good.inside c member
  have backslash : c ≠ '\\' := by
    rintro rfl
    rcases Uri.chars_of_isAuthority good.authority _ member with bad | bad
    · revert bad
      decide
    · cases bad
  simp_all [SchemeKind.endsAuthority, SchemeKind.isSlash, Uri.endsAuthority]

theorem web_front {u : Uri} {scheme : Text} (good : u.Absolute scheme) :
    ∀ c ∈ (u.shownPath ++ Uri.showQuery u.query).head?, SchemeKind.web.endsAuthority c = true := by
  obtain ⟨path, shown⟩ := List.head?_eq_some_iff.mp good.shownPath_front.1
  intro c first
  rw [shown] at first
  cases first
  decide

theorem ascii_of_hostOf {authority : Text} (good : isAuthority authority = true) :
    ∀ c ∈ hostOf authority, c.toNat < 0x80 := by
  intro c member
  rcases Uri.mem_of_mem_hostOf member with there | rfl
  · exact ascii_of_isAuthority good c there
  · decide

/-- A target that names its own page names it by the usual form of its address or in small
letters. -/
theorem pageHost?_print {written page : Text} {u : Uri} (parsed : Uri.parse? written = some u)
    (web : u.scheme = some ("http" : Text) ∨ u.scheme = some ("https" : Text))
    (read : pageHost? u.print = some page) :
    page = (address? (hostOf u.authority)).getD (hostOf u.authority).lower := by
  obtain ⟨scheme, good, web⟩ := absolute_of_web parsed web
  have inside := web_inside good
  rw [pageHost?, parsePage?_print good web inside] at read
  split at read
  · rename_i shown found
    cases read
    obtain ⟨host, port, page, split, accepted, same, digits⟩ :=
      authorityHost?_eq_some inside (web_front good) found
    cases same
    have whole := hostOf_of_splitPort split accepted
    have ascii := ascii_of_hostOf good.authority
    rw [whole] at ascii ⊢
    have plain : host.head? ≠ some '[' → '%' ∉ host := fun no_bracket =>
      percent_not_mem_host good.authority inside split no_bracket accepted digits
    have written := eq_of_webHost? ascii plain accepted
    cases found : address? host with
    | none =>
        rw [found, Option.getD_none] at written
        rw [written, Text.lower_lower, Option.getD_none]
    | some address =>
        rw [found, Option.getD_some] at written
        rw [written, (standsFor_of_address? found).lower, Option.getD_some]
  · cases read

end FilteringProxy.Url
