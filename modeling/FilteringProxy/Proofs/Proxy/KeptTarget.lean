import FilteringProxy.Proofs.Http.Port
import FilteringProxy.Proofs.Proxy.Routing

/-! # Targets that are kept

A request on an intercepted connection is meant for the host and the port of the connection and for
its own path and query. The target that is put together for it says so, with two exceptions: an
asterisk is taken for a part of the host, and a port that is no port number is taken for the usual
one.
-/

namespace FilteringProxy

open Http (Request Uri)

/-! ## Ports of authorities -/

namespace Http.Uri

/-- What stands behind the host of an authority, after a colon. -/
def writtenPort (authority : Text) : Text :=
  match Text.cut? ':' ((hostAndPort authority).drop (hostOf authority).length) with
  | some (_, port) => port
  | none => []

/-- The port that a target over a secure connection stands for. -/
def securePort (u : Uri) : Nat := u.port?.getD 443

end Http.Uri

namespace Session

variable {s : Session} {asked uri : Uri}

theorem securePort_hostAndPort (s : Session) :
    (Uri.portNumber? s.hostAndPort).getD 443 = (Uri.portNumber? s.authority).getD 443 := by
  unfold hostAndPort
  cases read : Uri.portNumber? s.authority with
  | none =>
      rw [List.append_nil, Uri.portNumber?_hostOf]
  | some port =>
      dsimp only
      split
      · rename_i usual
        rw [List.append_nil, Uri.portNumber?_hostOf]
        exact usual.symm
      · rw [Uri.portNumber?_append _ (Uri.portNumber?_lt read)]

/-- The target goes to host and port of the connection, for path and query as asked for. -/
structure Keeps (authority : Text) (asked uri : Uri) : Prop where
  scheme : uri.scheme = some ("https" : Text)
  host : uri.host? = some (Uri.hostOf authority)
  port : Uri.writtenPort authority = [] ∧ uri.securePort = 443 ∨
    Uri.portNumber? authority = some uri.securePort
  path : uri.shownPath = asked.shownPath
  query : uri.query = asked.query

theorem hasPath_target (target : s.target? asked = some uri) : uri.hasPath = true := by
  have https : uri.scheme = some ("https" : Text) := target?_scheme target
  rw [Uri.hasPath, https, Option.isSome_some, Bool.or_true]

theorem target?_pathAndQuery (sound : s.IsSound) {written : Text}
    (parsed : Uri.parse? written = some asked) (shows : asked.hasPath = true)
    (no_asterisk : asked.path ≠ ['*']) (target : s.target? asked = some uri) :
    uri.shownPath = asked.shownPath ∧ uri.query = asked.query := by
  have shows' := hasPath_target target
  have reads := Uri.parse?_scheme Uri.isScheme_https (s.written_ne_nil asked)
  rw [splitAuthority_target sound parsed no_asterisk] at reads
  have whole := reads.symm.trans target
  simp only [Option.ite_none_left_eq_some] at whole
  obtain ⟨-, -, -, whole⟩ := whole
  obtain ⟨⟨path, query⟩, parts, rfl⟩ := Option.map_eq_some_iff.mp whole
  rw [Uri.shownPath_of_hasPath shows, Uri.shownPath_of_hasPath shows']
  have given : (asked.scheme.isSome || asked.authority = []) = true := by
    cases Uri.reads_of_parse parsed with
    | asterisk => rfl
    | origin => rfl
    | authority => cases shows
    | absolute => rfl
  have written_behind : asked.pathAndQuery?.getD "/" =
      if asked.path ++ Uri.showQuery asked.query = [] then ("/" : Text)
      else asked.path ++ Uri.showQuery asked.query := by
    rw [Uri.pathAndQuery?, if_pos given, Option.getD_some]
  rw [written_behind] at parts
  split at parts
  · rename_i empty
    obtain ⟨no_path, no_query⟩ := List.append_eq_nil_iff.mp empty
    cases query_asked : asked.query with
    | none =>
        cases parts
        rw [no_path]
        exact ⟨rfl, rfl⟩
    | some query =>
        rw [query_asked] at no_query
        cases no_query
  · obtain ⟨good_path, good_query⟩ := Uri.chars_of_parse parsed
    rw [Uri.parsePathAndQuery_append good_path good_query] at parts
    cases parts
    exact ⟨rfl, rfl⟩

/-- The target is kept unless the request asks for an asterisk or the port is none. -/
theorem keeps_iff (sound : s.IsSound) {written : Text} (parsed : Uri.parse? written = some asked)
    (shows : asked.hasPath = true) (target : s.target? asked = some uri) :
    Keeps s.authority asked uri ↔ asked.path ≠ ['*'] ∧
      (Uri.writtenPort s.authority = [] ∨ (Uri.portNumber? s.authority).isSome = true) := by
  obtain ⟨https, -, some_authority⟩ := target?_parts target
  constructor
  · intro kept
    constructor
    · intro asterisk
      have path := kept.path
      rw [Uri.shownPath_of_hasPath (hasPath_target target), Uri.shownPath_of_hasPath shows,
        asterisk, if_neg (List.cons_ne_nil _ _)] at path
      rcases Uri.path_front target some_authority with empty | slash
      · rw [if_pos empty] at path
        cases path
      · split at path
        · cases path
        · rw [path] at slash
          cases slash
    · rcases kept.port with ⟨none_written, -⟩ | read
      · exact Or.inl none_written
      · rw [read]
        exact Or.inr rfl
  · rintro ⟨no_asterisk, port⟩
    have same := (target?_authority sound parsed target).resolve_right fun h => no_asterisk h.1
    have host := (target?_host sound parsed target).resolve_right fun h => no_asterisk h.1
    obtain ⟨path, query⟩ := target?_pathAndQuery sound parsed shows no_asterisk target
    have secure : uri.securePort = (Uri.portNumber? s.authority).getD 443 := by
      rw [Uri.securePort, Uri.port?, same, securePort_hostAndPort]
    refine ⟨https, ?_, ?_, path, query⟩
    · rw [Uri.host?, if_neg some_authority, host]
    · rw [secure]
      cases read : Uri.portNumber? s.authority with
      | none =>
          rw [read] at port
          exact Or.inl ⟨port.resolve_right Bool.false_ne_true, rfl⟩
      | some port => exact Or.inr rfl

end Session

namespace Proxy

variable {p : Proxy} {w : Surroundings}

/-! ## Requests on intercepted connections -/

theorem inside_eq {place : Nat} {s : Session} (known : p.sessions[place]? = some s)
    (secured : s.stage = .secured) (w : Surroundings) (r : Request) (body : Bytes) :
    step w p (.inside place r body) =
      ((p.intercepted w s r body).1, .reply (p.intercepted w s r body).2.1,
        (p.intercepted w s r body).2.2) := by
  rw [step, inside, known]
  exact if_pos secured

/-- Whatever happens after a connection was intercepted, a request on it is either called a bad one
or handed on with a target. The target is kept unless the request asks for an asterisk or the port
of the connection is no port number. -/
theorem handed_target_kept_iff {target : Uri} {written : Text}
    (parsed : Uri.parse? written = some target) (intercepts : p.Intercepts w target)
    (later : List (Surroundings × Input)) (w' : Surroundings) (r : Request) (body : Bytes)
    {source : Text} (read : Uri.parse? source = some r.uri) (shows : r.uri.hasPath = true) :
    let s : Session := { authority := target.authority }
    let q := (step w p (.connect target)).1.run later
    let result := step w' q (.inside p.sessions.length r body)
    (∃ t, q.sessions[p.sessions.length]? = some t ∧ t.stage = .secured) →
      s.target? r.uri = none ∧ result = (q, .reply (.text 400 (s.targetFault r.uri)), {}) ∨
      ∃ uri, s.target? r.uri = some uri ∧
        (let served := q.serve w' (some s.host) { r with uri } body
        result = (served.1, .reply served.2.1, served.2.2)) ∧
        (Session.Keeps target.authority r.uri uri ↔ r.uri.path ≠ ['*'] ∧
          (Uri.writtenPort target.authority = [] ∨
            (Uri.portNumber? target.authority).isSome = true)) := by
  intro s q result secured
  obtain ⟨t, kept, secured⟩ := secured
  obtain ⟨leaf, -, more⟩ := intercepts
  have known : (step w p (.connect target)).1.sessions[p.sessions.length]? = some s := by
    rw [more]
    exact List.getElem?_concat_length
  obtain ⟨stage, known'⟩ := known_run known later
  have same : { s with stage } = t := Option.some.inj (known'.symm.trans kept)
  subst same
  have sound : s.IsSound := Uri.not_endsAuthority parsed
  have answered : result = _ := inside_eq kept secured w' r body
  cases handed : s.target? r.uri with
  | none =>
      left
      have refused : q.intercepted w' { s with stage } r body =
          (q, .text 400 (s.targetFault r.uri), {}) := by
        rw [intercepted, show Session.target? { s with stage } r.uri = none from handed]
        rfl
      rw [answered, refused]
      exact ⟨rfl, rfl⟩
  | some uri =>
      right
      have served : q.intercepted w' { s with stage } r body =
          q.serve w' (some s.host) { r with uri } body := by
        rw [intercepted, show Session.target? { s with stage } r.uri = some uri from handed]
        rfl
      refine ⟨uri, rfl, ?_, Session.keeps_iff sound read shows handed⟩
      rw [answered, served]

/-- An absolute target for another host, on a connection to a port of its own. -/
theorem handed_target_kept_iff_absolute :
    let w : Surroundings :=
      { root := .ok (Root.generate 0 0), dial := fun _ => .connected,
        reach := fun _ => .timedOut .connect }
    let r : Request :=
      { method := "GET", uri := ⟨some "http", "b.org", [], some "x=1"⟩, version := .http11,
        headers := {} }
    let p := start {} [] { cache := { capacity := 2 } }
    let q := (step w p (.connect ⟨none, "user@A.com:8443", [], none⟩)).1.run
      [(w, .handshake 0 .completed)]
    Session.Keeps "user@A.com:8443" r.uri ⟨some "https", "A.com:8443", [], some "x=1"⟩ ∧
      (step w q (.inside p.sessions.length r [])).2.2.contacts = [⟨"A.com", 8443⟩] := by
  intro w r p q
  have parsed : Uri.parse? "user@A.com:8443" = some ⟨none, "user@A.com:8443", [], none⟩ := by
    decide
  have not_exempt : ¬p.Exempts w (knownHost "user@A.com:8443") := by
    rintro (numbers | ⟨member, _⟩ | ⟨_, ⟨_, ⟨⟩⟩ | unnamed⟩)
    · exact absurd numbers (by decide)
    · cases member
    · exact absurd unnamed (by decide)
  have intercepts : p.Intercepts w ⟨none, "user@A.com:8443", [], none⟩ :=
    (intercepts_iff (by decide)).mpr not_exempt
  have read : Uri.parse? "http://b.org?x=1" = some r.uri := by decide
  have secured : ∃ t, q.sessions[p.sessions.length]? = some t ∧ t.stage = .secured :=
    ⟨{ authority := "user@A.com:8443", stage := .secured }, by decide +kernel, rfl⟩
  have restored : Session.target? { authority := "user@A.com:8443" } r.uri =
      some ⟨some "https", "A.com:8443", [], some "x=1"⟩ := by
    decide +kernel
  rcases handed_target_kept_iff parsed intercepts [(w, .handshake 0 .completed)] w r [] read rfl
    secured with ⟨none_restored, -⟩ | ⟨uri, handed, -, kept⟩
  · rw [restored] at none_restored
    cases none_restored
  · rw [restored, Option.some.injEq] at handed
    rw [← handed] at kept
    exact ⟨kept.mpr ⟨by decide, Or.inr (by decide)⟩, by decide +kernel⟩

/-- An asterisk right behind the host is asked for another host. -/
theorem asterisk_joins_host :
    let w : Surroundings :=
      { root := .ok (Root.generate 0 0), dial := fun _ => .connected,
        reach := fun _ => .timedOut .connect }
    let r : Request :=
      { method := "OPTIONS", uri := ⟨none, [], ['*'], none⟩, version := .http11, headers := {} }
    let p := start {} [] { cache := { capacity := 2 } }
    let q := (step w p (.connect ⟨none, "a.invalid:443", [], none⟩)).1.run
      [(w, .handshake 0 .completed)]
    Uri.parse? "a.invalid:443" = some ⟨none, "a.invalid:443", [], none⟩ ∧
      Uri.parse? "*" = some r.uri ∧
      q.sessions = [{ authority := "a.invalid:443", stage := .secured }] ∧
      (step w q (.inside 0 r [])).2.2.contacts = [⟨"a.invalid*", 443⟩] ∧
      ∃ uri, Session.target? { authority := "a.invalid:443" } r.uri = some uri ∧
        uri.host? = some ("a.invalid*" : Text) ∧ ¬Session.Keeps "a.invalid:443" r.uri uri := by
  intro w r p q
  refine ⟨by decide, by decide, by decide +kernel, by decide +kernel,
    ⟨some "https", "a.invalid*", [], none⟩, by decide +kernel, by decide, fun kept => ?_⟩
  exact absurd kept.path (by decide)

end Proxy

end FilteringProxy
