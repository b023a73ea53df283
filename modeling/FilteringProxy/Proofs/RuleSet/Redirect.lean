import FilteringProxy.Proofs.Http.Shortening
import FilteringProxy.Proofs.RuleSet.Order
import FilteringProxy.Proofs.RuleSet.Verdict

/-! # Redirects come to an end

A redirect names a target with fewer segments in its query, so a client that goes where it is sent
is sent on no more often than its first target has segments.
-/

namespace FilteringProxy

open Http (Request Response Uri)

/-! ## What becomes of the target -/

/-- The second request goes to the target of the first, or to a shorter one. -/
def Http.Request.Shortened (r s : Request) : Prop := s.uri = r.uri ∨ r.uri.Shortened s.uri

theorem Http.Request.Shortened.trans {r s t : Request} (first : r.Shortened s)
    (second : s.Shortened t) : r.Shortened t := by
  rcases second with same | shorter
  · rw [Request.Shortened, same]
    exact first
  · rcases first with same | shorter'
    · exact Or.inr (same ▸ shorter)
    · exact Or.inr (shorter'.trans shorter)

theorem Edit.onRequest_shortened {e : Edit} {r s : Request} (edited : e.onRequest r = some s) :
    r.Shortened s := by
  rw [onRequest_eq, Option.ite_none_right_eq_some, Option.some.injEq] at edited
  obtain ⟨taken, rfl⟩ := edited
  cases e with
  | parameters c => exact Or.inr (Uri.shortened_dropSegments taken)
  | header c => exact Or.inl rfl
  | cookies c => exact Or.inl rfl

theorem RuleSet.requestRun_shortened (s : RuleSet) (r : Request) :
    r.Shortened (s.requestRun r).1 :=
  applyAll_related (R := Request.Shortened) (fun _ => Or.inl rfl) .trans
    Edit.onRequest_shortened _ r

theorem RuleSet.onRequest_shortened (s : RuleSet) (r : Request) : r.Shortened (s.onRequest r).1 := by
  have run := s.requestRun_shortened r
  have decided := s.onRequest_decides r
  generalize s.onRequest r = result at decided
  cases decided with
  | block found => exact Or.inl rfl
  | allow none_blocks still => exact Or.inl rfl
  | modified none_blocks reduced kept => exact run
  | redirect none_blocks reduced moved => exact run

/-! ## What the client is told -/

theorem values_location_redirectResponse (r : Request) (target : Text) :
    (redirectResponse r target).headers.values "location" =
      (Http.fieldValue? (Utf8.encode target)).toList := by
  have apart : ("location" : Text) ≠ "content-length" := by decide
  rw [redirectResponse, Http.Headers.values_append_of_ne _ apart]
  cases Http.fieldValue? (Utf8.encode target) with
  | none => rfl
  | some value => exact Http.Headers.values_append_same {} _ _

namespace Filter

/-- The request is answered with a redirect. -/
def Redirects (f : Filter) (r : Request) (answer : Response) : Prop :=
  (f.onRequest r).response = some answer ∧ answer.status = 307

/-- The next request goes where the answer to the first one sends the client. -/
def Follows (f : Filter) (r next : Request) : Prop :=
  ∃ answer target, f.Redirects r answer ∧
    answer.headers.values "location" = [Utf8.encode target] ∧ Uri.parse? target = some next.uri

theorem Redirects.shortened {f : Filter} {r : Request} {answer : Response}
    (redirected : f.Redirects r answer) :
    r.uri.Shortened (f.onRequest r).request.uri ∧
      answer = redirectResponse (f.onRequest r).request (f.onRequest r).request.uri.print := by
  obtain ⟨answered, status⟩ := redirected
  have decided := f.rules.onRequest_decides r
  have run := f.rules.requestRun_shortened r
  cases decision : f.rules.onRequest r with | mk edited verdict =>
    rw [decision] at decided
    simp only [onRequest, decision] at answered ⊢
    cases decided with
    | block found =>
        cases answered
        cases status
    | allow none_blocks still => cases answered
    | modified none_blocks reduced kept => cases answered
    | redirect none_blocks reduced moved =>
        cases answered
        refine ⟨run.resolve_left fun same => ?_, rfl⟩
        rw [same, Uri.same_self] at moved
        cases moved

variable {f : Filter} {r next : Request} {answer : Response} {written : Text}

theorem Redirects.location (redirected : f.Redirects r answer)
    (parsed : Uri.parse? written = some r.uri) (absolute : r.uri.scheme.isSome = true) :
    answer.headers.values "location" = [Utf8.encode (f.onRequest r).request.uri.print] := by
  obtain ⟨shorter, rfl⟩ := redirected.shortened
  obtain ⟨scheme, good⟩ := shorter.exists_absolute parsed absolute
  have fits := Http.fieldValue?_encode fun c member =>
    ⟨Nat.le_of_lt (good.visible c member).1, (good.visible c member).2⟩
  rw [values_location_redirectResponse, fits, Option.toList_some]

theorem Redirects.parse?_print (redirected : f.Redirects r answer)
    (parsed : Uri.parse? written = some r.uri) (absolute : r.uri.scheme.isSome = true) :
    Uri.parse? (f.onRequest r).request.uri.print = some (f.onRequest r).request.uri :=
  redirected.shortened.1.parse?_print parsed absolute

theorem Follows.shortened (followed : f.Follows r next) (parsed : Uri.parse? written = some r.uri)
    (absolute : r.uri.scheme.isSome = true) : r.uri.Shortened next.uri := by
  obtain ⟨answer, target, redirected, location, read⟩ := followed
  have named := redirected.location parsed absolute
  rw [location] at named
  obtain rfl := Utf8.encode_injective (List.cons.inj named).1
  rw [redirected.parse?_print parsed absolute, Option.some.injEq] at read
  exact read ▸ redirected.shortened.1

theorem Redirects.exists_follows (redirected : f.Redirects r answer)
    (parsed : Uri.parse? written = some r.uri) (absolute : r.uri.scheme.isSome = true) :
    ∃ next, f.Follows r next :=
  ⟨_, answer, _, redirected, redirected.location parsed absolute,
    redirected.parse?_print parsed absolute⟩

/-! ## Redirects one after another -/

/-- The client goes where it is sent, whenever it is sent anywhere. -/
def Obeyed (f : Filter) (requests : Nat → Request) : Prop :=
  ∀ i next, f.Follows (requests i) next → f.Follows (requests i) (requests (i + 1))

theorem exists_end {requests : Nat → Request} (obeyed : f.Obeyed requests)
    (parsed : Uri.parse? written = some (requests 0).uri)
    (absolute : (requests 0).uri.scheme.isSome = true) :
    ∃ n ≤ (requests 0).uri.segments.length,
      (∀ i < n, f.Follows (requests i) (requests (i + 1))) ∧
        ∀ answer, ¬f.Redirects (requests n) answer := by
  -- by induction on the number of segments, with the run that begins at the next request
  induction count : (requests 0).uri.segments.length using Nat.strong_induction_on
    generalizing requests written with
  | _ count ih =>
    subst count
    by_cases followed : f.Follows (requests 0) (requests 1)
    · have shorter := followed.shortened parsed absolute
      have read := shorter.parse?_print parsed absolute
      have later : f.Obeyed fun i => requests (i + 1) := fun i => obeyed (i + 1)
      have absolute' : (requests 1).uri.scheme.isSome = true := by rwa [shorter.scheme]
      obtain ⟨n, few, run, ended⟩ := ih _ shorter.fewer later read absolute' rfl
      refine ⟨n + 1, few.trans_lt shorter.fewer, fun i before => ?_, ended⟩
      cases i with
      | zero => exact followed
      | succ i => exact run i (Nat.lt_of_succ_lt_succ before)
    · refine ⟨0, Nat.zero_le _, fun i before => absurd before (Nat.not_lt_zero i), ?_⟩
      intro answer redirected
      obtain ⟨next, follows⟩ := redirected.exists_follows parsed absolute
      exact followed (obeyed 0 next follows)

/-- A redirect leads to a target with fewer segments of its query and nothing else changed. So a
client that follows redirects comes, after no more of them than its first target has segments, to an
answer that is none. -/
theorem redirects_end (f : Filter) (r : Request) {written : Text}
    (parsed : Uri.parse? written = some r.uri) (absolute : r.uri.scheme.isSome = true) :
    (∀ answer, f.Redirects r answer →
      let target := (f.onRequest r).request.uri
      answer.headers.values "location" = [Utf8.encode target.print] ∧
        Uri.parse? target.print = some target ∧
        target.scheme = r.uri.scheme ∧ target.authority = r.uri.authority ∧
        target.path = (if r.uri.path = [] then ("/" : Text) else r.uri.path) ∧
        target.segments.length < r.uri.segments.length) ∧
    ∀ requests : Nat → Request, requests 0 = r → f.Obeyed requests →
      ∃ n ≤ r.uri.segments.length,
        (∀ i < n, f.Follows (requests i) (requests (i + 1))) ∧
          ∀ answer, ¬f.Redirects (requests n) answer := by
  constructor
  · intro answer redirected target
    have shorter := redirected.shortened.1
    obtain ⟨scheme, named⟩ := Option.isSome_iff_exists.mp absolute
    refine ⟨redirected.location parsed absolute, redirected.parse?_print parsed absolute,
      shorter.scheme, shorter.authority, ?_, shorter.fewer⟩
    rw [shorter.path, Uri.shownPath_of_scheme named]
  · rintro requests rfl obeyed
    exact exists_end obeyed parsed absolute

/-- Two parameters that go one after the other, since the second rule applies only then. The client
asks for the second target with another method, and is not sent on from the third. -/
theorem redirects_end_second_parameter :
    let f : Filter :=
      { rules := .ofLines [⟨"?x=1$removeparam=x", "list"⟩, ⟨"?y=2$removeparam=y", "list"⟩] }
    let ask (method : Text) (path : Text) (query : Option Text) : Request :=
      { method, uri := ⟨some "http", "a.com", path, query⟩, version := .http11, headers := {} }
    let requests : Nat → Request
      | 0 => ask "GET" [] (some "x=1&y=2")
      | 1 => ask "HEAD" "/" (some "y=2")
      | _ => ask "GET" "/" none
    Uri.parse? "http://a.com?x=1&y=2" = some (requests 0).uri ∧ f.Obeyed requests ∧
      ∃ n ≤ 2, (∀ i < n, f.Follows (requests i) (requests (i + 1))) ∧
        ∀ answer, ¬f.Redirects (requests n) answer := by
  intro f ask requests
  have parsed : Uri.parse? "http://a.com?x=1&y=2" = some (requests 0).uri := by decide
  have first : (f.onRequest (requests 0)).response =
      some (redirectResponse (requests 0) "http://a.com/?y=2") := by decide +kernel
  have second : (f.onRequest (requests 1)).response =
      some (redirectResponse (requests 1) "http://a.com/") := by decide +kernel
  have third : (f.onRequest (ask "GET" "/" none)).response = none := by decide +kernel
  have again : f.Follows (requests 0) (requests 1) :=
    ⟨_, "http://a.com/?y=2", ⟨first, rfl⟩, by decide, by decide⟩
  have again' : f.Follows (requests 1) (requests 2) :=
    ⟨_, "http://a.com/", ⟨second, rfl⟩, by decide, by decide⟩
  have ended (i : Nat) (next : Request) : ¬f.Follows (requests (i + 2)) next := by
    rintro ⟨answer, _, ⟨answered, _⟩, _⟩
    exact Option.some_ne_none answer (answered.symm.trans third)
  have obeyed : f.Obeyed requests := by
    intro i next followed
    rcases i with _ | _ | i
    · exact again
    · exact again'
    · exact absurd followed (ended i next)
  exact ⟨parsed, obeyed, (redirects_end f (requests 0) parsed rfl).2 requests rfl obeyed⟩

end Filter

end FilteringProxy
