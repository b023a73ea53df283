import FilteringProxy.Proofs.Http.Absolute
import FilteringProxy.Proofs.Http.Host
import FilteringProxy.Proxy.Basic

/-! # Targets on intercepted connections

The target of a request on an intercepted connection is put together from the authority that the
connection was asked for and from what the request asks for. It names the host of the connection,
unless the request asks for an asterisk; and it is a target, unless it is too long.
-/

namespace FilteringProxy

open Http (Uri)

namespace Http.Uri

theorem isScheme_https : IsScheme "https" := ⟨by decide, by decide, by decide, by decide⟩

theorem splitAuthority_inside {authority : Text} (inside : ∀ c ∈ authority, endsAuthority c = false)
    (behind : Text) : splitAuthority (authority ++ behind) =
      (authority ++ (splitAuthority behind).1, (splitAuthority behind).2) := by
  have all : ∀ c ∈ authority, (!endsAuthority c) = true := fun c member => by
    rw [inside c member, Bool.not_false]
  rw [splitAuthority, List.takeWhile_append_of_pos all, List.dropWhile_append_of_pos all]
  rfl

end Http.Uri

namespace Session

variable {s : Session} {asked uri : Uri}

/-- A connection whose authority was read. -/
def IsSound (s : Session) : Prop := ∀ c ∈ s.authority, Uri.endsAuthority c = false

theorem hostAndPort_cases (s : Session) :
    s.hostAndPort = Uri.hostOf s.authority ∨ ∃ digits : Text, digits.all Char.isDigit = true ∧
      s.hostAndPort = Uri.hostOf s.authority ++ ':' :: digits := by
  unfold hostAndPort
  cases Uri.portNumber? s.authority with
  | none => exact Or.inl (List.append_nil _)
  | some port =>
      dsimp only
      split
      · exact Or.inl (List.append_nil _)
      · refine Or.inr ⟨Text.ofNat port, List.all_eq_true.mpr fun c member => ?_, rfl⟩
        exact Nat.isDigit_of_mem_toDigits (by decide) (by decide) member

theorem not_endsAuthority (sound : s.IsSound) :
    ∀ c ∈ s.hostAndPort, Uri.endsAuthority c = false := by
  have host (c : Char) (member : c ∈ Uri.hostOf s.authority) : Uri.endsAuthority c = false := by
    rcases Uri.mem_of_mem_hostOf member with member | rfl
    · exact sound c member
    · decide
  rcases s.hostAndPort_cases with shown | ⟨digits, all, shown⟩
  · rw [shown]
    exact host
  · rw [shown]
    intro c member
    rcases List.mem_append.mp member with member | port
    · exact host c member
    · rcases List.mem_cons.mp port with rfl | digit
      · decide
      · have apart {d : Char} (other : d.isDigit = false) : c ≠ d := by
          rintro rfl
          exact Uri.not_mem_of_all all other digit
        simp only [Uri.endsAuthority, apart (d := '/') (by decide), apart (d := '?') (by decide),
          apart (d := '#') (by decide), decide_false, Bool.or_self]

theorem written_ne_nil (s : Session) (asked : Uri) :
    s.hostAndPort ++ asked.pathAndQuery?.getD "/" ≠ [] := by
  refine List.append_ne_nil_of_right_ne_nil _ ?_
  rw [Uri.pathAndQuery?]
  split
  · simp only [Option.getD_some]
    split
    · decide
    · assumption
  · decide

theorem target?_parts (target : s.target? asked = some uri) :
    uri.scheme = some "https" ∧
      uri.authority = (Uri.splitAuthority (s.hostAndPort ++ asked.pathAndQuery?.getD "/")).1 ∧
      uri.authority ≠ [] :=
  Uri.parts_of_parse? Uri.isScheme_https (s.written_ne_nil asked) target

theorem target?_scheme (target : s.target? asked = some uri) : uri.scheme = some "https" :=
  (target?_parts target).1

theorem splitAuthority_mark (sound : s.IsSound) {c : Char} (mark : c = '/' ∨ c = '?')
    (rest : Text) :
    Uri.splitAuthority (s.hostAndPort ++ c :: rest) = (s.hostAndPort, c :: rest) := by
  rw [Uri.splitAuthority_inside (not_endsAuthority sound)]
  rcases mark with rfl | rfl
  · exact congrArg (·, _) (List.append_nil _)
  · exact congrArg (·, _) (List.append_nil _)

/-- What stands behind host and port belongs to the authority only if it is an asterisk. -/
theorem target?_authority (sound : s.IsSound) {written : Text}
    (parsed : Uri.parse? written = some asked) (target : s.target? asked = some uri) :
    uri.authority = s.hostAndPort ∨
      asked.path = ['*'] ∧ uri.authority = s.hostAndPort ++ ['*'] := by
  obtain ⟨_, authority, _⟩ := target?_parts target
  rcases Uri.pathAndQuery_cases parsed with ⟨asterisk, shown⟩ | ⟨c, rest, shown, mark⟩
  · rw [shown, Uri.splitAuthority_inside (not_endsAuthority sound)] at authority
    exact Or.inr ⟨asterisk, authority⟩
  · rw [shown, splitAuthority_mark sound mark] at authority
    exact Or.inl authority

/-- The target names the host of the connection, unless there is an asterisk right behind it. -/
theorem target?_host (sound : s.IsSound) {written : Text}
    (parsed : Uri.parse? written = some asked) (target : s.target? asked = some uri) :
    Uri.hostOf uri.authority = Uri.hostOf s.authority ∨
      asked.path = ['*'] ∧ Uri.hostOf uri.authority = Uri.hostOf s.authority ++ ['*'] := by
  rcases s.hostAndPort_cases with shown | ⟨digits, all, shown⟩
  · rcases target?_authority sound parsed target with authority | ⟨asterisk, authority⟩
    · have alone := Uri.hostOf_port s.authority List.not_mem_nil (Or.inl rfl)
      rw [List.append_nil] at alone
      rw [authority, shown]
      exact Or.inl alone
    · rw [authority, shown]
      exact (Uri.hostOf_append s.authority (by decide) (by decide)).imp_right fun same =>
        ⟨asterisk, same⟩
  · have plain : '@' ∉ digits := Uri.not_mem_of_all all (by decide)
    left
    rcases target?_authority sound parsed target with authority | ⟨_, authority⟩
    · rw [authority, shown]
      exact Uri.hostOf_port s.authority (by simp [plain]) (Or.inr rfl)
    · rw [authority, shown, List.append_assoc]
      exact Uri.hostOf_port s.authority (by simp [plain]) (Or.inr rfl)

theorem splitAuthority_target (sound : s.IsSound) {written : Text}
    (parsed : Uri.parse? written = some asked) (no_asterisk : asked.path ≠ ['*']) :
    Uri.splitAuthority (s.hostAndPort ++ asked.pathAndQuery?.getD "/") =
      (s.hostAndPort, asked.pathAndQuery?.getD "/") := by
  obtain ⟨c, rest, shown, mark⟩ :=
    (Uri.pathAndQuery_cases parsed).resolve_left fun h => no_asterisk h.1
  rw [shown]
  exact splitAuthority_mark sound mark rest

/-! ## Targets that are none -/

theorem target?_eq_none (sound : s.IsSound) (good : Uri.isAuthority (Uri.hostOf s.authority) = true)
    (named : Uri.hostOf s.authority ≠ []) {written : Text}
    (parsed : Uri.parse? written = some asked) (no_asterisk : asked.path ≠ ['*']) :
    s.target? asked = none ↔ Uri.lengthLimit < Utf8.size (s.writtenTarget asked) := by
  have authority : Uri.isAuthority s.hostAndPort = true := by
    rcases s.hostAndPort_cases with shown | ⟨digits, all, shown⟩
    · rw [shown]
      exact good
    · rw [shown]
      exact Uri.isAuthority_port good all
  have some_authority : s.hostAndPort ≠ [] := by
    rcases s.hostAndPort_cases with shown | ⟨digits, all, shown⟩
    · rwa [shown]
    · rw [shown]
      exact List.append_ne_nil_of_left_ne_nil named _
  obtain ⟨parts, read⟩ := Option.isSome_iff_exists.mp (Uri.isSome_pathAndQuery parsed)
  have reads : s.target? asked = _ :=
    Uri.parse?_scheme Uri.isScheme_https (s.written_ne_nil asked)
  rw [splitAuthority_target sound parsed no_asterisk] at reads
  simp only [reads, authority, Bool.not_true, Bool.false_eq_true, if_false, if_neg some_authority,
    read, Option.map_some, ite_eq_left_iff, reduceCtorEq, imp_false, not_not]
  rfl

end Session

end FilteringProxy
