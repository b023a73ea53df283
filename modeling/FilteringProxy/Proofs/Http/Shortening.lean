import FilteringProxy.Proofs.Http.Absolute
import FilteringProxy.Proofs.Modifier.Query

/-! # Shorter targets

A target is shortened when segments of its query go and nothing else does. What is left of an
absolute target is absolute again, and it is no longer as a text, even though an empty path is then
written as a slash.
-/

namespace FilteringProxy.Http.Uri

variable {u v w : Uri} {scheme : Text}

/-- What becomes of a target that loses segments of its query. -/
structure Shortened (u v : Uri) : Prop where
  scheme : v.scheme = u.scheme
  authority : v.authority = u.authority
  path : v.path = u.shownPath
  segments : v.segments.Sublist u.segments
  fewer : v.segments.length < u.segments.length

namespace Shortened

theorem exists_query (h : u.Shortened v) : ∃ query, u.query = some query := by
  refine Option.ne_none_iff_exists'.mp fun absent => ?_
  have fewer := h.fewer
  simp only [Uri.segments, absent] at fewer
  exact Nat.not_lt_zero _ fewer

theorem path_ne_nil (h : u.Shortened v) : v.path ≠ [] := by
  obtain ⟨query, written⟩ := h.exists_query
  rw [h.path]
  exact shownPath_ne_nil written

theorem trans (first : u.Shortened v) (second : v.Shortened w) : u.Shortened w where
  scheme := second.scheme.trans first.scheme
  authority := second.authority.trans first.authority
  path := by rw [second.path, shownPath, if_neg first.path_ne_nil, first.path]
  segments := second.segments.trans first.segments
  fewer := second.fewer.trans first.fewer

end Shortened

theorem shortened_dropSegments {p : Text → Bool} (taken : u.segments.any p = true) :
    u.Shortened (u.dropSegments p) where
  scheme := scheme_dropSegments u p
  authority := authority_dropSegments u p
  path := by
    rw [dropSegments_of_any taken]
    rfl
  segments := segments_dropSegments_sublist u p
  fewer := length_segments_dropSegments taken

/-! ## As texts -/

theorem showQuery_injective : Function.Injective showQuery
  | none, none, _ => rfl
  | none, some _, same => nomatch same
  | some _, none, same => nomatch same
  | some _, some _, same => congrArg some (List.cons.inj same).2

theorem shownPath_of_scheme (named : u.scheme = some scheme) :
    u.shownPath = if u.path = [] then ("/" : Text) else u.path :=
  shownPath_of_hasPath (by simp [hasPath, named])

theorem showQuery_sublist (sub : v.segments.Sublist u.segments) :
    (showQuery v.query).Sublist (showQuery u.query) := by
  cases right : v.query with
  | none => exact List.nil_sublist _
  | some q =>
      cases left : u.query with
      | none =>
          rw [segments, segments, right, left] at sub
          exact absurd (List.sublist_nil.mp sub) (Text.splitOn_ne_nil '&' q)
      | some p =>
          rw [segments, segments, right, left] at sub
          have joined := Text.join_sublist ['&'] sub
          rw [Text.join_splitOn, Text.join_splitOn] at joined
          exact joined.cons_cons '?'

namespace Shortened

theorem size_showQuery (h : u.Shortened v) :
    Utf8.size (showQuery v.query) < Utf8.size (showQuery u.query) := by
  refine Utf8.size_lt_of_sublist (showQuery_sublist h.segments) fun same => ?_
  have fewer := h.fewer
  rw [Uri.segments, Uri.segments, showQuery_injective same] at fewer
  exact Nat.lt_irrefl _ fewer

theorem absolute (h : u.Shortened v) (good : u.Absolute scheme) : v.Absolute scheme where
  named := h.scheme.trans good.named
  spelled := good.spelled
  authority := by rw [h.authority]; exact good.authority
  some_authority := by rw [h.authority]; exact good.some_authority
  inside := by rw [h.authority]; exact good.inside
  rooted := by
    rw [h.path, shownPath_of_scheme good.named]
    split
    · exact Or.inr rfl
    · exact good.rooted
  path := by
    rw [h.path, shownPath_of_scheme good.named]
    split
    · decide
    · exact good.path
  query := by
    intro q right
    obtain ⟨p, left⟩ := h.exists_query
    have sub := showQuery_sublist h.segments
    rw [right, left] at sub
    have kept := List.all_eq_true.mp (good.query p left)
    exact List.all_eq_true.mpr fun c member =>
      kept c ((List.cons_sublist_cons.mp sub).subset member)
  length := by
    have fewer := h.size_showQuery
    have before := good.length
    have slash : Utf8.size v.path ≤ Utf8.size u.path + 1 := by
      rw [h.path, shownPath_of_scheme good.named]
      split
      · exact Nat.le_add_left 1 _
      · exact Nat.le_succ _
    rw [h.authority]
    simp only [Utf8.size_append] at before ⊢
    omega

theorem exists_absolute {written : Text} (h : u.Shortened v) (parsed : parse? written = some u)
    (absolute : u.scheme.isSome = true) : ∃ scheme, v.Absolute scheme := by
  obtain ⟨scheme, named⟩ := Option.isSome_iff_exists.mp absolute
  exact ⟨scheme, h.absolute (absolute_of_parse parsed named)⟩

theorem parse?_print {written : Text} (h : u.Shortened v) (parsed : parse? written = some u)
    (absolute : u.scheme.isSome = true) : parse? v.print = some v := by
  obtain ⟨scheme, good⟩ := h.exists_absolute parsed absolute
  exact good.parse?_print h.path_ne_nil

end Shortened

end FilteringProxy.Http.Uri
