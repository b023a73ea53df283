import FilteringProxy.Modifier.Edit
import FilteringProxy.Proofs.Http.Uri
import FilteringProxy.Proofs.Removal

/-! # Dropping segments of a query

A removal of parameters keeps some segments of the query as they are written. When nothing is left,
or one empty segment, the query goes with its question mark; a later removal then finds no segments
at all. So two removals come to the removal of what either of them takes.
-/

namespace FilteringProxy

open Http (Request Uri)

namespace Http.Uri

variable {u : Uri} {p q : Text → Bool}

/-- The segments of the query as they are written; none without a query. -/
def segments (u : Uri) : List Text :=
  match u.query with
  | none => []
  | some query => Text.splitOn '&' query

/-- The target without some segments of its query. -/
def dropSegments (u : Uri) (p : Text → Bool) : Uri :=
  if u.segments.any p then u.withQuery (Text.join ['&'] (u.segments.filter (!p ·))) else u

theorem dropSegments_of_any (h : u.segments.any p = true) :
    u.dropSegments p = u.withQuery (Text.join ['&'] (u.segments.filter (!p ·))) := if_pos h

theorem dropSegments_of_not_any (h : u.segments.any p = false) : u.dropSegments p = u :=
  if_neg (Bool.eq_false_iff.mp h)

theorem query_of_any (h : u.segments.any p = true) : ∃ query, u.query = some query := by
  cases written : u.query with
  | none => simp only [segments, written, List.any_nil, Bool.false_eq_true] at h
  | some query => exact ⟨query, rfl⟩

theorem not_mem_segment {segment : Text} (member : segment ∈ u.segments) : '&' ∉ segment := by
  cases written : u.query with
  | none =>
      simp only [segments, written] at member
      cases member
  | some query =>
      simp only [segments, written] at member
      intro inside
      exact (Text.mem_part member inside).1 rfl

/-! ## The target with other segments -/

theorem shownPath_of_query {query : Text} (written : u.query = some query) :
    u.shownPath = if u.path = [] then ("/" : Text) else u.path :=
  shownPath_of_hasPath (by simp [hasPath, written])

theorem shownPath_ne_nil {query : Text} (written : u.query = some query) : u.shownPath ≠ [] := by
  rw [shownPath_of_query written]
  split
  · exact List.cons_ne_nil _ _
  · assumption

theorem shownPath_withQuery {query : Text} (written : u.query = some query) (t : Text) :
    (u.withQuery t).shownPath = u.shownPath := by
  rw [shownPath, withQuery, if_neg (shownPath_ne_nil written)]

theorem withQuery_withQuery {query : Text} (written : u.query = some query) (s t : Text) :
    (u.withQuery s).withQuery t = u.withQuery t := by
  rw [withQuery, shownPath_withQuery written, withQuery, withQuery]

/-- Joined segments are found again, except that one empty segment leaves no query. -/
theorem segments_withQuery {parts : List Text} (clean : ∀ part ∈ parts, '&' ∉ part) :
    (u.withQuery (Text.join ['&'] parts)).segments = if parts = [[]] then [] else parts := by
  by_cases empty : Text.join ['&'] parts = []
  · rw [segments, withQuery, if_pos empty]
    rcases Text.join_eq_nil empty with rfl | rfl
    · exact (ite_self _).symm
    · exact (if_pos rfl).symm
  · have some_part : parts ≠ [] := by
      rintro rfl
      exact empty rfl
    have not_one : parts ≠ [[]] := by
      rintro rfl
      exact empty rfl
    rw [segments, withQuery, if_neg empty, if_neg not_one]
    exact Text.splitOn_join some_part clean

theorem segments_dropSegments_of_any (h : u.segments.any p = true) :
    (u.dropSegments p).segments =
      if u.segments.filter (!p ·) = [[]] then [] else u.segments.filter (!p ·) := by
  rw [dropSegments_of_any h]
  exact segments_withQuery fun part member => not_mem_segment (List.mem_of_mem_filter member)

theorem segments_dropSegments_sublist (u : Uri) (p : Text → Bool) :
    (u.dropSegments p).segments.Sublist u.segments := by
  cases h : u.segments.any p with
  | false => rw [dropSegments_of_not_any h]
  | true =>
      rw [segments_dropSegments_of_any h]
      split
      · exact List.nil_sublist _
      · exact List.filter_sublist

theorem length_segments_dropSegments (h : u.segments.any p = true) :
    (u.dropSegments p).segments.length < u.segments.length := by
  have fewer := Removal.length_filter_of_any h
  rw [segments_dropSegments_of_any h]
  split
  · exact Nat.lt_of_le_of_lt (Nat.zero_le _) fewer
  · exact fewer

/-! ## What stays of the target -/

theorem scheme_dropSegments (u : Uri) (p : Text → Bool) :
    (u.dropSegments p).scheme = u.scheme := by
  rw [dropSegments]
  split <;> rfl

theorem authority_dropSegments (u : Uri) (p : Text → Bool) :
    (u.dropSegments p).authority = u.authority := by
  rw [dropSegments]
  split <;> rfl

theorem path_dropSegments (u : Uri) (p : Text → Bool) :
    (u.dropSegments p).path = u.path ∨ u.path = [] ∧ (u.dropSegments p).path = "/" := by
  cases taken : u.segments.any p with
  | false =>
      rw [dropSegments_of_not_any taken]
      exact Or.inl rfl
  | true =>
      obtain ⟨query, written⟩ := query_of_any taken
      have shown := shownPath_of_query written
      rw [dropSegments_of_any taken, withQuery]
      by_cases empty : u.path = []
      · exact Or.inr ⟨empty, shown.trans (if_pos empty)⟩
      · exact Or.inl (shown.trans (if_neg empty))

/-! ## Equal targets -/

theorem same_self (u : Uri) : u.same u = true := by
  simp only [same, Text.sameLetters, beq_self_eq_true, Bool.and_self]

theorem segments_of_same {u v : Uri} (h : u.same v = true) : u.segments = v.segments := by
  simp only [same, Bool.and_eq_true, beq_iff_eq] at h
  rw [segments, segments, h.2]

/-! ## Two removals -/

theorem dropSegments_dropSegments (u : Uri) (p q : Text → Bool) :
    (u.dropSegments p).dropSegments q = u.dropSegments fun segment => p segment || q segment := by
  have both := Removal.filter_filter_not u.segments p q
  cases first : u.segments.any p with
  | false =>
      rw [Removal.filter_of_not_any first] at both
      rw [dropSegments_of_not_any first, dropSegments, dropSegments, Removal.any_or, first,
        Bool.false_or, both]
  | true =>
      obtain ⟨query, written⟩ := query_of_any first
      have either : (u.segments.any fun segment => p segment || q segment) = true := by
        rw [Removal.any_or, first, Bool.true_or]
      rw [dropSegments_of_any either, ← both]
      have left := segments_dropSegments_of_any first
      cases second : (u.dropSegments p).segments.any q with
      | true =>
          split at left
          · rw [left] at second
            cases second
          · rw [dropSegments_of_any second, left, dropSegments_of_any first,
              withQuery_withQuery written]
      | false =>
          rw [dropSegments_of_not_any second, dropSegments_of_any first]
          split at left
          · -- the query is gone already; joining one empty segment or none gives the same
            rename_i one_empty
            rw [one_empty]
            cases q_empty : q [] <;>
              simp only [List.filter_cons, q_empty, Bool.not_false, Bool.not_true, if_true,
                Bool.false_eq_true, if_false, List.filter_nil, Text.join]
          · rw [left] at second
            rw [Removal.filter_of_not_any second]

end Http.Uri

theorem ParameterChoice.edit_eq (c : ParameterChoice) (r : Request) :
    c.edit r =
      if r.uri.segments.any c.selects then some { r with uri := r.uri.dropSegments c.selects }
      else none := by
  cases written : r.uri.query with
  | none => simp only [edit, written, Uri.segments, List.any_nil, Bool.false_eq_true, if_false]
  | some query =>
      have segments : r.uri.segments = Text.splitOn '&' query := by rw [Uri.segments, written]
      simp only [edit, written, segments]
      split
      · rename_i taken
        rw [Uri.dropSegments_of_any (segments ▸ taken), segments]
      · rfl

end FilteringProxy
