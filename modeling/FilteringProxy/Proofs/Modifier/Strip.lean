import FilteringProxy.Proofs.Modifier.Cookie
import FilteringProxy.Proofs.Modifier.Query

/-! # What one edit takes away

An edit tells whether it has something to take away; taking it away is a total function, `strip`,
that changes nothing when there is nothing to take. Any two of these functions commute.
-/

namespace FilteringProxy

open Http (Request Response Headers Field)

namespace HeaderRemoval

/-- The headers of one side without the header. -/
def strip (c : HeaderRemoval) (side : Side) (h : Headers) : Headers :=
  if c.side = side then h.remove c.name else h

theorem edit_eq (c : HeaderRemoval) (side : Side) (h : Headers) :
    c.edit side h = if c.side = side ∧ h.has c.name then some (c.strip side h) else none := by
  rw [edit, strip]
  split
  · rename_i found
    rw [if_pos found.1]
  · rfl

theorem strip_of_not_has {c : HeaderRemoval} {side : Side} {h : Headers}
    (nothing : ¬(c.side = side ∧ h.has c.name = true)) : c.strip side h = h := by
  rw [strip]
  split
  · rename_i here
    exact Headers.remove_of_not_has (Bool.eq_false_iff.mpr fun found => nothing ⟨here, found⟩)
  · rfl

theorem strip_comm (c d : HeaderRemoval) (side : Side) (h : Headers) :
    d.strip side (c.strip side h) = c.strip side (d.strip side h) := by
  simp only [strip]
  split <;> split
  · exact Headers.remove_comm h c.name d.name
  · rfl
  · rfl
  · rfl

theorem strip_dropCookies (c : HeaderRemoval) (side : Side) (h : Headers) (p : Text → Bool) :
    c.strip side (h.dropCookies p) = (c.strip side h).dropCookies p := by
  simp only [strip]
  split
  · exact Headers.remove_dropCookies h p c.name
  · rfl

end HeaderRemoval

namespace Edit

/-! ## Requests -/

/-- The edit has something to take away from the request. -/
def takesFrom : Edit → Request → Bool
  | parameters c, r => r.uri.segments.any c.selects
  | header c, r => c.side = .request ∧ r.headers.has c.name
  | cookies c, r => r.headers.anyCookie c.takes

/-- The request without what the edit takes away. -/
def strip : Edit → Request → Request
  | parameters c, r => { r with uri := r.uri.dropSegments c.selects }
  | header c, r => { r with headers := c.strip .request r.headers }
  | cookies c, r => { r with headers := r.headers.dropCookies c.takes }

theorem onRequest_eq (e : Edit) (r : Request) :
    e.onRequest r = if e.takesFrom r then some (e.strip r) else none := by
  cases e with
  | parameters c => exact c.edit_eq r
  | header c =>
      simp only [onRequest, c.edit_eq, takesFrom, decide_eq_true_eq]
      exact apply_ite (Option.map _) ..
  | cookies c =>
      simp only [onRequest, c.editRequest_eq, takesFrom]
      exact apply_ite (Option.map _) ..

theorem strip_of_not_takesFrom {e : Edit} {r : Request} (nothing : e.takesFrom r = false) :
    e.strip r = r := by
  cases e with
  | parameters c => rw [strip, Http.Uri.dropSegments_of_not_any nothing]
  | header c => rw [strip, HeaderRemoval.strip_of_not_has (of_decide_eq_false nothing)]
  | cookies c => rw [strip, Headers.dropCookies_of_not_any nothing]

theorem getD_onRequest (e : Edit) (r : Request) : (e.onRequest r).getD r = e.strip r := by
  rw [onRequest_eq]
  split
  · rfl
  · rename_i nothing
    exact (strip_of_not_takesFrom (Bool.eq_false_iff.mpr nothing)).symm

theorem strip_comm (e f : Edit) (r : Request) : f.strip (e.strip r) = e.strip (f.strip r) := by
  have cookies_comm (c : HeaderRemoval) (d : CookieChoice) :
      (cookies d).strip ((header c).strip r) = (header c).strip ((cookies d).strip r) := by
    simp only [strip, HeaderRemoval.strip_dropCookies]
  cases e with
  | parameters c =>
      cases f with
      | parameters d =>
          simp only [strip, Http.Uri.dropSegments_dropSegments, Bool.or_comm]
      | header d | cookies d => rfl
  | header c =>
      cases f with
      | parameters d => rfl
      | header d => simp only [strip, HeaderRemoval.strip_comm c d]
      | cookies d => exact cookies_comm c d
  | cookies c =>
      cases f with
      | parameters d => rfl
      | header d => exact (cookies_comm d c).symm
      | cookies d => simp only [strip, Headers.dropCookies_dropCookies, Bool.or_comm]

/-! ## Responses -/

/-- The edit takes the field away from a response. -/
def takesField : Edit → Field → Bool
  | parameters _ => fun _ => false
  | header c => fun f => c.side = .response && f.name == c.name
  | cookies c => fun f => f.name == "set-cookie" && c.setsChosen f.value

/-- The response without the fields that the edit takes away. -/
def stripResponse (e : Edit) (r : Response) : Response :=
  { r with headers := ⟨r.headers.fields.filter (!e.takesField ·)⟩ }

theorem onResponse_eq (e : Edit) (r : Response) :
    e.onResponse r =
      if r.headers.fields.any e.takesField then some (e.stripResponse r) else none := by
  cases e with
  | parameters c =>
      have nothing : r.headers.fields.any (parameters c).takesField = false :=
        List.any_eq_false.mpr fun _ _ => Bool.false_ne_true
      rw [nothing]
      rfl
  | header c =>
      rw [onResponse, c.edit_eq]
      cases c with | mk name side unprotected =>
        cases side with
        | request =>
            have nothing : r.headers.fields.any
                (header ⟨name, .request, unprotected⟩).takesField = false :=
              List.any_eq_false.mpr fun _ _ => Bool.false_ne_true
            rw [nothing]
            rfl
        | response =>
            simp only [true_and, HeaderRemoval.strip, if_true, Headers.has, stripResponse,
              takesField, decide_true, Bool.true_and, Headers.remove, bne]
            exact apply_ite (Option.map _) ..
  | cookies c =>
      have some_value : (r.headers.values "set-cookie").any c.setsChosen =
          r.headers.fields.any (cookies c).takesField := by
        simp only [Headers.values, List.any_map, List.any_filter, Function.comp_def, takesField]
      simp only [onResponse, CookieChoice.editResponse, some_value, stripResponse, takesField,
        Headers.removeWhere]
      exact apply_ite (Option.map _) ..

theorem getD_onResponse (e : Edit) (r : Response) :
    (e.onResponse r).getD r = e.stripResponse r := by
  rw [onResponse_eq]
  split
  · rfl
  · rename_i nothing
    rw [stripResponse, Removal.filter_of_not_any (Bool.eq_false_iff.mpr nothing)]
    rfl

theorem stripResponse_comm (e f : Edit) (r : Response) :
    f.stripResponse (e.stripResponse r) = e.stripResponse (f.stripResponse r) := by
  simp only [stripResponse, Removal.filter_filter_not, Bool.or_comm]

end Edit

end FilteringProxy
