import FilteringProxy.Proofs.Http.Host
import FilteringProxy.Proofs.Text.Number

/-! # Ports

A number that is written behind a host is read as its port. A host by itself has no port, even if
there are colons between its brackets.
-/

namespace FilteringProxy

namespace Http.Uri

/-! ## The last colon -/

theorem portText_append (front : Text) {port : Text} (no_colon : ':' ∉ port) :
    portText (front ++ ':' :: port) = port := by
  have absent : ':' ∉ port.reverse := fun member => no_colon (List.mem_reverse.mp member)
  have back : (front ++ ':' :: port).reverse = port.reverse ++ ':' :: front.reverse := by
    rw [List.reverse_append, List.reverse_cons, List.append_assoc]
    rfl
  rw [portText, back]
  exact (congrArg List.reverse (Text.upTo_append_cons absent _)).trans (List.reverse_reverse port)

/-- The text without a plus sign in front. -/
def unsigned : Text → Text
  | '+' :: t => t
  | t => t

theorem unsigned_of_head {t : Text} (plain : t.head? ≠ some '+') : unsigned t = t := by
  unfold unsigned
  split
  · exact absurd rfl plain
  · rfl

theorem mem_unsigned {t : Text} {c : Char} (member : c ∈ t) (other : c ≠ '+') :
    c ∈ unsigned t := by
  unfold unsigned
  split
  · exact (List.mem_cons.mp member).resolve_left other
  · exact member

theorem portNumber?_eq {authority : Text} (colon : ':' ∈ authority) :
    portNumber? authority =
      (Text.toNat? 10 (unsigned (portText authority))).filter (· < 65536) := by
  have found : authority.contains ':' = true := List.contains_iff_mem.mpr colon
  simp only [portNumber?, found, Bool.not_true, Bool.false_eq_true, if_false]
  split
  · rename_i n read
    have number : Text.toNat? 10 (unsigned (portText authority)) = some n := read
    rw [number]
    simp only [Option.filter_some, decide_eq_true_eq]
  · rename_i read
    have no_number : Text.toNat? 10 (unsigned (portText authority)) = none := read
    rw [no_number]
    rfl

theorem portNumber?_of_not_mem {authority : Text} (no_colon : ':' ∉ authority) :
    portNumber? authority = none := by
  have absent : authority.contains ':' = false := by
    rw [← Bool.not_eq_true, List.contains_iff_mem]
    exact no_colon
  rw [portNumber?, absent]
  rfl

theorem portNumber?_lt {authority : Text} {n : Nat} (read : portNumber? authority = some n) :
    n < 65536 := by
  by_cases colon : ':' ∈ authority
  · rw [portNumber?_eq colon, Option.filter_eq_some_iff] at read
    exact of_decide_eq_true read.2
  · rw [portNumber?_of_not_mem colon] at read
    cases read

theorem portNumber?_append (front : Text) {n : Nat} (small : n < 65536) :
    portNumber? (front ++ ':' :: Text.ofNat n) = some n := by
  have no_colon : ':' ∉ Text.ofNat n := fun member =>
    absurd (Text.isDigit_of_mem_ofNat member) (by decide)
  have plain : (Text.ofNat n).head? ≠ some '+' := fun plus =>
    absurd (Text.isDigit_of_mem_ofNat (List.mem_of_mem_head? plus)) (by decide)
  rw [portNumber?_eq (List.mem_append_right _ List.mem_cons_self), portText_append front no_colon,
    unsigned_of_head plain, Text.toNat?_ofNat]
  exact if_pos (decide_eq_true small)

theorem portNumber?_hostOf (authority : Text) : portNumber? (hostOf authority) = none := by
  by_cases colon : ':' ∈ hostOf authority
  · -- what follows a colon between brackets goes on to the closing one
    obtain ⟨inner, shown, _⟩ := (hostOf_shape authority).resolve_right fun h => h.2 colon
    have back : (hostOf authority).reverse = ']' :: ('[' :: inner).reverse := by
      rw [shown, ← List.cons_append, List.reverse_append, List.reverse_singleton,
        List.singleton_append]
    have bracket : ']' ∈ portText (hostOf authority) := by
      rw [portText, back, List.takeWhile_cons_of_pos (by decide), List.mem_reverse]
      exact List.mem_cons_self
    rw [portNumber?_eq colon, Text.toNat?_eq_none (mem_unsigned bracket (by decide)) (by decide)]
    rfl
  · exact portNumber?_of_not_mem colon

end Http.Uri

end FilteringProxy
