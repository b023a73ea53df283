import FilteringProxy.Http.HopByHop
import FilteringProxy.Proofs.Http.Headers

/-! # What is passed on of a name

Headers of one connection go with all their values, and the values of every other name stay as they
are.
-/

namespace FilteringProxy.Http.Headers

variable {h k : Headers}

/-- The name speaks about a single connection, always or since the headers say so. -/
def isHop (h : Headers) (name : Text) : Bool :=
  hopNames.contains name || h.listedNames.contains name

theorem values_withoutHop (h : Headers) (name : Text) :
    h.withoutHop.values name = if h.isHop name then [] else h.values name := by
  have swapped := values_filter_of_iff h name (p := fun f => !h.isHop f.name)
    (q := fun _ => !h.isHop name) fun f _ here => by rw [here]
  change values ⟨h.fields.filter fun f => !h.isHop f.name⟩ name = _
  rw [swapped]
  cases h.isHop name with
  | true => rw [Bool.not_true, List.filter_false, if_pos rfl]
  | false => rw [Bool.not_false, List.filter_true, if_neg Bool.false_ne_true]

theorem isHop_of_values (same : k.values "connection" = h.values "connection") (name : Text) :
    k.isHop name = h.isHop name := by
  simp only [isHop, listedNames, elements, texts, same]

end FilteringProxy.Http.Headers
