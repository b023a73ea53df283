import FilteringProxy.Http.Headers
import FilteringProxy.Proofs.Text.Utf8

/-! # What edits of a header map change

An edit of a name leaves the values of all other names alone. A text that was read from a
value is read again from its bytes, and a text without control characters can be written as a value.
-/

namespace FilteringProxy.Http

namespace Headers

variable {h k : Headers} {name other : Text} {value : Bytes}

/-! ## Values after an edit -/

theorem values_filter_of_iff (h : Headers) (name : Text) {p : Field → Bool} {q : Bytes → Bool}
    (same : ∀ f ∈ h.fields, f.name = name → p f = q f.value) :
    (⟨h.fields.filter p⟩ : Headers).values name = (h.values name).filter q := by
  simp only [values, List.filter_map, List.filter_filter]
  refine congrArg _ (List.filter_congr fun f member => ?_)
  by_cases here : f.name = name
  · simp only [here, beq_self_eq_true, Bool.true_and, Function.comp_apply, Bool.and_true,
      same f member here]
  · simp only [beq_false_of_ne here, Bool.false_and, Bool.and_false]

theorem values_filter_sublist (h : Headers) (q : Field → Bool) (name : Text) :
    ((⟨h.fields.filter q⟩ : Headers).values name).Sublist (h.values name) :=
  (List.filter_sublist.filter _).map _

theorem length_values_filter {q : Field → Bool} {f : Field} (member : f ∈ h.fields)
    (dropped : q f = false) :
    ((⟨h.fields.filter q⟩ : Headers).values f.name).length < (h.values f.name).length := by
  have swapped : (h.fields.filter q).filter (·.name == f.name) =
      (h.fields.filter (·.name == f.name)).filter q := by
    simp only [List.filter_filter, Bool.and_comm]
  rw [values, values, List.length_map, List.length_map, swapped]
  refine List.length_filter_lt_length_iff_exists.mpr ⟨f, ?_, ?_⟩
  · exact List.mem_filter.mpr ⟨member, beq_self_eq_true f.name⟩
  · rw [dropped]
    exact Bool.false_ne_true

theorem values_remove_same (h : Headers) (name : Text) : (h.remove name).values name = [] := by
  have dropped := values_filter_of_iff h name (p := (·.name != name)) (q := fun _ => false)
    fun f _ here => by simp only [here, bne_self_eq_false]
  rw [remove, dropped, List.filter_false]

theorem values_remove_of_ne (h : Headers) (apart : other ≠ name) :
    (h.remove name).values other = h.values other := by
  have kept := values_filter_of_iff h other (p := (·.name != name)) (q := fun _ => true)
    fun f _ here => by rw [here]; exact bne_iff_ne.mpr apart
  rw [remove, kept, List.filter_true]

theorem values_append_same (h : Headers) (name : Text) (value : Bytes) :
    (h.append name value).values name = h.values name ++ [value] := by
  simp only [append, values, List.filter_append, List.map_append, List.filter_cons,
    beq_self_eq_true, if_true, List.filter_nil, List.map_cons, List.map_nil]

theorem values_append_of_ne (h : Headers) (apart : other ≠ name) (value : Bytes) :
    (h.append name value).values other = h.values other := by
  simp only [append, values, List.filter_append, List.filter_cons, beq_false_of_ne apart.symm,
    Bool.false_eq_true, if_false, List.filter_nil, List.append_nil]

theorem values_replace_same (h : Headers) (name : Text) (value : Bytes) :
    (h.replace name value).values name = [value] := by
  rw [replace, values_append_same, values_remove_same, List.nil_append]

theorem values_replace_of_ne (h : Headers) (apart : other ≠ name) (value : Bytes) :
    (h.replace name value).values other = h.values other := by
  rw [replace, values_append_of_ne _ apart, values_remove_of_ne _ apart]

theorem has_iff : h.has name = true ↔ h.values name ≠ [] := by
  simp only [has, values, List.any_eq_true, ne_eq, List.map_eq_nil_iff, List.filter_eq_nil_iff,
    not_forall, not_not, exists_prop]

/-! ## Edits one after another -/

theorem remove_of_not_has (absent : h.has name = false) : h.remove name = h := by
  have kept : h.fields.filter (·.name != name) = h.fields := by
    refine List.filter_eq_self.mpr fun f member => ?_
    rw [bne, List.any_eq_false.mp absent f member |> Bool.eq_false_iff.mpr, Bool.not_false]
  rw [remove, kept]

theorem remove_comm (h : Headers) (name other : Text) :
    (h.remove name).remove other = (h.remove other).remove name := by
  simp only [remove, List.filter_filter, Bool.and_comm]

theorem remove_append_same (h : Headers) (name : Text) (value : Bytes) :
    (h.append name value).remove name = h.remove name := by
  simp only [append, remove, List.filter_append, List.filter_cons, bne_self_eq_false,
    Bool.false_eq_true, if_false, List.filter_nil, List.append_nil]

theorem remove_append_of_ne (h : Headers) (apart : other ≠ name) (value : Bytes) :
    (h.append name value).remove other = (h.remove other).append name value := by
  simp only [append, remove, List.filter_append, List.filter_cons, bne_iff_ne.mpr apart.symm,
    if_true, List.filter_nil]

theorem remove_remove (h : Headers) (name : Text) :
    (h.remove name).remove name = h.remove name := by
  simp only [remove, List.filter_filter, Bool.and_self]

theorem remove_replace_same (h : Headers) (name : Text) (value : Bytes) :
    (h.replace name value).remove name = h.remove name := by
  rw [replace, remove_append_same, remove_remove]

theorem remove_replace_of_ne (h : Headers) (apart : other ≠ name) (value : Bytes) :
    (h.replace name value).remove other = (h.remove other).replace name value := by
  rw [replace, remove_append_of_ne _ apart, remove_comm, replace]

end Headers

/-! ## Readable text -/

/-- A character that can be read from a value. -/
def IsReadable (c : Char) : Prop := ∃ b, isReadableByte b = true ∧ c = Char.ofNat b.toNat

theorem isReadable_of_readable? {value : Bytes} {t : Text}
    (read : readable? value = some t) {c : Char}
    (member : c ∈ t) : IsReadable c := by
  simp only [readable?, Option.ite_none_right_eq_some, Option.some.injEq] at read
  obtain ⟨good, rfl⟩ := read
  obtain ⟨b, inside, rfl⟩ := List.mem_map.mp member
  exact ⟨b, List.all_eq_true.mp good b inside, rfl⟩

theorem toNat_lt_of_isReadableByte {b : UInt8} (h : isReadableByte b = true) : b.toNat < 0x80 := by
  simp only [isReadableByte, Bool.or_eq_true, decide_eq_true_eq, Bool.and_eq_true] at h
  rcases h with rfl | ⟨_, below⟩
  · decide
  · exact Nat.lt_succ_of_lt (UInt8.lt_iff_toNat_lt.mp below)

theorem readable?_encode {t : Text} (good : ∀ c ∈ t, IsReadable c) :
    readable? (Utf8.encode t) = some t := by
  induction t with
  | nil => rfl
  | cons c t ih =>
      obtain ⟨b, readable, rfl⟩ := good c List.mem_cons_self
      have rest := ih fun d member => good d (List.mem_cons_of_mem _ member)
      have bytes := Utf8.encode_cons_ascii (toNat_lt_of_isReadableByte readable) t
      simp only [readable?, Option.ite_none_right_eq_some, Option.some.injEq] at rest
      rw [bytes, readable?, List.all_cons, readable, Bool.true_and, if_pos rest.1, List.map_cons,
        rest.2]

theorem encode_of_readable? {value : Bytes} {t : Text} (read : readable? value = some t) :
    Utf8.encode t = value := by
  simp only [readable?, Option.ite_none_right_eq_some, Option.some.injEq] at read
  obtain ⟨good, rfl⟩ := read
  induction value with
  | nil => rfl
  | cons b value ih =>
      rw [List.all_cons, Bool.and_eq_true] at good
      rw [List.map_cons, Utf8.encode_cons_ascii (toNat_lt_of_isReadableByte good.1), ih good.2]

theorem readable?_encode_eq_some {s t : Text} :
    readable? (Utf8.encode t) = some s ↔ (∀ c ∈ t, IsReadable c) ∧ s = t := by
  constructor
  · intro read
    have same : s = t := Utf8.encode_injective (encode_of_readable? read)
    subst same
    exact ⟨fun c => isReadable_of_readable? read, rfl⟩
  · intro parts
    rw [parts.2]
    exact readable?_encode parts.1

theorem isSome_readable?_encode {t : Text} :
    (readable? (Utf8.encode t)).isSome = true ↔ ∀ c ∈ t, IsReadable c := by
  simp [Option.isSome_iff_exists, readable?_encode_eq_some]

/-! ## Text that fits a value -/

theorem isValueByte_of_isReadableByte {b : UInt8} (readable : isReadableByte b = true) :
    isValueByte b = true := by
  simp only [isReadableByte, isValueByte, Bool.or_eq_true, Bool.and_eq_true, decide_eq_true_eq]
    at readable ⊢
  rcases readable with tab | ⟨above, below⟩
  · exact Or.inl tab
  · exact Or.inr ⟨above, UInt8.ne_of_lt below⟩

theorem fieldValue?_of_readable? {value : Bytes} {t : Text} (read : readable? value = some t) :
    fieldValue? value = some value := by
  simp only [readable?, Option.ite_none_right_eq_some] at read
  refine if_pos (List.all_eq_true.mpr fun b member => ?_)
  exact isValueByte_of_isReadableByte (List.all_eq_true.mp read.1 b member)

theorem isValueByte_ascii : ∀ n < 128, 32 ≤ n → n ≠ 127 → isValueByte (UInt8.ofNat n) = true := by
  decide

theorem isValueByte_of_le {b : UInt8} (beyond : 128 ≤ b.toNat) : isValueByte b = true := by
  have above : 32 ≤ b := UInt8.le_iff_toNat_le.mpr (Nat.le_trans (by decide) beyond)
  have apart : b ≠ 127 := by
    rintro rfl
    exact absurd beyond (by decide)
  rw [isValueByte, decide_eq_true above, decide_eq_true apart, Bool.and_self, Bool.or_true]

theorem all_isValueByte {c : Char} (visible : 32 ≤ c.toNat) (no_delete : c.toNat ≠ 127) :
    (String.utf8EncodeChar c).all isValueByte = true := by
  by_cases ascii : c.toNat < 0x80
  · rw [Utf8.utf8EncodeChar_ascii ascii, List.all_cons, List.all_nil, Bool.and_true]
    exact isValueByte_ascii _ ascii visible no_delete
  · have beyond : 127 < c.toNat := Nat.not_lt.mp ascii
    rw [List.all_eq_true]
    exact fun b member => isValueByte_of_le (Utf8.le_of_mem_utf8EncodeChar beyond b member)

theorem fieldValue?_encode {t : Text} (visible : ∀ c ∈ t, 32 ≤ c.toNat ∧ c.toNat ≠ 127) :
    fieldValue? (Utf8.encode t) = some (Utf8.encode t) := by
  refine if_pos ?_
  rw [Utf8.encode, List.all_flatMap, List.all_eq_true]
  exact fun c member => all_isValueByte (visible c member).1 (visible c member).2

end FilteringProxy.Http
