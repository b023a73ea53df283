import FilteringProxy.Proofs.Http.HopByHop
import FilteringProxy.Proofs.Text.Words
import Mathlib.Logic.Relation

/-! # Lists that are folded

A header that holds a list may say it in one field, with commas, or in several fields. What is
dropped before a message is passed on, and whether a request asks for a WebSocket, depends on the
elements of the lists alone, so it is the same however they are folded.
-/

namespace FilteringProxy

/-! ## Elements of a list in writing -/

namespace Text

/-- The elements of a list: what stands between commas, without blanks. -/
def elements (t : Text) : List Text := (splitOn ',' t).map trim

theorem elements_append_cons (s t : Text) :
    elements (s ++ ',' :: t) = elements s ++ elements t := by
  simp only [elements, splitOn_append_cons, List.map_append]

theorem ne_comma_of_isBlank {c : Char} (blank : isBlank c = true) : c ≠ ',' := by
  rintro rfl
  cases blank

theorem elements_blank_append {blanks : Text} (blank : ∀ c ∈ blanks, isBlank c = true) (t : Text) :
    elements (blanks ++ t) = elements t := by
  induction blanks with
  | nil => rfl
  | cons c blanks ih =>
      rw [List.forall_mem_cons] at blank
      rw [← ih blank.2, List.cons_append]
      obtain ⟨part, parts, split, whole⟩ :=
        splitOn_cons (ne_comma_of_isBlank blank.1) (blanks ++ t)
      simp only [elements, split, whole, List.map_cons, trim, trimWith_cons blank.1]

theorem elements_append_blank {blanks : Text} (blank : ∀ c ∈ blanks, isBlank c = true) (t : Text) :
    elements (t ++ blanks) = elements t := by
  by_cases comma : ',' ∈ t
  · obtain ⟨a, b, rfl, -⟩ := List.eq_append_cons_of_mem comma
    rw [List.append_assoc, List.cons_append, elements_append_cons, elements_append_cons,
      elements_append_blank blank b]
  · have absent : ',' ∉ t ++ blanks := by
      rw [List.mem_append, not_or]
      exact ⟨comma, fun member => ne_comma_of_isBlank (blank _ member) rfl⟩
    simp only [elements, splitOn_of_not_mem comma, splitOn_of_not_mem absent, trim,
      trimWith_append blank, List.map_cons]
termination_by t.length

end Text

namespace Http

/-! ## Values that hold a list -/

theorem readable?_append (a b : Bytes) :
    readable? (a ++ b) = (readable? a).bind fun s => (readable? b).map (s ++ ·) := by
  simp only [readable?, List.all_append, List.map_append]
  cases a.all isReadableByte <;> cases b.all isReadableByte <;> rfl

theorem isSome_readable?_append {a b : Bytes} :
    (readable? (a ++ b)).isSome = true ↔
      (readable? a).isSome = true ∧ (readable? b).isSome = true := by
  rw [readable?_append]
  cases readable? a <;> cases readable? b <;> simp

/-- A comma with any blanks around it, as it stands between the elements of a list. -/
def IsListComma (sep : Bytes) : Prop :=
  ∃ left right : Bytes, sep = left ++ 44 :: right ∧ ∀ b ∈ left ++ right, b = 32 ∨ b = 9

theorem readable?_blank {blanks : Bytes} (blank : ∀ b ∈ blanks, b = 32 ∨ b = 9) :
    ∃ t, readable? blanks = some t ∧ ∀ c ∈ t, isBlank c = true := by
  refine ⟨_, if_pos ?_, ?_⟩
  · rw [List.all_eq_true]
    intro b member
    rcases blank b member with rfl | rfl <;> rfl
  · intro c member
    obtain ⟨b, inside, rfl⟩ := List.mem_map.mp member
    rcases blank b inside with rfl | rfl <;> rfl

theorem readable?_comma (value : Bytes) :
    readable? (44 :: value) = (readable? value).map (',' :: ·) := by
  change readable? ([44] ++ value) = _
  rw [readable?_append]
  rfl

theorem IsListComma.read {sep : Bytes} (comma : IsListComma sep) :
    ∃ before behind : Text, readable? sep = some (before ++ ',' :: behind) ∧
      (∀ c ∈ before, isBlank c = true) ∧ ∀ c ∈ behind, isBlank c = true := by
  obtain ⟨left, right, rfl, blank⟩ := comma
  rw [List.forall_mem_append] at blank
  obtain ⟨before, read_before, blank_before⟩ := readable?_blank blank.1
  obtain ⟨behind, read_behind, blank_behind⟩ := readable?_blank blank.2
  refine ⟨before, behind, ?_, blank_before, blank_behind⟩
  simp [readable?_append, readable?_comma, read_before, read_behind]

/-- The elements of the list in a value; none if it cannot be read. -/
def valueElements (value : Bytes) : List Text := (readable? value).toList.flatMap Text.elements

/-- A value that holds two lists with a comma between them has the elements of both. -/
theorem valueElements_append {sep a b : Bytes} (comma : IsListComma sep)
    (left_readable : (readable? a).isSome = true) (right_readable : (readable? b).isSome = true) :
    valueElements (a ++ (sep ++ b)) = valueElements a ++ valueElements b := by
  obtain ⟨before, behind, read_sep, blank_before, blank_behind⟩ := comma.read
  obtain ⟨s, read_left⟩ := Option.isSome_iff_exists.mp left_readable
  obtain ⟨t, read_right⟩ := Option.isSome_iff_exists.mp right_readable
  have whole : readable? (a ++ (sep ++ b)) = some (s ++ before ++ ',' :: (behind ++ t)) := by
    simp [readable?_append, read_left, read_right, read_sep]
  simp only [valueElements, whole, read_left, read_right, Option.toList_some, List.flatMap_singleton,
    Text.elements_append_cons, Text.elements_append_blank blank_before,
    Text.elements_blank_append blank_behind]

theorem valueElements_intercalate {sep : Bytes} (comma : IsListComma sep) {values : List Bytes}
    (some_value : values ≠ []) (readable : ∀ value ∈ values, (readable? value).isSome = true) :
    (readable? (sep.intercalate values)).isSome = true ∧
      valueElements (sep.intercalate values) = values.flatMap valueElements := by
  induction values with
  | nil => exact absurd rfl some_value
  | cons value values ih =>
      rw [List.forall_mem_cons] at readable
      cases values with
      | nil => simpa using readable.1
      | cons next values =>
          obtain ⟨later, elements⟩ := ih (List.cons_ne_nil next values) readable.2
          have whole : sep.intercalate (value :: next :: values) =
              value ++ (sep ++ sep.intercalate (next :: values)) := by
            simp [List.intercalate]
          rw [whole, isSome_readable?_append, isSome_readable?_append,
            valueElements_append comma readable.1 later, elements]
          have read_sep : (readable? sep).isSome = true := by
            obtain ⟨_, _, read, -⟩ := comma.read
            rw [read, Option.isSome_some]
          exact ⟨⟨readable.1, read_sep, later⟩, rfl⟩

/-- Other values for the same list: all of them joined to one, or one of them cut in two, at a comma
with any blanks around it. -/
inductive Folding : List Bytes → List Bytes → Prop where
  | join {sep : Bytes} {values : List Bytes} (comma : IsListComma sep) (some_value : values ≠ []) :
      Folding values [sep.intercalate values]
  | cut {sep a b : Bytes} {front back : List Bytes} (comma : IsListComma sep) :
      Folding (front ++ (a ++ (sep ++ b)) :: back) (front ++ a :: b :: back)

/-- Folding keeps the elements of a list that can be read, and it can be read again. -/
theorem Folding.sound {values others : List Bytes} (folding : Folding values others)
    (readable : ∀ value ∈ values, (readable? value).isSome = true) :
    (∀ value ∈ others, (readable? value).isSome = true) ∧
      others.flatMap valueElements = values.flatMap valueElements := by
  cases folding with
  | join comma some_value =>
      have joined := valueElements_intercalate comma some_value readable
      exact ⟨List.forall_mem_singleton.mpr joined.1, by simpa using joined.2⟩
  | cut comma =>
      rw [List.forall_mem_append, List.forall_mem_cons, isSome_readable?_append,
        isSome_readable?_append] at readable
      obtain ⟨before, ⟨left, -, right⟩, behind⟩ := readable
      constructor
      · rw [List.forall_mem_append, List.forall_mem_cons, List.forall_mem_cons]
        exact ⟨before, left, right, behind⟩
      · simp [valueElements_append comma left right]

/-! ## What is dropped -/

theorem isTokenChar_of_toLower {c : Char} (token : isTokenChar c.toLower = true) :
    isTokenChar c = true := by
  by_cases same : c.toLower = c
  · rwa [same] at token
  · simp only [isTokenChar, Text.isAlphanum_of_toLower_ne same, Bool.true_or]

theorem fieldName?_eq_some_iff {t name : Text} (good : fieldName? name = some name) :
    fieldName? t = some name ↔ t.lower = name := by
  constructor
  · intro spelled
    rw [fieldName?, Option.ite_none_right_eq_some, Option.some.injEq] at spelled
    exact spelled.2
  · rintro rfl
    rw [fieldName?, Option.ite_none_right_eq_some] at good
    obtain ⟨⟨nonempty, short, tokens⟩, -⟩ := good
    have length : t.lower.length = t.length := List.length_map ..
    have some_char : t ≠ [] := by
      rintro rfl
      exact nonempty rfl
    have chars : t.all isTokenChar = true := by
      rw [List.all_eq_true] at tokens ⊢
      intro c member
      exact isTokenChar_of_toLower (tokens _ (List.mem_map_of_mem member))
    rw [fieldName?, if_pos ⟨some_char, length ▸ short, chars⟩]

namespace Headers

variable {h k : Headers} {name other : Text}

/-- A readable `connection` value has the name as an element, in whatever case. -/
def Lists (h : Headers) (name : Text) : Prop :=
  ∃ value ∈ h.values "connection", ∃ text, readable? value = some text ∧
    ∃ part ∈ Text.splitOn ',' text, (Text.trim part).lower = name

theorem mem_listedNames (good : fieldName? name = some name) :
    name ∈ h.listedNames ↔ h.Lists name := by
  simp only [listedNames, List.mem_filterMap, fieldName?_eq_some_iff good, elements, texts,
    List.mem_flatMap, List.mem_map, Lists]
  constructor
  · rintro ⟨element, ⟨text, ⟨value, member, read⟩, part, inside, rfl⟩, same⟩
    exact ⟨value, member, text, read, part, inside, same⟩
  · rintro ⟨value, member, text, read, part, inside, same⟩
    exact ⟨_, ⟨text, ⟨value, member, read⟩, part, inside, rfl⟩, same⟩

theorem isHop_iff (good : fieldName? name = some name) :
    h.isHop name = true ↔ name ∈ hopNames ∨ h.Lists name := by
  rw [isHop, Bool.or_eq_true, List.contains_iff_mem, List.contains_iff_mem, mem_listedNames good]

theorem withoutHop_withoutHop (h : Headers) : h.withoutHop.withoutHop = h.withoutHop := by
  have unlisted : h.withoutHop.listedNames = [] := by
    have gone : h.withoutHop.values "connection" = [] := by
      rw [values_withoutHop]
      exact if_pos rfl
    simp only [listedNames, elements, texts, gone, List.filterMap_nil, List.flatMap_nil]
  conv_lhs => rw [withoutHop, unlisted]
  simp only [withoutHop, List.filter_filter, Headers.mk.injEq]
  refine List.filter_congr fun f _ => ?_
  cases hopNames.contains f.name <;> simp

/-! ## Folding -/

theorem elements_eq (h : Headers) (name : Text) :
    h.elements name = (h.values name).flatMap valueElements := by
  rw [elements, texts, List.filterMap_eq_flatMap_toList, List.flatMap_assoc]
  rfl

/-- The headers whose lists say what is dropped and whether a WebSocket is asked for. -/
def listNames : List Text := ["connection", "upgrade"]

/-- Every value of these headers can be read. -/
def ListsReadable (h : Headers) : Prop :=
  ∀ name ∈ listNames, ∀ value ∈ h.values name, (readable? value).isSome = true

instance (h : Headers) : Decidable h.ListsReadable :=
  inferInstanceAs (Decidable (∀ name ∈ listNames, _))

/-- The list of one of these headers is folded in another way, and nothing else changes. -/
inductive Refolds (h k : Headers) : Prop where
  | list {name : Text} (member : name ∈ listNames) (others : k.remove name = h.remove name)
      (folding : Folding (h.values name) (k.values name))

theorem values_of_others (others : k.remove name = h.remove name) (apart : other ≠ name) :
    k.values other = h.values other := by
  rw [← values_remove_of_ne k apart, others, values_remove_of_ne h apart]

theorem Refolds.elements (r : Refolds h k) (readable : h.ListsReadable) (other : Text) :
    k.elements other = h.elements other := by
  obtain @⟨name, member, others, folding⟩ := r
  rw [elements_eq, elements_eq]
  by_cases here : other = name
  · rw [here]
    exact (folding.sound (readable name member)).2
  · rw [values_of_others others here]

theorem Refolds.readable (r : Refolds h k) (readable : h.ListsReadable) : k.ListsReadable := by
  obtain @⟨name, member, others, folding⟩ := r
  intro other list
  by_cases here : other = name
  · rw [here]
    exact (folding.sound (readable name member)).1
  · rw [values_of_others others here]
    exact readable other list

/-- What stays depends on the dropped headers only through the names that they list. -/
theorem withoutHop_of_remove (hop : name ∈ hopNames) (others : k.remove name = h.remove name)
    (listed : k.listedNames = h.listedNames) : k.withoutHop = h.withoutHop := by
  have removed (g : Headers) : g.withoutHop =
      ⟨(g.remove name).fields.filter fun f =>
        !(hopNames.contains f.name || g.listedNames.contains f.name)⟩ := by
    simp only [withoutHop, remove, List.filter_filter, Headers.mk.injEq]
    refine List.filter_congr fun f _ => ?_
    by_cases here : f.name = name
    · simp [here, hop]
    · simp [here]
  rw [removed k, removed h, others, listed]

theorem Refolds.withoutHop (r : Refolds h k) (readable : h.ListsReadable) :
    k.withoutHop = h.withoutHop := by
  have listed : k.listedNames = h.listedNames := by
    rw [listedNames, listedNames, r.elements readable]
  have hop : listNames ⊆ hopNames := by decide
  obtain ⟨member, others, -⟩ := r
  exact withoutHop_of_remove (hop member) others listed

theorem Refolds.asksForWebSocket (r : Refolds h k) (readable : h.ListsReadable) :
    k.asksForWebSocket = h.asksForWebSocket := by
  simp only [Headers.asksForWebSocket, hasElement, r.elements readable]

theorem refolded (readable : h.ListsReadable) (changes : Relation.ReflTransGen Refolds h k) :
    k.ListsReadable ∧ k.withoutHop = h.withoutHop ∧ k.asksForWebSocket = h.asksForWebSocket := by
  induction changes with
  | refl => exact ⟨readable, rfl, rfl⟩
  | tail _ last ih =>
      obtain ⟨before, dropped, asked⟩ := ih
      exact ⟨last.readable before, (last.withoutHop before).trans dropped,
        (last.asksForWebSocket before).trans asked⟩

/-- A map without the headers of one connection has for each field name all the values that it had,
or none if the name is a fixed one or stands in a list that can be read, and dropping again drops
nothing. If all lists can be read, another folding changes neither what is dropped nor whether a
WebSocket is asked for. -/
theorem withoutHop_exact_unfolded (h : Headers) :
    (∀ name, fieldName? name = some name →
      (name ∈ hopNames ∨ h.Lists name → h.withoutHop.values name = []) ∧
        (name ∉ hopNames → ¬h.Lists name → h.withoutHop.values name = h.values name)) ∧
    h.withoutHop.fields.Sublist h.fields ∧
    h.withoutHop.withoutHop = h.withoutHop ∧
    (h.ListsReadable → ∀ k, Relation.ReflTransGen Refolds h k →
      k.withoutHop = h.withoutHop ∧ k.asksForWebSocket = h.asksForWebSocket) := by
  refine ⟨fun name good => ⟨fun hop => ?_, fun unfixed unlisted => ?_⟩, List.filter_sublist,
    h.withoutHop_withoutHop, fun readable k changes => (refolded readable changes).2⟩
  · rw [values_withoutHop, if_pos ((isHop_iff good).mpr hop)]
  · rw [values_withoutHop, if_neg]
    rw [isHop_iff good]
    exact not_or.mpr ⟨unfixed, unlisted⟩

/-- Two `connection` fields, joined to one and cut elsewhere: a name in capitals is dropped all the
same, and a WebSocket is asked for. -/
theorem withoutHop_exact_unfolded_private :
    let h : Headers := ⟨[⟨"connection", Utf8.encode "Keep-Alive,X-Private"⟩, ⟨"x-private", [49]⟩,
      ⟨"accept", [42]⟩, ⟨"connection", Utf8.encode "upgrade"⟩,
      ⟨"upgrade", Utf8.encode "WebSocket"⟩]⟩
    let k : Headers := ⟨[⟨"x-private", [49]⟩, ⟨"accept", [42]⟩,
      ⟨"upgrade", Utf8.encode "WebSocket"⟩, ⟨"connection", Utf8.encode "Keep-Alive"⟩,
      ⟨"connection", Utf8.encode "X-Private, upgrade"⟩]⟩
    h.withoutHop.values "x-private" = [] ∧ h.withoutHop.values "accept" = [[42]] ∧
      k.withoutHop = h.withoutHop ∧ k.asksForWebSocket = true := by
  intro h k
  let between : Headers := h.replace "connection" (Utf8.encode "Keep-Alive,X-Private, upgrade")
  have first : Refolds h between := by
    have joined : between.values "connection" =
        [List.intercalate [44, 32] (h.values "connection")] := by decide
    have folding : Folding (h.values "connection") (between.values "connection") := by
      rw [joined]
      exact Folding.join ⟨[], [32], rfl, by simp⟩ (by decide)
    exact ⟨by decide, by decide, folding⟩
  have second : Refolds between k := by
    have folding : Folding (between.values "connection") (k.values "connection") :=
      @Folding.cut [44] (Utf8.encode "Keep-Alive") (Utf8.encode "X-Private, upgrade") [] []
        ⟨[], [], rfl, by simp⟩
    exact ⟨by decide, by decide, folding⟩
  have readable : h.ListsReadable := by decide
  have lists : h.Lists "x-private" :=
    ⟨Utf8.encode "Keep-Alive,X-Private", by decide, "Keep-Alive,X-Private", by decide, "X-Private",
      by decide, by decide⟩
  obtain ⟨exact_values, -, -, unfolded⟩ := withoutHop_exact_unfolded h
  have refolded := unfolded readable k ((Relation.ReflTransGen.single first).tail second)
  refine ⟨(exact_values "x-private" (by decide)).1 (Or.inr lists), ?_, refolded.1, ?_⟩
  · decide
  · rw [refolded.2]
    decide

end Headers

end Http

end FilteringProxy
