import FilteringProxy.Proofs.Text.Part
import FilteringProxy.Proxy.Failure

/-! # What the line about a failure tells

The line holds the message of each cause, and a word that has nothing of what stands between two
messages is in it only if one of them has the word. So it is known from the line whether a
secure connection failed as such, as it is known from the messages one by one.
-/

namespace FilteringProxy.Failure

variable {said message part word : Text} {causes messages : List Text}

/-! ## One more cause -/

theorem infix_addCause (inside : part <:+: said ∨ part <:+: message) :
    part <:+: addCause said message := by
  unfold addCause
  split
  · rename_i held
    exact inside.elim id fun within => within.trans (Text.hasPart_iff.mp held)
  · rcases inside with before | within
    · exact before.trans ((List.prefix_append _ _).trans (List.prefix_append _ _)).isInfix
    · exact within.trans (List.suffix_append _ _).isInfix

/-- A word that two messages cannot make together: it has no character of what stands between
them. -/
structure Whole (word : Text) : Prop where
  filled : word ≠ []
  colon : ':' ∉ word
  blank : ' ' ∉ word

theorem whole_of_mem_tlsWords (member : word ∈ tlsWords) : Whole word := by
  have all : ∀ word ∈ tlsWords, word ≠ [] ∧ ':' ∉ word ∧ ' ' ∉ word := by decide
  obtain ⟨filled, colon, blank⟩ := all word member
  exact ⟨filled, colon, blank⟩

theorem infix_lower_addCause_iff (whole : Whole word) (said message : Text) :
    word <:+: (addCause said message).lower ↔ word <:+: said.lower ∨ word <:+: message.lower := by
  unfold addCause
  split
  · rename_i held
    refine (or_iff_left_of_imp fun within => ?_).symm
    exact within.trans ((Text.hasPart_iff.mp held).map Char.toLower)
  · have glued : (said ++ (": " : Text) ++ message).lower =
        said.lower ++ ':' :: ([] ++ ' ' :: message.lower) := by
      simp only [Text.lower, List.map_append, List.append_assoc]
      rfl
    rw [glued, Text.infix_append_cons_iff whole.colon, Text.infix_append_cons_iff whole.blank,
      List.infix_nil, or_iff_right whole.filled]

/-! ## All causes -/

theorem infix_foldl_addCause
    (inside : part <:+: said ∨ ∃ message ∈ causes, part <:+: message) :
    part <:+: causes.foldl addCause said := by
  induction causes generalizing said with
  | nil =>
      simpa only [List.foldl_nil, List.not_mem_nil, false_and, exists_false, or_false] using inside
  | cons cause causes ih =>
      rw [List.exists_mem_cons_iff, ← or_assoc] at inside
      exact ih (inside.imp_left infix_addCause)

theorem infix_lower_foldl_iff (whole : Whole word) (said : Text) (causes : List Text) :
    word <:+: (causes.foldl addCause said).lower ↔
      word <:+: said.lower ∨ ∃ message ∈ causes, word <:+: message.lower := by
  induction causes generalizing said with
  | nil => simp only [List.foldl_nil, List.not_mem_nil, false_and, exists_false, or_false]
  | cons cause causes ih =>
      rw [List.foldl_cons, ih, infix_lower_addCause_iff whole, List.exists_mem_cons_iff, or_assoc]

theorem infix_describe (member : message ∈ messages) : message <:+: describe messages := by
  cases messages with
  | nil => cases member
  | cons first causes =>
      refine infix_foldl_addCause ((List.mem_cons.mp member).imp ?_ ?_)
      · rintro rfl
        exact List.infix_refl message
      · exact fun later => ⟨message, later, List.infix_refl message⟩

theorem infix_lower_describe_iff (whole : Whole word) (messages : List Text) :
    word <:+: (describe messages).lower ↔ ∃ message ∈ messages, word <:+: message.lower := by
  cases messages with
  | nil =>
      simp only [describe, Text.lower, List.map_nil, List.infix_nil, whole.filled,
        List.not_mem_nil, false_and, exists_false]
  | cons first causes =>
      rw [describe, infix_lower_foldl_iff whole, List.exists_mem_cons_iff]

/-! ## Secure connections -/

theorem isTls_iff : isTls message = true ↔ ∃ word ∈ tlsWords, word <:+: message.lower := by
  simp only [isTls, List.any_eq_true, Text.hasPart_iff]

theorem isTls_describe_iff (messages : List Text) :
    isTls (describe messages) = true ↔ ∃ message ∈ messages, isTls message = true := by
  simp only [isTls_iff]
  constructor
  · rintro ⟨word, known, inside⟩
    have told := infix_lower_describe_iff (whole_of_mem_tlsWords known) messages
    obtain ⟨message, member, within⟩ := told.mp inside
    exact ⟨message, member, word, known, within⟩
  · rintro ⟨message, member, word, known, within⟩
    have told := infix_lower_describe_iff (whole_of_mem_tlsWords known) messages
    exact ⟨word, known, told.mpr ⟨message, member, within⟩⟩

/-- The line about a failure tells each message of the chain as it stands. Each word that only
messages about secure connections have is in the line, in whatever letters, exactly if it is in one
of the messages; and so the line is about a secure connection that failed as such exactly if one of
the messages is. -/
theorem describe_faithful (messages : List Text) :
    (∀ message ∈ messages, message <:+: describe messages) ∧
      (∀ word ∈ tlsWords, (word <:+: (describe messages).lower ↔
        ∃ message ∈ messages, word <:+: message.lower)) ∧
      (isTls (describe messages) = true ↔ ∃ message ∈ messages, isTls message = true) := by
  refine ⟨fun message member => infix_describe member, ?_, isTls_describe_iff messages⟩
  intro word known
  exact infix_lower_describe_iff (whole_of_mem_tlsWords known) messages

/-- A cause that was told before is left out, and letters on both sides of a joint make no word. -/
example :
    describe ["fault", "fatal ALERT: unknown", "unknown", "alert"] =
        ("fault: fatal ALERT: unknown: alert" : Text) ∧
      isTls (describe ["fault", "ls"]) = false := by decide

/-- A certificate that nobody knows, told in capital letters by one message of three. -/
theorem describe_faithful_certificate :
    let chain : List Text :=
      ["client error (Connect)", "invalid peer CERTIFICATE: UnknownIssuer", "UnknownIssuer"]
    let cause : Text := "UnknownIssuer"
    let word : Text := "certificate"
    (cause ∈ chain ∧ cause <:+: describe chain) ∧
      (word ∈ tlsWords ∧ word <:+: (describe chain).lower) ∧ isTls (describe chain) = true := by
  intro chain cause word
  have last : cause ∈ chain := by decide
  have known : word ∈ tlsWords := by decide
  have tells : ∃ message ∈ chain, message.lower.hasPart word = true := by decide
  obtain ⟨message, member, within⟩ := tells
  obtain ⟨holds, words, tls⟩ := describe_faithful chain
  refine ⟨⟨last, holds cause last⟩, ⟨known, (words word known).mpr ?_⟩, tls.mpr ?_⟩
  · exact ⟨message, member, Text.hasPart_iff.mp within⟩
  · exact ⟨message, member, isTls_iff.mpr ⟨word, known, Text.hasPart_iff.mp within⟩⟩

end FilteringProxy.Failure
