import FilteringProxy.Proofs.RuleSet.Redirect
import FilteringProxy.Proofs.Token.Decomposition
import FilteringProxy.Proofs.Trie.Scan

/-! # Where tokens line up

A text is cut independently of what stands before it exactly where a delimiter stands next to the
cut and the sign between scheme and host is not parted. Scheme, host and path of a target meet at
such places, whether the target was read from a text or edited by rules, so addresses are compared
with the tokens of each of them.
-/

namespace FilteringProxy

open Http (Request Uri)

/-! ## Targets that rules are looked up for -/

namespace Http.Uri

/-- A target that rules are looked up for: it was read from a text, or it is the target of a request
that rules have edited. -/
inductive Asked : Uri → Prop where
  | read {written : Text} {u : Uri} (parsed : parse? written = some u) : Asked u
  | edited {r : Request} (rules : RuleSet) (asked : Asked r.uri) : Asked (rules.onRequest r).1.uri

variable {u v : Uri}

theorem IsApart.shortened (apart : u.IsApart) (shorter : u.Shortened v) : v.IsApart where
  scheme := shorter.scheme ▸ apart.scheme
  path := by
    intro named
    rw [shorter.authority] at named
    rw [shorter.path, shownPath]
    split
    · split
      · exact Or.inr rfl
      · exact Or.inl rfl
    · exact apart.path named

theorem Asked.isApart (asked : u.Asked) : u.IsApart := by
  induction asked with
  | read parsed => exact .of_parse parsed
  | @edited r rules asked ih =>
      rcases rules.onRequest_shortened r with same | shorter
      · exact same ▸ ih
      · exact ih.shortened shorter

end Http.Uri

namespace Trie

/-- The tokens of two texts in a row are those of the one and then those of the other exactly if a
delimiter stands at the cut and no separator stands across it. So the text that addresses are
compared with, whatever target rules are looked up for, has the tokens of the scheme, the separator,
the tokens of the host and those of path and query. -/
theorem tokens_line_up :
    (∀ a b : Text, a ≠ [] → b ≠ [] →
      (tokenize (a ++ b) = tokenize a ++ tokenize b ↔
        ((∃ c, a.getLast? = some c ∧ Token.isDelimiter c = true) ∨
            ∃ c, b.head? = some c ∧ Token.isDelimiter c = true) ∧
          ¬∃ front behind, a ++ b = front ++ Token.schemeSeparator ++ behind ∧
            front.length < a.length ∧
            a.length < front.length + Token.schemeSeparator.length)) ∧
    ∀ u host, Uri.Asked u → u.host? = some host →
      tokenize (lookupText (u.scheme.getD "http") host.lower (u.pathAndQuery?.getD "/")) =
        tokenize (u.scheme.getD "http") ++ Token.schemeSeparator ::
          (tokenize host.lower ++ tokenize (u.pathAndQuery?.getD "/")) := by
  constructor
  · intro a b some_a some_b
    rw [Token.tokenize_append_iff_cut, Token.delimited_iff some_a some_b, Token.parted_iff]
  · intro u host asked named
    exact targetTokens_append asked.isApart named

/-- A colon and a slash on the two sides of a cut stay apart unless they and the next slash are a
separator. The colons of an address, and a separator inside a query, do not move the host. -/
theorem tokens_line_up_at_colons :
    tokenize "a:/b" = tokenize "a:" ++ tokenize "/b" ∧
      tokenize "a://b" ≠ tokenize "a:" ++ tokenize "//b" ∧
      ∃ u, Uri.parse? "HTTP://[::A]:80?u=ftp://b" = some u ∧
        tokenize (lookupText (u.scheme.getD "http") "[::a]" (u.pathAndQuery?.getD "/")) =
          (["http", "://", "[", ":", ":", "a]", "?", "u", "=", "ftp", "://", "b"] : List Text) := by
  obtain ⟨cuts, targets⟩ := tokens_line_up
  refine ⟨?_, ?_, ?_⟩
  · refine (cuts "a:" "/b" (by decide) (by decide)).mpr ⟨Or.inl ⟨':', by decide⟩, ?_⟩
    rintro ⟨front, behind, whole, begins, ends⟩
    match front with
    | [] => simp [Token.schemeSeparator] at whole
    | [c] => simp [Token.schemeSeparator] at whole
    | c :: d :: more =>
        have two : ("a:" : Text).length = 2 := rfl
        rw [List.length_cons, List.length_cons, two] at begins
        omega
  · intro alike
    exact ((cuts "a:" "//b" (by decide) (by decide)).mp alike).2
      ⟨"a", "b", by decide, by decide, by decide⟩
  · have parsed : Uri.parse? "HTTP://[::A]:80?u=ftp://b" =
        some ⟨some "http", "[::A]:80", [], some "u=ftp://b"⟩ := by decide
    refine ⟨_, parsed, ?_⟩
    exact (targets _ "[::A]" (.read parsed) (by decide)).trans (by decide)

end Trie

end FilteringProxy
