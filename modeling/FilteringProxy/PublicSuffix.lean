import FilteringProxy.Text.Basic

/-! # Registrable domains

The registrable domain of a host is its public suffix and one label more. The suffixes form a list
of rules over labels: a star stands for any label, an exclamation mark takes a name out of a rule
with a star, and a top-level name without a rule is a suffix by itself.
-/

namespace FilteringProxy.PublicSuffix

/-- A rule of the list: labels from the top down. -/
structure SuffixRule where
  /-- The labels after an optional star, the top-level one first. -/
  labels : List Text
  /-- Any one label more belongs to the suffix. -/
  star : Bool
  /-- These names are no suffixes although a rule with a star says so. -/
  exceptions : List Text
  deriving Repr, DecidableEq

def named (name : String) : SuffixRule :=
  { labels := (Text.splitOn '.' (name : Text)).reverse, star := false, exceptions := [] }

/-- A rule with a star before a name. -/
def starred (name : String) (exceptions : List Text) : SuffixRule :=
  { labels := (Text.splitOn '.' (name : Text)).reverse, star := true, exceptions }

/-- The rules that are known here: some of each form, in place of the whole list. -/
def rules : List SuffixRule :=
  [named "co.uk", named "org.uk", named "ac.uk", named "gov.uk", named "me.uk", named "net.uk",
    named "com.au", named "net.au", named "org.au", named "edu.au", named "gov.au",
    named "co.jp", named "ne.jp", named "or.jp", named "ac.jp", named "go.jp", named "co.nz",
    named "org.nz", named "com.br", named "co.in", named "com.cn", named "co.za", named "co.kr",
    named "github.io", named "blogspot.com", starred "ck" ["www"],
    starred "kawasaki.jp" ["city"]]

/-- The number of labels of the suffix that a rule finds in the labels of a host. -/
def SuffixRule.covers (rule : SuffixRule) (labels : List Text) : Option Nat :=
  if rule.labels.isPrefixOf labels then
    if rule.star then
      match labels.drop rule.labels.length with
      | [] => none
      | label :: _ =>
        if rule.exceptions.contains label then some rule.labels.length
        else some (rule.labels.length + 1)
    else some rule.labels.length
  else none

/-- The number of labels of the public suffix of a host, given from the top down: the longest that a
rule finds, at least one. -/
def suffixLength (labels : List Text) : Nat :=
  (rules.filterMap (·.covers labels)).foldl max 1

/-- The registrable domain of a host, if the host is longer than its public suffix. -/
def registrable? (host : Text) : Option Text :=
  let labels := (Text.splitOn '.' host).reverse
  let n := suffixLength labels
  let suffix := Text.join ['.'] (labels.take n).reverse
  if suffix = [] || host.length < suffix.length + 2 then none
  else some (Text.join ['.'] (labels.take (n + 1)).reverse)

end FilteringProxy.PublicSuffix
