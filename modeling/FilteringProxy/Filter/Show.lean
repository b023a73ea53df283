import FilteringProxy.Filter
import FilteringProxy.Modifier.Show

/-! # Filters in words

The written form of a filter: what is watched for, and a sign that there is more.
-/

namespace FilteringProxy.Show

def filter (f : Filter) : Text :=
  ("Filter \x7b on_block: " : Text) ++ truth f.watch.block ++ (", on_redirect: " : Text) ++
    truth f.watch.redirect ++ (", on_modify: " : Text) ++ truth f.watch.modify ++
    (", .. \x7d" : Text)

end FilteringProxy.Show
