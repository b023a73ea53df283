import FilteringProxy.Url.Address

/-! # Names of servers

A secure connection is asked for by the name of the server: a name of the domain name system or an
address.
-/

namespace FilteringProxy.Url

/-- The label may stand in the name of a server. -/
def isServerLabel (label : Text) : Bool :=
  label ≠ [] && label.length ≤ 63 && label.all (fun c => c.isAlphanum || c = '-' || c = '_') &&
    label.head? ≠ some '-' && label.getLast? ≠ some '-'

/-- Labels between full stops, of which the last one is no number. One more full stop may stand at
the end. -/
def isDomainName (host : Text) : Bool :=
  let labels := Text.splitOn '.' host
  let labels := if 1 < labels.length && labels.getLast? = some [] then labels.dropLast else labels
  host.length ≤ 253 && labels.all isServerLabel &&
    !(labels.getLast?.getD []).all Char.isDigit

/-- A secure connection can be asked for by the host, without brackets. -/
def isServerName (host : Text) : Bool := isDomainName host || isAddress host

end FilteringProxy.Url
