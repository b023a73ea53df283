import FilteringProxy.Certificate.Location
import FilteringProxy.Certificate.Store
import FilteringProxy.Filter.Show
import FilteringProxy.Modifier.Show
import FilteringProxy.Proofs.Certificate.Pairing
import FilteringProxy.Proofs.Certificate.Purge
import FilteringProxy.Proofs.Certificate.Validity
import FilteringProxy.Proofs.Filter.Loading
import FilteringProxy.Proofs.Http.Folding
import FilteringProxy.Proofs.Http.Shortening
import FilteringProxy.Proofs.Http.Uri
import FilteringProxy.Proofs.Modifier.CookieRemoval
import FilteringProxy.Proofs.Modifier.DomainList
import FilteringProxy.Proofs.Modifier.Exclusion
import FilteringProxy.Proofs.Modifier.Frame
import FilteringProxy.Proofs.Modifier.Inversion
import FilteringProxy.Proofs.Modifier.Order
import FilteringProxy.Proofs.Modifier.OwnPage
import FilteringProxy.Proofs.Modifier.Parameters
import FilteringProxy.Proofs.Modifier.Protected
import FilteringProxy.Proofs.Modifier.Same
import FilteringProxy.Proofs.Modifier.Spent
import FilteringProxy.Proofs.Proxy.Blocked
import FilteringProxy.Proofs.Proxy.Failure
import FilteringProxy.Proofs.Proxy.KeptTarget
import FilteringProxy.Proofs.Proxy.Learning
import FilteringProxy.Proofs.Proxy.Phases
import FilteringProxy.Proofs.Reordering
import FilteringProxy.Proofs.Rule.Cancel
import FilteringProxy.Proofs.Rule.HostsLine
import FilteringProxy.Proofs.RuleSet.Authority
import FilteringProxy.Proofs.RuleSet.Frame
import FilteringProxy.Proofs.RuleSet.Growth
import FilteringProxy.Proofs.RuleSet.Verdict
import FilteringProxy.Proofs.Token.Bytes
import FilteringProxy.Proofs.Trie.Alignment
import FilteringProxy.Proofs.Trie.Capitals
import FilteringProxy.Proofs.Trie.Concurrent
import FilteringProxy.Proofs.Trie.Grammar
import FilteringProxy.Proofs.Trie.Reorder
import FilteringProxy.Proofs.Trie.Sinkholes
import FilteringProxy.Proofs.Trie.Stable
import FilteringProxy.Proofs.Trie.Trail
import FilteringProxy.Proxy.Server
import FilteringProxy.Proxy.Tunnel
import FilteringProxy.Rehearsal.Report
