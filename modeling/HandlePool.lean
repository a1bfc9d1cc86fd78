import HandlePool.Error
import HandlePool.Text.Quoted
import HandlePool.Text.Case
import HandlePool.Text.Blank
import HandlePool.Text.Mark
import HandlePool.Identity.Scope
import HandlePool.Stats
import HandlePool.Telemetry
import HandlePool.Url.IdnaTable
import HandlePool.Url.Percent
import HandlePool.Url.Ipv4
import HandlePool.Url.Ipv6
import HandlePool.Url.Punycode
import HandlePool.Url.Idna
import HandlePool.Url.Parser
import HandlePool.Target
import HandlePool.Key
import HandlePool.Config.Load
import HandlePool.Session.Cleanup
import HandlePool.Session.Grace
import HandlePool.Session.Pool
import HandlePool.Proofs.CloseOnce
import HandlePool.Proofs.Ledger
import HandlePool.Proofs.Ownership
import HandlePool.Proofs.Opening
import HandlePool.Proofs.Reclamation
import HandlePool.Proofs.GraceWindow
import HandlePool.Proofs.Steps
import HandlePool.Proofs.Lifecycle
import HandlePool.Proofs.Reuse
import HandlePool.Proofs.Capacity
import HandlePool.Proofs.Exclusive
import HandlePool.Proofs.Cleanups
import HandlePool.Proofs.GraceFlow
import HandlePool.Proofs.FailedLookup
import HandlePool.Proofs.Statistics
import HandlePool.Proofs.Delegation
import HandlePool.Proofs.GraceStop
import HandlePool.Proofs.BulkClose
import HandlePool.Proofs.LookupCases
import HandlePool.Proofs.KeyIdentity
import HandlePool.Proofs.TokenSets
import HandlePool.Proofs.UrlText
import HandlePool.Proofs.Ipv4Text
import HandlePool.Proofs.Ipv6Text
import HandlePool.Proofs.HostText
import HandlePool.Proofs.ParsedUrl
import HandlePool.Proofs.UrlReadBack
import HandlePool.Proofs.TargetDisplay
import HandlePool.Proofs.GraceOrder
import HandlePool.Proofs.ConfigLayers
import HandlePool.Proofs.PrincipalScope
