import RollupBoost.Flashblocks.Deliveries
import RollupBoost.Flashblocks.Equivocation
import RollupBoost.Flashblocks.Overlap
import RollupBoost.Flashblocks.PingPong
import RollupBoost.Flashblocks.Pipeline
import RollupBoost.Flashblocks.Publisher
import RollupBoost.Flashblocks.Races
import RollupBoost.Flashblocks.Receiver
import RollupBoost.Machine.Glob
import RollupBoost.Machine.Interleaved
import RollupBoost.Machine.Mpsc
import RollupBoost.Machine.Program
import RollupBoost.Machine.Tasks
import RollupBoost.Machine.Telescope
import RollupBoost.Overlay.Agreement
import RollupBoost.Overlay.Coherence
import RollupBoost.Overlay.GasAndLogs
import RollupBoost.Overlay.Malformed
import RollupBoost.Overlay.Network
import RollupBoost.Overlay.PendingNonce
import RollupBoost.Overlay.Provenance
import RollupBoost.Overlay.Receipts
import RollupBoost.Overlay.ShownBlock
import RollupBoost.Overlay.Stream
import RollupBoost.Proxy.Auth
import RollupBoost.Proxy.ClientAddr
import RollupBoost.Proxy.Forwarding
import RollupBoost.Proxy.Registry
import RollupBoost.Proxy.Server
import RollupBoost.Proxy.SilentClients
import RollupBoost.Proxy.SilentUpstreams
import RollupBoost.Proxy.Subscriber
import RollupBoost.Proxy.Wire
import RollupBoost.RateLimit.Cluster
import RollupBoost.RateLimit.Expiry
import RollupBoost.RateLimit.FailedReads
import RollupBoost.RateLimit.Failures
import RollupBoost.RateLimit.Findings
import RollupBoost.RateLimit.Keys
import RollupBoost.RateLimit.Leaks
import RollupBoost.RateLimit.LimitersAgree
import RollupBoost.RateLimit.LiveCleanup
import RollupBoost.RateLimit.Memory
import RollupBoost.RateLimit.Redis
import RollupBoost.RateLimit.SharedLimits
import RollupBoost.RateLimit.Stale
import RollupBoost.RateLimit.Tally
import RollupBoost.Server.BuilderTraffic
import RollupBoost.Server.Clock
import RollupBoost.Server.CompositeHealth
import RollupBoost.Server.Credit
import RollupBoost.Server.HealthTask
import RollupBoost.Server.Interference
import RollupBoost.Server.Leftovers
import RollupBoost.Server.Preconfirmation
import RollupBoost.Server.Probe
import RollupBoost.Server.ProxyService
import RollupBoost.Server.Recovery
import RollupBoost.Server.StateRoot
import RollupBoost.Server.Switch
import RollupBoost.Server.TraceCalls
