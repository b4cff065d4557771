import LobReplay.Arbitration.Tiling
import LobReplay.Bench.Coverage
import LobReplay.Book.Aggregate
import LobReplay.Book.Restore
import LobReplay.Boundary.Derivation
import LobReplay.Boundary.Splice
import LobReplay.Campaign.Rotation
import LobReplay.Campaign.Soundness
import LobReplay.Canonical.Agreement
import LobReplay.Fix.Envelope
import LobReplay.Fix.Recovery
import LobReplay.Fix.Termination
import LobReplay.Generation.Lifecycle
import LobReplay.Handover.Orchestrator
import LobReplay.Identity.Crash
import LobReplay.Itch.Codec
import LobReplay.Journal.Chain
import LobReplay.Journal.Recovery
import LobReplay.Journal.Tail
import LobReplay.Net.Frame
import LobReplay.Net.GapRecovery
import LobReplay.Net.SpscRing
import LobReplay.Observation.Convergence
import LobReplay.Oracle.Depth
import LobReplay.Ouch.Chains
import LobReplay.Ouch.Codec
import LobReplay.Ouch.Shares
import LobReplay.Ownership.Prefix
import LobReplay.Ownership.Publication
import LobReplay.Ownership.SplitBrain
import LobReplay.Progress.Schedule
import LobReplay.Raw.Delta
import LobReplay.Raw.Durability
import LobReplay.Raw.Range
import LobReplay.Raw.Watermarks
import LobReplay.Recovery.ConsumerGap
import LobReplay.Recovery.DerivedBook
import LobReplay.Recovery.Interleaving
import LobReplay.Recovery.Watchdog
import LobReplay.Redundancy.Restart
import LobReplay.Redundancy.Verification
import LobReplay.Replay.Coverage
import LobReplay.Resilience.Frontier
import LobReplay.Resilience.Reconcile
import LobReplay.Sbe.Decimal
import LobReplay.Sbe.Layout
import LobReplay.Sbe.Safety
import LobReplay.Segment.Transparency
import LobReplay.Segmented.Gauges
import LobReplay.Transport.ControlBudget
import LobReplay.Transport.Signals
import LobReplay.Union.Merge
import LobReplay.Union.Retention
import LobReplay.Union.Terminal
