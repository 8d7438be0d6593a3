import Codemem.Replication.PeerPull
import Codemem.Replication.Polling
import Codemem.Sync.Retraction
import Codemem.Replication.OutboundPrivacy
import Codemem.Replication.Savepoint
import Codemem.Store.FenceRuns
import Codemem.Scope.FailClosed
import Codemem.Replication.SnapshotPage
import Codemem.Store.ClockMonotone
import Codemem.RawEvents.ExactlyOnce
import Codemem.RawEvents.WakeUps
import Codemem.RawEvents.Watermark
import Codemem.RawEvents.EventLog
import Codemem.Spool.NoLoss
import Codemem.Spool.Drains
import Codemem.Recipients.AliasAgreement
import Codemem.Recipients.ReviewedIsEnforced
import Codemem.Sync.AcceptedOnce
import Codemem.Replication.MaintenanceWinners
import Codemem.Coordinator.ScopeFence
import Codemem.Coordinator.InviteRuns
import Codemem.Coordinator.ReciprocalApprovals
import Codemem.Delegation.ContextSpec
import Codemem.Store.LatestSummary
import Codemem.Recipients.WakesOfWrites
import Codemem.Backfill.Promises
import Codemem.Backfill.ScopeProbe
import Codemem.Replication.Tombstones
import Codemem.Replication.SnapshotPaging
import Codemem.Replication.RoundTrip
import Codemem.Replication.LegacyMirror
import Codemem.Store.FilterBranches
import Codemem.Store.OwnershipAgreement
import Codemem.Store.SummaryReadings
import Codemem.Store.NearDuplicates
import Codemem.Replication.PruneExact
import Codemem.Sync.PeerRemoval
import Codemem.RawEvents.FlushExclusion
import Codemem.Replication.VectorWork
import Codemem.Replication.StaleRowsSafety
import Codemem.RawEvents.Batching
import Codemem.RawEvents.AttemptBound
import Codemem.RawEvents.RecoveryWindows
import Codemem.Sync.PushSizes
import Codemem.Pack.Fusion
import Codemem.Embeddings.Chunks
import Codemem.Semantic.Ranking
import Codemem.Semantic.WorkerQueueSpec
import Codemem.Pack.RenderSpec
import Codemem.Sharing.Acceptance
import Codemem.Embeddings.PruneVectors
import Codemem.Distill.Diff
import Codemem.Foundation.PosixPath
import Codemem.Ledger.Encodings
import Codemem.Ledger.Decodings
import Codemem.Ledger.Attempts
import Codemem.Ledger.Recording
import Codemem.Ledger.ReadBack
import Codemem.Store.RecoveredCopies
import Codemem.Ingest.TagScanSpec
import Codemem.Coordinator.RevocationFence
