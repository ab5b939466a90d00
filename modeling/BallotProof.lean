import BallotProof.ReleaseProofs
import BallotProof.CollationExact
import BallotProof.Leases
import BallotProof.Base64
import BallotProof.Datetime
import BallotProof.Governance
import BallotProof.GovernanceExports
import BallotProof.GovernanceRuns
import BallotProof.GovernanceSafety
import BallotProof.Loop
import BallotProof.Memo
import BallotProof.Registry
import BallotProof.EvidenceChain
import BallotProof.RegistryReplay
import BallotProof.AuthAudit
import BallotProof.WorkerLease
import BallotProof.Reconciliation
import BallotProof.ResultValidation
import BallotProof.SchedulerRetry
import BallotProof.TransportOutcomes
import BallotProof.RateLimit
import BallotProof.RetryAfter
import BallotProof.BodyLimit
import BallotProof.AutomationDue
import BallotProof.PolicyChains
import BallotProof.RecordStorage
import BallotProof.CatchUp
import BallotProof.CutoverSafety
import BallotProof.EvidenceBundles
import BallotProof.ObserverPins
import BallotProof.ApprovalLedger
import BallotProof.Approvals
import BallotProof.Automation
import BallotProof.AutomationApproval
import BallotProof.AutomationBook
import BallotProof.AutomationLedger
import BallotProof.Quorum
import BallotProof.Replication
import BallotProof.ReplicationAgreement
import BallotProof.PosixPath
import BallotProof.PublicationPaths
import BallotProof.BodyLimit
import BallotProof.SourceSecurity
import BallotProof.Files
import BallotProof.ImmutableFiles
import BallotProof.ReleaseMirror
import BallotProof.Ingestion
import BallotProof.RawObjectStorage
import BallotProof.LegacyMigration
import BallotProof.Csv
import BallotProof.ReleaseFormats
import BallotProof.ReleaseRoundTrip
import BallotProof.TextFiles
import BallotProof.ReleaseInclusion
import BallotProof.Grouping
import BallotProof.Equivocations
import BallotProof.CrashHistories
import BallotProof.SemanticRelease
import BallotProof.SemanticReleaseSafety
