import BallotProof.Aware
import BallotProof.Governance

/-! Source policies and their ledger: every append adds the next version of its source, so
the rows of a source are in version order. -/
namespace BallotProof
open Python

inductive SourceAccessStatus where
  | approved | reviewRequired | prohibited
  deriving DecidableEq, Repr

def SourceAccessStatus.text : SourceAccessStatus → String
  | .approved => "approved"
  | .reviewRequired => "review_required"
  | .prohibited => "prohibited"

/-- `termsReviewedAt` and `baseUrl` are kept as the text of their JSON form. -/
structure SourcePolicy where
  sourceId : String
  provider : String
  baseUrl : Option String
  allowedHosts : List String
  accessStatus : SourceAccessStatus
  termsReviewedAt : Option String
  termsReference : Option String
  requestsPerMinute : Nat
  maxAttempts : Nat
  backoffSeconds : Binary64
  requestTimeoutSeconds : Binary64
  maxResponseBytes : Nat
  retryStatusCodes : List Nat
  captureRawResponse : Bool
  notes : Option String
  deriving DecidableEq

/-- `policy.model_dump(mode="json")` -/
def SourcePolicy.modelDump (policy : SourcePolicy) : Json := .obj [
  ("access_status", .str policy.accessStatus.text),
  ("allowed_hosts", .arr (policy.allowedHosts.map .str)),
  ("backoff_seconds", .float policy.backoffSeconds),
  ("base_url", optionalText policy.baseUrl),
  ("capture_raw_response", .bool policy.captureRawResponse),
  ("max_attempts", .int policy.maxAttempts),
  ("max_response_bytes", .int policy.maxResponseBytes),
  ("notes", optionalText policy.notes),
  ("provider", .str policy.provider),
  ("request_timeout_seconds", .float policy.requestTimeoutSeconds),
  ("requests_per_minute", .int policy.requestsPerMinute),
  ("retry_status_codes", .arr (policy.retryStatusCodes.map fun code => .int code)),
  ("source_id", .str policy.sourceId),
  ("terms_reference", optionalText policy.termsReference),
  ("terms_reviewed_at", optionalText policy.termsReviewedAt)]

structure SourcePolicySnapshot where
  snapshotId : String
  sourceId : String
  version : Nat
  policy : SourcePolicy
  storedAt : Datetime
  previousSnapshotHash : Option Digest
  snapshotHash : Digest
  deriving DecidableEq

/-- `SourcePolicyStore._hash_body` -/
def policyHashBody (snapshotId sourceId : String) (version : Nat) (policy : SourcePolicy)
    (storedAt : Datetime) (previous : Option Digest) : Json := .obj [
  ("policy", policy.modelDump),
  ("previous_snapshot_hash", optionalHash previous),
  ("snapshot_id", .str snapshotId),
  ("source_id", .str sourceId),
  ("stored_at", .str storedAt.isoformat),
  ("version", .int version)]

/-- `SourcePolicyStore.history` -/
def policyHistory (rows : List SourcePolicySnapshot) (sourceId : String) :
    List SourcePolicySnapshot := rows.filter (·.sourceId = sourceId)

/-- `SourcePolicyStore.latest` -/
def latestPolicy (rows : List SourcePolicySnapshot) (sourceId : String) :
    Result SourcePolicySnapshot :=
  match (policyHistory rows sourceId).getLast? with
  | none => .error ⟨.keyError, "Unknown source_id: " ++ sourceId⟩
  | some snapshot => .ok snapshot

/-- `SourcePolicyStore.get` -/
def getPolicy (rows : List SourcePolicySnapshot) (sourceId : String) (version : Nat) :
    Result SourcePolicySnapshot :=
  match rows.find? fun row => row.sourceId = sourceId ∧ row.version = version with
  | none => .error ⟨.keyError, "Unknown source policy snapshot: " ++ sourceId ++ " v" ++ toString version⟩
  | some snapshot => .ok snapshot

/-- The snapshot that `SourcePolicyStore.append` builds inside its transaction. -/
def nextPolicySnapshot (sha256 : Bytes → Digest) (rows : List SourcePolicySnapshot)
    (policy : SourcePolicy) (snapshotId : String) (storedAt : Datetime) : SourcePolicySnapshot :=
  let previous := (policyHistory rows policy.sourceId).getLast?
  let version := match previous with | none => 1 | some row => row.version + 1
  let previousHash := previous.map (·.snapshotHash)
  { snapshotId
    sourceId := policy.sourceId
    version
    policy
    storedAt
    previousSnapshotHash := previousHash
    snapshotHash := hashRecord sha256
      (policyHashBody snapshotId policy.sourceId version policy storedAt previousHash) }

/-- The transaction of `SourcePolicyStore.append`, unless a uniqueness constraint rejects it. -/
def appendPolicy (sha256 : Bytes → Digest) (rows : List SourcePolicySnapshot)
    (policy : SourcePolicy) (snapshotId : String) (storedAt : Datetime) :
    Option (List SourcePolicySnapshot) :=
  let snapshot := nextPolicySnapshot sha256 rows policy snapshotId storedAt
  if ∃ row ∈ rows, row.snapshotId = snapshotId ∨ row.snapshotHash = snapshot.snapshotHash ∨
      (row.sourceId = policy.sourceId ∧ row.version = snapshot.version) then none
  else some (rows ++ [snapshot])

theorem mem_of_latestPolicy (h : latestPolicy rows sourceId = .ok latest) :
    latest ∈ rows ∧ latest.sourceId = sourceId := by
  unfold latestPolicy at h
  split at h
  · cases h
  · rename_i found
    cases h
    simpa [policyHistory] using List.mem_of_getLast? found

/-- An append changes the latest snapshot of its own source only. -/
theorem latestPolicy_snoc (rows : List SourcePolicySnapshot) (row : SourcePolicySnapshot)
    (sourceId : String) : latestPolicy (rows ++ [row]) sourceId =
      if row.sourceId = sourceId then .ok row else latestPolicy rows sourceId := by
  by_cases same : row.sourceId = sourceId
  · simp [latestPolicy, policyHistory, List.filter_append, same]
  · simp [latestPolicy, policyHistory, List.filter_append, same]

/-- A stored version stays what it is. -/
theorem getPolicy_grown (h : getPolicy rows sourceId version = .ok snapshot) (grown : rows <+: after) :
    getPolicy after sourceId version = .ok snapshot := by
  obtain ⟨added, rfl⟩ := grown
  unfold getPolicy at h ⊢
  split at h
  · cases h
  · rename_i found
    rw [List.find?_append, found]
    exact h

/-- The appended snapshot is a new version of its source. -/
theorem appendPolicy_some (h : appendPolicy sha256 rows policy snapshotId storedAt = some after) :
    ∃ snapshot, after = rows ++ [snapshot] ∧ snapshot.policy = policy ∧
      snapshot.sourceId = policy.sourceId ∧
      ∀ row ∈ rows, row.sourceId = snapshot.sourceId → row.version ≠ snapshot.version := by
  simp only [appendPolicy] at h
  split at h
  · cases h
  · rename_i fresh
    cases h
    exact ⟨_, rfl, rfl, rfl, fun row member source version =>
      fresh ⟨row, member, .inr (.inr ⟨source, version⟩)⟩⟩

end BallotProof
