import BallotProof.Sources
import BallotProof.Base64

/-! The source approval ledger: signed approve and revoke events for policy snapshots, one
hash chain for each source, and the authorization that the ledger gives a snapshot. -/
namespace BallotProof
open Python

inductive SourceApprovalDecision where
  | approve | revoke
  deriving DecidableEq, Repr

def SourceApprovalDecision.text : SourceApprovalDecision → String
  | .approve => "approve"
  | .revoke => "revoke"

structure ReviewedSourceEvidence where
  reference : String
  sha256 : Digest
  description : Option String
  deriving DecidableEq

/-- `issuedAt` is kept as the text of its JSON form. -/
structure SourceApprovalPayload where
  eventId : String
  sourceId : String
  policyVersion : Nat
  policySnapshotHash : Digest
  decision : SourceApprovalDecision
  approverId : String
  reviewedEvidence : List ReviewedSourceEvidence
  rationale : String
  issuedAt : String
  previousEventHash : Option Digest
  deriving DecidableEq

structure SignedSourceApproval where
  payload : SourceApprovalPayload
  publicKeyB64 : String
  signerKeySha256 : Digest
  signatureB64 : String
  eventHash : Digest
  storedAt : Option Datetime
  deriving DecidableEq

/-- A row of `source_approval_events`. -/
structure SourceApprovalRow where
  sourceId : String
  sequence : Nat
  eventId : String
  policyVersion : Nat
  policySnapshotHash : Digest
  decision : SourceApprovalDecision
  event : SignedSourceApproval
  storedAt : Datetime
  previousEventHash : Option Digest
  eventHash : Digest
  deriving DecidableEq

structure SourceApprovalAuthorization where
  authorized : Bool
  decision : Option SourceApprovalDecision
  eventId : Option String
  eventHash : Option Digest
  approverId : Option String
  signerKeySha256 : Option Digest
  deriving DecidableEq

structure SourceApprovalChainVerification where
  valid : Bool
  eventsChecked : Nat
  failureSequence : Option Nat
  deriving DecidableEq

def ReviewedSourceEvidence.modelDump (evidence : ReviewedSourceEvidence) : Json := .obj [
  ("description", optionalText evidence.description),
  ("reference", .str evidence.reference),
  ("sha256", .str evidence.sha256.hex)]

/-- `payload.model_dump(mode="json")` -/
def SourceApprovalPayload.modelDump (payload : SourceApprovalPayload) : Json := .obj [
  ("approver_id", .str payload.approverId),
  ("decision", .str payload.decision.text),
  ("event_id", .str payload.eventId),
  ("issued_at", .str payload.issuedAt),
  ("policy_snapshot_hash", .str payload.policySnapshotHash.hex),
  ("policy_version", .int payload.policyVersion),
  ("previous_event_hash", optionalHash payload.previousEventHash),
  ("rationale", .str payload.rationale),
  ("reviewed_evidence", .arr (payload.reviewedEvidence.map (·.modelDump))),
  ("source_id", .str payload.sourceId)]

/-- `_event_hash_body` -/
def SignedSourceApproval.hashBody (event : SignedSourceApproval) : Json := .obj [
  ("algorithm", .str "Ed25519"),
  ("payload", event.payload.modelDump),
  ("public_key_b64", .str event.publicKeyB64),
  ("signature_b64", .str event.signatureB64),
  ("signer_key_sha256", .str event.signerKeySha256.hex)]

section
variable {Key : Type} (sha256 : Bytes → Digest) (ed25519 : Ed25519 Key)

/-- `verify_source_approval`; every error it can meet is a ValueError or a bad signature. -/
def verifySourceApproval (event : SignedSourceApproval) : Bool :=
  match b64decode event.publicKeyB64.toList, b64decode event.signatureB64.toList with
  | .ok publicKey, .ok signature =>
    sha256 publicKey = event.signerKeySha256 ∧ hashRecord sha256 event.hashBody = event.eventHash ∧
      publicKey.length = 32 ∧
      ed25519.verify publicKey signature (canonicalJsonBytes event.payload.modelDump) = true
  | _, _ => false

/-- `_bound_snapshot` -/
def boundSnapshot (policies : List SourcePolicySnapshot) (event : SignedSourceApproval) :
    Result SourcePolicySnapshot := do
  let snapshot ← getPolicy policies event.payload.sourceId event.payload.policyVersion
  raiseIf (snapshot.snapshotHash ≠ event.payload.policySnapshotHash)
    ⟨.valueError, "source approval event policy hash does not match stored snapshot"⟩
  return snapshot

/-- The checks of `SourceApprovalStore.append` before its transaction. -/
def approvalChecks (policies : List SourcePolicySnapshot) (trusted : Option (List Digest))
    (event : SignedSourceApproval) : Result Unit := do
  raiseIf (event.storedAt ≠ none) ⟨.valueError, "stored_at is assigned by SourceApprovalStore"⟩
  raiseIf (verifySourceApproval sha256 ed25519 event = false)
    ⟨.valueError, "invalid source approval signature or event hash"⟩
  raiseIf (∃ keys ∈ trusted, event.signerKeySha256 ∉ keys)
    ⟨.permissionError, "source approval signer is not in the configured trust set"⟩
  let snapshot ← boundSnapshot policies event
  raiseIf (snapshot.policy.accessStatus ≠ .approved)
    ⟨.permissionError, "source approval events may authorize approved policy snapshots only"⟩

end

/-- The events of one source in sequence order. -/
def approvalHistory (rows : List SourceApprovalRow) (sourceId : String) : List SourceApprovalRow :=
  rows.filter (·.sourceId = sourceId)

/-- The last event for an exact version and hash of a source. -/
def latestForSnapshot (rows : List SourceApprovalRow) (sourceId : String) (version : Nat)
    (snapshotHash : Digest) : Option SourceApprovalRow :=
  (rows.filter fun row => row.sourceId = sourceId ∧ row.policyVersion = version ∧
    row.policySnapshotHash = snapshotHash).getLast?

/-- The row that `append` inserts. -/
def nextApprovalRow (rows : List SourceApprovalRow) (event : SignedSourceApproval)
    (storedAt : Datetime) : SourceApprovalRow where
  sourceId := event.payload.sourceId
  sequence := match (approvalHistory rows event.payload.sourceId).getLast? with
    | none => 1
    | some row => row.sequence + 1
  eventId := event.payload.eventId
  policyVersion := event.payload.policyVersion
  policySnapshotHash := event.payload.policySnapshotHash
  decision := event.payload.decision
  event := { event with storedAt := some storedAt }
  storedAt := storedAt
  previousEventHash := event.payload.previousEventHash
  eventHash := event.eventHash

/-- The transaction of `SourceApprovalStore.append`. -/
def appendApproval (rows : List SourceApprovalRow) (event : SignedSourceApproval)
    (storedAt : Datetime) : Result (List SourceApprovalRow) := do
  let payload := event.payload
  let previous := (approvalHistory rows payload.sourceId).getLast?
  raiseIf (payload.previousEventHash ≠ previous.map (·.eventHash))
    ⟨.valueError, "source approval event does not extend the current approval chain head"⟩
  let latest := latestForSnapshot rows payload.sourceId payload.policyVersion payload.policySnapshotHash
  raiseIf (payload.decision = .revoke ∧ latest.map (·.decision) ≠ some .approve)
    ⟨.valueError, "revocation requires a currently approved source snapshot"⟩
  raiseIf (∃ row ∈ rows, row.eventId = payload.eventId ∨ row.eventHash = event.eventHash)
    ⟨.valueError, "source approval event has already been recorded"⟩
  return rows ++ [nextApprovalRow rows event storedAt]

section
variable {Key : Type} (sha256 : Bytes → Digest) (ed25519 : Ed25519 Key)

/-- The loop body of `verify_chain`. -/
def checkApproval (policies : List SourcePolicySnapshot) (sourceId : String)
    (previous : Option Digest) (row : SourceApprovalRow) : Bool :=
  row.previousEventHash = previous ∧ row.event.payload.previousEventHash = previous ∧
    row.eventHash = row.event.eventHash ∧ row.event.payload.sourceId = sourceId ∧
    verifySourceApproval sha256 ed25519 row.event = true ∧
    (boundSnapshot policies row.event).toBool = true

/-- The loop of `verify_chain`: the sequence of the first row that fails. -/
def checkApprovals (policies : List SourcePolicySnapshot) (sourceId : String)
    (previous : Option Digest) : List SourceApprovalRow → Option Nat
  | [] => none
  | row :: rest =>
    if checkApproval sha256 ed25519 policies sourceId previous row then
      checkApprovals policies sourceId (some row.event.eventHash) rest
    else some row.sequence

/-- `SourceApprovalStore.verify_chain` -/
def verifyApprovalChain (policies : List SourcePolicySnapshot) (rows : List SourceApprovalRow)
    (sourceId : String) : SourceApprovalChainVerification :=
  let history := approvalHistory rows sourceId
  match checkApprovals sha256 ed25519 policies sourceId none history with
  | none => ⟨true, history.length, none⟩
  | some sequence => ⟨false, sequence, some sequence⟩

/-- The latest event of a snapshot approves it, under a trusted key and a valid signature. -/
def approves (trusted : Option (List Digest)) : Option SignedSourceApproval → Bool
  | none => false
  | some event => event.payload.decision = .approve ∧
      (∀ keys ∈ trusted, event.signerKeySha256 ∈ keys) ∧ verifySourceApproval sha256 ed25519 event = true

/-- `SourceApprovalStore.authorization` -/
def authorization (policies : List SourcePolicySnapshot) (rows : List SourceApprovalRow)
    (trusted : Option (List Digest)) (snapshot : SourcePolicySnapshot) :
    SourceApprovalAuthorization :=
  let latest := (latestForSnapshot rows snapshot.sourceId snapshot.version
    snapshot.snapshotHash).map (·.event)
  { authorized := snapshot.policy.accessStatus = .approved ∧
      approves sha256 ed25519 trusted latest = true ∧
      (verifyApprovalChain sha256 ed25519 policies rows snapshot.sourceId).valid = true
    decision := latest.map (·.payload.decision)
    eventId := latest.map (·.payload.eventId)
    eventHash := latest.map (·.eventHash)
    approverId := latest.map (·.payload.approverId)
    signerKeySha256 := latest.map (·.signerKeySha256) }

end

section
variable {Key : Type} {sha256 : Bytes → Digest} {ed25519 : Ed25519 Key}

/-- `stored_at` is outside the signature and the event hash. -/
theorem verifySourceApproval_stored (event : SignedSourceApproval) (storedAt : Option Datetime) :
    verifySourceApproval sha256 ed25519 { event with storedAt } = verifySourceApproval sha256 ed25519 event :=
  rfl

theorem boundSnapshot_grown (h : boundSnapshot policies event = .ok snapshot)
    (grown : policies <+: after) : boundSnapshot after event = .ok snapshot := by
  obtain ⟨found, stored, h⟩ := bind_ok h
  simp only [boundSnapshot, getPolicy_grown stored grown]
  exact h

/-- The checks of an event say that it is signed and bound to a stored snapshot. -/
theorem approvalChecks_ok (h : approvalChecks sha256 ed25519 policies trusted event = .ok ()) :
    verifySourceApproval sha256 ed25519 event = true ∧
      ∃ snapshot, boundSnapshot policies event = .ok snapshot := by
  simp only [approvalChecks, bind_eq_ok, raiseIf_ok, exists_const] at h
  obtain ⟨-, signed, -, snapshot, bound, -⟩ := h
  exact ⟨by simpa using signed, snapshot, bound⟩

theorem checkApproval_grown (grown : policies <+: after)
    (h : checkApproval sha256 ed25519 policies sourceId previous row = true) :
    checkApproval sha256 ed25519 after sourceId previous row = true := by
  simp only [checkApproval, decide_eq_true_eq] at h ⊢
  obtain ⟨link, chained, hash, source, signed, bound⟩ := h
  refine ⟨link, chained, hash, source, signed, ?_⟩
  cases found : boundSnapshot policies row.event with
  | error =>
    rw [found] at bound
    cases bound
  | ok snapshot =>
    rw [boundSnapshot_grown found grown]
    rfl

theorem checkApprovals_grown (grown : policies <+: after)
    (h : checkApprovals sha256 ed25519 policies sourceId previous rows = none) :
    checkApprovals sha256 ed25519 after sourceId previous rows = none := by
  induction rows generalizing previous with
  | nil => rfl
  | cons row rest ih =>
    simp only [checkApprovals] at h ⊢
    split at h
    · rename_i checked
      rw [if_pos (checkApproval_grown grown checked)]
      exact ih h
    · cases h

/-- A row that links to the end of a valid chain extends it. -/
theorem checkApprovals_snoc (h : checkApprovals sha256 ed25519 policies sourceId previous rows = none)
    (checked : checkApproval sha256 ed25519 policies sourceId
      (match rows.getLast? with | none => previous | some last => some last.eventHash) row = true) :
    checkApprovals sha256 ed25519 policies sourceId previous (rows ++ [row]) = none := by
  induction rows generalizing previous with
  | nil => simpa [checkApprovals] using checked
  | cons first rest ih =>
    simp only [List.cons_append, checkApprovals] at h ⊢
    split at h
    · rename_i valid
      rw [if_pos valid]
      refine ih h ?_
      have hash : first.eventHash = first.event.eventHash := by
        simp only [checkApproval, decide_eq_true_eq] at valid
        exact valid.2.2.1
      cases rest with
      | nil => simpa [hash] using checked
      | cons second others =>
        have last := List.getLast?_eq_some_getLast (List.cons_ne_nil second others)
        rw [List.getLast?_cons_cons, last] at checked
        rw [last]
        exact checked
    · cases h

theorem verifyApprovalChain_valid :
    (verifyApprovalChain sha256 ed25519 policies rows sourceId).valid = true ↔
      checkApprovals sha256 ed25519 policies sourceId none (approvalHistory rows sourceId) = none := by
  simp only [verifyApprovalChain]
  split
  · rename_i valid
    simp [valid]
  · rename_i sequence failed
    simp [failed]

theorem appendApproval_ok (h : appendApproval rows event storedAt = .ok after) :
    after = rows ++ [nextApprovalRow rows event storedAt] ∧
      event.payload.previousEventHash =
        (approvalHistory rows event.payload.sourceId).getLast?.map (·.eventHash) := by
  simp only [appendApproval, bind_eq_ok, raiseIf_ok, exists_const] at h
  obtain ⟨link, -, -, h⟩ := h
  cases h
  exact ⟨rfl, by simpa using link⟩

/-- A checked event keeps the chain of every source valid. -/
theorem verifyApprovalChain_append (signed : verifySourceApproval sha256 ed25519 event = true)
    (bound : boundSnapshot policies event = .ok snapshot)
    (h : appendApproval rows event storedAt = .ok after)
    (valid : (verifyApprovalChain sha256 ed25519 policies rows sourceId).valid = true) :
    (verifyApprovalChain sha256 ed25519 policies after sourceId).valid = true := by
  obtain ⟨rfl, link⟩ := appendApproval_ok h
  rw [verifyApprovalChain_valid] at valid ⊢
  by_cases same : event.payload.sourceId = sourceId
  · have history : approvalHistory (rows ++ [nextApprovalRow rows event storedAt]) sourceId =
        approvalHistory rows sourceId ++ [nextApprovalRow rows event storedAt] := by
      simp [approvalHistory, List.filter_append, nextApprovalRow, same]
    rw [history]
    refine checkApprovals_snoc valid ?_
    rw [same] at link
    have bound' : boundSnapshot policies { event with storedAt := some storedAt } = .ok snapshot := bound
    have previous : (match (approvalHistory rows sourceId).getLast? with
        | none => none
        | some last => some last.eventHash) = event.payload.previousEventHash := by
      rw [link]
      cases (approvalHistory rows sourceId).getLast? <;> rfl
    rw [previous]
    simp only [checkApproval, nextApprovalRow, decide_eq_true_eq, bound', verifySourceApproval_stored]
    exact ⟨trivial, trivial, trivial, same, signed, rfl⟩
  · have history : approvalHistory (rows ++ [nextApprovalRow rows event storedAt]) sourceId =
        approvalHistory rows sourceId := by
      simp [approvalHistory, List.filter_append, nextApprovalRow, same]
    rw [history]
    exact valid

theorem authorization_authorized :
    (authorization sha256 ed25519 policies rows trusted snapshot).authorized = true ↔
      snapshot.policy.accessStatus = .approved ∧
        approves sha256 ed25519 trusted ((latestForSnapshot rows snapshot.sourceId snapshot.version
          snapshot.snapshotHash).map (·.event)) = true ∧
        (verifyApprovalChain sha256 ed25519 policies rows snapshot.sourceId).valid = true := by
  simp [authorization]

/-- New policies leave an authorization as it is. -/
theorem authorization_grown (grown : policies <+: after)
    (h : (authorization sha256 ed25519 policies rows trusted snapshot).authorized = true) :
    (authorization sha256 ed25519 after rows trusted snapshot).authorized = true := by
  obtain ⟨status, approved, valid⟩ := authorization_authorized.mp h
  refine authorization_authorized.mpr ⟨status, approved, ?_⟩
  rw [verifyApprovalChain_valid] at valid ⊢
  exact checkApprovals_grown grown valid

/-- The event is about the snapshot with the version and the hash. -/
def SourceApprovalPayload.about (payload : SourceApprovalPayload) (sourceId : String) (version : Nat)
    (snapshotHash : Digest) : Bool :=
  payload.sourceId = sourceId ∧ payload.policyVersion = version ∧
    payload.policySnapshotHash = snapshotHash

/-- The event approves, under a key of the trust set. -/
def SignedSourceApproval.grants (event : SignedSourceApproval) (trusted : Option (List Digest)) : Bool :=
  event.payload.decision = .approve ∧ ∀ keys ∈ trusted, event.signerKeySha256 ∈ keys

/-- A checked event takes no authorization away unless it is about the snapshot and grants
nothing. -/
theorem authorization_append (signed : verifySourceApproval sha256 ed25519 event = true)
    (bound : boundSnapshot policies event = .ok found)
    (h : appendApproval rows event storedAt = .ok after)
    (keeps : event.payload.about snapshot.sourceId snapshot.version snapshot.snapshotHash = true →
      event.grants trusted = true)
    (authorized : (authorization sha256 ed25519 policies rows trusted snapshot).authorized = true) :
    (authorization sha256 ed25519 policies after trusted snapshot).authorized = true := by
  obtain ⟨status, approved, valid⟩ := authorization_authorized.mp authorized
  have chain := verifyApprovalChain_append signed bound h valid
  obtain ⟨rfl, -⟩ := appendApproval_ok h
  refine authorization_authorized.mpr ⟨status, ?_, chain⟩
  by_cases same : event.payload.about snapshot.sourceId snapshot.version snapshot.snapshotHash = true
  · have grants := keeps same
    simp only [SourceApprovalPayload.about, decide_eq_true_eq] at same
    have latest : latestForSnapshot (rows ++ [nextApprovalRow rows event storedAt]) snapshot.sourceId
        snapshot.version snapshot.snapshotHash = some (nextApprovalRow rows event storedAt) := by
      simp [latestForSnapshot, List.filter_append, nextApprovalRow, same]
    simp only [SignedSourceApproval.grants, decide_eq_true_eq] at grants
    rw [latest]
    exact decide_eq_true ⟨grants.1, grants.2, signed⟩
  · simp only [SourceApprovalPayload.about, decide_eq_true_eq] at same
    have latest : latestForSnapshot (rows ++ [nextApprovalRow rows event storedAt]) snapshot.sourceId
        snapshot.version snapshot.snapshotHash =
        latestForSnapshot rows snapshot.sourceId snapshot.version snapshot.snapshotHash := by
      simp [latestForSnapshot, List.filter_append, nextApprovalRow, same]
    rw [latest]
    exact approved

end

end BallotProof
