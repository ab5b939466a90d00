import BallotProof.Governance
import BallotProof.Transition

/-! Concurrent enrollments, revocations and checkpoint appends. Clock samples, reads
outside a transaction and locked transactions are steps of their own; a transaction holds
the write lock from BEGIN IMMEDIATE to its commit. -/
namespace BallotProof
open Python

/-- What `append_checkpoint` takes from a release directory that verified. -/
structure ReleaseView where
  electionId : String
  releaseId : String
  merkleRoot : Digest
  manifestSha256 : Digest
  signerKeySha256 : Digest
  deriving DecidableEq

/-- A call in flight, with what it has sampled and read so far. -/
inductive GovernanceCall (Key : Type) where
  | enroll (key : ReleaseSigningKey) (performedBy : String)
  | revoke (keyId performedBy : String) (now : Instant)
  | append (release : ReleaseView) (signer : Key) (governedKey : ReleaseSigningKey)
      (enrollment : Option ReleaseKeyEvent) (issuedAt : Option Instant)

structure GovernanceState (Key : Type) where
  keys : List ReleaseSigningKey
  events : List ReleaseKeyEvent
  checkpoints : List SignedReleaseCheckpoint
  clock : Instant
  writer : Option Nat
  calls : Nat → Option (GovernanceCall Key)

inductive GovernanceAction (Key : Type) where
  | tick (elapsed : Nat)
  | enroll (call : Nat) (actorId publicKeyB64 performedBy : String) (label : Option String)
  | revoke (call : Nat) (keyId performedBy : String)
  | append (call : Nat) (release : ReleaseView) (signer : Key)
  | readEnrollment (call : Nat)
  | begin (call : Nat)
  | sampleIssuedAt (call : Nat)
  | commit (call : Nat)
  | abort (call : Nat)

namespace GovernanceState
variable {Key : Type}

def initial : GovernanceState Key := ⟨[], [], [], 0, none, fun _ => none⟩

def setCall (s : GovernanceState Key) (call : Nat) (next : Option (GovernanceCall Key)) :
    GovernanceState Key := { s with calls := Function.update s.calls call next }

/-- The call ends, and its transaction with it. -/
def finish (s : GovernanceState Key) (call : Nat) : GovernanceState Key :=
  { s.setCall call none with writer := if s.writer = some call then none else s.writer }

/-- `active_release_signing_key` -/
def activeKey (s : GovernanceState Key) (fingerprint : Digest) : Option ReleaseSigningKey :=
  s.keys.find? fun key => key.publicKeySha256 = fingerprint ∧ key.revokedAt = none

def electionCheckpoints (s : GovernanceState Key) (electionId : String) :
    List SignedReleaseCheckpoint := s.checkpoints.filter (·.payload.electionId = electionId)

end GovernanceState

section
variable {Key : Type} (sha256 : Bytes → Digest) (ed25519 : Ed25519 Key)

/-- The key that `enroll_release_signing_key` builds before its transaction. -/
def enrolledKey (actorId publicKeyB64 performedBy : String) (label : Option String)
    (now : Instant) : Result ReleaseSigningKey := do
  let raw ← b64decode publicKeyB64.toList
  raiseIf (raw.length ≠ 32) ⟨.valueError, "Ed25519 public key must be 32 raw bytes"⟩
  raiseIf (∃ text ∈ label, 256 < text.length)
    ⟨.validationError, "String should have at most 256 characters"⟩
  return {
    keyId := signingKeyId sha256 actorId (sha256 raw)
    actorId
    publicKeyB64
    publicKeySha256 := sha256 raw
    label
    enrolledAt := now
    enrolledByActorId := performedBy
    revokedAt := none
    revokedByActorId := none }

/-- The event that `_append_key_event` adds. -/
def nextKeyEvent (events : List ReleaseKeyEvent) (eventType : KeyEventType)
    (key : ReleaseSigningKey) (performedBy : String) (createdAt : Instant) : ReleaseKeyEvent :=
  let number := match events.getLast? with | none => 1 | some last => last.sequence + 1
  let previous := events.getLast?.map (·.eventHash)
  { sequence := number
    eventType
    keyId := key.keyId
    actorId := key.actorId
    publicKeyB64 := key.publicKeyB64
    publicKeySha256 := key.publicKeySha256
    label := key.label
    performedByActorId := performedBy
    previousEventHash := previous
    eventHash := hashRecord sha256 (keyEventBody number eventType key.keyId key.actorId
      key.publicKeyB64 key.publicKeySha256 key.label performedBy previous createdAt)
    createdAt }

/-- The transaction of an enrollment, unless a uniqueness constraint rejects it. -/
def enrollTransaction (s : GovernanceState Key) (key : ReleaseSigningKey) (performedBy : String) :
    Option (GovernanceState Key) :=
  let event := nextKeyEvent sha256 s.events .enroll key performedBy key.enrolledAt
  if (∃ row ∈ s.keys, row.keyId = key.keyId ∨ row.publicKeySha256 = key.publicKeySha256) ∨
      event.eventHash ∈ s.events.map (·.eventHash) then none
  else some { s with keys := s.keys ++ [key], events := s.events ++ [event] }

/-- `model_copy(update={"revoked_at": now, "revoked_by_actor_id": performed_by})` -/
def ReleaseSigningKey.revoked (key : ReleaseSigningKey) (now : Instant) (performedBy : String) :
    ReleaseSigningKey := { key with revokedAt := some now, revokedByActorId := some performedBy }

/-- The transaction of a revocation. -/
def revokeTransaction (s : GovernanceState Key) (keyId performedBy : String) (now : Instant) :
    Option (GovernanceState Key) :=
  match s.keys.find? (·.keyId = keyId) with
  | none => none
  | some key =>
    let event := nextKeyEvent sha256 s.events .revoke (key.revoked now performedBy) performedBy now
    if key.revokedAt ≠ none ∨ event.eventHash ∈ s.events.map (·.eventHash) then none
    else some { s with
      keys := s.keys.map fun row => if row.keyId = keyId then row.revoked now performedBy else row
      events := s.events ++ [event] }

/-- The checkpoint that `append_checkpoint` builds inside its transaction. -/
def nextCheckpoint (s : GovernanceState Key) (release : ReleaseView) (signer : Key)
    (governedKey : ReleaseSigningKey) (enrollment : ReleaseKeyEvent) (issuedAt : Instant) :
    SignedReleaseCheckpoint :=
  let previous := (s.electionCheckpoints release.electionId).getLast?
  let payload : ReleaseCheckpointPayload := {
    sequence := match previous with | none => 1 | some last => last.payload.sequence + 1
    electionId := release.electionId
    releaseId := release.releaseId
    merkleRoot := release.merkleRoot
    manifestSha256 := release.manifestSha256
    releaseSignerKeyId := governedKey.keyId
    releaseSignerActorId := governedKey.actorId
    releaseSignerKeySha256 := sha256 (ed25519.publicKey signer)
    releaseKeyEnrollmentEventHash := enrollment.eventHash
    previousCheckpointHash := previous.map (·.checkpointHash)
    issuedAt }
  let publicKeyB64 := String.ofList (b64encode (ed25519.publicKey signer))
  let signatureB64 := String.ofList
    (b64encode (ed25519.sign signer (canonicalJsonBytes payload.modelDump)))
  { payload
    publicKeyB64
    signatureB64
    checkpointHash := checkpointHash sha256 payload publicKeyB64 signatureB64
    storedAt := s.clock }

/-- The transaction of an append; a manifest that has a checkpoint keeps it. -/
def appendTransaction (s : GovernanceState Key) (release : ReleaseView) (signer : Key)
    (governedKey : ReleaseSigningKey) (enrollment : ReleaseKeyEvent) (issuedAt : Instant) :
    Option (GovernanceState Key) :=
  let checkpoint := nextCheckpoint sha256 ed25519 s release signer governedKey enrollment issuedAt
  if release.manifestSha256 ∈ s.checkpoints.map (·.payload.manifestSha256) ∨
      checkpoint.checkpointHash ∈ s.checkpoints.map (·.checkpointHash) then none
  else some { s with checkpoints := s.checkpoints ++ [checkpoint] }

def governanceStep (s : GovernanceState Key) : GovernanceAction Key → Option (GovernanceState Key)
  | .tick elapsed => some { s with clock := s.clock + elapsed }
  | .enroll call actorId publicKeyB64 performedBy label =>
    match s.calls call, enrolledKey sha256 actorId publicKeyB64 performedBy label s.clock with
    | none, .ok key => some (s.setCall call (some (.enroll key performedBy)))
    | _, _ => none
  | .revoke call keyId performedBy =>
    match s.calls call with
    | none => some (s.setCall call (some (.revoke keyId performedBy s.clock)))
    | some _ => none
  | .append call release signer =>
    let fingerprint := sha256 (ed25519.publicKey signer)
    match s.calls call, s.activeKey fingerprint with
    | none, some governedKey =>
      if fingerprint = release.signerKeySha256 then
        some (s.setCall call (some (.append release signer governedKey none none)))
      else none
    | _, _ => none
  | .readEnrollment call =>
    match s.calls call with
    | some (.append release signer governedKey none none) =>
      match releaseKeyEnrollmentEvent s.events governedKey.keyId with
      | .ok event => some (s.setCall call (some (.append release signer governedKey event none)))
      | .error _ => some (s.finish call)
    | _ => none
  | .begin call =>
    match s.writer, s.calls call with
    | none, some (.append _ _ _ none _) => none
    | none, some _ => some { s with writer := some call }
    | _, _ => none
  | .sampleIssuedAt call =>
    match s.calls call with
    | some (.append release signer governedKey (some event) none) =>
      if s.writer = some call then
        some (s.setCall call (some (.append release signer governedKey event (some s.clock))))
      else none
    | _ => none
  | .commit call =>
    if s.writer = some call then
      match s.calls call with
      | some (.enroll key performedBy) =>
        some (((enrollTransaction sha256 s key performedBy).getD s).finish call)
      | some (.revoke keyId performedBy now) =>
        some (((revokeTransaction sha256 s keyId performedBy now).getD s).finish call)
      | some (.append release signer governedKey (some event) (some issuedAt)) =>
        some (((appendTransaction sha256 ed25519 s release signer governedKey event issuedAt).getD
          s).finish call)
      | _ => none
    else none
  | .abort call => some (s.finish call)

/-- Every election's chain verifies, and no checkpoint is as late as a revocation of its key. -/
structure Verifiable (s : GovernanceState Key) : Prop where
  chains : ∀ electionId, ∃ report,
    verifyCheckpointChain sha256 ed25519 s.events s.checkpoints electionId = .ok report ∧
    report.valid = true
  unrevoked : ∀ checkpoint ∈ s.checkpoints, ∀ event ∈ s.events,
    event.keyId = checkpoint.payload.releaseSignerKeyId → event.eventType = .revoke →
    checkpoint.payload.issuedAt < event.createdAt

end

/-- A checkpoint is committed while its key is not revoked, and a key is revoked with a
clock sample later than every checkpoint it has signed. -/
def RevocationOrdered (s : GovernanceState Key) : GovernanceAction Key → Prop
  | .commit call =>
    match s.calls call with
    | some (.revoke keyId _ now) => (∃ key ∈ s.keys, key.keyId = keyId ∧ key.revokedAt = none) →
        ∀ checkpoint ∈ s.checkpoints, checkpoint.payload.releaseSignerKeyId = keyId →
          checkpoint.payload.issuedAt < now
    | some (.append release _ governedKey _ _) =>
        release.manifestSha256 ∉ s.checkpoints.map (·.payload.manifestSha256) →
          ∀ key ∈ s.keys, key.keyId = governedKey.keyId → key.revokedAt = none
    | _ => True
  | _ => True

instance (s : GovernanceState Key) (a : GovernanceAction Key) : Decidable (RevocationOrdered s a) := by
  unfold RevocationOrdered
  split
  · split <;> infer_instance
  · infer_instance

end BallotProof
