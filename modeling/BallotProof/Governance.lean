import BallotProof.Base64
import BallotProof.Datetime
import BallotProof.Json

/-! The release governance ledger: signing keys, the hash chain of key events, and the
signed checkpoint chain of each election. Tables are lists of rows in the order of their
primary key; every insert of the code takes the next number, so it goes to the end. -/
namespace BallotProof
open Python

/-- What the code takes from an Ed25519 implementation. -/
structure Ed25519 (Key : Type) where
  publicKey : Key → Bytes
  sign : Key → Bytes → Bytes
  verify : Bytes → Bytes → Bytes → Bool

/-- Raw public keys have 32 bytes, and a signature verifies under the key that made it. -/
structure Ed25519.Lawful (e : Ed25519 Key) : Prop where
  size : ∀ key, (e.publicKey key).length = 32
  verifies : ∀ key message, e.verify (e.publicKey key) (e.sign key message) message = true

/-- A signature scheme whose signature is the message. -/
def mirrorEd25519 : Ed25519 Unit := ⟨fun _ => List.replicate 32 7, fun _ message => message,
  fun _ signature message => signature = message⟩

structure ReleaseSigningKey where
  keyId : String
  actorId : String
  publicKeyB64 : String
  publicKeySha256 : Digest
  label : Option String
  enrolledAt : Instant
  enrolledByActorId : String
  revokedAt : Option Instant
  revokedByActorId : Option String
  deriving DecidableEq

inductive KeyEventType where
  | enroll | revoke
  deriving DecidableEq, Repr

def KeyEventType.text : KeyEventType → String
  | .enroll => "enroll"
  | .revoke => "revoke"

structure ReleaseKeyEvent where
  sequence : Nat
  eventType : KeyEventType
  keyId : String
  actorId : String
  publicKeyB64 : String
  publicKeySha256 : Digest
  label : Option String
  performedByActorId : String
  previousEventHash : Option Digest
  eventHash : Digest
  createdAt : Instant
  deriving DecidableEq

structure ReleaseCheckpointPayload where
  sequence : Nat
  electionId : String
  releaseId : String
  merkleRoot : Digest
  manifestSha256 : Digest
  releaseSignerKeyId : String
  releaseSignerActorId : String
  releaseSignerKeySha256 : Digest
  releaseKeyEnrollmentEventHash : Digest
  previousCheckpointHash : Option Digest
  issuedAt : Instant
  deriving DecidableEq

structure SignedReleaseCheckpoint where
  payload : ReleaseCheckpointPayload
  publicKeyB64 : String
  signatureB64 : String
  checkpointHash : Digest
  storedAt : Instant
  deriving DecidableEq

/-- `_key_event_body`, and the body the verifier rebuilds with its own previous hash. -/
def keyEventBody (sequence : Nat) (eventType : KeyEventType) (keyId actorId publicKeyB64 : String)
    (publicKeySha256 : Digest) (label : Option String) (performedBy : String)
    (previous : Option Digest) (createdAt : Instant) : Json := .obj [
  ("actor_id", .str actorId),
  ("created_at", .str (isoformat createdAt)),
  ("event_type", .str eventType.text),
  ("key_id", .str keyId),
  ("label", optionalText label),
  ("performed_by_actor_id", .str performedBy),
  ("previous_event_hash", optionalHash previous),
  ("public_key_b64", .str publicKeyB64),
  ("public_key_sha256", .str publicKeySha256.hex),
  ("sequence", .int sequence)]

def ReleaseKeyEvent.body (event : ReleaseKeyEvent) (previous : Option Digest) : Json :=
  keyEventBody event.sequence event.eventType event.keyId event.actorId event.publicKeyB64
    event.publicKeySha256 event.label event.performedByActorId previous event.createdAt

/-- `payload.model_dump(mode="json")` -/
def ReleaseCheckpointPayload.modelDump (payload : ReleaseCheckpointPayload) : Json := .obj [
  ("election_id", .str payload.electionId),
  ("issued_at", .str (jsonTimestamp payload.issuedAt)),
  ("manifest_sha256", .str payload.manifestSha256.hex),
  ("merkle_root", .str payload.merkleRoot.hex),
  ("previous_checkpoint_hash", optionalHash payload.previousCheckpointHash),
  ("release_id", .str payload.releaseId),
  ("release_key_enrollment_event_hash", .str payload.releaseKeyEnrollmentEventHash.hex),
  ("release_signer_actor_id", .str payload.releaseSignerActorId),
  ("release_signer_key_id", .str payload.releaseSignerKeyId),
  ("release_signer_key_sha256", .str payload.releaseSignerKeySha256.hex),
  ("schema_version", .str "1"),
  ("sequence", .int payload.sequence)]

section
variable (sha256 : Bytes → Digest)

/-- `hash_record` -/
def hashRecord (value : Json) : Digest := sha256 (canonicalJsonBytes value)

/-- `_checkpoint_hash` -/
def checkpointHash (payload : ReleaseCheckpointPayload) (publicKeyB64 signatureB64 : String) :
    Digest := hashRecord sha256 <| .obj [
  ("algorithm", .str "Ed25519"),
  ("payload", payload.modelDump),
  ("public_key_b64", .str publicKeyB64),
  ("signature_b64", .str signatureB64)]

/-- The key id that enrollment derives from the subject and the fingerprint. -/
def signingKeyId (actorId : String) (fingerprint : Digest) : String :=
  String.ofList <| (hashRecord sha256 <| .obj [
    ("actor_id", .str actorId), ("public_key_sha256", .str fingerprint.hex)]).hex.toList.take 16

/-- The loop body of `verify_release_key_transparency`, from previous hash to next. -/
def checkKeyEvent (previous : Option Digest) (event : ReleaseKeyEvent) : Result (Option Digest) := do
  raiseIf (event.previousEventHash ≠ previous ∨
      hashRecord sha256 (event.body previous) ≠ event.eventHash)
    ⟨.valueError, "release key transparency hash chain is invalid"⟩
  let raw ← b64decode event.publicKeyB64.toList
  raiseIf (raw.length ≠ 32 ∨ sha256 raw ≠ event.publicKeySha256)
    ⟨.valueError, "release key transparency fingerprint is invalid"⟩
  return some event.eventHash

structure ReleaseKeyTransparencyVerification where
  valid : Bool
  eventsChecked : Nat
  headEventHash : Option Digest
  error : Option String
  deriving DecidableEq

/-- `verify_release_key_transparency`; every error of the loop is a ValueError. -/
def verifyReleaseKeyTransparency (events : List ReleaseKeyEvent) :
    ReleaseKeyTransparencyVerification :=
  match events.foldlM (checkKeyEvent sha256) none with
  | .ok head => ⟨true, events.length, head, none⟩
  | .error error => ⟨false, 0, none, some error.describe⟩

end

/-- `release_key_enrollment_event` -/
def releaseKeyEnrollmentEvent (events : List ReleaseKeyEvent) (keyId : String) :
    Result ReleaseKeyEvent :=
  match events.find? fun event => event.keyId = keyId ∧ event.eventType = .enroll with
  | some event => .ok event
  | none => .error ⟨.keyError, "Unknown release signing key enrollment event: " ++ keyId⟩

section
variable {Key : Type} (sha256 : Bytes → Digest) (ed25519 : Ed25519 Key)

/-- The loop body of `verify_checkpoint_chain`. -/
def checkCheckpoint (events : List ReleaseKeyEvent) (electionId : String) (expectedSequence : Nat)
    (previous : Option Digest) (event : SignedReleaseCheckpoint) : Result Unit := do
  let payload := event.payload
  raiseIf (payload.electionId ≠ electionId ∨ payload.sequence ≠ expectedSequence)
    ⟨.valueError, "checkpoint sequence/election binding is invalid"⟩
  raiseIf (payload.previousCheckpointHash ≠ previous)
    ⟨.valueError, "checkpoint hash chain is invalid"⟩
  let enrollment ← releaseKeyEnrollmentEvent events payload.releaseSignerKeyId
  raiseIf (enrollment.eventHash ≠ payload.releaseKeyEnrollmentEventHash ∨
      enrollment.actorId ≠ payload.releaseSignerActorId ∨
      enrollment.publicKeySha256 ≠ payload.releaseSignerKeySha256)
    ⟨.valueError, "checkpoint release-key enrollment anchor is invalid"⟩
  raiseIf (∃ keyEvent ∈ events, keyEvent.keyId = payload.releaseSignerKeyId ∧
      keyEvent.eventType = .revoke ∧ keyEvent.createdAt ≤ payload.issuedAt)
    ⟨.valueError, "checkpoint was issued after release-key revocation"⟩
  let raw ← b64decode event.publicKeyB64.toList
  raiseIf (raw.length ≠ 32 ∨ sha256 raw ≠ payload.releaseSignerKeySha256)
    ⟨.valueError, "checkpoint signer fingerprint is invalid"⟩
  let signature ← b64decode event.signatureB64.toList
  raiseIf (ed25519.verify raw signature (canonicalJsonBytes payload.modelDump) = false)
    ⟨.invalidSignature, ""⟩
  raiseIf (checkpointHash sha256 payload event.publicKeyB64 event.signatureB64 ≠
      event.checkpointHash)
    ⟨.valueError, "checkpoint event hash is invalid"⟩

structure CheckpointChainVerification where
  electionId : Option String
  valid : Bool
  checkpointsChecked : Nat
  headCheckpointHash : Option Digest
  error : Option String
  deriving DecidableEq

/-- The loop of `verify_checkpoint_chain`: how many checkpoints passed, the head, and the
error that ended it. -/
def checkCheckpoints (events : List ReleaseKeyEvent) (electionId : String) (checked : Nat)
    (previous : Option Digest) :
    List SignedReleaseCheckpoint → Nat × Option Digest × Option Error
  | [] => (checked, previous, none)
  | event :: rest =>
    match checkCheckpoint sha256 ed25519 events electionId (checked + 1) previous event with
    | .error error => (checked, previous, some error)
    | .ok () => checkCheckpoints events electionId (checked + 1) (some event.checkpointHash) rest

/-- `except (InvalidSignature, TypeError, ValueError)` -/
def caughtByChainVerifier (kind : ErrorKind) : Bool :=
  kind.isValueError || kind = .invalidSignature || kind = .typeError

/-- `verify_checkpoint_chain`, given the rows it reads. -/
def verifyCheckpointChain (events : List ReleaseKeyEvent)
    (checkpoints : List SignedReleaseCheckpoint) (electionId : String) :
    Result CheckpointChainVerification :=
  if (verifyReleaseKeyTransparency sha256 events).valid = false then
    .ok ⟨electionId, false, 0, none, some "release key transparency ledger is invalid"⟩
  else
    match checkCheckpoints sha256 ed25519 events electionId 0 none
      (checkpoints.filter (·.payload.electionId = electionId)) with
    | (checked, head, none) => .ok ⟨electionId, true, checked, head, none⟩
    | (checked, head, some error) =>
      if caughtByChainVerifier error.kind then
        .ok ⟨electionId, false, checked, head, some error.describe⟩
      else .error error

end

section
variable {Key : Type} {sha256 : Bytes → Digest} {ed25519 : Ed25519 Key}

/-- What the checks of one key event establish. -/
structure KeyEventValid (sha256 : Bytes → Digest) (previous : Option Digest)
    (event : ReleaseKeyEvent) : Prop where
  linked : event.previousEventHash = previous
  hashed : hashRecord sha256 (event.body previous) = event.eventHash
  fingerprint : ∃ raw, b64decode event.publicKeyB64.toList = .ok raw ∧ raw.length = 32 ∧
    sha256 raw = event.publicKeySha256

theorem checkKeyEvent_ok : checkKeyEvent sha256 previous event = .ok head ↔
    KeyEventValid sha256 previous event ∧ head = some event.eventHash := by
  simp only [checkKeyEvent, bind_eq_ok, raiseIf_ok, not_or, not_not, pure, Except.pure,
    Except.ok.injEq, exists_const]
  constructor
  · rintro ⟨⟨linked, hashed⟩, raw, decoded, ⟨size, fingerprint⟩, rfl⟩
    exact ⟨⟨linked, hashed, raw, decoded, size, fingerprint⟩, rfl⟩
  · rintro ⟨⟨linked, hashed, raw, decoded, size, fingerprint⟩, rfl⟩
    exact ⟨⟨linked, hashed⟩, raw, decoded, ⟨size, fingerprint⟩, rfl⟩

/-- What the checks of one checkpoint establish. -/
structure CheckpointValid (sha256 : Bytes → Digest) (ed25519 : Ed25519 Key)
    (events : List ReleaseKeyEvent) (electionId : String) (sequence : Nat)
    (previous : Option Digest) (event : SignedReleaseCheckpoint) : Prop where
  election : event.payload.electionId = electionId
  numbered : event.payload.sequence = sequence
  linked : event.payload.previousCheckpointHash = previous
  anchored : ∃ enrollment,
    releaseKeyEnrollmentEvent events event.payload.releaseSignerKeyId = .ok enrollment ∧
    enrollment.eventHash = event.payload.releaseKeyEnrollmentEventHash ∧
    enrollment.actorId = event.payload.releaseSignerActorId ∧
    enrollment.publicKeySha256 = event.payload.releaseSignerKeySha256
  unrevoked : ∀ keyEvent ∈ events, keyEvent.keyId = event.payload.releaseSignerKeyId →
    keyEvent.eventType = .revoke → event.payload.issuedAt < keyEvent.createdAt
  signed : ∃ raw signature, b64decode event.publicKeyB64.toList = .ok raw ∧ raw.length = 32 ∧
    sha256 raw = event.payload.releaseSignerKeySha256 ∧
    b64decode event.signatureB64.toList = .ok signature ∧
    ed25519.verify raw signature (canonicalJsonBytes event.payload.modelDump) = true
  hashed : checkpointHash sha256 event.payload event.publicKeyB64 event.signatureB64 =
    event.checkpointHash

theorem checkCheckpoint_ok :
    checkCheckpoint sha256 ed25519 events electionId number previous event = .ok () ↔
      CheckpointValid sha256 ed25519 events electionId number previous event := by
  simp only [checkCheckpoint, bind_eq_ok, raiseIf_ok, not_or, not_not, not_exists, not_and, not_le,
    Bool.not_eq_false, exists_const]
  constructor
  · rintro ⟨⟨election, numbered⟩, linked, ⟨enrollment, found, anchor, unrevoked, raw, decoded, size,
      signature, signatureDecoded, verified, hashed⟩⟩
    exact ⟨election, numbered, linked, ⟨enrollment, found, anchor⟩, unrevoked,
      ⟨raw, signature, decoded, size.1, size.2, signatureDecoded, verified⟩, hashed⟩
  · rintro ⟨election, numbered, linked, ⟨enrollment, found, anchor⟩, unrevoked,
      ⟨raw, signature, decoded, size, fingerprint, signatureDecoded, verified⟩, hashed⟩
    exact ⟨⟨election, numbered⟩, linked, enrollment, found, anchor, unrevoked, raw, decoded,
      ⟨size, fingerprint⟩, signature, signatureDecoded, verified, hashed⟩

end

end BallotProof
