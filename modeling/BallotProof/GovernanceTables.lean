import BallotProof.EvidenceDocuments
import BallotProof.Governance
import BallotProof.HashChain

/-! The verifiers of the governance ledger on whatever its tables may hold: key events and
checkpoints are read back from their JSON, and nothing relates them to what the store wrote. -/
namespace BallotProof.GovernanceTables
open Python HashChain

structure ReleaseKeyEvent where
  sequence : PositiveInt
  eventType : KeyEventType
  keyId : String
  actorId : String
  publicKeyB64 : String
  publicKeySha256 : Digest
  label : Option String
  performedByActorId : String
  previousEventHash : Option String
  eventHash : Digest
  createdAt : Python.Timestamp
  deriving DecidableEq

/-- `schema_version` has one value, `"1"`. -/
structure ReleaseCheckpointPayload where
  sequence : PositiveInt
  electionId : String
  releaseId : String
  merkleRoot : Digest
  manifestSha256 : Digest
  releaseSignerKeyId : String
  releaseSignerActorId : String
  releaseSignerKeySha256 : Digest
  releaseKeyEnrollmentEventHash : Digest
  previousCheckpointHash : Option String
  issuedAt : Python.Timestamp
  deriving DecidableEq

/-- `algorithm` has one value, `"Ed25519"`. -/
structure SignedReleaseCheckpoint where
  payload : ReleaseCheckpointPayload
  publicKeyB64 : String
  signatureB64 : String
  checkpointHash : Digest
  storedAt : Python.Timestamp
  deriving DecidableEq

/-- The rows of both tables, read back in the order of their primary keys; a checkpoint
stands beside the `election_id` of its row. -/
structure GovernanceDb where
  keyEvents : List ReleaseKeyEvent
  checkpointRows : List (String × SignedReleaseCheckpoint)

/-- `checkpoints(election_id)` -/
def GovernanceDb.checkpoints (db : GovernanceDb) (electionId : String) : List SignedReleaseCheckpoint :=
  (db.checkpointRows.filter (·.1 = electionId)).map (·.2)

/-- The body that a verifier rebuilds with its own previous hash. -/
def ReleaseKeyEvent.body (event : ReleaseKeyEvent) (previous : Option String) : Json := .obj [
  ("actor_id", .str event.actorId),
  ("created_at", .str event.createdAt.isoformat),
  ("event_type", .str event.eventType.text),
  ("key_id", .str event.keyId),
  ("label", optionalText event.label),
  ("performed_by_actor_id", .str event.performedByActorId),
  ("previous_event_hash", optionalText previous),
  ("public_key_b64", .str event.publicKeyB64),
  ("public_key_sha256", .str event.publicKeySha256.hex),
  ("sequence", .int event.sequence.1)]

/-- `except (TypeError, ValueError)` -/
def caughtByKeyVerifier (kind : ErrorKind) : Bool := kind.isValueError || kind = .typeError

/-- `release_key_enrollment_event` -/
def releaseKeyEnrollmentEvent (events : List ReleaseKeyEvent) (keyId : String) : Result ReleaseKeyEvent :=
  match events.find? fun event => event.keyId = keyId ∧ event.eventType = .enroll with
  | some event => .ok event
  | none => .error ⟨.keyError, "Unknown release signing key enrollment event: " ++ keyId⟩

/-- The loop over the revocations of a key, where `created_at <= issued_at` may raise. -/
def checkRevocations (keyId : String) (issuedAt : Python.Timestamp) : List ReleaseKeyEvent → Result Unit
  | [] => .ok ()
  | event :: rest =>
    if event.keyId = keyId ∧ event.eventType = .revoke then do
      let later ← issuedAt.lt event.createdAt
      raiseIf (later = false) ⟨.valueError, "checkpoint was issued after release-key revocation"⟩
      checkRevocations keyId issuedAt rest
    else checkRevocations keyId issuedAt rest

section
variable (written : Python.Timestamp → String)

/-- `payload.model_dump(mode="json")`, where JSON mode writes a datetime by `written`. -/
def ReleaseCheckpointPayload.modelDump (payload : ReleaseCheckpointPayload) : Json := .obj [
  ("election_id", .str payload.electionId),
  ("issued_at", .str (written payload.issuedAt)),
  ("manifest_sha256", .str payload.manifestSha256.hex),
  ("merkle_root", .str payload.merkleRoot.hex),
  ("previous_checkpoint_hash", optionalText payload.previousCheckpointHash),
  ("release_id", .str payload.releaseId),
  ("release_key_enrollment_event_hash", .str payload.releaseKeyEnrollmentEventHash.hex),
  ("release_signer_actor_id", .str payload.releaseSignerActorId),
  ("release_signer_key_id", .str payload.releaseSignerKeyId),
  ("release_signer_key_sha256", .str payload.releaseSignerKeySha256.hex),
  ("schema_version", .str "1"),
  ("sequence", .int payload.sequence.1)]

variable {Key : Type} (sha256 : Bytes → Digest) (ed25519 : Ed25519 Key)

/-- `_checkpoint_hash` -/
def checkpointHash (event : SignedReleaseCheckpoint) : Digest := hashRecord sha256 <| .obj [
  ("algorithm", .str "Ed25519"),
  ("payload", event.payload.modelDump written),
  ("public_key_b64", .str event.publicKeyB64),
  ("signature_b64", .str event.signatureB64)]

/-! ## Against the database -/

/-- The loop of `verify_release_key_transparency`. -/
def checkKeyEvents (previous : Option Digest) : List ReleaseKeyEvent → Result (Option Digest)
  | [] => .ok previous
  | event :: rest => do
    let body := event.body (previous.map Digest.hex)
    raiseIf (event.previousEventHash ≠ previous.map Digest.hex ∨ hashRecord sha256 body ≠ event.eventHash)
      ⟨.valueError, "release key transparency hash chain is invalid"⟩
    let raw ← b64decode event.publicKeyB64.toList
    raiseIf (raw.length ≠ 32 ∨ sha256 raw ≠ event.publicKeySha256)
      ⟨.valueError, "release key transparency fingerprint is invalid"⟩
    checkKeyEvents (some event.eventHash) rest

/-- `verify_release_key_transparency` -/
def verifyReleaseKeyTransparency (events : List ReleaseKeyEvent) :
    Result ReleaseKeyTransparencyVerification :=
  match checkKeyEvents sha256 none events with
  | .ok head => .ok ⟨true, events.length, head, none⟩
  | .error error =>
    if caughtByKeyVerifier error.kind then .ok ⟨false, 0, none, some error.describe⟩ else .error error

/-- The signature of a checkpoint under the key that it shows. -/
def checkSignature (event : SignedReleaseCheckpoint) (raw : Bytes) : Result Unit := do
  let signature ← b64decode event.signatureB64.toList
  raiseIf (ed25519.verify raw signature (canonicalJsonBytes (event.payload.modelDump written)) = false)
    ⟨.invalidSignature, ""⟩

/-- The loop body of `verify_checkpoint_chain`. -/
def checkCheckpoint (events : List ReleaseKeyEvent) (electionId : String) (expectedSequence : Nat)
    (previous : Option Digest) (event : SignedReleaseCheckpoint) : Result Unit := do
  let payload := event.payload
  raiseIf (payload.electionId ≠ electionId ∨ payload.sequence.1 ≠ expectedSequence)
    ⟨.valueError, "checkpoint sequence/election binding is invalid"⟩
  raiseIf (payload.previousCheckpointHash ≠ previous.map Digest.hex)
    ⟨.valueError, "checkpoint hash chain is invalid"⟩
  let enrollment ← releaseKeyEnrollmentEvent events payload.releaseSignerKeyId
  raiseIf (enrollment.eventHash ≠ payload.releaseKeyEnrollmentEventHash ∨
      enrollment.actorId ≠ payload.releaseSignerActorId ∨
      enrollment.publicKeySha256 ≠ payload.releaseSignerKeySha256)
    ⟨.valueError, "checkpoint release-key enrollment anchor is invalid"⟩
  checkRevocations payload.releaseSignerKeyId payload.issuedAt events
  let raw ← b64decode event.publicKeyB64.toList
  raiseIf (raw.length ≠ 32 ∨ sha256 raw ≠ payload.releaseSignerKeySha256)
    ⟨.valueError, "checkpoint signer fingerprint is invalid"⟩
  checkSignature written ed25519 event raw
  raiseIf (checkpointHash written sha256 event ≠ event.checkpointHash)
    ⟨.valueError, "checkpoint event hash is invalid"⟩

/-- The loop of `verify_checkpoint_chain`: how many checkpoints passed, the head, and the error
that ended it. -/
def checkCheckpoints (events : List ReleaseKeyEvent) (electionId : String) (checked : Nat)
    (previous : Option Digest) : List SignedReleaseCheckpoint → Nat × Option Digest × Option Error
  | [] => (checked, previous, none)
  | event :: rest =>
    match checkCheckpoint written sha256 ed25519 events electionId (checked + 1) previous event with
    | .error error => (checked, previous, some error)
    | .ok () => checkCheckpoints events electionId (checked + 1) (some event.checkpointHash) rest

/-- `verify_checkpoint_chain` -/
def verifyCheckpointChain (db : GovernanceDb) (electionId : String) : Result CheckpointChainVerification := do
  let transparency ← verifyReleaseKeyTransparency sha256 db.keyEvents
  if transparency.valid then
    match checkCheckpoints written sha256 ed25519 db.keyEvents electionId 0 none
        (db.checkpoints electionId) with
    | (checked, head, none) => .ok ⟨electionId, true, checked, head, none⟩
    | (checked, head, some error) =>
      if caughtByChainVerifier error.kind then .ok ⟨electionId, false, checked, head, some error.describe⟩
      else .error error
  else .ok ⟨electionId, false, 0, none, some "release key transparency ledger is invalid"⟩

end

/-! ## What the verifiers check -/

/-- What a reader of the key events looks at in one of them. -/
def keyLog (sha256 : Bytes → Digest) : Log ReleaseKeyEvent String where
  version := (·.sequence.1)
  previous := (·.previousEventHash)
  hash := (·.eventHash.hex)
  expected event := (hashRecord sha256 (event.body event.previousEventHash)).hex

/-- The text is a raw public key with this fingerprint. -/
def Fingerprinted (sha256 : Bytes → Digest) (publicKeyB64 : String) (fingerprint : Digest) : Prop :=
  ∃ raw, b64decode publicKeyB64.toList = .ok raw ∧ raw.length = 32 ∧ sha256 raw = fingerprint

/-- Every link, hash and fingerprint of the key events is right. -/
structure KeysIntact (sha256 : Bytes → Digest) (events : List ReleaseKeyEvent) : Prop where
  linked : (keyLog sha256).Linked none events
  fingerprints : ∀ event ∈ events, Fingerprinted sha256 event.publicKeyB64 event.publicKeySha256

/-- What a reader of the checkpoints looks at in one of them. -/
def checkpointLog (written : Python.Timestamp → String) (sha256 : Bytes → Digest) :
    Log SignedReleaseCheckpoint String where
  version := (·.payload.sequence.1)
  previous := (·.payload.previousCheckpointHash)
  hash := (·.checkpointHash.hex)
  expected event := (checkpointHash written sha256 event).hex

section
variable {Key : Type} (written : Python.Timestamp → String) (sha256 : Bytes → Digest)
  (ed25519 : Ed25519 Key)

/-- Beside its number, link and hash: the election, the enrollment, the revocations and the signature. -/
structure CheckpointSound (events : List ReleaseKeyEvent) (electionId : String)
    (event : SignedReleaseCheckpoint) : Prop where
  election : event.payload.electionId = electionId
  anchored : ∃ enrollment,
    releaseKeyEnrollmentEvent events event.payload.releaseSignerKeyId = .ok enrollment ∧
    enrollment.eventHash = event.payload.releaseKeyEnrollmentEventHash ∧
    enrollment.actorId = event.payload.releaseSignerActorId ∧
    enrollment.publicKeySha256 = event.payload.releaseSignerKeySha256
  unrevoked : ∀ keyEvent ∈ events, keyEvent.keyId = event.payload.releaseSignerKeyId →
    keyEvent.eventType = .revoke → event.payload.issuedAt.Before keyEvent.createdAt
  signed : ∃ raw signature, b64decode event.publicKeyB64.toList = .ok raw ∧ raw.length = 32 ∧
    sha256 raw = event.payload.releaseSignerKeySha256 ∧
    b64decode event.signatureB64.toList = .ok signature ∧
    ed25519.verify raw signature (canonicalJsonBytes (event.payload.modelDump written)) = true

/-- The checkpoints are numbered from one, linked, and each of them is sound. -/
structure CheckpointsIntact (events : List ReleaseKeyEvent) (electionId : String)
    (checkpoints : List SignedReleaseCheckpoint) : Prop where
  numbered : (checkpointLog written sha256).Numbered checkpoints
  linked : (checkpointLog written sha256).Linked none checkpoints
  sound : ∀ event ∈ checkpoints, CheckpointSound written sha256 ed25519 events electionId event

end

section
variable {Key : Type} {written : Python.Timestamp → String} {sha256 : Bytes → Digest}
  {ed25519 : Ed25519 Key}

theorem checkpointsIntact_iff {checkpoints : List SignedReleaseCheckpoint} :
    CheckpointsIntact written sha256 ed25519 events electionId checkpoints ↔
      (checkpointLog written sha256).Checked (CheckpointSound written sha256 ed25519 events electionId)
        1 none checkpoints := by
  rw [Log.checked_iff]
  exact ⟨fun h => ⟨h.numbered, h.linked, h.sound⟩, fun h => ⟨h.1, h.2.1, h.2.2⟩⟩

theorem checkKeyEvents_ok : (∃ head, checkKeyEvents sha256 previous events = .ok head) ↔
    (keyLog sha256).Linked (previous.map Digest.hex) events ∧
      ∀ event ∈ events, Fingerprinted sha256 event.publicKeyB64 event.publicKeySha256 := by
  induction events generalizing previous with
  | nil => simp [checkKeyEvents, Log.Linked]
  | cons event rest ih =>
    simp only [checkKeyEvents, bind_eq_ok, raiseIf_ok, not_or, not_not, exists_const, Log.Linked,
      List.mem_cons, forall_eq_or_imp]
    have rest_iff := @ih (some event.eventHash)
    constructor
    · rintro ⟨head, ⟨link, hash⟩, raw, decoded, ⟨size, fingerprint⟩, others⟩
      obtain ⟨linked, fingerprints⟩ := rest_iff.mp ⟨head, others⟩
      refine ⟨⟨⟨link, ?_⟩, linked⟩, ⟨raw, decoded, size, fingerprint⟩, fingerprints⟩
      simp only [keyLog, link, hash]
    · rintro ⟨⟨⟨link, hash⟩, linked⟩, ⟨raw, decoded, size, fingerprint⟩, fingerprints⟩
      obtain ⟨head, others⟩ := rest_iff.mpr ⟨linked, fingerprints⟩
      have link : event.previousEventHash = previous.map Digest.hex := link
      refine ⟨head, ⟨link, ?_⟩, raw, decoded, ⟨size, fingerprint⟩, others⟩
      rw [← link]
      exact (Digest.hex_injective hash).symm

theorem checkKeyEvents_error (h : checkKeyEvents sha256 previous events = .error e) :
    caughtByKeyVerifier e.kind = true := by
  induction events generalizing previous with
  | nil => cases h
  | cons event rest ih =>
    simp only [checkKeyEvents] at h
    rcases bind_error h with first | ⟨_, -, h⟩
    · rw [raiseIf_error first]
      rfl
    rcases bind_error h with decoding | ⟨raw, -, h⟩
    · simp [caughtByKeyVerifier, b64decode_error decoding]
    rcases bind_error h with fingerprint | ⟨_, -, h⟩
    · rw [raiseIf_error fingerprint]
      rfl
    · exact ih h

/-- The key verifier always answers, and accepts exactly the intact events. -/
theorem verifyReleaseKeyTransparency_returns (events : List ReleaseKeyEvent) :
    ∃ verdict, verifyReleaseKeyTransparency sha256 events = .ok verdict ∧
      (verdict.valid = true ↔ KeysIntact sha256 events) := by
  have intact : KeysIntact sha256 events ↔ ∃ head, checkKeyEvents sha256 none events = .ok head := by
    rw [checkKeyEvents_ok]
    exact ⟨fun h => ⟨h.linked, h.fingerprints⟩, fun h => ⟨h.1, h.2⟩⟩
  rw [intact]
  unfold verifyReleaseKeyTransparency
  cases checked : checkKeyEvents sha256 none events with
  | ok head => exact ⟨_, rfl, by simp⟩
  | error e => exact ⟨_, if_pos (checkKeyEvents_error checked), by simp⟩

theorem lt_error {a b : Python.Timestamp} (h : a.lt b = .error e) : e.kind = .typeError := by
  unfold Timestamp.lt at h
  split at h
  · cases h
  · cases h
    rfl

theorem checkRevocations_ok : checkRevocations keyId issuedAt events = .ok u ↔
    ∀ event ∈ events, event.keyId = keyId → event.eventType = .revoke →
      issuedAt.Before event.createdAt := by
  induction events with
  | nil => simp [checkRevocations]
  | cons event rest ih =>
    simp only [checkRevocations, List.mem_cons, forall_eq_or_imp]
    by_cases matching : event.keyId = keyId ∧ event.eventType = .revoke
    · rw [if_pos matching]
      simp only [bind_eq_ok, raiseIf_ok, Bool.not_eq_false, exists_const, ih]
      constructor
      · rintro ⟨later, compared, rfl, others⟩
        exact ⟨fun _ _ => compared, others⟩
      · rintro ⟨first, others⟩
        exact ⟨true, first matching.1 matching.2, rfl, others⟩
    · rw [if_neg matching, ih]
      exact ⟨fun others => ⟨fun key revoke => absurd ⟨key, revoke⟩ matching, others⟩, fun h => h.2⟩

theorem checkRevocations_error (h : checkRevocations keyId issuedAt events = .error e) :
    caughtByChainVerifier e.kind = true := by
  induction events with
  | nil => cases h
  | cons event rest ih =>
    simp only [checkRevocations] at h
    split at h
    · rcases bind_error h with compared | ⟨later, -, h⟩
      · rw [lt_error compared]
        rfl
      rcases bind_error h with revoked | ⟨_, -, h⟩
      · rw [raiseIf_error revoked]
        rfl
      · exact ih h
    · exact ih h

theorem checkSignature_ok {event : SignedReleaseCheckpoint} :
    checkSignature written ed25519 event raw = .ok u ↔
      ∃ signature, b64decode event.signatureB64.toList = .ok signature ∧
        ed25519.verify raw signature (canonicalJsonBytes (event.payload.modelDump written)) = true := by
  simp only [checkSignature, bind_eq_ok, raiseIf_ok, Bool.not_eq_false]

theorem checkSignature_error {event : SignedReleaseCheckpoint}
    (h : checkSignature written ed25519 event raw = .error e) : caughtByChainVerifier e.kind = true := by
  rcases bind_error h with decoding | ⟨signature, -, h⟩
  · simp [caughtByChainVerifier, b64decode_error decoding]
  · rw [raiseIf_error h]
    rfl

/-- The links, the number and the hash of a checkpoint, and what makes it sound. -/
theorem checkCheckpoint_ok {event : SignedReleaseCheckpoint} :
    checkCheckpoint written sha256 ed25519 events electionId number previous event = .ok () ↔
      (checkpointLog written sha256).version event = number ∧
      (checkpointLog written sha256).previous event = previous.map Digest.hex ∧
      (checkpointLog written sha256).hash event = (checkpointLog written sha256).expected event ∧
      CheckpointSound written sha256 ed25519 events electionId event := by
  simp only [checkCheckpoint, bind_eq_ok, raiseIf_ok, not_or, not_not, exists_const, checkRevocations_ok,
    checkSignature_ok, checkpointLog, Digest.hex_inj]
  constructor
  · rintro ⟨⟨election, numbered⟩, linked, ⟨enrollment, found, anchor, unrevoked, raw, decoded, size,
      ⟨signature, signatureDecoded, verified⟩, hashed⟩⟩
    exact ⟨numbered, linked, hashed.symm, election, ⟨enrollment, found, anchor⟩, unrevoked,
      ⟨raw, signature, decoded, size.1, size.2, signatureDecoded, verified⟩⟩
  · rintro ⟨numbered, linked, hashed, election, ⟨enrollment, found, anchor⟩, unrevoked,
      ⟨raw, signature, decoded, size, fingerprint, signatureDecoded, verified⟩⟩
    exact ⟨⟨election, numbered⟩, linked, enrollment, found, anchor, unrevoked, raw, decoded,
      ⟨size, fingerprint⟩, ⟨signature, signatureDecoded, verified⟩, hashed.symm⟩

/-- A checkpoint that fits the chain so far and names a key that was never enrolled. -/
structure UnknownSigner (events : List ReleaseKeyEvent) (electionId : String) (number : Nat)
    (previous : Option String) (event : SignedReleaseCheckpoint) : Prop where
  election : event.payload.electionId = electionId
  numbered : event.payload.sequence.1 = number
  linked : event.payload.previousCheckpointHash = previous
  unknown : ∀ keyEvent ∈ events,
    ¬(keyEvent.keyId = event.payload.releaseSignerKeyId ∧ keyEvent.eventType = .enroll)

theorem UnknownSigner.raises {event : SignedReleaseCheckpoint}
    (unknown : UnknownSigner events electionId number (previous.map Digest.hex) event) :
    ∃ e, checkCheckpoint written sha256 ed25519 events electionId number previous event = .error e ∧
      caughtByChainVerifier e.kind = false := by
  have absent : releaseKeyEnrollmentEvent events event.payload.releaseSignerKeyId = .error
      ⟨.keyError, "Unknown release signing key enrollment event: " ++
        event.payload.releaseSignerKeyId⟩ := by
    have none : events.find? (fun keyEvent => keyEvent.keyId = event.payload.releaseSignerKeyId ∧
        keyEvent.eventType = .enroll) = none := by
      rw [List.find?_eq_none]
      intro keyEvent member
      simpa using unknown.unknown keyEvent member
    rw [releaseKeyEnrollmentEvent, none]
  have bound : ¬(event.payload.electionId ≠ electionId ∨ event.payload.sequence.1 ≠ number) := by
    simp [unknown.election, unknown.numbered]
  refine ⟨⟨.keyError, "Unknown release signing key enrollment event: " ++
    event.payload.releaseSignerKeyId⟩, ?_, rfl⟩
  simp only [checkCheckpoint, raiseIf, if_neg bound, ok_bind, unknown.linked, ne_eq, not_true,
    if_false, absent]
  rfl

/-- The other errors of a checkpoint are caught. -/
theorem checkCheckpoint_error {event : SignedReleaseCheckpoint}
    (h : checkCheckpoint written sha256 ed25519 events electionId number previous event = .error e) :
    caughtByChainVerifier e.kind = true ∨
      UnknownSigner events electionId number (previous.map Digest.hex) event := by
  rcases bind_error h with bound | ⟨_, bound, h⟩
  · rw [raiseIf_error bound]
    exact .inl rfl
  rcases bind_error h with linked | ⟨_, linked, h⟩
  · rw [raiseIf_error linked]
    exact .inl rfl
  rcases bind_error h with absent | ⟨enrollment, -, h⟩
  · rw [raiseIf_ok, not_or, not_not, not_not] at bound
    rw [raiseIf_ok, not_not] at linked
    refine .inr ⟨bound.1, bound.2, linked, ?_⟩
    unfold releaseKeyEnrollmentEvent at absent
    split at absent
    · cases absent
    next none => simpa using none
  rcases bind_error h with anchor | ⟨_, -, h⟩
  · rw [raiseIf_error anchor]
    exact .inl rfl
  rcases bind_error h with revoked | ⟨_, -, h⟩
  · exact .inl (checkRevocations_error revoked)
  rcases bind_error h with decoding | ⟨raw, -, h⟩
  · exact .inl (by simp [caughtByChainVerifier, b64decode_error decoding])
  rcases bind_error h with fingerprint | ⟨_, -, h⟩
  · rw [raiseIf_error fingerprint]
    exact .inl rfl
  rcases bind_error h with signature | ⟨_, -, h⟩
  · exact .inl (checkSignature_error signature)
  · rw [raiseIf_error h]
    exact .inl rfl

/-- The loop ends without an error exactly on the checkpoints that pass. -/
theorem checkCheckpoints_none {checkpoints : List SignedReleaseCheckpoint} :
    (checkCheckpoints written sha256 ed25519 events electionId checked previous checkpoints).2.2 = none ↔
      (checkpointLog written sha256).Checked (CheckpointSound written sha256 ed25519 events electionId)
        (checked + 1) (previous.map Digest.hex) checkpoints := by
  induction checkpoints generalizing checked previous with
  | nil => simp [checkCheckpoints, Log.Checked]
  | cons event rest ih =>
    rw [checkCheckpoints, Log.Checked, ← checkCheckpoint_ok]
    cases passes : checkCheckpoint written sha256 ed25519 events electionId (checked + 1) previous event with
    | error e => simp
    | ok u =>
      simp only [true_and]
      exact ih

/-- After checkpoints that pass comes one that names a key that was never enrolled. -/
def ReachesUnknownSigner (written : Python.Timestamp → String) (sha256 : Bytes → Digest)
    (ed25519 : Ed25519 Key) (events : List ReleaseKeyEvent) (electionId : String)
    (checkpoints : List SignedReleaseCheckpoint) : Prop :=
  ∃ front event rest, checkpoints = front ++ event :: rest ∧
    CheckpointsIntact written sha256 ed25519 events electionId front ∧
    UnknownSigner events electionId (front.length + 1) ((checkpointLog written sha256).head none front) event

/-- An error of the loop that is not caught comes from a signer without an enrollment. -/
theorem checkCheckpoints_uncaught {checkpoints : List SignedReleaseCheckpoint} :
    (∃ e, (checkCheckpoints written sha256 ed25519 events electionId checked previous checkpoints).2.2 =
        some e ∧ caughtByChainVerifier e.kind = false) ↔
      ∃ front event rest, checkpoints = front ++ event :: rest ∧
        (checkpointLog written sha256).Checked (CheckpointSound written sha256 ed25519 events electionId)
          (checked + 1) (previous.map Digest.hex) front ∧
        UnknownSigner events electionId (checked + front.length + 1)
          ((checkpointLog written sha256).head (previous.map Digest.hex) front) event := by
  induction checkpoints generalizing checked previous with
  | nil => simp [checkCheckpoints]
  | cons first rest ih =>
    rw [checkCheckpoints]
    have raises (unknown : UnknownSigner events electionId (checked + 1) (previous.map Digest.hex) first) :
        ∃ e, checkCheckpoint written sha256 ed25519 events electionId (checked + 1) previous first =
          .error e ∧ caughtByChainVerifier e.kind = false := unknown.raises
    cases passes : checkCheckpoint written sha256 ed25519 events electionId (checked + 1) previous first with
    | ok u =>
      refine ih.trans ?_
      constructor
      · rintro ⟨front, event, back, rfl, checks, unknown⟩
        refine ⟨first :: front, event, back, rfl, ⟨checkCheckpoint_ok.mp passes, checks⟩, ?_⟩
        rw [List.length_cons, Nat.add_comm front.length 1, ← Nat.add_assoc]
        exact unknown
      · rintro ⟨front, event, back, split, checks, unknown⟩
        cases front with
        | nil =>
          cases split
          obtain ⟨e, raised, -⟩ := raises unknown
          rw [passes] at raised
          cases raised
        | cons other front =>
          cases split
          rw [List.length_cons, Nat.add_comm front.length 1, ← Nat.add_assoc] at unknown
          exact ⟨front, event, back, rfl, checks.2, unknown⟩
    | error e =>
      constructor
      · rintro ⟨error, same, escapes⟩
        cases same
        rcases checkCheckpoint_error passes with caught | unknown
        · rw [caught] at escapes
          cases escapes
        · exact ⟨[], first, rest, rfl, trivial, unknown⟩
      · rintro ⟨front, event, back, split, checks, unknown⟩
        cases front with
        | nil =>
          cases split
          obtain ⟨error, raised, escapes⟩ := raises unknown
          rw [passes] at raised
          cases raised
          exact ⟨e, rfl, escapes⟩
        | cons other front =>
          cases split
          rw [checkCheckpoint_ok.mpr checks.1] at passes
          cases passes

theorem verifyCheckpointChain_broken {db : GovernanceDb} (broken : ¬KeysIntact sha256 db.keyEvents) :
    ∃ verdict, verifyCheckpointChain written sha256 ed25519 db electionId = .ok verdict ∧
      verdict.valid = false := by
  obtain ⟨transparency, answered, valid⟩ := @verifyReleaseKeyTransparency_returns sha256 db.keyEvents
  have rejected : ¬transparency.valid = true := mt valid.mp broken
  rw [verifyCheckpointChain, answered, ok_bind, if_neg rejected]
  exact ⟨_, rfl, rfl⟩

theorem verifyCheckpointChain_intact {db : GovernanceDb} (intact : KeysIntact sha256 db.keyEvents) :
    verifyCheckpointChain written sha256 ed25519 db electionId =
      match checkCheckpoints written sha256 ed25519 db.keyEvents electionId 0 none
        (db.checkpoints electionId) with
      | (checked, head, none) => .ok ⟨electionId, true, checked, head, none⟩
      | (checked, head, some error) =>
        if caughtByChainVerifier error.kind then .ok ⟨electionId, false, checked, head, some error.describe⟩
        else .error error := by
  obtain ⟨transparency, answered, valid⟩ := @verifyReleaseKeyTransparency_returns sha256 db.keyEvents
  rw [verifyCheckpointChain, answered, ok_bind, if_pos (valid.mpr intact)]

/-- The checkpoint verifier accepts exactly intact tables. -/
theorem verifyCheckpointChain_valid {db : GovernanceDb} :
    (∃ verdict, verifyCheckpointChain written sha256 ed25519 db electionId = .ok verdict ∧
        verdict.valid = true) ↔
      KeysIntact sha256 db.keyEvents ∧
        CheckpointsIntact written sha256 ed25519 db.keyEvents electionId (db.checkpoints electionId) := by
  by_cases intact : KeysIntact sha256 db.keyEvents
  · rw [verifyCheckpointChain_intact intact, checkpointsIntact_iff]
    have loop := @checkCheckpoints_none Key written sha256 ed25519 db.keyEvents electionId 0 none
      (db.checkpoints electionId)
    refine Iff.trans ?_ (loop.trans (and_iff_right intact).symm)
    split
    next checked head ended => simp [ended]
    next checked head error ended =>
      rw [ended]
      split <;> simp
  · refine iff_of_false ?_ fun h => intact h.1
    rintro ⟨verdict, answered, valid⟩
    have broken : ∃ verdict, verifyCheckpointChain written sha256 ed25519 db electionId = .ok verdict ∧
        verdict.valid = false := verifyCheckpointChain_broken intact
    obtain ⟨other, again, rejected⟩ := broken
    rw [answered] at again
    cases again
    rw [valid] at rejected
    cases rejected

/-- The checkpoint verifier returns a verdict unless the key events are intact and it reaches a
checkpoint whose signer was never enrolled. -/
theorem verifyCheckpointChain_returns_iff (written : Python.Timestamp → String) (sha256 : Bytes → Digest)
    (ed25519 : Ed25519 Key) (db : GovernanceDb) (electionId : String) :
    (∃ verdict, verifyCheckpointChain written sha256 ed25519 db electionId = .ok verdict) ↔
      ¬(KeysIntact sha256 db.keyEvents ∧ ReachesUnknownSigner written sha256 ed25519 db.keyEvents electionId
        (db.checkpoints electionId)) := by
  by_cases intact : KeysIntact sha256 db.keyEvents
  · have escapes : (∃ e, (checkCheckpoints written sha256 ed25519 db.keyEvents electionId 0 none
          (db.checkpoints electionId)).2.2 = some e ∧ caughtByChainVerifier e.kind = false) ↔
        ReachesUnknownSigner written sha256 ed25519 db.keyEvents electionId (db.checkpoints electionId) := by
      rw [checkCheckpoints_uncaught, ReachesUnknownSigner]
      simp only [checkpointsIntact_iff, Nat.zero_add]
      rfl
    rw [verifyCheckpointChain_intact intact, ← escapes, and_iff_right intact]
    split
    next checked head ended => simp [ended]
    next checked head error ended =>
      rw [ended]
      by_cases caught : caughtByChainVerifier error.kind = true
      · simp [caught]
      · simp [caught]
  · have broken : ∃ verdict, verifyCheckpointChain written sha256 ed25519 db electionId = .ok verdict ∧
        verdict.valid = false := verifyCheckpointChain_broken intact
    obtain ⟨verdict, answered, -⟩ := broken
    exact iff_of_true ⟨verdict, answered⟩ fun h => intact h.1

end

def sampleTime : Python.Timestamp := .aware (Datetime.utc 0 Datetime.epoch_range)

/-- The first checkpoint of election `e`, under a key that was never enrolled. -/
def strayCheckpoint : SignedReleaseCheckpoint where
  payload := {
    sequence := ⟨1, one_positive⟩
    electionId := "e"
    releaseId := "r"
    merkleRoot := checksum [1]
    manifestSha256 := checksum [2]
    releaseSignerKeyId := "k"
    releaseSignerActorId := "a"
    releaseSignerKeySha256 := checksum [3]
    releaseKeyEnrollmentEventHash := checksum [4]
    previousCheckpointHash := none
    issuedAt := sampleTime }
  publicKeyB64 := ""
  signatureB64 := ""
  checkpointHash := checksum [5]
  storedAt := sampleTime

/-- With all key events removed the verifier raises a KeyError and gives no verdict. -/
theorem strayCheckpoint_raises :
    verifyCheckpointChain Timestamp.isoformat checksum mirrorEd25519 ⟨[], [("e", strayCheckpoint)]⟩ "e" =
        .error ⟨.keyError, "Unknown release signing key enrollment event: k"⟩ ∧
      ¬∃ verdict, verifyCheckpointChain Timestamp.isoformat checksum mirrorEd25519
        ⟨[], [("e", strayCheckpoint)]⟩ "e" = .ok verdict := by
  have raised : verifyCheckpointChain Timestamp.isoformat checksum mirrorEd25519
      ⟨[], [("e", strayCheckpoint)]⟩ "e" =
      .error ⟨.keyError, "Unknown release signing key enrollment event: k"⟩ := rfl
  refine ⟨raised, ?_⟩
  rw [raised]
  rintro ⟨verdict, answered⟩
  cases answered

end BallotProof.GovernanceTables
