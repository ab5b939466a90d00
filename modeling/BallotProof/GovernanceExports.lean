import BallotProof.GovernanceTables

/-! The self-contained verifiers of exported governance snapshots, and when they agree with the
verifiers that read the database. -/
namespace BallotProof.GovernanceTables
open Python HashChain

structure ReleaseKeyTransparencySnapshot where
  eventsChecked : Nat
  headEventHash : Digest
  events : List ReleaseKeyEvent

structure ReleaseCheckpointChainSnapshot where
  electionId : String
  checkpointsChecked : Nat
  headCheckpointHash : Digest
  checkpoints : List SignedReleaseCheckpoint

/-- A loop over `enumerate(rows, start=expected)` that carries the hash of the row before: none
when a row makes it return False, else the hash it ends with. -/
def walk {ρ : Type} (fits : Nat → Option Digest → ρ → Result Bool) (hash : ρ → Digest) (expected : Nat)
    (previous : Option Digest) : List ρ → Result (Option (Option Digest))
  | [] => .ok (some previous)
  | row :: rest => do
    let passes ← fits expected previous row
    if passes then walk fits hash (expected + 1) (some (hash row)) rest else return none

/-- What the verifier returns after its loop. -/
def verdict (caught : ErrorKind → Bool) (head : Digest) : Result (Option (Option Digest)) → Result Bool
  | .ok (some previous) => .ok (previous = some head)
  | .ok none => .ok false
  | .error error => if caught error.kind then .ok false else .error error

section
variable {Key : Type} (written : Python.Timestamp → String) (sha256 : Bytes → Digest)
  (ed25519 : Ed25519 Key)

/-- The loop body of `verify_release_key_snapshot`. -/
def keyEventFits (expected : Nat) (previous : Option Digest) (event : ReleaseKeyEvent) : Result Bool :=
  if event.sequence.1 ≠ expected ∨ event.previousEventHash ≠ previous.map Digest.hex then .ok false
  else do
    let raw ← b64decode event.publicKeyB64.toList
    if raw.length ≠ 32 ∨ sha256 raw ≠ event.publicKeySha256 then return false
    else return hashRecord sha256 (event.body (previous.map Digest.hex)) = event.eventHash

/-- `verify_release_key_snapshot` -/
def verifyReleaseKeySnapshot (s : ReleaseKeyTransparencySnapshot) : Result Bool :=
  if s.eventsChecked ≠ s.events.length ∨ s.events = [] then .ok false
  else verdict caughtByKeyVerifier s.headEventHash
    (walk (keyEventFits sha256) (·.eventHash) 1 none s.events)

/-- `_enrollment_event` -/
def enrollmentEvent (events : List ReleaseKeyEvent) (payload : ReleaseCheckpointPayload) :
    Option ReleaseKeyEvent :=
  events.find? fun event => event.eventType = .enroll ∧ event.keyId = payload.releaseSignerKeyId

/-- Whether the loop over the key events meets a revocation, where `created_at <= issued_at` may raise. -/
def meetsRevocation (keyId : String) (issuedAt : Python.Timestamp) : List ReleaseKeyEvent → Result Bool
  | [] => .ok false
  | event :: rest =>
    if event.keyId = keyId ∧ event.eventType = .revoke then do
      let later ← issuedAt.lt event.createdAt
      if later then meetsRevocation keyId issuedAt rest else return true
    else meetsRevocation keyId issuedAt rest

/-- The loop body of `verify_checkpoint_chain_snapshot`. -/
def checkpointFits (events : List ReleaseKeyEvent) (electionId : String) (expected : Nat)
    (previous : Option Digest) (event : SignedReleaseCheckpoint) : Result Bool :=
  let payload := event.payload
  if payload.electionId ≠ electionId ∨ payload.sequence.1 ≠ expected then .ok false
  else if payload.previousCheckpointHash ≠ previous.map Digest.hex then .ok false
  else match enrollmentEvent events payload with
  | none => .ok false
  | some enrollment =>
    if enrollment.eventHash ≠ payload.releaseKeyEnrollmentEventHash ∨
        enrollment.actorId ≠ payload.releaseSignerActorId ∨
        enrollment.publicKeySha256 ≠ payload.releaseSignerKeySha256 then .ok false
    else do
      let revoked ← meetsRevocation payload.releaseSignerKeyId payload.issuedAt events
      if revoked then return false
      else
        let raw ← b64decode event.publicKeyB64.toList
        if raw.length ≠ 32 ∨ sha256 raw ≠ payload.releaseSignerKeySha256 then return false
        else
          checkSignature written ed25519 event raw
          return checkpointHash written sha256 event = event.checkpointHash

/-- `verify_checkpoint_chain_snapshot` -/
def verifyCheckpointChainSnapshot (s : ReleaseCheckpointChainSnapshot)
    (keys : ReleaseKeyTransparencySnapshot) : Result Bool := do
  let keysValid ← verifyReleaseKeySnapshot sha256 keys
  if ¬keysValid then return false
  else if s.checkpointsChecked ≠ s.checkpoints.length ∨ s.checkpoints = [] then return false
  else
    verdict caughtByChainVerifier s.headCheckpointHash
      (walk (checkpointFits written sha256 ed25519 keys.events s.electionId) (·.checkpointHash) 1 none
        s.checkpoints)

end

/-- The snapshot of all key events, with the hash of the last one. -/
def exportKeys (events : List ReleaseKeyEvent) (nonempty : events ≠ []) : ReleaseKeyTransparencySnapshot :=
  ⟨events.length, (events.getLast nonempty).eventHash, events⟩

/-- The snapshot of the checkpoints of an election, with the hash of the last one. -/
def exportCheckpoints (electionId : String) (checkpoints : List SignedReleaseCheckpoint)
    (nonempty : checkpoints ≠ []) : ReleaseCheckpointChainSnapshot :=
  ⟨electionId, checkpoints.length, (checkpoints.getLast nonempty).checkpointHash, checkpoints⟩

section
variable {Key : Type} {written : Python.Timestamp → String} {sha256 : Bytes → Digest}
  {ed25519 : Ed25519 Key}

section
variable {ρ : Type} {log : Log ρ String} {good : ρ → Prop} {fits : Nat → Option Digest → ρ → Result Bool}
  {hash : ρ → Digest}

/-- A loop whose body accepts the rows that a log accepts ends with the hash of the last row. -/
theorem walk_ok (hashes : ∀ row, log.hash row = (hash row).hex)
    (accepts : ∀ number previous row, fits number previous row = .ok true ↔
      log.version row = number ∧ log.previous row = previous.map Digest.hex ∧
        log.hash row = log.expected row ∧ good row) {rows : List ρ} :
    walk fits hash number previous rows = .ok (some head) ↔
      log.Checked good number (previous.map Digest.hex) rows ∧
        head = (rows.getLast?.map hash).or previous := by
  induction rows generalizing number previous with
  | nil => simp [walk, Log.Checked, eq_comm]
  | cons row rest ih =>
    have last : ((row :: rest).getLast?.map hash).or previous =
        (rest.getLast?.map hash).or (some (hash row)) := by
      cases rest with
      | nil => rfl
      | cons next others =>
        rw [List.getLast?_cons_cons, List.getLast?_eq_some_getLast (List.cons_ne_nil next others)]
        rfl
    rw [walk, Log.Checked, ← accepts, last, hashes]
    have others := @ih (number + 1) (some (hash row))
    rw [Option.map_some] at others
    cases passes : fits number previous row with
    | error e => simp [bind, Except.bind]
    | ok accepted =>
      rw [ok_bind]
      cases accepted with
      | false => simp [pure, Except.pure]
      | true =>
        rw [if_pos rfl, others]
        simp

theorem walk_error {caught : ErrorKind → Bool}
    (handled : ∀ number previous row e, fits number previous row = .error e → caught e.kind = true)
    {rows : List ρ} (h : walk fits hash number previous rows = .error e) : caught e.kind = true := by
  induction rows generalizing number previous with
  | nil => cases h
  | cons row rest ih =>
    rcases bind_error h with failed | ⟨passes, -, h⟩
    · exact handled _ _ _ _ failed
    · split at h
      · exact ih h
      · cases h

theorem verdict_true {caught : ErrorKind → Bool} {head : Digest} {outcome : Result (Option (Option Digest))} :
    verdict caught head outcome = .ok true ↔ outcome = .ok (some (some head)) := by
  unfold verdict
  split
  · simp
  · simp
  · split <;> simp

end

theorem keyEventFits_true {event : ReleaseKeyEvent} :
    keyEventFits sha256 number previous event = .ok true ↔
      (keyLog sha256).version event = number ∧
      (keyLog sha256).previous event = previous.map Digest.hex ∧
      (keyLog sha256).hash event = (keyLog sha256).expected event ∧
      Fingerprinted sha256 event.publicKeyB64 event.publicKeySha256 := by
  unfold keyEventFits
  split
  next apart =>
    refine iff_of_false (by simp) ?_
    rintro ⟨numbered, linked, -⟩
    exact apart.elim (fun h => h numbered) fun h => h linked
  next fits =>
    obtain ⟨numbered, linked⟩ := not_or.mp fits
    have numbered : event.sequence.1 = number := not_not.mp numbered
    have linked : event.previousEventHash = previous.map Digest.hex := not_not.mp linked
    simp only [bind_eq_ok, keyLog, numbered, linked, Digest.hex_inj, true_and, Fingerprinted]
    constructor
    · rintro ⟨raw, decoded, h⟩
      split at h
      · cases h
      next right =>
        have right := not_or.mp right
        refine ⟨?_, raw, decoded, not_not.mp right.1, not_not.mp right.2⟩
        exact (of_decide_eq_true (Except.ok.inj h)).symm
    · rintro ⟨hash, raw, decoded, size, fingerprint⟩
      refine ⟨raw, decoded, ?_⟩
      rw [if_neg (by simp [size, fingerprint])]
      exact congrArg Except.ok (decide_eq_true hash.symm)

theorem meetsRevocation_false : meetsRevocation keyId issuedAt events = .ok false ↔
    checkRevocations keyId issuedAt events = .ok () := by
  induction events with
  | nil => simp [meetsRevocation, checkRevocations]
  | cons event rest ih =>
    rw [meetsRevocation, checkRevocations]
    by_cases matching : event.keyId = keyId ∧ event.eventType = .revoke
    · rw [if_pos matching, if_pos matching]
      cases compared : issuedAt.lt event.createdAt with
      | error e => exact iff_of_false (by simp [bind, Except.bind]) (by simp [bind, Except.bind])
      | ok later =>
        rw [ok_bind, ok_bind]
        cases later with
        | false => simp [raiseIf, pure, Except.pure, bind, Except.bind]
        | true =>
          rw [if_pos rfl, ih]
          rfl
    · rw [if_neg matching, if_neg matching]
      exact ih

theorem meetsRevocation_error (h : meetsRevocation keyId issuedAt events = .error e) :
    caughtByChainVerifier e.kind = true := by
  induction events with
  | nil => cases h
  | cons event rest ih =>
    rw [meetsRevocation] at h
    split at h
    · rcases bind_error h with compared | ⟨later, -, h⟩
      · rw [lt_error compared]
        rfl
      · split at h
        · exact ih h
        · cases h
    · exact ih h

/-- Both verifiers look for the same enrollment. -/
theorem enrollmentEvent_some : enrollmentEvent events payload = some enrollment ↔
    releaseKeyEnrollmentEvent events payload.releaseSignerKeyId = .ok enrollment := by
  have same : enrollmentEvent events payload = events.find? fun event =>
      event.keyId = payload.releaseSignerKeyId ∧ event.eventType = .enroll := by
    unfold enrollmentEvent
    congr 1
    funext event
    exact decide_eq_decide.mpr and_comm
  rw [same, releaseKeyEnrollmentEvent]
  cases events.find? fun event => event.keyId = payload.releaseSignerKeyId ∧ event.eventType = .enroll with
  | none => simp
  | some event => simp

/-- The body of the exported loop accepts what the body of the live loop accepts. -/
theorem checkpointFits_iff {event : SignedReleaseCheckpoint} :
    checkpointFits written sha256 ed25519 events electionId number previous event = .ok true ↔
      checkCheckpoint written sha256 ed25519 events electionId number previous event = .ok () := by
  unfold checkpointFits checkCheckpoint
  dsimp only
  by_cases bound : event.payload.electionId ≠ electionId ∨ event.payload.sequence.1 ≠ number
  · rw [if_pos bound, raiseIf, if_pos bound]
    exact iff_of_false (by simp) (by simp [bind, Except.bind])
  rw [if_neg bound, raiseIf, if_neg bound, ok_bind]
  by_cases linked : event.payload.previousCheckpointHash ≠ previous.map Digest.hex
  · rw [if_pos linked, raiseIf, if_pos linked]
    exact iff_of_false (by simp) (by simp [bind, Except.bind])
  rw [if_neg linked, raiseIf, if_neg linked, ok_bind]
  cases found : enrollmentEvent events event.payload with
  | none =>
    refine iff_of_false (by simp) fun h => ?_
    obtain ⟨enrollment, enrolled, -⟩ := bind_ok h
    rw [enrollmentEvent_some.mpr enrolled] at found
    cases found
  | some enrollment =>
    rw [enrollmentEvent_some.mp found, ok_bind]
    dsimp only
    by_cases anchor : enrollment.eventHash ≠ event.payload.releaseKeyEnrollmentEventHash ∨
        enrollment.actorId ≠ event.payload.releaseSignerActorId ∨
        enrollment.publicKeySha256 ≠ event.payload.releaseSignerKeySha256
    · rw [if_pos anchor, raiseIf, if_pos anchor]
      exact iff_of_false (by simp) (by simp [bind, Except.bind])
    rw [if_neg anchor, raiseIf, if_neg anchor, ok_bind]
    constructor
    · intro h
      obtain ⟨revoked, met, h⟩ := bind_ok h
      split at h
      · cases h
      next unrevoked =>
        obtain ⟨raw, decoded, h⟩ := bind_ok h
        split at h
        · cases h
        next fingerprint =>
          obtain ⟨_, signed, h⟩ := bind_ok h
          have hashed := of_decide_eq_true (Except.ok.inj h)
          rw [Bool.not_eq_true] at unrevoked
          rw [unrevoked] at met
          rw [meetsRevocation_false.mp met, ok_bind, decoded, ok_bind, raiseIf, if_neg fingerprint, ok_bind,
            signed, ok_bind, raiseIf, if_neg (not_not.mpr hashed)]
    · intro h
      obtain ⟨_, unrevoked, h⟩ := bind_ok h
      obtain ⟨raw, decoded, h⟩ := bind_ok h
      obtain ⟨_, fingerprint, h⟩ := bind_ok h
      obtain ⟨_, signed, hashed⟩ := bind_ok h
      rw [raiseIf_ok] at fingerprint hashed
      rw [meetsRevocation_false.mpr unrevoked, ok_bind, if_neg (by simp), decoded, ok_bind,
        if_neg fingerprint, signed, ok_bind]
      exact congrArg Except.ok (decide_eq_true (not_not.mp hashed))

theorem keyEventFits_error (number : Nat) (previous : Option Digest) (event : ReleaseKeyEvent) (e : Error)
    (h : keyEventFits sha256 number previous event = .error e) : caughtByKeyVerifier e.kind = true := by
  unfold keyEventFits at h
  split at h
  · cases h
  · rcases bind_error h with decoding | ⟨raw, -, h⟩
    · simp [caughtByKeyVerifier, b64decode_error decoding]
    · split at h <;> cases h

theorem checkpointFits_error (number : Nat) (previous : Option Digest) (event : SignedReleaseCheckpoint)
    (e : Error)
    (h : checkpointFits written sha256 ed25519 events electionId number previous event = .error e) :
    caughtByChainVerifier e.kind = true := by
  unfold checkpointFits at h
  dsimp only at h
  split at h
  · cases h
  split at h
  · cases h
  split at h
  · cases h
  split at h
  · cases h
  rcases bind_error h with compared | ⟨revoked, -, h⟩
  · exact meetsRevocation_error compared
  split at h
  · cases h
  rcases bind_error h with decoding | ⟨raw, -, h⟩
  · simp [caughtByChainVerifier, b64decode_error decoding]
  split at h
  · cases h
  rcases bind_error h with signature | ⟨_, -, h⟩
  · exact checkSignature_error signature
  · cases h

theorem verdict_returns {caught : ErrorKind → Bool} {head : Digest} {outcome : Result (Option (Option Digest))}
    (handled : ∀ e, outcome = .error e → caught e.kind = true) : ∃ b, verdict caught head outcome = .ok b := by
  unfold verdict
  split
  · exact ⟨_, rfl⟩
  · exact ⟨_, rfl⟩
  next e => exact ⟨_, if_pos (handled e rfl)⟩

/-- The verifiers of snapshots never raise. -/
theorem snapshotVerifiers_return (s : ReleaseCheckpointChainSnapshot) (keys : ReleaseKeyTransparencySnapshot) :
    (∃ b, verifyReleaseKeySnapshot sha256 keys = .ok b) ∧
      ∃ b, verifyCheckpointChainSnapshot written sha256 ed25519 s keys = .ok b := by
  have keysReturn : ∃ b, verifyReleaseKeySnapshot sha256 keys = .ok b := by
    unfold verifyReleaseKeySnapshot
    split
    · exact ⟨_, rfl⟩
    · exact verdict_returns fun e => walk_error keyEventFits_error
  refine ⟨keysReturn, ?_⟩
  obtain ⟨b, answered⟩ := keysReturn
  rw [verifyCheckpointChainSnapshot, answered, ok_bind]
  split
  · exact ⟨_, rfl⟩
  · split
    · exact ⟨_, rfl⟩
    · exact verdict_returns fun e => walk_error checkpointFits_error

/-- The exported key events are accepted when they are intact and numbered from one. -/
theorem verifyReleaseKeySnapshot_export (nonempty : events ≠ []) :
    verifyReleaseKeySnapshot sha256 (exportKeys events nonempty) = .ok true ↔
      (keyLog sha256).Numbered events ∧ KeysIntact sha256 events := by
  have counted : ¬((exportKeys events nonempty).eventsChecked ≠ (exportKeys events nonempty).events.length ∨
      (exportKeys events nonempty).events = []) := by
    simp [exportKeys, nonempty]
  have head : (events.getLast?.map (·.eventHash)).or none = some (events.getLast nonempty).eventHash := by
    rw [List.getLast?_eq_some_getLast nonempty]
    rfl
  rw [verifyReleaseKeySnapshot, if_neg counted, verdict_true]
  change walk (keyEventFits sha256) (·.eventHash) 1 none events = _ ↔ _
  rw [walk_ok (fun _ => rfl) fun _ _ _ => keyEventFits_true, Log.checked_iff]
  constructor
  · rintro ⟨⟨numbered, linked, fingerprints⟩, -⟩
    exact ⟨numbered, linked, fingerprints⟩
  · rintro ⟨numbered, linked, fingerprints⟩
    exact ⟨⟨numbered, linked, fingerprints⟩, head.symm⟩

theorem verifyCheckpointChainSnapshot_export {checkpoints : List SignedReleaseCheckpoint}
    (nonempty : events ≠ []) (listed : checkpoints ≠ []) :
    verifyCheckpointChainSnapshot written sha256 ed25519 (exportCheckpoints electionId checkpoints listed)
        (exportKeys events nonempty) = .ok true ↔
      ((keyLog sha256).Numbered events ∧ KeysIntact sha256 events) ∧
        CheckpointsIntact written sha256 ed25519 events electionId checkpoints := by
  have counted : ¬((exportCheckpoints electionId checkpoints listed).checkpointsChecked ≠
        (exportCheckpoints electionId checkpoints listed).checkpoints.length ∨
      (exportCheckpoints electionId checkpoints listed).checkpoints = []) := by
    simp [exportCheckpoints, listed]
  have head : (checkpoints.getLast?.map (·.checkpointHash)).or none =
      some (checkpoints.getLast listed).checkpointHash := by
    rw [List.getLast?_eq_some_getLast listed]
    rfl
  have loop : walk (checkpointFits written sha256 ed25519 events electionId) (·.checkpointHash) 1 none
      checkpoints = .ok (some (some (checkpoints.getLast listed).checkpointHash)) ↔
      CheckpointsIntact written sha256 ed25519 events electionId checkpoints := by
    have accepts (number : Nat) (previous : Option Digest) (event : SignedReleaseCheckpoint) :=
      (@checkpointFits_iff Key written sha256 ed25519 events electionId number previous event).trans
        checkCheckpoint_ok
    rw [walk_ok (fun _ => rfl) accepts, checkpointsIntact_iff]
    exact and_iff_left head.symm
  rw [← verifyReleaseKeySnapshot_export nonempty, ← loop, verifyCheckpointChainSnapshot]
  constructor
  · intro h
    obtain ⟨keysValid, answered, h⟩ := bind_ok h
    split at h
    · cases h
    next valid =>
      rw [not_not.mp valid] at answered
      exact ⟨answered, verdict_true.mp h⟩
  · rintro ⟨answered, walked⟩
    rw [answered, ok_bind, if_neg (by simp), if_neg counted]
    exact verdict_true.mpr walked

/-- `verify_release_key_transparency` and `verify_checkpoint_chain` accept what is stored. -/
def LiveAccepts (written : Python.Timestamp → String) (sha256 : Bytes → Digest) (ed25519 : Ed25519 Key)
    (db : GovernanceDb) (electionId : String) : Prop :=
  (∃ verdict, verifyReleaseKeyTransparency sha256 db.keyEvents = .ok verdict ∧ verdict.valid = true) ∧
    ∃ verdict, verifyCheckpointChain written sha256 ed25519 db electionId = .ok verdict ∧ verdict.valid = true

/-- `verify_release_key_snapshot` and `verify_checkpoint_chain_snapshot` accept its export. -/
def SnapshotAccepts (written : Python.Timestamp → String) (sha256 : Bytes → Digest) (ed25519 : Ed25519 Key)
    (db : GovernanceDb) (electionId : String) (keys : db.keyEvents ≠ [])
    (rows : db.checkpoints electionId ≠ []) : Prop :=
  verifyReleaseKeySnapshot sha256 (exportKeys db.keyEvents keys) = .ok true ∧
    verifyCheckpointChainSnapshot written sha256 ed25519
      (exportCheckpoints electionId (db.checkpoints electionId) rows) (exportKeys db.keyEvents keys) = .ok true

theorem verifyReleaseKeyTransparency_valid (events : List ReleaseKeyEvent) :
    (∃ verdict, verifyReleaseKeyTransparency sha256 events = .ok verdict ∧ verdict.valid = true) ↔
      KeysIntact sha256 events := by
  obtain ⟨verdict, answered, valid⟩ := @verifyReleaseKeyTransparency_returns sha256 events
  rw [← valid, answered]
  constructor
  · rintro ⟨other, same, accepted⟩
    cases same
    exact accepted
  · exact fun accepted => ⟨verdict, rfl, accepted⟩

theorem liveAccepts_iff {db : GovernanceDb} : LiveAccepts written sha256 ed25519 db electionId ↔
    KeysIntact sha256 db.keyEvents ∧
      CheckpointsIntact written sha256 ed25519 db.keyEvents electionId (db.checkpoints electionId) := by
  rw [LiveAccepts, verifyReleaseKeyTransparency_valid, verifyCheckpointChain_valid]
  exact ⟨fun h => h.2, fun h => ⟨h.1, h⟩⟩

theorem snapshotAccepts_iff {db : GovernanceDb} (keys : db.keyEvents ≠ [])
    (rows : db.checkpoints electionId ≠ []) :
    SnapshotAccepts written sha256 ed25519 db electionId keys rows ↔
      (keyLog sha256).Numbered db.keyEvents ∧ LiveAccepts written sha256 ed25519 db electionId := by
  rw [SnapshotAccepts, verifyReleaseKeySnapshot_export, verifyCheckpointChainSnapshot_export, liveAccepts_iff]
  tauto

/-- The verifiers agree exactly when the key events are numbered from one, or something that
both of them check is wrong. Pair by pair they agree exactly when the key events are numbered
from one, or one of these has a wrong link, hash or fingerprint. -/
theorem verifiers_agree_iff (written : Python.Timestamp → String) (sha256 : Bytes → Digest)
    (ed25519 : Ed25519 Key) (db : GovernanceDb) (electionId : String) (keys : db.keyEvents ≠ [])
    (rows : db.checkpoints electionId ≠ []) :
    ((LiveAccepts written sha256 ed25519 db electionId ↔
        SnapshotAccepts written sha256 ed25519 db electionId keys rows) ↔
      (keyLog sha256).Numbered db.keyEvents ∨ ¬KeysIntact sha256 db.keyEvents ∨
        ¬CheckpointsIntact written sha256 ed25519 db.keyEvents electionId (db.checkpoints electionId)) ∧
    ((((∃ verdict, verifyReleaseKeyTransparency sha256 db.keyEvents = .ok verdict ∧ verdict.valid = true) ↔
          verifyReleaseKeySnapshot sha256 (exportKeys db.keyEvents keys) = .ok true) ∧
        ((∃ verdict, verifyCheckpointChain written sha256 ed25519 db electionId = .ok verdict ∧
            verdict.valid = true) ↔
          verifyCheckpointChainSnapshot written sha256 ed25519
            (exportCheckpoints electionId (db.checkpoints electionId) rows)
            (exportKeys db.keyEvents keys) = .ok true)) ↔
      (keyLog sha256).Numbered db.keyEvents ∨ ¬KeysIntact sha256 db.keyEvents) := by
  refine ⟨?_, ?_⟩
  · rw [snapshotAccepts_iff, liveAccepts_iff]
    tauto
  · rw [verifyReleaseKeyTransparency_valid, verifyCheckpointChain_valid, verifyReleaseKeySnapshot_export,
      verifyCheckpointChainSnapshot_export]
    tauto

end

/-- A key event that enrolls the key of `mirrorEd25519`, under any number. -/
def sampleKeyEvent (sequence : PositiveInt) : ReleaseKeyEvent :=
  let event : ReleaseKeyEvent := {
    sequence := sequence
    eventType := .enroll
    keyId := "k"
    actorId := "a"
    publicKeyB64 := String.ofList (b64encode (mirrorEd25519.publicKey ()))
    publicKeySha256 := checksum (mirrorEd25519.publicKey ())
    label := none
    performedByActorId := "a"
    previousEventHash := none
    eventHash := checksum []
    createdAt := sampleTime }
  { event with eventHash := hashRecord checksum (event.body none) }

def samplePayload (sequence : PositiveInt) : ReleaseCheckpointPayload where
  sequence := ⟨1, one_positive⟩
  electionId := "e"
  releaseId := "r"
  merkleRoot := checksum [1]
  manifestSha256 := checksum [2]
  releaseSignerKeyId := "k"
  releaseSignerActorId := "a"
  releaseSignerKeySha256 := checksum (mirrorEd25519.publicKey ())
  releaseKeyEnrollmentEventHash := (sampleKeyEvent sequence).eventHash
  previousCheckpointHash := none
  issuedAt := sampleTime

/-- The first checkpoint of election `e`, signed by the key that the event enrolls. -/
def sampleCheckpoint (sequence : PositiveInt) : SignedReleaseCheckpoint :=
  let event : SignedReleaseCheckpoint := {
    payload := samplePayload sequence
    publicKeyB64 := String.ofList (b64encode (mirrorEd25519.publicKey ()))
    signatureB64 := String.ofList
      (b64encode (canonicalJsonBytes ((samplePayload sequence).modelDump Timestamp.isoformat)))
    checkpointHash := checksum []
    storedAt := sampleTime }
  { event with checkpointHash := checkpointHash Timestamp.isoformat checksum event }

def sampleDb (sequence : PositiveInt) : GovernanceDb :=
  ⟨[sampleKeyEvent sequence], [("e", sampleCheckpoint sequence)]⟩

theorem sampleKeyEvent_intact (sequence : PositiveInt) : KeysIntact checksum [sampleKeyEvent sequence] := by
  refine ⟨⟨⟨rfl, ?_⟩, trivial⟩, fun event member => ?_⟩
  · simp only [keyLog, sampleKeyEvent, ReleaseKeyEvent.body]
  · rw [List.mem_singleton.mp member]
    exact ⟨mirrorEd25519.publicKey (), by simp [sampleKeyEvent], rfl, rfl⟩

theorem sampleCheckpoint_sound (sequence : PositiveInt) :
    CheckpointSound Timestamp.isoformat checksum mirrorEd25519 [sampleKeyEvent sequence] "e"
      (sampleCheckpoint sequence) := by
  have key : b64decode (sampleCheckpoint sequence).publicKeyB64.toList =
      .ok (mirrorEd25519.publicKey ()) := by
    simp [sampleCheckpoint]
  have signature : b64decode (sampleCheckpoint sequence).signatureB64.toList =
      .ok (canonicalJsonBytes ((samplePayload sequence).modelDump Timestamp.isoformat)) := by
    simp [sampleCheckpoint]
  have message : (sampleCheckpoint sequence).payload = samplePayload sequence := rfl
  refine ⟨rfl, ⟨sampleKeyEvent sequence, rfl, rfl, rfl, rfl⟩, ?_, mirrorEd25519.publicKey (), _, key, rfl,
    rfl, signature, ?_⟩
  · intro event member _ revoked
    rw [List.mem_singleton.mp member] at revoked
    cases revoked
  · rw [message]
    exact decide_eq_true rfl

/-- The live verifiers accept the checkpoint under any number of its key event. -/
theorem sampleDb_accepted (sequence : PositiveInt) :
    LiveAccepts Timestamp.isoformat checksum mirrorEd25519 (sampleDb sequence) "e" := by
  refine liveAccepts_iff.mpr ⟨sampleKeyEvent_intact sequence, rfl, ⟨⟨rfl, rfl⟩, trivial⟩, ?_⟩
  intro event member
  have member : event ∈ [sampleCheckpoint sequence] := member
  rw [List.mem_singleton.mp member]
  exact sampleCheckpoint_sound sequence

/-- When the only key event has the number two, the live verifiers accept and those of the
exported snapshots do not. -/
theorem sampleDb_disagreement :
    LiveAccepts Timestamp.isoformat checksum mirrorEd25519 (sampleDb ⟨2, by decide⟩) "e" ∧
      ¬SnapshotAccepts Timestamp.isoformat checksum mirrorEd25519 (sampleDb ⟨2, by decide⟩) "e"
        (List.cons_ne_nil _ _) (List.cons_ne_nil _ _) := by
  refine ⟨sampleDb_accepted _, fun accepted => ?_⟩
  obtain ⟨numbered, -⟩ := (snapshotAccepts_iff _ _).mp accepted
  have two : [2] = List.range' 1 1 := numbered
  revert two
  decide

/-- When it has the number one, they agree. -/
theorem sampleDb_agreement :
    LiveAccepts Timestamp.isoformat checksum mirrorEd25519 (sampleDb ⟨1, by decide⟩) "e" ↔
      SnapshotAccepts Timestamp.isoformat checksum mirrorEd25519 (sampleDb ⟨1, by decide⟩) "e"
        (List.cons_ne_nil _ _) (List.cons_ne_nil _ _) :=
  (verifiers_agree_iff Timestamp.isoformat checksum mirrorEd25519 (sampleDb ⟨1, by decide⟩) "e"
    (List.cons_ne_nil _ _) (List.cons_ne_nil _ _)).1.mpr (.inl rfl)

end BallotProof.GovernanceTables
