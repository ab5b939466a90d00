import BallotProof.GovernanceRuns
import Mathlib.Tactic

/-! The governance ledger over whole runs: what each transaction keeps, and the order of
revocations and checkpoints under which every chain verifies. -/
namespace BallotProof
open Python

variable {Key : Type} {sha256 : Bytes → Digest} {ed25519 : Ed25519 Key}

/-- The stored key text decodes to the key with the stored fingerprint. -/
def KeyDecodes (sha256 : Bytes → Digest) (key : ReleaseSigningKey) : Prop :=
  ∃ raw, b64decode key.publicKeyB64.toList = .ok raw ∧ raw.length = 32 ∧
    sha256 raw = key.publicKeySha256

/-- How `verify_checkpoint_chain` ends on a chain whose numbers count up to the last. -/
def chainEnd (chain : List SignedReleaseCheckpoint) : Nat × Option Digest × Option Error :=
  (chain.getLast?.elim 0 (·.payload.sequence), chain.getLast?.map (·.checkpointHash), none)

/-- What a call in flight carries over from the tables. -/
def CallValid (sha256 : Bytes → Digest) (ed25519 : Ed25519 Key) (s : GovernanceState Key) :
    GovernanceCall Key → Prop
  | .enroll key _ => KeyDecodes sha256 key ∧ key.revokedAt = none
  | .revoke _ _ _ => True
  | .append _ signer governedKey enrollment _ =>
    (∃ row ∈ s.keys, row.keyId = governedKey.keyId ∧ row.actorId = governedKey.actorId ∧
      row.publicKeySha256 = sha256 (ed25519.publicKey signer)) ∧
    ∀ event ∈ enrollment, releaseKeyEnrollmentEvent s.events governedKey.keyId = .ok event

structure LedgerInvariant (sha256 : Bytes → Digest) (ed25519 : Ed25519 Key)
    (s : GovernanceState Key) : Prop where
  chained : s.events.foldlM (checkKeyEvent sha256) none = .ok (s.events.getLast?.map (·.eventHash))
  decodes : ∀ key ∈ s.keys, KeyDecodes sha256 key
  enrolled : ∀ key ∈ s.keys, ∃ event, releaseKeyEnrollmentEvent s.events key.keyId = .ok event ∧
    event.actorId = key.actorId ∧ event.publicKeySha256 = key.publicKeySha256
  recorded : ∀ event ∈ s.events, ∃ key ∈ s.keys, key.keyId = event.keyId ∧
    (event.eventType = .revoke → key.revokedAt ≠ none)
  checkpoints : ∀ electionId, checkCheckpoints sha256 ed25519 s.events electionId 0 none
    (s.electionCheckpoints electionId) = chainEnd (s.electionCheckpoints electionId)
  ordered : ∀ checkpoint ∈ s.checkpoints, ∀ event ∈ s.events,
    event.keyId = checkpoint.payload.releaseSignerKeyId → event.eventType = .revoke →
    checkpoint.payload.issuedAt < event.createdAt
  calls : ∀ call pending, s.calls call = some pending → CallValid sha256 ed25519 s pending

theorem initial_ledgerInvariant :
    LedgerInvariant sha256 ed25519 (GovernanceState.initial : GovernanceState Key) := by
  constructor <;>
    simp [GovernanceState.initial, GovernanceState.electionCheckpoints, checkCheckpoints, chainEnd]
  rfl

/-! ## Hash chains under append -/

theorem foldlM_snoc {check : Option Digest → ReleaseKeyEvent → Result (Option Digest)}
    (chain : events.foldlM check start = .ok head) (next : check head event = .ok last) :
    (events ++ [event]).foldlM check start = .ok last := by
  simp only [List.foldlM_append, List.foldlM_cons, List.foldlM_nil]
  exact bind_eq_ok.mpr ⟨head, chain, bind_eq_ok.mpr ⟨last, next, rfl⟩⟩

theorem checkCheckpoints_snoc {chain : List SignedReleaseCheckpoint}
    (passed : checkCheckpoints sha256 ed25519 events electionId checked previous chain =
      (count, head, none))
    (next : CheckpointValid sha256 ed25519 events electionId (count + 1) head checkpoint) :
    checkCheckpoints sha256 ed25519 events electionId checked previous (chain ++ [checkpoint]) =
      (count + 1, some checkpoint.checkpointHash, none) := by
  induction chain generalizing checked previous with
  | nil =>
    cases passed
    simp [checkCheckpoints, checkCheckpoint_ok.mpr next]
  | cons first rest ih =>
    simp only [List.cons_append, checkCheckpoints] at passed ⊢
    split at passed
    · cases passed
    · exact ih passed

/-- Checks that pass over one event ledger pass over another that keeps each of them. -/
theorem checkCheckpoints_mono {chain : List SignedReleaseCheckpoint}
    (kept : ∀ checkpoint ∈ chain, ∀ number previous,
      CheckpointValid sha256 ed25519 events electionId number previous checkpoint →
      CheckpointValid sha256 ed25519 more electionId number previous checkpoint)
    (passed : checkCheckpoints sha256 ed25519 events electionId checked previous chain =
      (count, head, none)) :
    checkCheckpoints sha256 ed25519 more electionId checked previous chain =
      (count, head, none) := by
  induction chain generalizing checked previous with
  | nil => exact passed
  | cons first rest ih =>
    simp only [checkCheckpoints] at passed ⊢
    split at passed
    · cases passed
    · rename_i valid
      have next := checkCheckpoint_ok.mpr (kept first (by simp) _ _ (checkCheckpoint_ok.mp valid))
      rw [next]
      exact ih (fun checkpoint member => kept checkpoint (by simp [member])) passed

theorem releaseKeyEnrollmentEvent_append
    (found : releaseKeyEnrollmentEvent events keyId = .ok event) :
    releaseKeyEnrollmentEvent (events ++ more) keyId = .ok event := by
  unfold releaseKeyEnrollmentEvent at found ⊢
  split at found
  · rename_i first hit
    rw [List.find?_append, hit]
    exact found
  · cases found

/-- The first enrollment of a key is the one that is found. -/
theorem releaseKeyEnrollmentEvent_first (fresh : ∀ earlier ∈ events, earlier.keyId ≠ event.keyId)
    (enroll : event.eventType = .enroll) :
    releaseKeyEnrollmentEvent (events ++ [event]) event.keyId = .ok event := by
  have missing : events.find? (fun e => e.keyId = event.keyId ∧ e.eventType = .enroll) = none :=
    List.find?_eq_none.mpr fun earlier member => by simp [fresh earlier member]
  rw [releaseKeyEnrollmentEvent, List.find?_append, missing]
  simp [enroll]

theorem CheckpointValid.extend
    (valid : CheckpointValid sha256 ed25519 events electionId number previous checkpoint)
    (later : event.keyId = checkpoint.payload.releaseSignerKeyId → event.eventType = .revoke →
      checkpoint.payload.issuedAt < event.createdAt) :
    CheckpointValid sha256 ed25519 (events ++ [event]) electionId number previous checkpoint := by
  obtain ⟨enrollment, found, anchor⟩ := valid.anchored
  refine { valid with
    anchored := ⟨enrollment, releaseKeyEnrollmentEvent_append found, anchor⟩
    unrevoked := fun other member => ?_ }
  rcases List.mem_append.mp member with old | new
  · exact valid.unrevoked other old
  · rw [List.mem_singleton.mp new]
    exact later

/-! ## Transactions -/

theorem nextKeyEvent_valid (decodes : KeyDecodes sha256 key) :
    KeyEventValid sha256 (events.getLast?.map (·.eventHash))
      (nextKeyEvent sha256 events eventType key performedBy createdAt) := by
  refine ⟨rfl, rfl, ?_⟩
  exact decodes

/-- A ledger with one more key event: the chains of events and of checkpoints go on. -/
theorem LedgerInvariant.addEvent (valid : LedgerInvariant sha256 ed25519 s)
    (key : ReleaseSigningKey) (decodes : KeyDecodes sha256 key)
    (event : nextKeyEvent sha256 s.events eventType key performedBy createdAt = added)
    (later : ∀ checkpoint ∈ s.checkpoints, checkpoint.payload.releaseSignerKeyId = added.keyId →
      added.eventType = .revoke → checkpoint.payload.issuedAt < added.createdAt) :
    (s.events ++ [added]).foldlM (checkKeyEvent sha256) none = .ok (some added.eventHash) ∧
    (∀ electionId, checkCheckpoints sha256 ed25519 (s.events ++ [added]) electionId 0 none
      (s.electionCheckpoints electionId) = chainEnd (s.electionCheckpoints electionId)) ∧
    ∀ checkpoint ∈ s.checkpoints, ∀ other ∈ s.events ++ [added],
      other.keyId = checkpoint.payload.releaseSignerKeyId → other.eventType = .revoke →
      checkpoint.payload.issuedAt < other.createdAt := by
  refine ⟨foldlM_snoc valid.chained (checkKeyEvent_ok.mpr ⟨event ▸ nextKeyEvent_valid decodes, rfl⟩),
    fun electionId => ?_, fun checkpoint member other among => ?_⟩
  · refine checkCheckpoints_mono (fun checkpoint member number previous ok => ?_)
      (valid.checkpoints electionId)
    have member : checkpoint ∈ s.checkpoints := (List.mem_filter.mp member).1
    exact ok.extend fun same => later checkpoint member same.symm
  · rcases List.mem_append.mp among with old | new
    · exact valid.ordered checkpoint member other old
    · rw [List.mem_singleton.mp new]
      exact fun same => later checkpoint member same.symm

/-- What the calls in flight read stays true while rows keep their identity and events are
only added. -/
theorem CallValid.extend (valid : CallValid sha256 ed25519 s pending)
    (rows : ∀ row ∈ s.keys, ∃ kept ∈ t.keys, kept.keyId = row.keyId ∧
      kept.actorId = row.actorId ∧ kept.publicKeySha256 = row.publicKeySha256)
    (events : ∃ more, t.events = s.events ++ more) : CallValid sha256 ed25519 t pending := by
  obtain ⟨more, events⟩ := events
  cases pending with
  | enroll => exact valid
  | revoke => trivial
  | append release signer governedKey enrollment issuedAt =>
    obtain ⟨⟨row, member, keyId, actorId, fingerprint⟩, found⟩ := valid
    obtain ⟨kept, among, sameKey, sameActor, samePrint⟩ := rows row member
    exact ⟨⟨kept, among, sameKey.trans keyId, sameActor.trans actorId, samePrint.trans fingerprint⟩,
      fun event read => events ▸ releaseKeyEnrollmentEvent_append (found event read)⟩

theorem enrollTransaction_invariant (valid : LedgerInvariant sha256 ed25519 s)
    (pending : CallValid sha256 ed25519 s (.enroll key performedBy))
    (h : enrollTransaction sha256 s key performedBy = some t) :
    LedgerInvariant sha256 ed25519 t := by
  simp only [enrollTransaction, Option.ite_none_left_eq_some, not_or, not_exists, not_and,
    Option.some.injEq] at h
  obtain ⟨⟨fresh, -⟩, rfl⟩ := h
  obtain ⟨decodes, unrevoked⟩ := pending
  set event := nextKeyEvent sha256 s.events .enroll key performedBy key.enrolledAt with added
  obtain ⟨chained, checkpoints, ordered⟩ := valid.addEvent key decodes added.symm
    (fun _ _ _ revoke => by cases revoke)
  have first : releaseKeyEnrollmentEvent (s.events ++ [event]) event.keyId = .ok event :=
    releaseKeyEnrollmentEvent_first
      (fun earlier member same => by
        obtain ⟨row, among, sameKey, -⟩ := valid.recorded earlier member
        exact (fresh row among).1 (sameKey.trans same)) rfl
  constructor
  · simpa using chained
  · intro row member
    rcases List.mem_append.mp member with old | new
    · exact valid.decodes row old
    · rw [List.mem_singleton.mp new]; exact decodes
  · intro row member
    rcases List.mem_append.mp member with old | new
    · obtain ⟨first, found, same⟩ := valid.enrolled row old
      exact ⟨first, releaseKeyEnrollmentEvent_append found, same⟩
    · rw [List.mem_singleton.mp new]
      exact ⟨event, first, rfl, rfl⟩
  · intro other member
    rcases List.mem_append.mp member with old | new
    · obtain ⟨row, among, same, revoked⟩ := valid.recorded other old
      exact ⟨row, List.mem_append_left _ among, same, revoked⟩
    · rw [List.mem_singleton.mp new]
      exact ⟨key, by simp, rfl, fun revoke => by cases revoke⟩
  · exact checkpoints
  · exact ordered
  · intro call other found
    exact (valid.calls call other found).extend
      (fun row member => ⟨row, List.mem_append_left _ member, rfl, rfl, rfl⟩) ⟨_, rfl⟩

theorem revokeTransaction_invariant (valid : LedgerInvariant sha256 ed25519 s)
    (later : (∃ key ∈ s.keys, key.keyId = keyId ∧ key.revokedAt = none) →
      ∀ checkpoint ∈ s.checkpoints, checkpoint.payload.releaseSignerKeyId = keyId →
        checkpoint.payload.issuedAt < now)
    (h : revokeTransaction sha256 s keyId performedBy now = some t) :
    LedgerInvariant sha256 ed25519 t := by
  unfold revokeTransaction at h
  split at h
  · cases h
  rename_i key found
  have member := List.mem_of_find?_eq_some found
  have same : key.keyId = keyId := by simpa using List.find?_some found
  simp only [Option.ite_none_left_eq_some, not_or, not_not, Option.some.injEq] at h
  obtain ⟨⟨unrevoked, -⟩, rfl⟩ := h
  set event := nextKeyEvent sha256 s.events .revoke (key.revoked now performedBy) performedBy now
    with added
  set rewrite : ReleaseSigningKey → ReleaseSigningKey :=
    fun row => if row.keyId = keyId then row.revoked now performedBy else row with rewritten
  have keeps (row : ReleaseSigningKey) : (rewrite row).keyId = row.keyId ∧
      (rewrite row).actorId = row.actorId ∧ (rewrite row).publicKeyB64 = row.publicKeyB64 ∧
      (rewrite row).publicKeySha256 = row.publicKeySha256 := by
    simp only [rewritten]
    split <;> exact ⟨rfl, rfl, rfl, rfl⟩
  have marks (row : ReleaseSigningKey) (revoked : row.keyId = keyId ∨ row.revokedAt ≠ none) :
      (rewrite row).revokedAt ≠ none := by
    simp only [rewritten]
    split
    · simp [ReleaseSigningKey.revoked]
    · rename_i other; exact revoked.resolve_left other
  obtain ⟨chained, checkpoints, ordered⟩ := valid.addEvent (key.revoked now performedBy)
    (valid.decodes key member) added.symm
    (fun checkpoint among signer _ => later ⟨key, member, same, unrevoked⟩ checkpoint among
      (signer.trans same))
  constructor
  · simpa using chained
  · intro row among
    obtain ⟨old, stored, rfl⟩ := List.mem_map.mp among
    have := valid.decodes old stored
    rwa [KeyDecodes, (keeps old).2.2.1, (keeps old).2.2.2]
  · intro row among
    obtain ⟨old, stored, rfl⟩ := List.mem_map.mp among
    obtain ⟨first, enrolled, actor, print⟩ := valid.enrolled old stored
    obtain ⟨sameKey, sameActor, -, samePrint⟩ := keeps old
    exact ⟨first, sameKey ▸ releaseKeyEnrollmentEvent_append enrolled, actor.trans sameActor.symm,
      print.trans samePrint.symm⟩
  · intro other among
    rcases List.mem_append.mp among with old | new
    · obtain ⟨row, among, sameKey, revoked⟩ := valid.recorded other old
      exact ⟨rewrite row, List.mem_map_of_mem among, (keeps row).1.trans sameKey,
        fun revoke => marks row (.inr (revoked revoke))⟩
    · rw [List.mem_singleton.mp new]
      exact ⟨rewrite key, List.mem_map_of_mem member, (keeps key).1, fun _ => marks key (.inl same)⟩
  · exact checkpoints
  · exact ordered
  · intro call other pending
    exact (valid.calls call other pending).extend
      (fun row among => ⟨rewrite row, List.mem_map_of_mem among, (keeps row).1, (keeps row).2.1,
        (keeps row).2.2.2⟩) ⟨_, rfl⟩

/-- The checkpoint of an unrevoked key goes on the chain of its election. -/
theorem nextCheckpoint_valid {issued : Option Instant} (lawful : ed25519.Lawful)
    (valid : LedgerInvariant sha256 ed25519 s)
    (pending : CallValid sha256 ed25519 s (.append release signer governedKey (some event) issued))
    (unrevoked : ∀ key ∈ s.keys, key.keyId = governedKey.keyId → key.revokedAt = none) :
    CheckpointValid sha256 ed25519 s.events release.electionId
      ((chainEnd (s.electionCheckpoints release.electionId)).1 + 1)
      (chainEnd (s.electionCheckpoints release.electionId)).2.1
      (nextCheckpoint sha256 ed25519 s release signer governedKey event issuedAt) := by
  obtain ⟨⟨row, member, keyId, actorId, fingerprint⟩, read⟩ := pending
  obtain ⟨enrollment, found, actor, print⟩ := valid.enrolled row member
  have same : enrollment = event := by
    have := read event rfl
    rw [← keyId, found] at this
    exact Except.ok.inj this
  constructor
  · rfl
  · simp only [nextCheckpoint, chainEnd]
    cases (s.electionCheckpoints release.electionId).getLast? <;> rfl
  · rfl
  · rw [keyId] at found
    refine ⟨enrollment, found, ?_, actor.trans actorId, print.trans fingerprint⟩
    rw [same]
    rfl
  · intro keyEvent among sameKey revoke
    obtain ⟨stored, among, storedKey, revoked⟩ := valid.recorded keyEvent among
    exact absurd (unrevoked stored among (storedKey.trans sameKey)) (revoked revoke)
  · refine ⟨ed25519.publicKey signer, _, ?_, lawful.size signer, rfl, ?_,
      lawful.verifies signer _⟩ <;> simp [nextCheckpoint]
  · rfl

theorem appendTransaction_invariant {issued : Option Instant} (lawful : ed25519.Lawful)
    (valid : LedgerInvariant sha256 ed25519 s)
    (pending : CallValid sha256 ed25519 s (.append release signer governedKey (some event) issued))
    (unrevoked : release.manifestSha256 ∉ s.checkpoints.map (·.payload.manifestSha256) →
      ∀ key ∈ s.keys, key.keyId = governedKey.keyId → key.revokedAt = none)
    (h : appendTransaction sha256 ed25519 s release signer governedKey event issuedAt = some t) :
    LedgerInvariant sha256 ed25519 t := by
  simp only [appendTransaction, Option.ite_none_left_eq_some, not_or, Option.some.injEq] at h
  obtain ⟨⟨fresh, -⟩, rfl⟩ := h
  set checkpoint := nextCheckpoint sha256 ed25519 s release signer governedKey event issuedAt
    with added
  have next : CheckpointValid sha256 ed25519 s.events release.electionId _ _ checkpoint :=
    nextCheckpoint_valid lawful valid pending (unrevoked fresh)
  refine { valid with checkpoints := fun electionId => ?_, ordered := ?_, calls := ?_ }
  · simp only [GovernanceState.electionCheckpoints, List.filter_append]
    by_cases same : release.electionId = electionId
    · subst same
      have passed := checkCheckpoints_snoc (valid.checkpoints release.electionId) next
      have numbered := next.numbered
      simp only [GovernanceState.electionCheckpoints] at passed numbered
      simp [next.election, passed, chainEnd, numbered]
    · have other : checkpoint.payload.electionId ≠ electionId := same
      have dropped : [checkpoint].filter (·.payload.electionId = electionId) = [] := by simp [other]
      rw [dropped, List.append_nil]
      exact valid.checkpoints electionId
  · intro stored member keyEvent among
    rcases List.mem_append.mp member with old | new
    · exact valid.ordered stored old keyEvent among
    · rw [List.mem_singleton.mp new]
      exact next.unrevoked keyEvent among
  · intro call other found
    exact (valid.calls call other found).extend (fun row member => ⟨row, member, rfl, rfl, rfl⟩)
      ⟨[], by simp⟩

/-! ## Runs -/

theorem LedgerInvariant.setCall (valid : LedgerInvariant sha256 ed25519 s) (call : Nat)
    (next : CallValid sha256 ed25519 s pending) :
    LedgerInvariant sha256 ed25519 (s.setCall call (some pending)) := by
  refine { valid with calls := fun other found within => ?_ }
  by_cases same : other = call
  · simp only [GovernanceState.setCall, same, Function.update_self, Option.some.injEq] at within
    exact within ▸ next
  · simp only [GovernanceState.setCall, Function.update_of_ne same] at within
    exact valid.calls other found within

theorem LedgerInvariant.finish (valid : LedgerInvariant sha256 ed25519 s) (call : Nat) :
    LedgerInvariant sha256 ed25519 (s.finish call) := by
  refine { valid with calls := fun other found within => ?_ }
  by_cases same : other = call
  · simp [GovernanceState.finish, GovernanceState.setCall, same] at within
  · simp only [GovernanceState.finish, GovernanceState.setCall,
      Function.update_of_ne same] at within
    exact valid.calls other found within

theorem enrolledKey_valid
    (h : enrolledKey sha256 actorId publicKeyB64 performedBy label now = .ok key) :
    KeyDecodes sha256 key ∧ key.revokedAt = none := by
  simp only [enrolledKey, bind_eq_ok, raiseIf_ok, not_not, exists_const, pure, Except.pure,
    Except.ok.injEq] at h
  obtain ⟨raw, decoded, size, -, rfl⟩ := h
  exact ⟨⟨raw, decoded, size, rfl⟩, rfl⟩

theorem activeKey_stored (h : s.activeKey fingerprint = some key) :
    key ∈ (s : GovernanceState Key).keys ∧ key.publicKeySha256 = fingerprint := by
  refine ⟨List.mem_of_find?_eq_some h, ?_⟩
  have := List.find?_some h
  simp only [Bool.decide_and, Bool.and_eq_true, decide_eq_true_eq] at this
  exact this.1

theorem governanceStep_invariant (lawful : ed25519.Lawful) (s : GovernanceState Key)
    (a : GovernanceAction Key) (t : GovernanceState Key) (valid : LedgerInvariant sha256 ed25519 s)
    (ordered : RevocationOrdered s a) (h : governanceStep sha256 ed25519 s a = some t) :
    LedgerInvariant sha256 ed25519 t := by
  cases a with
  | tick elapsed => cases h; exact { valid with }
  | enroll call actorId publicKeyB64 performedBy label =>
    simp only [governanceStep] at h
    split at h
    · rename_i key built
      cases h
      exact valid.setCall call (enrolledKey_valid built)
    · cases h
  | revoke call keyId performedBy =>
    simp only [governanceStep] at h
    split at h
    · cases h; exact valid.setCall call trivial
    · cases h
  | append call release signer =>
    simp only [governanceStep] at h
    split at h
    · rename_i governedKey idle active
      obtain ⟨stored, fingerprint⟩ := activeKey_stored active
      simp only [Option.ite_none_right_eq_some, Option.some.injEq] at h
      obtain ⟨-, rfl⟩ := h
      exact valid.setCall call ⟨⟨governedKey, stored, rfl, rfl, fingerprint⟩, by simp⟩
    · cases h
  | readEnrollment call =>
    simp only [governanceStep] at h
    split at h
    · rename_i release signer governedKey pending
      have known := valid.calls call _ pending
      split at h
      · rename_i event found
        cases h
        refine valid.setCall call ⟨known.1, fun read eq => ?_⟩
        cases eq
        exact found
      · cases h; exact valid.finish call
    · cases h
  | begin call =>
    simp only [governanceStep] at h
    split at h
    · cases h
    · cases h; exact { valid with }
    · cases h
  | sampleIssuedAt call =>
    simp only [governanceStep] at h
    split at h
    · rename_i release signer governedKey event pending
      simp only [Option.ite_none_right_eq_some, Option.some.injEq] at h
      obtain ⟨-, rfl⟩ := h
      have known := valid.calls call _ pending
      exact valid.setCall call known
    · cases h
  | commit call =>
    simp only [governanceStep, Option.ite_none_right_eq_some] at h
    obtain ⟨-, h⟩ := h
    simp only [RevocationOrdered] at ordered
    split at h
    · rename_i key performedBy pending
      cases h
      refine LedgerInvariant.finish ?_ call
      cases done : enrollTransaction sha256 s key performedBy with
      | none => exact valid
      | some t => exact enrollTransaction_invariant valid (valid.calls call _ pending) done
    · rename_i keyId performedBy now pending
      cases h
      refine LedgerInvariant.finish ?_ call
      rw [pending] at ordered
      cases done : revokeTransaction sha256 s keyId performedBy now with
      | none => exact valid
      | some t => exact revokeTransaction_invariant valid ordered done
    · rename_i release signer governedKey event issuedAt pending
      cases h
      refine LedgerInvariant.finish ?_ call
      rw [pending] at ordered
      cases done : appendTransaction sha256 ed25519 s release signer governedKey event issuedAt with
      | none => exact valid
      | some t =>
        exact appendTransaction_invariant lawful valid (valid.calls call _ pending) ordered done
    · cases h
  | abort call => cases h; exact valid.finish call

theorem LedgerInvariant.verifiable (valid : LedgerInvariant sha256 ed25519 s) :
    Verifiable sha256 ed25519 s := by
  refine ⟨fun electionId => ?_, valid.ordered⟩
  have transparent : (verifyReleaseKeyTransparency sha256 s.events).valid = true := by
    simp only [verifyReleaseKeyTransparency, valid.chained]
  have passed := valid.checkpoints electionId
  simp only [GovernanceState.electionCheckpoints, chainEnd] at passed
  exact ⟨_, by simp only [verifyCheckpointChain, transparent, passed]; rfl, rfl⟩

/-- Every chain verifies after every run in which no checkpoint is committed for a revoked
key and no revocation commits with a clock sample that a checkpoint of its key has passed. -/
theorem run_verifiable {actions : List (GovernanceAction Key)} {s : GovernanceState Key}
    (lawful : ed25519.Lawful)
    (reached : Transition.run (governanceStep sha256 ed25519) .initial actions = some s)
    (ordered : Transition.Meets (governanceStep sha256 ed25519) RevocationOrdered .initial actions) :
    Verifiable sha256 ed25519 s :=
  (Transition.run_invariant (governanceStep_invariant lawful) initial_ledgerInvariant ordered
    reached).verifiable

def mirrorKeyB64 : String := String.ofList (b64encode (mirrorEd25519.publicKey ()))

def mirrorRelease : ReleaseView :=
  ⟨"election", "release", checksum [1], checksum [2], checksum (mirrorEd25519.publicKey ())⟩

def mirrorKeyId : String := signingKeyId checksum "actor" (checksum (mirrorEd25519.publicKey ()))

def enrollMirror : List (GovernanceAction Unit) :=
  [.enroll 0 "actor" mirrorKeyB64 "admin" none, .begin 0, .commit 0, .tick 5]

/-- A key signs a checkpoint and is revoked afterwards. -/
def appendThenRevoke : List (GovernanceAction Unit) := enrollMirror ++
  [.append 1 mirrorRelease (), .readEnrollment 1, .begin 1, .sampleIssuedAt 1, .commit 1, .tick 5,
    .revoke 2 mirrorKeyId "admin", .begin 2, .commit 2]

theorem appendThenRevoke_verifiable : ∃ s,
    Transition.run (governanceStep checksum mirrorEd25519) .initial appendThenRevoke = some s ∧
    s.checkpoints.length = 1 ∧ s.events.length = 2 ∧ Verifiable checksum mirrorEd25519 s := by
  obtain ⟨s, reached, stored⟩ := @Transition.run_test _ _ (governanceStep checksum mirrorEd25519)
    .initial appendThenRevoke (fun s => s.checkpoints.length = 1 ∧ s.events.length = 2)
    (by decide +kernel)
  simp only [Bool.decide_and, Bool.and_eq_true, decide_eq_true_eq] at stored
  exact ⟨s, reached, stored.1, stored.2,
    run_verifiable ⟨fun _ => rfl, fun _ _ => by simp [mirrorEd25519]⟩ reached (by decide +kernel)⟩

/-- A revocation commits between the reads and the transaction of an append. -/
def revokeDuringAppend : List (GovernanceAction Unit) := enrollMirror ++
  [.append 1 mirrorRelease (), .readEnrollment 1, .revoke 2 mirrorKeyId "admin", .begin 2,
    .commit 2, .tick 5, .begin 1, .sampleIssuedAt 1, .commit 1]

/-- The chain of the election is invalid after the last commit. -/
theorem revokeDuringAppend_notVerifiable : ∃ s,
    Transition.run (governanceStep checksum mirrorEd25519) .initial revokeDuringAppend = some s ∧
    ¬Verifiable checksum mirrorEd25519 s ∧
    verifyCheckpointChain checksum mirrorEd25519 s.events s.checkpoints "election" = .ok ⟨"election",
      false, 0, none, some "ValueError: checkpoint was issued after release-key revocation"⟩ := by
  obtain ⟨s, reached, failed⟩ := @Transition.run_test _ _ (governanceStep checksum mirrorEd25519)
    .initial revokeDuringAppend (fun s =>
      verifyCheckpointChain checksum mirrorEd25519 s.events s.checkpoints "election" = .ok ⟨"election",
        false, 0, none, some "ValueError: checkpoint was issued after release-key revocation"⟩)
    (by decide +kernel)
  have failed := of_decide_eq_true failed
  refine ⟨s, reached, fun verifiable => ?_, failed⟩
  obtain ⟨report, verified, valid⟩ := verifiable.chains "election"
  rw [failed, Except.ok.injEq] at verified
  rw [← verified] at valid
  cases valid

end BallotProof
