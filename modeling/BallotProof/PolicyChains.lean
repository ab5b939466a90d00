import BallotProof.JsonReader
import BallotProof.HashChain
import BallotProof.Requests
import BallotProof.Sources

/-! The chain of source policies in SQLite and in Postgres. Postgres returns `stored_at` in the time
zone of the session, and the hash is recomputed from the text of what it returns. -/
namespace BallotProof
open Python HashChain Requests

/-- `append(policy)`, when the uuid is `uuid` and `datetime.now(UTC)` is `storedAt`. -/
structure PolicyAppend where
  policy : SourcePolicy
  uuid : String
  storedAt : Datetime
  utc : storedAt.offset = 0

inductive PolicyBackend where
  | sqlite
  | postgres
  deriving DecidableEq

/-- The largest INTEGER of the column `version`. -/
def PolicyBackend.maxVersion : PolicyBackend → Nat
  | .sqlite => 2 ^ 63 - 1
  | .postgres => 2 ^ 31 - 1

/-- What the database answers to a larger one. -/
def PolicyBackend.versionError : PolicyBackend → Error
  | .sqlite => ⟨.overflowError, "Python int too large to convert to SQLite INTEGER"⟩
  | .postgres => ⟨.dataError, "integer out of range"⟩

/-- The time zone of a session: its offset at each instant. -/
structure SessionZone where
  offset : Int → Int
  day : ∀ instant, -microsPerDay < offset instant ∧ offset instant < microsPerDay

/-- A TIMESTAMPTZ as the driver returns it. -/
def SessionZone.read (zone : SessionZone) (t : Datetime) : Result Datetime :=
  if range : minLocal ≤ t.instant + zone.offset t.instant ∧ t.instant + zone.offset t.instant < maxLocal then
    .ok ⟨t.instant, zone.offset t.instant, zone.day t.instant, range⟩
  else .error ⟨.dataError, "timestamp out of range"⟩

structure SourcePolicyChainVerification where
  sourceId : String
  valid : Bool
  snapshotsChecked : Nat
  failureVersion : Option Nat
  deriving DecidableEq

section
variable (sha256 : Bytes → Digest) (modelValidate : Json → Result SourcePolicy)

/-- `append`: the snapshot validates the dump of the policy, and the row keeps the policy. -/
def servePolicyAppend (backend : PolicyBackend) (rows : List SourcePolicySnapshot) (append : PolicyAppend) :
    Result (SourcePolicySnapshot × List SourcePolicySnapshot) := do
  raiseIf (backend = .postgres ∧ '\x00' ∈ append.policy.sourceId.toList)
    ⟨.dataError, "PostgreSQL text fields cannot contain NUL (0x00) bytes"⟩
  let snapshotId := "bp_pol_" ++ append.uuid
  let snapshot := nextPolicySnapshot sha256 rows append.policy snapshotId append.storedAt
  let policy ← modelValidate append.policy.modelDump
  raiseIf (backend.maxVersion < snapshot.version) backend.versionError
  match appendPolicy sha256 rows append.policy snapshotId append.storedAt with
  | none => .error ⟨.integrityError, "unique constraint"⟩
  | some after => return ({ snapshot with policy }, after)

/-- The table of a backend after some appends. -/
def policyRows (backend : PolicyBackend) (appends : List PolicyAppend) : List SourcePolicySnapshot :=
  run (servePolicyAppend sha256 modelValidate backend) [] appends

/-- The columns of a row, and the hash of its body. -/
def policyLog : Log SourcePolicySnapshot Digest where
  version := (·.version)
  previous := (·.previousSnapshotHash)
  hash := (·.snapshotHash)
  expected s := hashRecord sha256
    (policyHashBody s.snapshotId s.sourceId s.version s.policy s.storedAt s.previousSnapshotHash)

/-- The loop of `verify_chain`. -/
def policyChainReport (sourceId : String) (history : List SourcePolicySnapshot) : SourcePolicyChainVerification :=
  match (policyLog sha256).firstBroken none history with
  | some s => ⟨sourceId, false, s.version, some s.version⟩
  | none => ⟨sourceId, true, history.length, none⟩

/-- `SourcePolicyStore.verify_chain`, over the texts in the rows. -/
def verifyPolicyChain (rows : List SourcePolicySnapshot) (sourceId : String) : SourcePolicyChainVerification :=
  policyChainReport sha256 sourceId (policyHistory rows sourceId)

/-- `PostgresSourcePolicyStore._row_to_snapshot` -/
def readPolicyRow (zone : SessionZone) (row : SourcePolicySnapshot) : Result SourcePolicySnapshot := do
  let storedAt ← zone.read row.storedAt
  let policy ← modelValidate row.policy.modelDump
  return { row with policy, storedAt }

/-- `PostgresSourcePolicyStore.verify_chain` -/
def verifyPolicyChainPostgres (zone : SessionZone) (rows : List SourcePolicySnapshot) (sourceId : String) :
    Result SourcePolicyChainVerification := do
  let history ← (policyHistory rows sourceId).mapM (readPolicyRow modelValidate zone)
  return policyChainReport sha256 sourceId history

end

section
variable {sha256 : Bytes → Digest} {modelValidate : Json → Result SourcePolicy}

theorem policyChainReport_valid : (policyChainReport sha256 sourceId history).valid = true ↔
    (policyLog sha256).Linked none history := by
  rw [← Log.firstBroken_none, policyChainReport]
  cases (policyLog sha256).firstBroken none history <;> simp

/-- What an append that succeeds does to the table. -/
theorem servePolicyAppend_ok {append : PolicyAppend}
    (h : servePolicyAppend sha256 modelValidate backend rows append = .ok (answer, after)) :
    after = rows ++ [nextPolicySnapshot sha256 rows append.policy ("bp_pol_" ++ append.uuid) append.storedAt] := by
  simp only [servePolicyAppend] at h
  obtain ⟨_, _, h⟩ := bind_ok h
  obtain ⟨_, _, h⟩ := bind_ok h
  obtain ⟨_, _, h⟩ := bind_ok h
  split at h
  · cases h
  · next stored =>
    cases h
    simp only [appendPolicy] at stored
    split at stored
    · cases stored
    · exact (Option.some.inj stored).symm

/-- Each source has one chain of policies that are read back as they are, stored in UTC. -/
structure PolicyChains (sha256 : Bytes → Digest) (modelValidate : Json → Result SourcePolicy)
    (rows : List SourcePolicySnapshot) : Prop where
  chains : (policyLog sha256).Keyed (·.sourceId) rows
  utc : ∀ row ∈ rows, row.storedAt.offset = 0
  fixed : ∀ row ∈ rows, modelValidate row.policy.modelDump = .ok row.policy

theorem nextPolicySnapshot_version (sha256 : Bytes → Digest) (rows : List SourcePolicySnapshot)
    (policy : SourcePolicy) (snapshotId : String) (storedAt : Datetime) :
    (nextPolicySnapshot sha256 rows policy snapshotId storedAt).version =
      ((policyHistory rows policy.sourceId).getLast?.map (·.version + 1)).getD 1 := by
  simp only [nextPolicySnapshot]
  cases (policyHistory rows policy.sourceId).getLast? <;> rfl

theorem PolicyChains.append {append : PolicyAppend} (chains : PolicyChains sha256 modelValidate rows)
    (fixed : modelValidate append.policy.modelDump = .ok append.policy)
    (h : servePolicyAppend sha256 modelValidate backend rows append = .ok (answer, after)) :
    PolicyChains sha256 modelValidate after := by
  rw [servePolicyAppend_ok h]
  refine ⟨chains.chains.snoc ?_ rfl rfl, fun row member => ?_, fun row member => ?_⟩
  · exact nextPolicySnapshot_version sha256 rows append.policy ("bp_pol_" ++ append.uuid) append.storedAt
  · rcases List.mem_append.mp member with old | new
    · exact chains.utc row old
    · rw [List.mem_singleton.mp new]
      exact append.utc
  · rcases List.mem_append.mp member with old | new
    · exact chains.fixed row old
    · rw [List.mem_singleton.mp new]
      exact fixed

theorem policyRows_chains (backend : PolicyBackend) {appends : List PolicyAppend}
    (fixed : ∀ append ∈ appends, modelValidate append.policy.modelDump = .ok append.policy) :
    PolicyChains sha256 modelValidate (policyRows sha256 modelValidate backend appends) := by
  have meets : Meets (servePolicyAppend sha256 modelValidate backend)
      (fun _ append => modelValidate append.policy.modelDump = .ok append.policy) [] appends :=
    .of_forall fun append member _ => fixed append member
  exact run_keeps (fun rows append answer after chains fixed served => chains.append fixed served)
    ⟨.nil, by simp, by simp⟩ meets

/-- Rows stay. -/
theorem policyRows_grow {seen appends : List PolicyAppend} (backend : PolicyBackend) (front : seen <+: appends) :
    policyRows sha256 modelValidate backend seen <+: policyRows sha256 modelValidate backend appends := by
  obtain ⟨rest, rfl⟩ := front
  rw [policyRows, policyRows, run_append]
  have meets : Meets (servePolicyAppend sha256 modelValidate backend) (fun _ _ => True)
      (run (servePolicyAppend sha256 modelValidate backend) [] seen) rest := .of_forall fun _ _ _ => trivial
  refine run_keeps (fun rows append answer after grown _ served => ?_) (List.prefix_refl _) meets
  rw [servePolicyAppend_ok served]
  exact grown.trans (List.prefix_append _ _)

/-- The SQLite store finds its chain valid after every append. -/
theorem verifyPolicyChain_valid (chains : PolicyChains sha256 modelValidate rows) (sourceId : String) :
    (verifyPolicyChain sha256 rows sourceId).valid = true :=
  policyChainReport_valid.mpr (chains.chains.linked sourceId)

/-- A session in UTC reads the rows as they were written. -/
theorem readPolicyRow_utc (chains : PolicyChains sha256 modelValidate rows) (member : row ∈ rows)
    (utc : zone.offset row.storedAt.instant = 0) : readPolicyRow modelValidate zone row = .ok row := by
  have stored := chains.utc row member
  have read : zone.read row.storedAt = .ok row.storedAt := by
    have range := row.storedAt.local_range
    rw [stored] at range
    have inside : minLocal ≤ row.storedAt.instant + zone.offset row.storedAt.instant ∧
        row.storedAt.instant + zone.offset row.storedAt.instant < maxLocal := by rwa [utc]
    rw [SessionZone.read, dif_pos inside]
    exact congrArg Except.ok (Datetime.ext rfl (utc.trans stored.symm))
  rw [readPolicyRow, read, ok_bind, chains.fixed row member]
  rfl

theorem verifyPolicyChainPostgres_utc (chains : PolicyChains sha256 modelValidate rows)
    (utc : ∀ row ∈ rows, zone.offset row.storedAt.instant = 0) (sourceId : String) :
    verifyPolicyChainPostgres sha256 modelValidate zone rows sourceId = .ok (verifyPolicyChain sha256 rows sourceId) := by
  have each : ∀ row ∈ policyHistory rows sourceId, readPolicyRow modelValidate zone row = .ok (id row) := by
    intro row member
    have stored := List.mem_of_mem_filter member
    exact readPolicyRow_utc chains stored (utc row stored)
  rw [verifyPolicyChainPostgres, mapM_ok each, List.map_id]
  rfl

/-- The text of a body determines the time in it. -/
theorem policyHashBody_storedAt (same : canonicalJsonBytes (policyHashBody snapshotId sourceId version policy t previous) =
      canonicalJsonBytes (policyHashBody snapshotId sourceId version policy u previous)) : t = u := by
  have texts := encode_injective same
  simp only [policyHashBody, Json.dumps, dumpEntries, List.cons.injEq, true_and,
    List.append_cancel_left_eq, List.append_cancel_right_eq] at texts
  exact Datetime.isoformat_injective (String.toList_injective (quote_injective texts))

section
variable (sha256 modelValidate)

/-- After every append, Postgres finds the chain of every source valid, as SQLite does. -/
def ZoneIndependent (zone : SessionZone) (appends : List PolicyAppend) : Prop :=
  ∀ seen, seen <+: appends → ∀ sourceId, ∃ report,
    verifyPolicyChainPostgres sha256 modelValidate zone (policyRows sha256 modelValidate .postgres seen) sourceId =
      .ok report ∧
    report.valid = true ∧
    report.valid = (verifyPolicyChain sha256 (policyRows sha256 modelValidate .sqlite seen) sourceId).valid

/-- The bodies that are hashed for a row: when it is appended, and when it is read. -/
def hashedBodies (zone : SessionZone) (row : SourcePolicySnapshot) : List Bytes :=
  [row.storedAt, ((zone.read row.storedAt).toOption).getD row.storedAt].map fun storedAt => canonicalJsonBytes
    (policyHashBody row.snapshotId row.sourceId row.version row.policy storedAt row.previousSnapshotHash)

end

/-- A row that verifies was read at the offset of UTC. -/
theorem offset_of_valid (chains : PolicyChains sha256 modelValidate rows) (member : row ∈ rows)
    (free : CollisionFree sha256 (hashedBodies zone row))
    (h : verifyPolicyChainPostgres sha256 modelValidate zone rows row.sourceId = .ok report)
    (valid : report.valid = true) : zone.offset row.storedAt.instant = 0 := by
  obtain ⟨history, reads, built⟩ := bind_ok h
  cases built
  have linked := policyChainReport_valid.mp valid
  have own : row ∈ policyHistory rows row.sourceId := List.mem_filter.mpr ⟨member, by simp⟩
  obtain ⟨snapshot, inside, read⟩ := mapM_mem reads own
  have hash := linked.hash_mem inside
  obtain ⟨storedAt, time, read⟩ := bind_ok read
  rw [chains.fixed row member] at read
  cases read
  have stored := (chains.chains.linked row.sourceId).hash_mem own
  have bytes := free _ (by simp [hashedBodies]) _ (by simp [hashedBodies, time, Except.toOption]) (stored.symm.trans hash)
  have same := policyHashBody_storedAt bytes
  unfold SessionZone.read at time
  split at time
  · cases time
    exact (congrArg Datetime.offset same).symm.trans (chains.utc row member)
  · cases time

/-- The Postgres chain verifies in a session exactly when the zone is at the offset of UTC at every time
that was stored. -/
theorem zoneIndependent_iff (sha256 : Bytes → Digest) (modelValidate : Json → Result SourcePolicy)
    (zone : SessionZone) (appends : List PolicyAppend)
    (fixed : ∀ append ∈ appends, modelValidate append.policy.modelDump = .ok append.policy)
    (free : ∀ row ∈ policyRows sha256 modelValidate .postgres appends, CollisionFree sha256 (hashedBodies zone row)) :
    ZoneIndependent sha256 modelValidate zone appends ↔
      ∀ row ∈ policyRows sha256 modelValidate .postgres appends, zone.offset row.storedAt.instant = 0 := by
  constructor
  · intro independent row member
    obtain ⟨report, verified, valid, -⟩ := independent appends (List.prefix_refl _) row.sourceId
    exact offset_of_valid (policyRows_chains .postgres fixed) member (free row member) verified valid
  · intro utc seen front sourceId
    have fixedSeen : ∀ append ∈ seen, modelValidate append.policy.modelDump = .ok append.policy :=
      fun append member => fixed append (front.subset member)
    have grown : policyRows sha256 modelValidate .postgres seen <+: policyRows sha256 modelValidate .postgres appends :=
      policyRows_grow .postgres front
    have chains : PolicyChains sha256 modelValidate (policyRows sha256 modelValidate .postgres seen) :=
      policyRows_chains .postgres fixedSeen
    refine ⟨_, verifyPolicyChainPostgres_utc chains (fun row member => utc row (grown.subset member)) sourceId, ?_, ?_⟩
    · exact verifyPolicyChain_valid chains sourceId
    · rw [verifyPolicyChain_valid chains, verifyPolicyChain_valid (policyRows_chains .sqlite fixedSeen)]

end

/-- A policy under review without hosts, of which every field is a fixed point of validation. -/
def reviewedPolicy : SourcePolicy where
  sourceId := "inec"
  provider := "INEC"
  baseUrl := none
  allowedHosts := []
  accessStatus := .reviewRequired
  termsReviewedAt := none
  termsReference := none
  requestsPerMinute := 6
  maxAttempts := 3
  backoffSeconds := .finite false unitsPerOne representable_one
  requestTimeoutSeconds := .finite false (20 * unitsPerOne) (by decide +kernel)
  maxResponseBytes := 52428800
  retryStatusCodes := [429]
  captureRawResponse := true
  notes := none

def validated : Json → Result SourcePolicy := fun _ => .ok reviewedPolicy

/-- Appended on the first of January 2026 at noon. -/
def noonAppend : PolicyAppend := ⟨reviewedPolicy, "00", Datetime.utc 1767268800000000 (by decide), rfl⟩

/-- A zone without changes of the clock. -/
def fixedZone (offset : Int) (day : -microsPerDay < offset ∧ offset < microsPerDay) : SessionZone :=
  ⟨fun _ => offset, fun _ => day⟩

theorem londonZone_valid : ZoneIndependent checksum validated (fixedZone 0 (by decide)) [noonAppend] := by
  refine (zoneIndependent_iff checksum validated _ [noonAppend] ?_ ?_).mpr fun _ _ => rfl
  · simp [validated, noonAppend]
  · decide +kernel

/-- In a session of Lagos the chain of one policy is invalid. -/
theorem lagosZone_invalid : ¬ZoneIndependent checksum validated (fixedZone 3600000000 (by decide)) [noonAppend] := by
  intro independent
  obtain ⟨report, verified, valid, -⟩ := independent [noonAppend] (List.prefix_refl _) "inec"
  have invalid : verifyPolicyChainPostgres checksum validated (fixedZone 3600000000 (by decide))
      (policyRows checksum validated .postgres [noonAppend]) "inec" = .ok ⟨"inec", false, 1, some 1⟩ := by
    decide +kernel
  rw [invalid] at verified
  cases verified
  cases valid

end BallotProof
