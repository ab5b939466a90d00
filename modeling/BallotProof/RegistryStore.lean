import BallotProof.Aware
import BallotProof.Governance
import BallotProof.HashChain
import BallotProof.RegistryDocuments
import BallotProof.Rows

/-! The store of election registries: a table of snapshots, one hash chain an election. A
snapshot is read back from its row, with the payload validated again. -/
namespace BallotProof
open Python HashChain Sql

structure ElectionRegistrySnapshot where
  snapshotId : String
  electionId : String
  version : Nat
  positive : 1 ≤ version
  column : version < integerLimit
  payload : ElectionRegistryPayload
  storedAt : Timestamp
  previousSnapshotHash : Option Digest
  snapshotHash : Digest

/-- A row of `registry_snapshots`. The columns of times and hashes hold their texts, which
determine them. -/
structure RegistryRow where
  electionId : String
  version : Nat
  column : version < integerLimit
  snapshotId : String
  payloadJson : Json
  storedAt : Timestamp
  previousSnapshotHash : Option Digest
  snapshotHash : Digest

/-- `_hash_body` -/
def registryHashBody (snapshotId electionId : String) (version : Nat) (payload : ElectionRegistryPayload)
    (storedAt : Timestamp) (previous : Option Digest) : Json := .obj [
  ("election_id", .str electionId),
  ("payload", payload.hashDocument.toJson),
  ("previous_snapshot_hash", optionalHash previous),
  ("snapshot_id", .str snapshotId),
  ("stored_at", .str storedAt.isoformat),
  ("version", .int version)]

def ElectionRegistrySnapshot.hashBody (s : ElectionRegistrySnapshot) : Json :=
  registryHashBody s.snapshotId s.electionId s.version s.payload s.storedAt s.previousSnapshotHash

structure RegistryChainVerification where
  electionId : String
  valid : Bool
  snapshotsChecked : Nat
  failureVersion : Option Nat
  deriving DecidableEq

section
variable (sha256 : Bytes → Digest) (conversions : Conversions)

/-- What `verify_chain` looks at in a snapshot. -/
def registryLog : Log ElectionRegistrySnapshot Digest where
  version := (·.version)
  previous := (·.previousSnapshotHash)
  hash := (·.snapshotHash)
  expected s := hashRecord sha256 s.hashBody

/-- `_row_to_snapshot` -/
def RegistryRow.toSnapshot (row : RegistryRow) : Result ElectionRegistrySnapshot := do
  let payload ← ElectionRegistryPayload.modelValidate conversions row.payloadJson
  if positive : 1 ≤ row.version then
    return ⟨row.snapshotId, row.electionId, row.version, positive, row.column, payload, row.storedAt,
      row.previousSnapshotHash, row.snapshotHash⟩
  else rejected "Input should be greater than or equal to 1"

/-- The rows of an election, `ORDER BY version`. -/
def registryRows (rows : List RegistryRow) (electionId : String) : List RegistryRow :=
  selectOrdered (·.electionId) (·.version) electionId rows

/-- `ElectionRegistryStore.history` -/
def registryHistory (rows : List RegistryRow) (electionId : String) :
    Result (List ElectionRegistrySnapshot) :=
  (registryRows rows electionId).mapM (·.toSnapshot conversions)

/-- The loop of `verify_chain`. -/
def verifyRegistry (electionId : String) (history : List ElectionRegistrySnapshot) :
    RegistryChainVerification :=
  match (registryLog sha256).firstBroken none history with
  | some s => ⟨electionId, false, s.version, some s.version⟩
  | none => ⟨electionId, true, history.length, none⟩

/-- `ElectionRegistryStore.verify_chain` -/
def verifyRegistryChain (rows : List RegistryRow) (electionId : String) :
    Result RegistryChainVerification := do
  let history ← registryHistory conversions rows electionId
  return verifyRegistry sha256 electionId history

/-- `ElectionRegistryStore.append`, when the clock reads `storedAt` and the uuid is `uuid`. -/
def registryAppend (rows : List RegistryRow) (payload : ElectionRegistryPayload) (uuid : String)
    (storedAt : Timestamp) : Result (ElectionRegistrySnapshot × List RegistryRow) :=
  let previous := (registryRows rows payload.electionId).getLast?
  let version := (previous.map (·.version + 1)).getD 1
  let previousHash := previous.map (·.snapshotHash)
  let snapshotId := "bp_reg_" ++ uuid
  let snapshotHash := hashRecord sha256
    (registryHashBody snapshotId payload.electionId version payload storedAt previousHash)
  if column : version < integerLimit then
    if positive : 1 ≤ version then
      let row : RegistryRow := ⟨payload.electionId, version, column, snapshotId, payload.dict.toJson,
        storedAt, previousHash, snapshotHash⟩
      if (∃ other ∈ rows, other.electionId = row.electionId ∧ other.version = row.version) ∨
          (∃ other ∈ rows, other.snapshotId = row.snapshotId) ∨
          ∃ other ∈ rows, other.snapshotHash = row.snapshotHash then
        .error ⟨.integrityError, "UNIQUE constraint failed"⟩
      else .ok (⟨snapshotId, payload.electionId, version, positive, column, payload, storedAt,
        previousHash, snapshotHash⟩, rows ++ [row])
    else rejected "Input should be greater than or equal to 1"
  else .error ⟨.overflowError, "Python int too large to convert to SQLite INTEGER"⟩

end

theorem version_intFits {version : Nat} (column : version < integerLimit) :
    intFits (version : Int) = true := by
  have limit : version < 10 ^ 19 := column.trans_le (by norm_num [integerLimit])
  have short := decimal_length_le (by norm_num) limit
  rw [intFits, Int.natAbs_natCast, decide_eq_true_eq]
  exact short.trans (by decide)

theorem registryHashBody_wellFormed (s : ElectionRegistrySnapshot) : s.hashBody.wellFormed = true := by
  simp only [ElectionRegistrySnapshot.hashBody, registryHashBody, Json.wellFormed, Bool.and_eq_true]
  refine ⟨by simp only [keysAscend]; decide, wellFormedEntries_iff.mpr ?_⟩
  simp only [List.mem_cons, List.not_mem_nil, or_false, forall_eq_or_imp, forall_eq]
  exact ⟨str_wellFormed _, Dict.toJson_wellFormed _, optionalText_wellFormed _, str_wellFormed _,
    str_wellFormed _, int_wellFormed (version_intFits s.column)⟩

/-- The body that is hashed holds everything but the hash. -/
theorem registryHashBody_injective {s t : ElectionRegistrySnapshot} (same : s.hashBody = t.hashBody)
    (hash : s.snapshotHash = t.snapshotHash) : s = t := by
  simp only [ElectionRegistrySnapshot.hashBody, registryHashBody, Json.obj.injEq, List.cons.injEq,
    Prod.mk.injEq, true_and, and_true, Json.str.injEq, Json.int.injEq, Nat.cast_inj] at same
  obtain ⟨election, payload, previous, snapshot, stored, version⟩ := same
  have payload := hashDocument_injective (Dict.toJson_injective payload)
  have previous := optionalHash_injective previous
  have stored := Timestamp.isoformat_injective stored
  cases s
  cases t
  simp_all

section
variable {sha256 : Bytes → Digest} {conversions : Conversions}

theorem verifyRegistry_valid {history : List ElectionRegistrySnapshot} (electionId : String) :
    (verifyRegistry sha256 electionId history).valid = true ↔
      (registryLog sha256).Linked none history := by
  rw [← Log.firstBroken_none, verifyRegistry]
  cases (registryLog sha256).firstBroken none history <;> simp

/-- The row that is inserted for a snapshot. -/
def ElectionRegistrySnapshot.row (s : ElectionRegistrySnapshot) : RegistryRow :=
  ⟨s.electionId, s.version, s.column, s.snapshotId, s.payload.dict.toJson, s.storedAt,
    s.previousSnapshotHash, s.snapshotHash⟩

/-- The table holds the rows of snapshots that form one chain an election. -/
structure RegistryChains (sha256 : Bytes → Digest) (snapshots : List ElectionRegistrySnapshot)
    (rows : List RegistryRow) : Prop where
  rows : rows = snapshots.map (·.row)
  elections : ∀ s ∈ snapshots, s.payload.electionId = s.electionId
  chains : (registryLog sha256).Keyed (·.electionId) snapshots

theorem toSnapshot_row {s : ElectionRegistrySnapshot} (back : s.payload.ReadsBack conversions) :
    s.row.toSnapshot conversions = .ok s := by
  simp only [RegistryRow.toSnapshot, ElectionRegistrySnapshot.row, modelValidate_dict back, ok_bind]
  exact dif_pos s.positive

theorem RegistryChains.nil : RegistryChains sha256 [] [] := ⟨rfl, by simp, .nil⟩

namespace RegistryChains
variable {snapshots : List ElectionRegistrySnapshot} {rows : List RegistryRow}

/-- The rows of an election come in the order in which they were appended. -/
theorem ordered (chains : RegistryChains sha256 snapshots rows) (electionId : String) :
    registryRows rows electionId = (snapshots.filter (·.electionId = electionId)).map (·.row) := by
  have filtered : rows.filter (·.electionId = electionId) =
      (snapshots.filter (·.electionId = electionId)).map (·.row) := by
    rw [chains.rows, List.filter_map]
    rfl
  rw [registryRows, selectOrdered, filtered]
  apply orderBy_of_ascending
  rw [List.map_map]
  exact (chains.chains.numbered electionId).ascending

theorem history (chains : RegistryChains sha256 snapshots rows)
    (back : ∀ s ∈ snapshots, s.electionId = electionId → s.payload.ReadsBack conversions) :
    registryHistory conversions rows electionId =
      .ok (snapshots.filter (·.electionId = electionId)) := by
  rw [registryHistory, chains.ordered electionId]
  have back : ∀ s ∈ snapshots.filter (·.electionId = electionId),
      s.row.toSnapshot conversions = .ok s := fun s member => by
    obtain ⟨member, election⟩ := List.mem_filter.mp member
    exact toSnapshot_row (back s member (of_decide_eq_true election))
  generalize snapshots.filter (·.electionId = electionId) = read at back
  induction read with
  | nil => rfl
  | cons s rest ih =>
    rw [List.map_cons, List.mapM_cons, back s List.mem_cons_self,
      ih fun t member => back t (List.mem_cons_of_mem _ member)]
    rfl

/-- A chain whose payloads can be read is reported valid, with as many snapshots as versions. -/
theorem verified (chains : RegistryChains sha256 snapshots rows)
    (back : ∀ s ∈ snapshots, s.electionId = electionId → s.payload.ReadsBack conversions) :
    verifyRegistryChain sha256 conversions rows electionId =
      .ok ⟨electionId, true, (snapshots.filter (·.electionId = electionId)).length, none⟩ := by
  have linked := Log.firstBroken_none.mpr (chains.chains.linked electionId)
  rw [verifyRegistryChain, chains.history back, ok_bind, verifyRegistry, linked]
  rfl

/-- A chain is reported on only when each of its payloads can be read. -/
theorem verified_reads (chains : RegistryChains sha256 snapshots rows)
    (h : verifyRegistryChain sha256 conversions rows electionId = .ok report) :
    ∀ s ∈ snapshots, s.electionId = electionId →
      ∃ read, ElectionRegistryPayload.modelValidate conversions s.payload.dict.toJson = .ok read := by
  obtain ⟨history, reads, -⟩ := bind_ok h
  rw [registryHistory, chains.ordered] at reads
  intro s member election
  have stored : s ∈ snapshots.filter (·.electionId = electionId) :=
    List.mem_filter.mpr ⟨member, decide_eq_true election⟩
  generalize snapshots.filter (·.electionId = electionId) = listed at reads stored
  induction listed generalizing history with
  | nil => cases stored
  | cons first rest ih =>
    rw [List.map_cons, List.mapM_cons] at reads
    obtain ⟨snapshot, read, reads⟩ := bind_ok reads
    obtain ⟨others, below, -⟩ := bind_ok reads
    rcases List.mem_cons.mp stored with rfl | later
    · obtain ⟨payload, validated, -⟩ := bind_ok read
      exact ⟨payload, validated⟩
    · exact ih others below later

/-- An append that succeeds adds its snapshot at the end of its chain. -/
theorem append (chains : RegistryChains sha256 snapshots rows)
    (h : registryAppend sha256 rows payload uuid storedAt = .ok (s, rows')) :
    RegistryChains sha256 (snapshots ++ [s]) rows' ∧ s.payload = payload := by
  unfold registryAppend at h
  rw [chains.ordered] at h
  simp only [List.getLast?_map, Option.map_map] at h
  split at h
  · split at h
    · split at h
      · cases h
      · cases h
        refine ⟨⟨?_, ?_, chains.chains.snoc ?_ ?_ rfl⟩, rfl⟩
        · rw [chains.rows, List.map_append]
          rfl
        · intro t member
          rcases List.mem_append.mp member with old | new
          · exact chains.elections t old
          · rw [List.mem_singleton.mp new]
        · rfl
        · rfl
    · cases h
  · cases h

end RegistryChains

/-- Where the hash is collision free, equal hashes belong to equal snapshots. -/
theorem registryLog_separates {inputs : List ElectionRegistrySnapshot}
    (free : CollisionFree sha256 (inputs.map fun s => canonicalJsonBytes s.hashBody)) :
    ∀ s ∈ inputs, ∀ t ∈ inputs, (registryLog sha256).expected s = (registryLog sha256).expected t →
      s.snapshotHash = t.snapshotHash → s = t := by
  intro s hs t ht same hash
  have bytes := free _ (List.mem_map.mpr ⟨s, hs, rfl⟩) _ (List.mem_map.mpr ⟨t, ht, rfl⟩) same
  exact registryHashBody_injective (canonicalJsonBytes_injective (registryHashBody_wellFormed s)
    (registryHashBody_wellFormed t) bytes) hash

/-- The hash of the last snapshot commits to the whole history of an election, and the
document that is hashed to the payload. -/
theorem registryHead_commits (conversions : Conversions) :
    (∀ payload other : ElectionRegistryPayload, payload.hashDocument = other.hashDocument →
      payload = other) ∧
    ∀ (rows others : List RegistryRow) (electionId : String)
      (history otherHistory : List ElectionRegistrySnapshot) (report otherReport : RegistryChainVerification),
      registryHistory conversions rows electionId = .ok history →
      registryHistory conversions others electionId = .ok otherHistory →
      verifyRegistryChain sha256 conversions rows electionId = .ok report →
      verifyRegistryChain sha256 conversions others electionId = .ok otherReport →
      report.valid = true → otherReport.valid = true →
      history ≠ [] → otherHistory ≠ [] →
      history.getLast?.map (·.snapshotHash) = otherHistory.getLast?.map (·.snapshotHash) →
      CollisionFree sha256 ((history ++ otherHistory).map fun s => canonicalJsonBytes s.hashBody) →
      history = otherHistory := by
  refine ⟨fun _ _ same => hashDocument_injective same, ?_⟩
  intro rows others electionId history otherHistory report otherReport read read' checked checked'
    valid valid' _ _ head free
  obtain ⟨known, reread, built⟩ := bind_ok checked
  obtain ⟨known', reread', built'⟩ := bind_ok checked'
  rw [read] at reread
  rw [read'] at reread'
  cases reread
  cases reread'
  cases built
  cases built'
  have separates := registryLog_separates free
  refine Log.linked_unique (fun s hs t ht => separates s (List.mem_append_left _ hs) t
    (List.mem_append_right _ ht)) ((verifyRegistry_valid _).mp valid)
    ((verifyRegistry_valid _).mp valid') ?_
  rw [Log.head_eq_getLast, Log.head_eq_getLast]
  exact head

end

/-- Conversions that leave every text as it is. -/
def sampleConversions : Conversions where
  datetime
    | .str text => some text
    | _ => none
  url := some
  integer
    | .int n => some n
    | _ => none
  integer_int _ := rfl

theorem sampleRegistry_readsBack :
    (sampleRegistry ["a", "b"] ["u", "v"]).ReadsBack sampleConversions :=
  ⟨by decide +kernel, rfl, rfl, by simp [sampleRegistry]⟩

/-- The first snapshot of an election. -/
theorem firstVersion_positive : 1 ≤ 1 := le_rfl

def firstRegistrySnapshot (uuid : String) : ElectionRegistrySnapshot where
  snapshotId := uuid
  electionId := "e"
  version := 1
  positive := firstVersion_positive
  column := Sql.one_lt_integerLimit
  payload := sampleRegistry ["a", "b"] ["u", "v"]
  storedAt := .aware (Datetime.utc 0 Datetime.epoch_range)
  previousSnapshotHash := none
  snapshotHash := hashRecord checksum (registryHashBody uuid "e" 1
    (sampleRegistry ["a", "b"] ["u", "v"]) (.aware (Datetime.utc 0 Datetime.epoch_range)) none)

/-- A store of one election, and one with a snapshot of another election before it. -/
theorem firstRegistrySnapshot_commits :
    ∃ rows others history otherHistory, rows ≠ others ∧
      registryHistory sampleConversions rows "e" = .ok history ∧
      registryHistory sampleConversions others "e" = .ok otherHistory ∧ history = otherHistory := by
  let s := firstRegistrySnapshot "u"
  have back : s.row.toSnapshot sampleConversions = .ok s := toSnapshot_row sampleRegistry_readsBack
  have rows : registryRows [s.row] "e" = [s.row] := rfl
  have others : registryRows [{ s.row with electionId := "f" }, s.row] "e" = [s.row] := rfl
  have history : registryHistory sampleConversions [s.row] "e" = .ok [s] := by
    rw [registryHistory, rows, List.mapM_cons, back]
    rfl
  have history' : registryHistory sampleConversions [{ s.row with electionId := "f" }, s.row] "e" =
      .ok [s] := by
    rw [registryHistory, others, List.mapM_cons, back]
    rfl
  have linked : (registryLog checksum).Linked none [s] := ⟨⟨rfl, rfl⟩, trivial⟩
  have valid (id : String) := (verifyRegistry_valid id).mpr linked
  refine ⟨_, _, _, _, fun same => ?_, history, history', ?_⟩
  · exact absurd (congrArg List.length same) (by decide)
  · apply (registryHead_commits sampleConversions).2 _ _ "e" [s] [s] _ _ history history'
      (bind_eq_ok.mpr ⟨_, history, rfl⟩) (bind_eq_ok.mpr ⟨_, history', rfl⟩) (valid "e") (valid "e")
      (by simp) (by simp) rfl
    intro x hx y hy _
    simp only [List.cons_append, List.nil_append, List.map_cons, List.map_nil, List.mem_cons,
      List.not_mem_nil, or_false, or_self] at hx hy
    rw [hx, hy]

end BallotProof
