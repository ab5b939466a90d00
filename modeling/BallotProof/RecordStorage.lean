import BallotProof.Cutover

/-! What the ledger in PostgreSQL gives back: after any run of accepted insertions an election can
be read exactly when the numbers of all its records survive the column of type `jsonb`. -/
namespace BallotProof
open Python Sql

/-- What reading finds in place of the record, if anything. -/
def readBack (r : ReleaseRecord) : Option ReleaseRecord :=
  match (do jsonMapping (← (← jsonbOf r.payload.toJson).loads)) with
  | .ok payload => some { r with payload }
  | .error _ => none

/-- Everything hashed when these records are written and read. -/
def storageInputs (log : List (String × ReleaseRecord)) : List Bytes :=
  log.flatMap fun entry => leafPreimage entry.2 :: (readBack entry.2).toList.map leafPreimage

/-- The tables that accepted calls of `_insert_record` build; a refused call is rolled back. -/
inductive Written (sha256 : Bytes → Digest) : List (String × ReleaseRecord) → List ApplicationRow → Prop
  | empty : Written sha256 [] []
  | insert (written : Written sha256 log rows) (accepted : insertRecord sha256 rows electionId r = .ok rows') :
      Written sha256 (log ++ [(electionId, r)]) rows'

/-- The table keeps one row for each record that was accepted, and no others. -/
structure Keeps (sha256 : Bytes → Digest) (log : List (String × ReleaseRecord)) (rows : List ApplicationRow) :
    Prop where
  unique : Sql.Unique ApplicationRow.key rows
  origin : ∀ row ∈ rows, ∃ r, (row.electionId, r) ∈ log ∧ row.Holds sha256 r
  kept : ∀ entry ∈ log, ∃ row ∈ rows, row.electionId = entry.1 ∧ row.Holds sha256 entry.2

/-- `_records_in_connection` and `release_view` give the record back, under the stored digest. -/
structure ReadsBack (sha256 : Bytes → Digest) (db : ApplicationDb) (electionId : String) (r : ReleaseRecord) :
    Prop where
  records : ∃ records, recordsInConnection sha256 db.records electionId = .ok records ∧ r ∈ records
  view : ∀ cutover, db.cutoverInConnection electionId = some cutover →
    ∃ view, releaseView sha256 db electionId = .ok view ∧ r ∈ view.records
  digest : ∃ row ∈ db.records, row.key = (electionId, r.recordType, r.recordKey) ∧
    recordDigest sha256 r = row.recordSha256

section
variable {sha256 : Bytes → Digest}

theorem ApplicationRow.Holds.key {row : ApplicationRow} (holds : row.Holds sha256 r) :
    row.key = (row.electionId, r.recordType, r.recordKey) := by
  rw [ApplicationRow.key, holds.recordType, holds.recordKey]

theorem ApplicationRow.Holds.finite {row : ApplicationRow} (holds : row.Holds sha256 r) :
    finiteFloats r.payload.toJson = true := jsonbOf_finite _ holds.payload

/-- The hash tells finite records of a run apart. -/
theorem recordDigest_injective (free : CollisionFree sha256 inputs) (left : leafPreimage a ∈ inputs)
    (right : leafPreimage b ∈ inputs) (finite : finiteFloats a.payload.toJson = true)
    (finite' : finiteFloats b.payload.toJson = true) (same : recordDigest sha256 a = recordDigest sha256 b) :
    a = b :=
  modelDump_injective finite finite' (leafPreimage_eq_iff.mp (free _ left _ right same))

theorem mem_storageInputs (member : (electionId, r) ∈ log) : leafPreimage r ∈ storageInputs log :=
  List.mem_flatMap.mpr ⟨_, member, List.mem_cons_self⟩

theorem readBack_of_record {row : ApplicationRow} (holds : row.Holds sha256 r) (read : row.record = .ok other) :
    readBack r = some other := by
  obtain ⟨types, keys, loaded⟩ := record_ok.mp read
  have columns : other.recordType = r.recordType ∧ other.recordKey = r.recordKey :=
    ⟨types.symm.trans holds.recordType, keys.symm.trans holds.recordKey⟩
  simp only [readBack, holds.payload, ok_bind, loaded, jsonMapping_toJson]
  cases other
  simp_all

/-- A row that reads at all under its digest reads as the record it was written from. -/
theorem ApplicationRow.Holds.reads {row : ApplicationRow} {electionId : String} (holds : row.Holds sha256 r)
    (free : CollisionFree sha256 (storageInputs log)) (member : (electionId, r) ∈ log)
    (read : rowToRecord sha256 row = .ok other) : other = r := by
  obtain ⟨decoded, digest⟩ := rowToRecord_ok.mp read
  have hashed : leafPreimage other ∈ storageInputs log := by
    apply List.mem_flatMap.mpr
    exact ⟨_, member, by simp [readBack_of_record holds decoded]⟩
  exact recordDigest_injective free hashed (mem_storageInputs member) (record_finite decoded) holds.finite
    (digest.trans holds.digest)

theorem storageInputs_append (log : List (String × ReleaseRecord)) (entry : String × ReleaseRecord) :
    storageInputs log ⊆ storageInputs (log ++ [entry]) := by
  intro text member
  rw [storageInputs, List.flatMap_append]
  exact List.mem_append_left _ member

/-- One accepted insertion. -/
theorem Keeps.insert (keeps : Keeps sha256 log rows)
    (free : CollisionFree sha256 (storageInputs (log ++ [(electionId, r)])))
    (accepted : insertRecord sha256 rows electionId r = .ok rows') :
    Keeps sha256 (log ++ [(electionId, r)]) rows' := by
  obtain ⟨⟨stored, cast⟩, inserted⟩ := insertRecord_ok accepted
  have finite := jsonbOf_finite _ cast
  cases inserted with
  | fresh row election holds new =>
    refine ⟨keeps.unique.snoc new, fun old member => ?_, fun entry member => ?_⟩
    · rcases List.mem_append.mp member with earlier | last
      · obtain ⟨other, logged, held⟩ := keeps.origin old earlier
        exact ⟨other, List.mem_append_left _ logged, held⟩
      · obtain rfl := List.mem_singleton.mp last
        exact ⟨r, by simp [election], holds⟩
    · rcases List.mem_append.mp member with earlier | last
      · obtain ⟨old, inside, here, held⟩ := keeps.kept entry earlier
        exact ⟨old, List.mem_append_left _ inside, here, held⟩
      · obtain rfl := List.mem_singleton.mp last
        exact ⟨row, by simp, election, holds⟩
  | present row member key digest back =>
    -- the row was written from a record with the same digest, which is the same record
    obtain ⟨other, logged, held⟩ := keeps.origin row member
    have same : other = r := recordDigest_injective free
      (storageInputs_append _ _ (mem_storageInputs logged))
      (@mem_storageInputs (log ++ [(electionId, r)]) electionId r (by simp)) held.finite finite (held.digest.symm.trans digest)
    subst same
    refine ⟨keeps.unique, fun old inside => ?_, fun entry inside => ?_⟩
    · obtain ⟨another, logged, held⟩ := keeps.origin old inside
      exact ⟨another, List.mem_append_left _ logged, held⟩
    · rcases List.mem_append.mp inside with earlier | last
      · exact keeps.kept entry earlier
      · obtain rfl := List.mem_singleton.mp last
        exact ⟨row, member, (Prod.mk.inj key).1, held⟩

theorem Written.keeps (written : Written sha256 log rows) (free : CollisionFree sha256 (storageInputs log)) :
    Keeps sha256 log rows := by
  induction written with
  | empty => exact ⟨List.nodup_nil, by simp, by simp⟩
  | insert earlier accepted ih =>
    exact (ih (free.mono (storageInputs_append _ _))).insert free accepted

theorem mapM_rowToRecord_keys {rows : List ApplicationRow} {records : List ReleaseRecord}
    (read : rows.mapM (rowToRecord sha256) = .ok records) :
    records.map recordSortKey = rows.map fun row => toLex (row.recordType.text, row.recordKey) := by
  apply mapM_map read
  intro row r one
  obtain ⟨types, keys, -⟩ := record_ok.mp (rowToRecord_ok.mp one).1
  rw [recordSortKey, types, keys]

/-- The rows of one election read as records with distinct keys. -/
theorem distinct_of_unique (unique : Sql.Unique ApplicationRow.key rows)
    (read : (rows.filter fun row => row.electionId = electionId).mapM (rowToRecord sha256) = .ok records) :
    DistinctKeys records := by
  rw [DistinctKeys, mapM_rowToRecord_keys read]
  refine List.Nodup.map_on ?_ (unique.of_map _ |>.filter _)
  intro a ha b hb same
  have here : a.electionId = electionId := by simpa using (List.mem_filter.mp ha).2
  have here' : b.electionId = electionId := by simpa using (List.mem_filter.mp hb).2
  have columns := Prod.mk.inj (toLex.injective same)
  apply unique.eq (List.mem_filter.mp ha).1 (List.mem_filter.mp hb).1
  rw [ApplicationRow.key, ApplicationRow.key, here, here', RecordType.text_injective columns.1, columns.2]

theorem recordsInConnection_ok (unique : Sql.Unique ApplicationRow.key rows) :
    recordsInConnection sha256 rows electionId = .ok records ↔
      ∃ found, (rows.filter fun row => row.electionId = electionId).mapM (rowToRecord sha256) = .ok found ∧
        records = sortRecords found := by
  unfold recordsInConnection
  rw [bind_eq_ok]
  constructor
  · rintro ⟨found, read, sorted⟩
    exact ⟨found, read, (orderedApplicationRecords_ok.mp sorted).2⟩
  · rintro ⟨found, read, rfl⟩
    exact ⟨found, read, orderedApplicationRecords_ok.mpr ⟨distinct_of_unique unique read, rfl⟩⟩

/-- One row that cannot be read fails the reading of its whole election. -/
theorem reads_iff (written : Written sha256 log rows) (free : CollisionFree sha256 (storageInputs log))
    (electionId : String) : (∃ records, recordsInConnection sha256 rows electionId = .ok records) ↔
      ∀ r, (electionId, r) ∈ log → keptByJsonb r.payload.toJson = true := by
  have keeps := written.keeps free
  constructor
  · rintro ⟨records, read⟩ r logged
    obtain ⟨found, each, -⟩ := (recordsInConnection_ok keeps.unique).mp read
    obtain ⟨row, member, here, holds⟩ := keeps.kept _ logged
    obtain ⟨other, -, one⟩ := mapM_mem each (List.mem_filter.mpr ⟨member, decide_eq_true here⟩)
    have same := holds.reads free logged one
    subst same
    exact holds.record_iff.mp (rowToRecord_ok.mp one).1
  · intro kept
    obtain ⟨found, each⟩ := @mapM_isOk _ _ (rowToRecord sha256) (rows.filter fun row => row.electionId = electionId)
      fun row member => by
        obtain ⟨inside, here⟩ := List.mem_filter.mp member
        obtain ⟨r, logged, holds⟩ := keeps.origin row inside
        rw [of_decide_eq_true here] at logged
        exact ⟨r, rowToRecord_ok.mpr ⟨holds.record_iff.mpr (kept r logged), holds.digest.symm⟩⟩
    exact ⟨_, (recordsInConnection_ok keeps.unique).mpr ⟨found, each, rfl⟩⟩

/-- An accepted record can be read back exactly when the column keeps the numbers of every
record accepted for its election: all floats below `1e16` in magnitude, and none `-0.0`. -/
theorem recordStorage_faithful_iff (written : Written sha256 log db.records) (free : CollisionFree sha256 (storageInputs log))
    (accepted : (electionId, r) ∈ log) : ReadsBack sha256 db electionId r ↔
      ∀ other, (electionId, other) ∈ log → keptByJsonb other.payload.toJson = true := by
  rw [← reads_iff written free electionId]
  have keeps := written.keeps free
  constructor
  · intro reads
    obtain ⟨records, read, -⟩ := reads.records
    exact ⟨records, read⟩
  · rintro ⟨records, read⟩
    obtain ⟨row, member, here, holds⟩ := keeps.kept _ accepted
    obtain ⟨found, each, rfl⟩ := (recordsInConnection_ok keeps.unique).mp read
    have inside : r ∈ sortRecords found := by
      obtain ⟨other, among, one⟩ := mapM_mem each (List.mem_filter.mpr ⟨member, decide_eq_true here⟩)
      obtain rfl := holds.reads free accepted one
      exact (sortRecords_perm found).mem_iff.mpr among
    have distinct := distinct_of_unique keeps.unique each
    refine ⟨⟨_, read, inside⟩, fun cutover active => ?_, ⟨row, member, ?_, holds.digest.symm⟩⟩
    · have digest := @applicationRecordsSha256_ok (sortRecords found) _ sha256 |>.mpr
        ⟨(DistinctKeys.perm (sortRecords_perm found)).mpr distinct, rfl⟩
      have some : (sortRecords found).isEmpty = false := by simpa using List.ne_nil_of_mem inside
      refine ⟨⟨electionId, sha256 (recordsText (sortRecords found)), (sortRecords found).length, cutover,
        sortRecords found⟩, ?_, inside⟩
      rw [releaseView, active]
      simp only [read, ok_bind, some, digest]
      rfl
    · rw [holds.key, here]

end

/-- An extraction whose box starts at zero, or at minus zero. -/
def zeroBox (negative : Bool) : ReleaseRecord where
  recordType := .extraction
  recordKey := "bp_ex_1"
  payload := {
    entries := [("bbox", .arr [.float (.finite negative 0 (by decide +kernel)), .int 4, .int 20, .int 10])]
    wellFormed := by cases negative <;> decide +kernel }

theorem zeroBox_written (negative : Bool) :
    ∃ rows, Written checksum [("election-1", zeroBox negative)] rows := by
  have accepted : (insertRecord checksum [] "election-1" (zeroBox negative)).isOk = true := by
    cases negative <;> decide +kernel
  cases inserted : insertRecord checksum [] "election-1" (zeroBox negative) with
  | error e =>
    rw [inserted] at accepted
    cases accepted
  | ok rows => exact ⟨rows, .insert .empty inserted⟩

theorem zeroBox_free (negative : Bool) :
    CollisionFree checksum (storageInputs [("election-1", zeroBox negative)]) := by
  cases negative <;> decide +kernel

theorem zeroBox_readsBack : ∃ db, Written checksum [("election-1", zeroBox false)] db.records ∧
    ReadsBack checksum db "election-1" (zeroBox false) := by
  obtain ⟨rows, written⟩ := zeroBox_written false
  have reads : ReadsBack checksum ⟨rows, []⟩ "election-1" (zeroBox false) ↔ _ :=
    recordStorage_faithful_iff written (zeroBox_free false) List.mem_cons_self
  refine ⟨⟨rows, []⟩, written, reads.mpr ?_⟩
  intro other logged
  obtain rfl := (Prod.mk.inj (List.mem_singleton.mp logged)).2
  decide +kernel

theorem minusZeroBox_unread : ∃ db, Written checksum [("election-1", zeroBox true)] db.records ∧
    ¬ReadsBack checksum db "election-1" (zeroBox true) := by
  obtain ⟨rows, written⟩ := zeroBox_written true
  refine ⟨⟨rows, []⟩, written, fun reads => ?_⟩
  obtain ⟨records, read, -⟩ := reads.records
  have kept := (reads_iff written (zeroBox_free true) "election-1").mp ⟨records, read⟩ _ List.mem_cons_self
  exact absurd kept (by decide +kernel)

end BallotProof
