import BallotProof.RecordStorage
import BallotProof.ReleaseProofs

/-! A migration either reproduces the records of SQLite or leaves no trace, and changes nothing once
the cutover of the election is active. -/
namespace BallotProof
open Python Sql

/-- The rows of one election. -/
def rowsOf (electionId : String) (rows : List ApplicationRow) : List ApplicationRow :=
  rows.filter fun row => row.electionId = electionId

/-- The record lists of which one migration takes the digest, as far as it comes. -/
def migrationTexts (sha256 : Bytes → Digest) (db : ApplicationDb) (source : Result (List ReleaseRecord))
    (electionId : String) : List Bytes :=
  match source with
  | .error _ => []
  | .ok source => recordsText source ::
    match (do recordsInConnection sha256 (← insertRecords sha256 electionId db.records source) electionId) with
    | .error _ => []
    | .ok target => [recordsText target]

/-- Transactions one after another: insertions by the stores, native cutovers and migrations. The
list keeps the texts of which a migration took the digest. -/
inductive LedgerRun (sha256 : Bytes → Digest) (start : ApplicationDb) : List Bytes → ApplicationDb → Prop
  | start : LedgerRun sha256 start [] start
  | write (run : LedgerRun sha256 start texts db)
      (accepted : insertRecord sha256 db.records electionId r = .ok records) :
      LedgerRun sha256 start texts { db with records }
  | native (run : LedgerRun sha256 start texts db) (electionId : String) (now : Int) :
      LedgerRun sha256 start texts (activateNativeElection electionId now db).2
  | migrate (run : LedgerRun sha256 start texts db) (source : Result (List ReleaseRecord)) (electionId : String)
      (activate : Bool) (now : Int) :
      LedgerRun sha256 start (texts ++ migrationTexts sha256 db source electionId)
        (migrateSqliteElection sha256 source electionId activate now db).2

section
variable {sha256 : Bytes → Digest}

/-- What the insertions of a migration did: rows of this election were added, every record of the
source has its row, and no row was added for a record that had one. -/
structure Grown (electionId : String) (source : List ReleaseRecord) (rows rows' : List ApplicationRow) : Prop where
  added : ∃ new, rows' = rows ++ new ∧ ∀ row ∈ new, row.electionId = electionId
  present : ∀ r ∈ source, ∃ row ∈ rows', row.key = (electionId, r.recordType, r.recordKey)
  finite : ∀ r ∈ source, finiteFloats r.payload.toJson = true
  idle : (∀ r ∈ source, ∃ row ∈ rows, row.key = (electionId, r.recordType, r.recordKey)) → rows' = rows

theorem insertRecord_grown (h : insertRecord sha256 rows electionId r = .ok rows') :
    Grown electionId [r] rows rows' := by
  obtain ⟨⟨stored, cast⟩, inserted⟩ := insertRecord_ok h
  have finite := jsonbOf_finite _ cast
  cases inserted with
  | fresh row election holds new =>
    have key : row.key = (electionId, r.recordType, r.recordKey) := by rw [holds.key, election]
    refine ⟨⟨[row], rfl, by simpa using election⟩, ?_, by simpa using finite, fun old => ?_⟩
    · simp only [List.mem_singleton, forall_eq]
      exact ⟨row, by simp, key⟩
    · obtain ⟨other, member, same⟩ := old r (by simp)
      exact absurd (List.mem_map.mpr ⟨other, member, same.trans key.symm⟩) new
  | present row member key _ _ =>
    exact ⟨⟨[], by simp, by simp⟩, by simpa using ⟨row, member, key⟩, by simpa using finite, fun _ => rfl⟩

theorem insertRecords_grown (h : insertRecords sha256 electionId rows source = .ok rows') :
    Grown electionId source rows rows' := by
  induction source generalizing rows with
  | nil =>
    cases h
    exact ⟨⟨[], by simp, by simp⟩, by simp, by simp, fun _ => rfl⟩
  | cons r rest ih =>
    unfold insertRecords at h
    rw [List.foldlM_cons] at h
    obtain ⟨middle, first, others⟩ := bind_ok h
    have one := insertRecord_grown first
    have more := ih others
    obtain ⟨new, rfl, here⟩ := one.added
    obtain ⟨newer, rfl, here'⟩ := more.added
    refine ⟨⟨new ++ newer, by simp, ?_⟩, ?_, ?_, fun old => ?_⟩
    · intro row member
      rcases List.mem_append.mp member with early | late
      · exact here row early
      · exact here' row late
    · intro other member
      rcases List.mem_cons.mp member with rfl | later
      · obtain ⟨row, inside, key⟩ := one.present other (by simp)
        exact ⟨row, List.mem_append_left _ inside, key⟩
      · exact more.present other later
    · intro other member
      rcases List.mem_cons.mp member with rfl | later
      · exact one.finite other (by simp)
      · exact more.finite other later
    · have same := one.idle fun other member => old other (by simp_all)
      rw [same] at more ⊢
      exact more.idle fun other member => old other (List.mem_cons_of_mem _ member)

/-- What a committed migration did. -/
inductive Migrated (sha256 : Bytes → Digest) (source : List ReleaseRecord) (electionId : String) (now : Int)
    (db : ApplicationDb) : ApplicationDb → Prop
  | mk (records : List ApplicationRow) (cutovers : List PostgresCutover) (target : List ReleaseRecord)
      (inserted : insertRecords sha256 electionId db.records source = .ok records)
      (read : recordsInConnection sha256 records electionId = .ok target)
      (digest : sha256 (recordsText source) = sha256 (recordsText target))
      (distinct : DistinctKeys target)
      (recorded : (db.cutoverInConnection electionId = none ∧
          cutovers = db.cutovers ++ [⟨electionId, .migrated (sha256 (recordsText source)), now⟩]) ∨
        cutovers = db.cutovers ∧ ∀ cutover, db.cutoverInConnection electionId = some cutover →
          cutover.mode = .migrated (sha256 (recordsText source))) :
      Migrated sha256 source electionId now db ⟨records, cutovers⟩

theorem migrationBody_ok
    (h : migrationBody sha256 source (sha256 (recordsText source)) electionId activate now db = .ok (report, db')) :
    Migrated sha256 source electionId now db db' := by
  unfold migrationBody at h
  dsimp only at h
  obtain ⟨_, -, h⟩ := bind_ok h
  obtain ⟨_, notNative, h⟩ := bind_ok h
  obtain ⟨_, sameSource, h⟩ := bind_ok h
  obtain ⟨records, inserted, h⟩ := bind_ok h
  obtain ⟨target, read, h⟩ := bind_ok h
  obtain ⟨targetDigest, hashed, h⟩ := bind_ok h
  obtain ⟨_, equal, h⟩ := bind_ok h
  obtain ⟨distinct, rfl⟩ := applicationRecordsSha256_ok.mp hashed
  have equal := (not_not.mp (raiseIf_ok.mp equal)).2
  have sameSource := raiseIf_ok.mp sameSource
  have baseline : ∀ cutover, db.cutoverInConnection electionId = some cutover →
      cutover.mode = .migrated (sha256 (recordsText source)) := by
    intro cutover active
    have digest := not_not.mp fun other => sameSource ⟨cutover, active, other⟩
    cases mode : cutover.mode with
    | migrated recorded =>
      rw [mode] at digest
      rw [Option.some.inj digest]
    | native =>
      rw [mode] at digest
      cases digest
  split at h
  · rename_i absent
    split at h
    · cases h
      exact .mk _ _ target inserted read equal distinct (.inl ⟨absent, rfl⟩)
    · cases h
      exact .mk _ _ target inserted read equal distinct (.inr ⟨rfl, baseline⟩)
  · obtain ⟨_, -, h⟩ := bind_ok h
    cases h
    exact .mk _ _ target inserted read equal distinct (.inr ⟨rfl, baseline⟩)

/-- A migration raises and leaves the tables as they were, or commits. -/
theorem migrateSqliteElection_cases (source : Result (List ReleaseRecord)) (electionId : String) (activate : Bool)
    (now : Int) (db : ApplicationDb) :
    (∃ error, migrateSqliteElection sha256 source electionId activate now db = (.error error, db)) ∨
      ∃ records report db', source = .ok records ∧ DistinctKeys records ∧
        Migrated sha256 records electionId now db db' ∧
        migrateSqliteElection sha256 source electionId activate now db = (.ok report, db') := by
  cases source with
  | error error => exact .inl ⟨error, by rw [migrateSqliteElection]⟩
  | ok records =>
    cases hashed : applicationRecordsSha256 sha256 records with
    | error error => exact .inl ⟨error, by simp only [migrateSqliteElection, hashed]⟩
    | ok digest =>
      obtain ⟨distinct, rfl⟩ := applicationRecordsSha256_ok.mp hashed
      cases body : migrationBody sha256 records (sha256 (recordsText records)) electionId activate now db with
      | error error => exact .inl ⟨error, by simp only [migrateSqliteElection, hashed, transaction, body]⟩
      | ok result =>
        obtain ⟨report, db'⟩ := result
        exact .inr ⟨records, report, db', rfl, distinct, migrationBody_ok body,
          by simp only [migrateSqliteElection, hashed, transaction, body]⟩

theorem recordsText_wellFormed (records : List ReleaseRecord) :
    (Json.arr ((sortRecords records).map (·.modelDump))).wellFormed = true :=
  arr_map_wellFormed modelDump_wellFormed

theorem recordsText_injective (same : recordsText a = recordsText b) :
    (sortRecords a).map (·.modelDump) = (sortRecords b).map (·.modelDump) :=
  Json.arr.inj (canonicalJsonBytes_injective (recordsText_wellFormed a) (recordsText_wellFormed b) same)

/-- Lists of finite records are determined by what is hashed of them. -/
theorem eq_of_map_modelDump {a b : List ReleaseRecord} (left : ∀ r ∈ a, finiteFloats r.payload.toJson = true)
    (right : ∀ r ∈ b, finiteFloats r.payload.toJson = true)
    (same : a.map (·.modelDump) = b.map (·.modelDump)) : a = b := by
  induction a generalizing b with
  | nil => exact (List.map_eq_nil_iff.mp same.symm).symm
  | cons r rest ih =>
    cases b with
    | nil => cases same
    | cons s others =>
      obtain ⟨first, later⟩ := List.cons.inj same
      rw [modelDump_injective (left r (by simp)) (right s (by simp)) first,
        ih (fun t member => left t (by simp [member])) (fun t member => right t (by simp [member])) later]

theorem recordsInConnection_sorted (read : recordsInConnection sha256 rows electionId = .ok target) :
    sortRecords target = target ∧ ∀ r ∈ target, finiteFloats r.payload.toJson = true := by
  obtain ⟨found, each, sorted⟩ := bind_ok read
  obtain ⟨distinct, rfl⟩ := orderedApplicationRecords_ok.mp sorted
  refine ⟨sortRecords_sortRecords found distinct, fun r member => ?_⟩
  obtain ⟨row, -, one⟩ := mapM_origin each ((sortRecords_perm found).mem_iff.mp member)
  exact record_finite (rowToRecord_ok.mp one).1

/-- A committed migration leaves exactly the records of the source. -/
theorem Migrated.exact (migrated : Migrated sha256 source electionId now db db')
    (free : CollisionFree sha256 (migrationTexts sha256 db (.ok source) electionId)) :
    recordsInConnection sha256 db'.records electionId = .ok (sortRecords source) := by
  cases migrated with
  | mk records cutovers target inserted read digest distinct recorded =>
    have texts : migrationTexts sha256 db (.ok source) electionId = [recordsText source, recordsText target] := by
      simp only [migrationTexts, inserted, ok_bind, read]
    rw [texts] at free
    have same := recordsText_injective (free _ (by simp) _ (by simp) digest)
    obtain ⟨sorted, finite⟩ := recordsInConnection_sorted read
    rw [sorted] at same
    have grown := insertRecords_grown inserted
    have equal := eq_of_map_modelDump
      (fun r member => grown.finite r ((sortRecords_perm source).mem_iff.mp member)) finite same
    rw [equal]
    exact read

theorem cutover_append (db : ApplicationDb) (cutover : PostgresCutover) (electionId : String) :
    ApplicationDb.cutoverInConnection ⟨records, db.cutovers ++ [cutover]⟩ electionId =
      (db.cutoverInConnection electionId).or (if cutover.electionId = electionId then some cutover else none) := by
  simp only [ApplicationDb.cutoverInConnection, List.find?_append]
  congr 1
  by_cases same : cutover.electionId = electionId <;> simp [same]

/-- Each migrated cutover of the election stands for a source whose records are all in the table. -/
def Anchored (sha256 : Bytes → Digest) (texts : List Bytes) (electionId : String) (db : ApplicationDb) : Prop :=
  ∀ cutover digest, db.cutoverInConnection electionId = some cutover → cutover.mode = .migrated digest →
    ∃ source, recordsText source ∈ texts ∧ digest = sha256 (recordsText source) ∧
      ∀ r ∈ source, ∃ row ∈ db.records, row.key = (electionId, r.recordType, r.recordKey)

/-- Rows are only added, so a cutover that stays keeps its anchor. -/
theorem Anchored.grow (anchored : Anchored sha256 texts electionId db) (more : texts ⊆ texts')
    (rows : db.records ⊆ db'.records)
    (same : db'.cutoverInConnection electionId = db.cutoverInConnection electionId) :
    Anchored sha256 texts' electionId db' := by
  intro cutover digest active mode
  obtain ⟨source, text, recorded, present⟩ := anchored cutover digest (same ▸ active) mode
  refine ⟨source, more text, recorded, fun r member => ?_⟩
  obtain ⟨row, inside, key⟩ := present r member
  exact ⟨row, rows inside, key⟩

theorem Grown.subset (grown : Grown electionId source rows rows') : rows ⊆ rows' := by
  obtain ⟨new, rfl, -⟩ := grown.added
  exact List.subset_append_left _ _

/-- A native cutover has no digest, and another election keeps the cutover it had. -/
theorem Anchored.native (anchored : Anchored sha256 texts active db) (electionId : String) (now : Int) :
    Anchored sha256 texts active (activateNativeElection electionId now db).2 := by
  unfold activateNativeElection transaction
  split
  · rename_i cutover db' body
    obtain ⟨_, -, body⟩ := bind_ok body
    obtain ⟨_, -, body⟩ := bind_ok body
    split at body
    · obtain ⟨_, -, body⟩ := bind_ok body
      cases body
      exact anchored
    · rename_i absent
      cases body
      by_cases here : electionId = active
      · subst here
        intro cutover digest found mode
        rw [cutover_append, absent] at found
        simp only [if_true, Option.none_or, Option.some.injEq] at found
        subst found
        cases mode
      · refine anchored.grow (List.Subset.refl _) ?_ ?_
        · exact List.Subset.refl db.records
        · change ApplicationDb.cutoverInConnection ⟨db.records, db.cutovers ++ [_]⟩ active = _
          rw [cutover_append]
          simp [here]
  · exact anchored

/-- A migration that activates the election anchors it in its own source. -/
theorem Anchored.migrate (anchored : Anchored sha256 texts active db) (source : Result (List ReleaseRecord))
    (electionId : String) (activate : Bool) (now : Int) :
    Anchored sha256 (texts ++ migrationTexts sha256 db source electionId) active
      (migrateSqliteElection sha256 source electionId activate now db).2 := by
  have more := List.subset_append_left texts (migrationTexts sha256 db source electionId)
  rcases @migrateSqliteElection_cases sha256 source electionId activate now db with
    ⟨error, refused⟩ | ⟨records, report, db', rfl, -, migrated, committed⟩
  · rw [refused]
    exact anchored.grow more (List.Subset.refl _) rfl
  · rw [committed]
    cases migrated with
    | mk rows cutovers target inserted read digest distinct recorded =>
      have grown := insertRecords_grown inserted
      rcases recorded with ⟨absent, rfl⟩ | ⟨rfl, -⟩
      · by_cases here : electionId = active
        · subst here
          intro cutover digest found mode
          rw [cutover_append, absent] at found
          simp only [if_true, Option.none_or, Option.some.injEq] at found
          subst found
          cases mode
          exact ⟨records, List.mem_append_right _ (by simp [migrationTexts]), rfl, grown.present⟩
        · apply anchored.grow more grown.subset
          rw [cutover_append]
          simp [here]
      · exact anchored.grow more grown.subset rfl

/-- Every run from a state without a cutover of the election. -/
theorem LedgerRun.anchored (run : LedgerRun sha256 initial texts db)
    (none : initial.cutoverInConnection active = none) : Anchored sha256 texts active db := by
  induction run with
  | start =>
    intro cutover digest found
    rw [none] at found
    cases found
  | write run accepted ih => exact ih.grow (List.Subset.refl _) (insertRecord_grown accepted).subset rfl
  | native run electionId now ih => exact ih.native electionId now
  | migrate run source electionId activate now ih => exact ih.migrate source electionId activate now

/-- A migration that passes the check of the baseline finds every record it would insert. -/
theorem Migrated.idle (migrated : Migrated sha256 source electionId now db db')
    (anchored : Anchored sha256 texts electionId db)
    (free : CollisionFree sha256 (texts ++ migrationTexts sha256 db (.ok source) electionId))
    (active : (db.cutoverInConnection electionId).isSome) : db'.records = db.records := by
  obtain ⟨cutover, found⟩ := Option.isSome_iff_exists.mp active
  cases migrated with
  | mk records cutovers target inserted read digest distinct recorded =>
    rcases recorded with ⟨absent, -⟩ | ⟨rfl, baseline⟩
    · rw [absent] at found
      cases found
    · obtain ⟨old, text, same, present⟩ := anchored cutover _ found (baseline cutover found)
      have texts := free _ (List.mem_append_right _ (by simp [migrationTexts])) _ (List.mem_append_left _ text) same
      have dumps := recordsText_injective texts
      apply (insertRecords_grown inserted).idle
      intro r member
      have dumped : r.modelDump ∈ (sortRecords old).map (·.modelDump) := by
        rw [← dumps]
        exact List.mem_map_of_mem ((sortRecords_perm source).mem_iff.mpr member)
      obtain ⟨other, among, equal⟩ := List.mem_map.mp dumped
      obtain ⟨types, keys, -⟩ := modelDump_eq_iff.mp equal
      rw [← types, ← keys]
      exact present other ((sortRecords_perm old).mem_iff.mp among)

end

end BallotProof
