import BallotProof.ApplicationRecords

/-! The cutover of an election from SQLite to PostgreSQL, one transaction a call: a call that
raises is rolled back. -/
namespace BallotProof
open Python Sql

/-- The columns `mode` and `source_records_sha256`, which `validate_source_baseline` and the
check of the table allow in these two combinations. -/
inductive CutoverMode where
  | migrated (sourceRecordsSha256 : Digest)
  | native
  deriving DecidableEq

def CutoverMode.sourceRecordsSha256 : CutoverMode → Option Digest
  | .migrated digest => some digest
  | .native => none

/-- A row of `application_cutovers`. -/
structure PostgresCutover where
  electionId : String
  mode : CutoverMode
  activatedAt : Int
  deriving DecidableEq

/-- The tables `application_records` and `application_cutovers`. -/
structure ApplicationDb where
  records : List ApplicationRow
  cutovers : List PostgresCutover

structure PostgresEquivalenceReport where
  electionId : String
  equivalent : Bool
  sourceRecordCount : Nat
  targetRecordCount : Nat
  sourceRecordsSha256 : Digest
  targetRecordsSha256 : Digest
  cutover : Option PostgresCutover

structure PostgresApplicationView where
  electionId : String
  recordsSha256 : Digest
  recordCount : Nat
  cutover : PostgresCutover
  records : List ReleaseRecord

/-- `_cutover_in_connection` -/
def ApplicationDb.cutoverInConnection (db : ApplicationDb) (electionId : String) : Option PostgresCutover :=
  db.cutovers.find? fun cutover => cutover.electionId = electionId

/-- `INSERT INTO application_cutovers ... RETURNING`; `now` is the clock of the database. -/
def ApplicationDb.activate (db : ApplicationDb) (electionId : String) (mode : CutoverMode) (now : Int) :
    PostgresCutover × ApplicationDb :=
  let cutover := { electionId, mode, activatedAt := now }
  (cutover, { db with cutovers := db.cutovers ++ [cutover] })

/-- `except Exception: connection.rollback(); raise` around the body of a transaction. -/
def transaction (body : ApplicationDb → Result (α × ApplicationDb)) (db : ApplicationDb) :
    Result α × ApplicationDb :=
  match body db with
  | .ok (answer, db') => (.ok answer, db')
  | .error error => (.error error, db)

/-- The body of `activate_native_election`. -/
def nativeBody (electionId : String) (now : Int) (db : ApplicationDb) : Result (PostgresCutover × ApplicationDb) := do
  let _ ← storedText electionId
  raiseIf ((db.records.filter fun row => row.electionId = electionId).length ≠ 0)
    ⟨.valueError, "native cutover requires an empty PostgreSQL election ledger"⟩
  match db.cutoverInConnection electionId with
  | some existing => do
    raiseIf (existing.mode ≠ .native) ⟨.valueError, "election is already activated as a migrated cutover"⟩
    return (existing, db)
  | none => return db.activate electionId .native now

/-- `activate_native_election` -/
def activateNativeElection (electionId : String) (now : Int) (db : ApplicationDb) :
    Result PostgresCutover × ApplicationDb := transaction (nativeBody electionId now) db

section
variable (sha256 : Bytes → Digest)

/-- `release_view` -/
def releaseView (db : ApplicationDb) (electionId : String) : Result PostgresApplicationView :=
  match db.cutoverInConnection electionId with
  | none => .error ⟨.permissionError, "PostgreSQL election has not passed the cutover gate"⟩
  | some cutover => do
    let records ← recordsInConnection sha256 db.records electionId
    raiseIf (records.isEmpty = true) ⟨.keyError, "'Unknown PostgreSQL election: " ++ electionId ++ "'"⟩
    let digest ← applicationRecordsSha256 sha256 records
    return { electionId, recordsSha256 := digest, recordCount := records.length, cutover, records }

/-- `for record in source_records: self._insert_record(connection, election_id, record)` -/
def insertRecords (electionId : String) (rows : List ApplicationRow) (source : List ReleaseRecord) :
    Result (List ApplicationRow) :=
  source.foldlM (fun rows record => insertRecord sha256 rows electionId record) rows

/-- The transaction of `migrate_sqlite_election` on the records of SQLite and their digest. -/
def migrationBody (source : List ReleaseRecord) (sourceDigest : Digest) (electionId : String) (activate : Bool)
    (now : Int) (db : ApplicationDb) : Result (PostgresEquivalenceReport × ApplicationDb) := do
  let _ ← storedText electionId
  let existing := db.cutoverInConnection electionId
  raiseIf (∃ cutover ∈ existing, cutover.mode = .native)
    ⟨.valueError, "cannot migrate SQLite over a native PostgreSQL cutover"⟩
  raiseIf (∃ cutover ∈ existing, cutover.mode.sourceRecordsSha256 ≠ some sourceDigest)
    ⟨.valueError, "SQLite source changed after the migrated PostgreSQL cutover"⟩
  let records ← insertRecords sha256 electionId db.records source
  let target ← recordsInConnection sha256 records electionId
  let targetDigest ← applicationRecordsSha256 sha256 target
  raiseIf (¬(source.length = target.length ∧ sourceDigest = targetDigest))
    ⟨.valueError, "PostgreSQL migration does not exactly match the SQLite source"⟩
  let report (cutover : Option PostgresCutover) : PostgresEquivalenceReport := {
    electionId
    equivalent := true
    sourceRecordCount := source.length
    targetRecordCount := target.length
    sourceRecordsSha256 := sourceDigest
    targetRecordsSha256 := targetDigest
    cutover }
  match existing with
  | none =>
    if activate then
      let (cutover, db) := { db with records }.activate electionId (.migrated sourceDigest) now
      return (report (some cutover), db)
    else return (report none, { db with records })
  | some cutover => do
    raiseIf (activate = true ∧ cutover.mode.sourceRecordsSha256 ≠ some sourceDigest)
      ⟨.valueError, "existing migrated cutover source digest does not match"⟩
    return (report (some cutover), { db with records })

/-- `migrate_sqlite_election` on what `collect_release_records` returned or raised. -/
def migrateSqliteElection (source : Result (List ReleaseRecord)) (electionId : String) (activate : Bool)
    (now : Int) (db : ApplicationDb) : Result PostgresEquivalenceReport × ApplicationDb :=
  match source with
  | .error error => (.error error, db)
  | .ok source =>
    match applicationRecordsSha256 sha256 source with
    | .error error => (.error error, db)
    | .ok sourceDigest => transaction (migrationBody sha256 source sourceDigest electionId activate now) db

end

end BallotProof
