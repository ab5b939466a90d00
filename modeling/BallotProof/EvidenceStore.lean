import BallotProof.EvidenceDocuments
import BallotProof.HashChain
import BallotProof.Requests
import BallotProof.RegistryStore

/-! The evidence store: an append-only table of evidence versions, one hash chain an evidence
id, and the statements about versions that hang on it. -/
namespace BallotProof
open Python HashChain Sql

structure StoredArtifact where
  sha256 : Digest
  sizeBytes : Nat
  column : sizeBytes < integerLimit

/-- What `_record_hash_body` hashes. The source is a model or the document stored of it. -/
structure RecordBody (σ : Type) where
  evidenceId : String
  electionId : String
  pollingUnitCode : String
  documentType : String
  source : σ
  version : Nat
  column : version < integerLimit
  artifact : StoredArtifact
  mediaType : Option String
  filename : Option String
  observedAt : Timestamp
  storedAt : Timestamp
  previousRecordHash : Option Digest

structure EvidenceVersion extends RecordBody EvidenceSource where
  positive : 1 ≤ version
  recordHash : Digest

/-- A row of `evidence_versions`. The columns of times and hashes hold their texts, which
determine them. -/
structure EvidenceRow extends RecordBody Json where
  recordHash : Digest

/-- `_record_hash_body` -/
def RecordBody.json (body : RecordBody EvidenceSource) : Json := .obj [
  ("artifact_sha256", .str body.artifact.sha256.hex),
  ("artifact_size_bytes", .int body.artifact.sizeBytes),
  ("document_type", .str body.documentType),
  ("election_id", .str body.electionId),
  ("evidence_id", .str body.evidenceId),
  ("filename", optionalText body.filename),
  ("media_type", optionalText body.mediaType),
  ("observed_at", .str body.observedAt.isoformat),
  ("polling_unit_code", .str body.pollingUnitCode),
  ("previous_record_hash", optionalHash body.previousRecordHash),
  ("source", body.source.dict.toJson),
  ("stored_at", .str body.storedAt.isoformat),
  ("version", .int body.version)]

structure AttestationRow where
  id : Nat
  evidenceId : String
  evidenceVersion : Nat
  attestationJson : Dict

structure ExtractionRow where
  extractionId : String
  evidenceId : String
  evidenceVersion : Nat
  extractionJson : Dict
  storedAt : String

structure ReviewRow where
  reviewId : String
  extractionId : String
  evidenceId : String
  evidenceVersion : Nat
  reviewJson : Dict
  storedAt : String

/-- The tables of `ballotproof.sqlite3`. -/
structure EvidenceDb where
  versions : List EvidenceRow
  attestations : List AttestationRow
  extractions : List ExtractionRow
  reviews : List ReviewRow

def EvidenceDb.empty : EvidenceDb := ⟨[], [], [], []⟩

structure ChainVerification where
  evidenceId : String
  valid : Bool
  versionsChecked : Nat
  failureVersion : Option Nat
  deriving DecidableEq

structure EvidenceBundleItem where
  evidenceId : String
  latest : EvidenceVersion
  history : List EvidenceVersion
  chain : ChainVerification
  attestations : List SignedAttestation
  extractions : List ExtractionRecord
  reviews : List ExtractionReview

structure PollingUnitEvidenceBundle where
  electionId : String
  pollingUnitCode : String
  evidence : List EvidenceBundleItem

/-- The arguments of `append_version`. -/
structure AppendCall where
  artifact : StoredArtifact
  electionId : String
  pollingUnitCode : String
  documentType : String
  source : EvidenceSource
  observedAt : Timestamp
  mediaType : Option String
  filename : Option String
  evidenceId : Option String

def uniqueFailed : Error := ⟨.integrityError, "UNIQUE constraint failed"⟩

def integerTooLarge : Error := ⟨.overflowError, "Python int too large to convert to SQLite INTEGER"⟩

section
variable (sha256 : Bytes → Digest)

/-- What `verify_chain` looks at in a version. -/
def evidenceLog : Log EvidenceVersion Digest where
  version := (·.version)
  previous := (·.previousRecordHash)
  hash := (·.recordHash)
  expected record := hashRecord sha256 record.json

/-- The loop of `verify_chain`. -/
def verifyVersions (evidenceId : String) (versions : List EvidenceVersion) : ChainVerification :=
  match (evidenceLog sha256).firstBroken none versions with
  | some record => ⟨evidenceId, false, record.version, some record.version⟩
  | none => ⟨evidenceId, true, versions.length, none⟩

end

/-- The rows of an evidence id, `ORDER BY version`. -/
def evidenceRows (rows : List EvidenceRow) (evidenceId : String) : List EvidenceRow :=
  selectOrdered (·.evidenceId) (·.version) evidenceId rows

/-- The row of one version; what does not fit the INTEGER column cannot be looked for. -/
def evidenceRow (rows : List EvidenceRow) (evidenceId : String) (version : Int) :
    Result (Option EvidenceRow) :=
  if -(integerLimit : Int) ≤ version ∧ version < integerLimit then
    .ok (rows.find? fun row => row.evidenceId = evidenceId ∧ (row.version : Int) = version)
  else .error integerTooLarge

section
variable (conversions : Conversions)

/-- `_row_to_version` -/
def EvidenceRow.toVersion (row : EvidenceRow) : Result EvidenceVersion := do
  let source ← EvidenceSource.modelValidate conversions row.source
  if positive : 1 ≤ row.version then
    return { row with source := source, positive := positive, recordHash := row.recordHash }
  else rejected "Input should be greater than or equal to 1"

/-- `EvidenceStore.get_version` -/
def EvidenceDb.getVersion (db : EvidenceDb) (evidenceId : String) (version : Int) : Result EvidenceVersion := do
  match ← evidenceRow db.versions evidenceId version with
  | some row => row.toVersion conversions
  | none => .error ⟨.keyError,
      "Unknown evidence version: " ++ evidenceId ++ " v" ++ String.ofList (intText version)⟩

/-- `EvidenceStore.history` -/
def evidenceHistory (rows : List EvidenceRow) (evidenceId : String) : Result (List EvidenceVersion) :=
  (evidenceRows rows evidenceId).mapM (·.toVersion conversions)

/-- `EvidenceStore.verify_chain` -/
def verifyEvidenceChain (sha256 : Bytes → Digest) (rows : List EvidenceRow) (evidenceId : String) :
    Result ChainVerification := do
  let versions ← evidenceHistory conversions rows evidenceId
  return verifyVersions sha256 evidenceId versions

/-- The evidence id of the new version, its number and the hash that it names. -/
def nextKey (rows : List EvidenceRow) (call : AppendCall) (uuid : String) :
    Result (String × Nat × Option Digest) :=
  match call.evidenceId with
  | none => .ok ("bp_ev_" ++ uuid, 1, none)
  | some evidenceId =>
    match (evidenceRows rows evidenceId).getLast? with
    | none => .error ⟨.keyError, "Unknown evidence_id: " ++ evidenceId⟩
    | some previous => .ok (evidenceId, previous.version + 1, some previous.recordHash)

def nextBody (rows : List EvidenceRow) (call : AppendCall) (uuid : String) (now : Timestamp) :
    Result (RecordBody EvidenceSource) := do
  let (evidenceId, version, previousRecordHash) ← nextKey rows call uuid
  if column : version < integerLimit then
    return { call with
      evidenceId := evidenceId, version := version, column := column, storedAt := now,
      previousRecordHash := previousRecordHash }
  else .error integerTooLarge

/-- What pydantic makes of the texts of the body when the record is built from it. -/
def RecordBody.revalidate (body : RecordBody EvidenceSource) : Result EvidenceSource := do
  let source ← EvidenceSource.modelValidate conversions body.source.dict.toJson
  require ((conversions.datetime (.str body.observedAt.isoformat)).isSome = true)
    "Input should be a valid datetime"
  require ((conversions.datetime (.str body.storedAt.isoformat)).isSome = true)
    "Input should be a valid datetime"
  return source

/-- `EvidenceStore.append_version`, when the clock reads `now` and the uuid is `uuid`. -/
def appendVersion (sha256 : Bytes → Digest) (rows : List EvidenceRow) (call : AppendCall) (uuid : String)
    (now : Timestamp) : Result (EvidenceVersion × List EvidenceRow) := do
  let body ← nextBody rows call uuid now
  let recordHash := hashRecord sha256 body.json
  let source ← body.revalidate conversions
  if positive : 1 ≤ body.version then
    let record : EvidenceVersion :=
      { body with source := source, positive := positive, recordHash := recordHash }
    let row : EvidenceRow :=
      { body with source := body.source.dict.toJson, recordHash := recordHash }
    if (∃ other ∈ rows, other.evidenceId = row.evidenceId ∧ other.version = row.version) ∨
        ∃ other ∈ rows, other.recordHash = row.recordHash then .error uniqueFailed
    else return (record, rows ++ [row])
  else rejected "Input should be greater than or equal to 1"

/-- `EvidenceStore.attestations` -/
def EvidenceDb.attestationsOf (db : EvidenceDb) (evidenceId : String) (version : Nat) : Result (List SignedAttestation) :=
  let rows := db.attestations.filter fun row => row.evidenceId = evidenceId ∧ row.evidenceVersion = version
  (orderBy (·.id) rows).mapM fun row => SignedAttestation.modelValidate conversions row.attestationJson.toJson

/-- `EvidenceStore.add_attestation`. SQLite numbers the row above every earlier one; `gap`
counts the numbers that inserts without effect have used up. -/
def EvidenceDb.addAttestation (db : EvidenceDb) (attestation : SignedAttestation) (gap : Nat) :
    Result (Unit × EvidenceDb) := do
  let payload := attestation.payload
  match ← evidenceRow db.versions payload.evidenceId payload.evidenceVersion.1 with
  | none => .error ⟨.keyError, "Attestation references an unknown evidence version"⟩
  | some record =>
    raiseIf (record.recordHash ≠ payload.recordHash)
      ⟨.valueError, "Attestation record_hash does not match stored evidence"⟩
    let id := (db.attestations.map (·.id)).foldr max 0 + 1 + gap
    let row : AttestationRow := ⟨id, payload.evidenceId, payload.evidenceVersion.1, attestation.dict⟩
    if ∃ other ∈ db.attestations, other.evidenceId = row.evidenceId ∧
        other.evidenceVersion = row.evidenceVersion ∧
        canonicalJsonBytes other.attestationJson.toJson = canonicalJsonBytes row.attestationJson.toJson
    then return ((), db)
    else return ((), { db with attestations := db.attestations ++ [row] })

end

section
variable (conversions : FieldConversions)

/-- `EvidenceStore.get_extraction` -/
def EvidenceDb.getExtraction (db : EvidenceDb) (extractionId : String) : Result ExtractionRecord :=
  match selectRow (·.extractionId) extractionId db.extractions with
  | some row => ExtractionRecord.modelValidate conversions row.extractionJson.toJson
  | none => .error ⟨.keyError, "Unknown extraction_id: " ++ extractionId⟩

/-- The rows that a query of extractions returns, `ORDER BY stored_at, extraction_id`. -/
def EvidenceDb.extractionRows (db : EvidenceDb) (evidenceId : String) (version : Nat) : List ExtractionRow :=
  orderByTexts (fun row => toLex (row.storedAt, row.extractionId))
    (db.extractions.filter fun row => row.evidenceId = evidenceId ∧ row.evidenceVersion = version)

/-- The rows that a query of reviews returns, `ORDER BY stored_at, review_id`. -/
def EvidenceDb.reviewRows (db : EvidenceDb) (extractionId : String) : List ReviewRow :=
  orderByTexts (fun row => toLex (row.storedAt, row.reviewId))
    (db.reviews.filter (·.extractionId = extractionId))

/-- `EvidenceStore.extractions` -/
def EvidenceDb.extractionsOf (db : EvidenceDb) (evidenceId : String) (version : Nat) : Result (List ExtractionRecord) :=
  (db.extractionRows evidenceId version).mapM fun row =>
    ExtractionRecord.modelValidate conversions row.extractionJson.toJson

/-- `EvidenceStore.extraction_reviews` -/
def EvidenceDb.extractionReviews (db : EvidenceDb) (extractionId : String) : Result (List ExtractionReview) :=
  (db.reviewRows extractionId).mapM fun row => ExtractionReview.modelValidate conversions row.reviewJson.toJson

/-- The arguments of `add_extraction`. -/
structure ExtractionCall where
  evidenceId : String
  evidenceVersion : Int
  recordHash : String
  provenance : ExtractionProvenance
  fields : List ExtractedField
  status : ExtractionStatus
  supersedesExtractionId : Option String

/-- The check of a superseded extraction. -/
def EvidenceDb.checkSuperseded (db : EvidenceDb) (call : ExtractionCall) : Result Unit :=
  match call.supersedesExtractionId with
  | none => .ok ()
  | some extractionId => do
    let superseded ← db.getExtraction conversions extractionId
    raiseIf (superseded.evidenceId ≠ call.evidenceId ∨
        (superseded.evidenceVersion.1 : Int) ≠ call.evidenceVersion)
      ⟨.valueError, "Superseded extraction must reference the same evidence version"⟩

/-- `EvidenceStore.add_extraction`; its foreign key holds, as the version has just been read. -/
def EvidenceDb.addExtraction (db : EvidenceDb) (call : ExtractionCall) (uuid : String) (now : Timestamp) :
    Result (ExtractionRecord × EvidenceDb) := do
  let evidence ← db.getVersion conversions.toConversions call.evidenceId call.evidenceVersion
  raiseIf (evidence.recordHash.hex ≠ call.recordHash)
    ⟨.valueError, "Extraction record_hash does not match stored evidence"⟩
  db.checkSuperseded conversions call
  if nonempty : call.fields ≠ [] then
    let record : ExtractionRecord := {
      evidenceId := call.evidenceId
      evidenceVersion := ⟨evidence.version, evidence.positive, version_intFits evidence.column⟩
      recordHash := evidence.recordHash, status := call.status, provenance := call.provenance
      fields := call.fields, nonempty := nonempty
      supersedesExtractionId := call.supersedesExtractionId
      extractionId := "bp_ex_" ++ uuid, storedAt := conversions.written now }
    let row : ExtractionRow := ⟨record.extractionId, record.evidenceId, record.evidenceVersion.1,
      record.dict, now.isoformat⟩
    match insertRow (·.extractionId) row db.extractions with
    | none => .error uniqueFailed
    | some extractions => return (record, { db with extractions := extractions })
  else rejected "List should have at least 1 item after validation, not 0"

/-- `EvidenceStore.add_extraction_review`; its foreign keys hold, as the extraction has just
been read. The text of its error is cut before the unknown fields. -/
def EvidenceDb.addExtractionReview (db : EvidenceDb) (extractionId : String) (submission : ExtractionReviewSubmission)
    (uuid : String) (now : Timestamp) : Result (ExtractionReview × EvidenceDb) := do
  let extraction ← db.getExtraction conversions extractionId
  let knownFields := extraction.fields.map (·.fieldName.1)
  raiseIf (¬∀ field ∈ submission.fields, field.fieldName.1 ∈ knownFields)
    ⟨.valueError, "Review references unknown extracted fields"⟩
  let review : ExtractionReview := { submission with
    reviewId := "bp_rv_" ++ uuid, extractionId := extractionId, evidenceId := extraction.evidenceId
    evidenceVersion := extraction.evidenceVersion, storedAt := conversions.written now }
  let row : ReviewRow := ⟨review.reviewId, review.extractionId, review.evidenceId,
    review.evidenceVersion.1, review.dict, now.isoformat⟩
  match insertRow (·.reviewId) row db.reviews with
  | none => .error uniqueFailed
  | some reviews => return (review, { db with reviews := reviews })

/-- The body of the loop of `polling_unit_bundle`. -/
def EvidenceDb.bundleItem (sha256 : Bytes → Digest) (db : EvidenceDb) (evidenceId : String) : Result EvidenceBundleItem := do
  let history ← evidenceHistory conversions.toConversions db.versions evidenceId
  match history.getLast? with
  | none => .error ⟨.indexError, "list index out of range"⟩
  | some latest =>
    let extractions ← db.extractionsOf conversions evidenceId latest.version
    let reviews ← extractions.mapM fun extraction => db.extractionReviews conversions extraction.extractionId
    let chain ← verifyEvidenceChain conversions.toConversions sha256 db.versions evidenceId
    let attestations ← db.attestationsOf conversions.toConversions evidenceId latest.version
    return ⟨evidenceId, latest, history, chain, attestations, extractions, reviews.flatten⟩

/-- `SELECT DISTINCT evidence_id ... ORDER BY evidence_id` -/
def EvidenceDb.bundleIds (db : EvidenceDb) (electionId pollingUnitCode : String) : List String :=
  orderByTexts (·) ((db.versions.filter fun row =>
    row.electionId = electionId ∧ row.pollingUnitCode = pollingUnitCode).map (·.evidenceId)).dedup

/-- `EvidenceStore.polling_unit_bundle` -/
def EvidenceDb.pollingUnitBundle (sha256 : Bytes → Digest) (db : EvidenceDb) (electionId pollingUnitCode : String) :
    Result PollingUnitEvidenceBundle := do
  let items ← (db.bundleIds electionId pollingUnitCode).mapM (db.bundleItem conversions sha256)
  return ⟨electionId, pollingUnitCode, items⟩

end

/-! ## Requests -/

/-- A call of a writer, with what it takes from the clock, the uuids and SQLite. -/
inductive EvidenceRequest where
  | appendVersion (call : AppendCall) (uuid : String) (now : Timestamp)
  | addAttestation (attestation : SignedAttestation) (gap : Nat)
  | addExtraction (call : ExtractionCall) (uuid : String) (now : Timestamp)
  | addExtractionReview (extractionId : String) (submission : ExtractionReviewSubmission) (uuid : String)
      (now : Timestamp)

inductive EvidenceAnswer where
  | version (record : EvidenceVersion)
  | attested
  | extraction (record : ExtractionRecord)
  | review (record : ExtractionReview)

section
variable (sha256 : Bytes → Digest) (conversions : FieldConversions)

/-- Each writer is one transaction. -/
def serveEvidence (db : EvidenceDb) : EvidenceRequest → Result (EvidenceAnswer × EvidenceDb)
  | .appendVersion call uuid now => do
    let (record, versions) ← appendVersion conversions.toConversions sha256 db.versions call uuid now
    return (.version record, { db with versions := versions })
  | .addAttestation attestation gap => do
    let (_, db) ← db.addAttestation attestation gap
    return (.attested, db)
  | .addExtraction call uuid now => do
    let (record, db) ← db.addExtraction conversions call uuid now
    return (.extraction record, db)
  | .addExtractionReview extractionId submission uuid now => do
    let (review, db) ← db.addExtractionReview conversions extractionId submission uuid now
    return (.review review, db)

end

/-- The two databases under one root. -/
structure Stores where
  evidence : EvidenceDb
  registry : List RegistryRow

def Stores.empty : Stores := ⟨.empty, []⟩

inductive WriteRequest where
  | evidence (request : EvidenceRequest)
  | registry (payload : ElectionRegistryPayload) (uuid : String) (storedAt : Timestamp)

inductive WriteAnswer where
  | evidence (answer : EvidenceAnswer)
  | snapshot (s : ElectionRegistrySnapshot)

def serveWrite (sha256 : Bytes → Digest) (conversions : FieldConversions) (stores : Stores) :
    WriteRequest → Result (WriteAnswer × Stores)
  | .evidence request => do
    let (answer, db) ← serveEvidence sha256 conversions stores.evidence request
    return (.evidence answer, { stores with evidence := db })
  | .registry payload uuid storedAt => do
    let (snapshot, rows) ← registryAppend sha256 stores.registry payload uuid storedAt
    return (.snapshot snapshot, { stores with registry := rows })

end BallotProof
