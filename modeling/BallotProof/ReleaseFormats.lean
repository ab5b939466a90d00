import BallotProof.Csv
import BallotProof.ReleaseMirror
import BallotProof.ReleaseProofs
import BallotProof.WitnessStatements

/-! Signed releases: the records of an election in JSON, CSV and Parquet, the manifest over the three files, and
`verify_release`, which reads them all back. -/
namespace BallotProof.Releases
open Python

/-- What the code uses of pyarrow: a table of three columns of texts. -/
structure Parquet where
  write : List (String × String × String) → Bytes
  read : Bytes → Result (List (String × String × String))

/-- What was written is read. -/
structure Parquet.Lawful (parquet : Parquet) : Prop where
  reads : ∀ rows, parquet.read (parquet.write rows) = .ok rows

structure ReleaseFile where
  name : String
  mediaType : String
  sha256 : Digest
  sizeBytes : PositiveInt

/-- `schema_version` and `merkle_algorithm` have one value each. -/
structure ReleaseManifest where
  releaseId : String
  electionId : String
  recordCount : PositiveInt
  merkleRoot : Digest
  files : List ReleaseFile

/-- `algorithm` has one value, `"Ed25519"`. -/
structure ReleaseSignature where
  manifestSha256 : Digest
  publicKeyB64 : String
  signerKeySha256 : Digest
  signatureB64 : String

structure ReleaseVerification where
  releaseId : Option String
  valid : Bool
  signatureValid : Bool
  fileHashesValid : Bool
  formatsEquivalent : Bool
  merkleValid : Bool
  signerKeySha256 : Option Digest
  signerTrusted : Option Bool
  error : Option String
  deriving DecidableEq

/-- `EXPECTED_RELEASE_FILES` -/
def expectedReleaseFiles : List (String × String) := [
  ("records.json", "application/json"),
  ("records.csv", "text/csv"),
  ("records.parquet", "application/vnd.apache.parquet")]

/-- The default of `csv.field_size_limit`. -/
def fieldSizeLimit : Nat := 131072

/-- `_canonical_payload` -/
def canonicalPayload (record : ReleaseRecord) : List Char := record.payload.toJson.dumps

def ReleaseFile.entries (file : ReleaseFile) : List (String × Json) := [
  ("media_type", .str file.mediaType),
  ("name", .str file.name),
  ("sha256", .str file.sha256.hex),
  ("size_bytes", .int file.sizeBytes.1)]

/-- `file.model_dump(mode="json")`, as the next two of their models -/
def ReleaseFile.json (file : ReleaseFile) : Json := .obj file.entries

def ReleaseManifest.entries (manifest : ReleaseManifest) : List (String × Json) := [
  ("election_id", .str manifest.electionId),
  ("files", .arr (manifest.files.map ReleaseFile.json)),
  ("merkle_algorithm", .str "sha256-canonical-json-v1"),
  ("merkle_root", .str manifest.merkleRoot.hex),
  ("record_count", .int manifest.recordCount.1),
  ("release_id", .str manifest.releaseId),
  ("schema_version", .str "1")]

def ReleaseManifest.json (manifest : ReleaseManifest) : Json := .obj manifest.entries

def ReleaseSignature.entries (signature : ReleaseSignature) : List (String × Json) := [
  ("algorithm", .str "Ed25519"),
  ("manifest_sha256", .str signature.manifestSha256.hex),
  ("public_key_b64", .str signature.publicKeyB64),
  ("signature_b64", .str signature.signatureB64),
  ("signer_key_sha256", .str signature.signerKeySha256.hex)]

def ReleaseSignature.json (signature : ReleaseSignature) : Json := .obj signature.entries

def csvHeader : Csv.Row := ["record_type".toList, "record_key".toList, "payload_json".toList]

def csvRow (record : ReleaseRecord) : Csv.Row :=
  [record.recordType.text.toList, record.recordKey.toList, canonicalPayload record]

def parquetRow (record : ReleaseRecord) : String × String × String :=
  (record.recordType.text, record.recordKey, String.ofList (canonicalPayload record))

/-- `_json_bytes`, of records in order -/
def jsonBytes (ordered : List ReleaseRecord) : Bytes :=
  canonicalJsonBytes (.arr (ordered.map (·.modelDump))) ++ [10]

/-- `_csv_bytes`, of records in order -/
def csvBytes (ordered : List ReleaseRecord) : Bytes :=
  encode (Csv.writeRows (csvHeader :: ordered.map csvRow))

/-- `Field(ge=1)` -/
def positive (n : Nat) : Result PositiveInt :=
  if bounds : 1 ≤ n ∧ intFits n = true then .ok ⟨n, bounds⟩
  else rejected "Input should be greater than or equal to 1"

section
variable {Key : Type} (sha256 : Bytes → Digest) (ed25519 : Ed25519 Key) (parquet : Parquet)

/-- `_parquet_bytes`, of records in order -/
def parquetBytes (ordered : List ReleaseRecord) : Bytes := parquet.write (ordered.map parquetRow)

/-- `_file_entry` -/
def fileEntry (name mediaType : String) (data : Bytes) : Result ReleaseFile := do
  return ⟨name, mediaType, sha256 data, ← positive data.length⟩

/-- The first 32 digits of the hash of what identifies a release. -/
def releaseIdOf (electionId : String) (merkleRoot : Digest) : String :=
  "bp_rel_" ++ String.ofList ((hashRecord sha256 (.obj [
    ("election_id", .str electionId),
    ("merkle_root", .str merkleRoot.hex),
    ("schema_version", .str "1")])).hex.toList.take 32)

/-- The three files with their media types. -/
def exports (ordered : List ReleaseRecord) : List (String × String × Bytes) := [
  ("records.json", "application/json", jsonBytes ordered),
  ("records.csv", "text/csv", csvBytes ordered),
  ("records.parquet", "application/vnd.apache.parquet", parquetBytes parquet ordered)]

/-- The manifest of `build_release`, for the records that were collected. -/
def buildManifest (records : List ReleaseRecord) (electionId : String) : Result ReleaseManifest := do
  let rootHash ← merkleRoot sha256 records
  let ordered ← orderedRecords records
  let files ← (exports parquet ordered).mapM fun (name, mediaType, data) => fileEntry sha256 name mediaType data
  return ⟨releaseIdOf sha256 electionId rootHash, electionId, ← positive records.length, rootHash, files⟩

/-- The signature over the manifest. -/
def signManifest (key : Key) (message : Bytes) : ReleaseSignature :=
  ⟨sha256 message, String.ofList (b64encode (ed25519.publicKey key)), sha256 (ed25519.publicKey key),
    String.ofList (b64encode (ed25519.sign key message))⟩

/-- `build_release`, for the records that were collected: the manifest, and the files that it leaves. -/
def buildRelease (records : List ReleaseRecord) (electionId : String) (key : Key) :
    Result (ReleaseManifest × ReleaseDirectory) := do
  let manifest ← buildManifest sha256 parquet records electionId
  let manifestBytes := canonicalJsonBytes manifest.json ++ [10]
  let message := rstripNewlines manifestBytes
  let signatureBytes := canonicalJsonBytes (signManifest sha256 ed25519 key message).json ++ [10]
  let ordered ← orderedRecords records
  return (manifest, fun name =>
    if name = "records.json" then some (jsonBytes ordered)
    else if name = "records.csv" then some (csvBytes ordered)
    else if name = "records.parquet" then some (parquetBytes parquet ordered)
    else if name = "manifest.json" then some manifestBytes
    else if name = "manifest.signature.json" then some signatureBytes
    else none)

end

/-- The document of a JSON text, as pydantic reads it. -/
def document (data : Bytes) : Result Json :=
  match decode data with
  | .error _ => rejected "Invalid JSON"
  | .ok text =>
    match loads text with
    | .error _ => rejected "Invalid JSON"
    | .ok value => .ok value

section
variable (conversions : Conversions)

def ReleaseFile.modelValidate (value : Json) : Result ReleaseFile := do
  let entries ← objectOf value
  onlyFields ["name", "media_type", "sha256", "size_bytes"] entries
  let name ← textField entries "name"
  let mediaType ← textField entries "media_type"
  let sha256 ← hashField entries "sha256"
  let sizeBytes ← positiveField entries "size_bytes" conversions
  return ⟨name, mediaType, sha256, sizeBytes⟩

/-- A list without a default. -/
def requiredList (entries : List (String × Json)) (name : String) (read : Json → Result α) : Result (List α) := do
  match lookup name entries with
  | some (.arr items) => items.mapM read
  | some _ => rejected "Input should be a valid list"
  | none => rejected "Field required"

def ReleaseManifest.modelValidate (value : Json) : Result ReleaseManifest := do
  let entries ← objectOf value
  onlyFields ["schema_version", "release_id", "election_id", "record_count", "merkle_algorithm", "merkle_root",
    "files"] entries
  literalField entries "schema_version" "1"
  let releaseId ← textField entries "release_id"
  let electionId ← textField entries "election_id"
  let recordCount ← positiveField entries "record_count" conversions
  literalField entries "merkle_algorithm" "sha256-canonical-json-v1"
  let merkleRoot ← hashField entries "merkle_root"
  let files ← requiredList entries "files" (ReleaseFile.modelValidate conversions)
  return ⟨releaseId, electionId, recordCount, merkleRoot, files⟩

def ReleaseSignature.modelValidate (value : Json) : Result ReleaseSignature := do
  let entries ← objectOf value
  onlyFields ["algorithm", "manifest_sha256", "public_key_b64", "signer_key_sha256", "signature_b64"] entries
  literalField entries "algorithm" "Ed25519"
  let manifestSha256 ← hashField entries "manifest_sha256"
  let publicKeyB64 ← textField entries "public_key_b64"
  let signerKeySha256 ← hashField entries "signer_key_sha256"
  let signatureB64 ← textField entries "signature_b64"
  return ⟨manifestSha256, publicKeyB64, signerKeySha256, signatureB64⟩

end

/-- `ReleaseRecord(...)` from its three values -/
def recordOf (recordType recordKey : String) (payload : Json) : Result ReleaseRecord := do
  let recordType ← textOf [.registrySnapshot, .evidenceVersion, .attestation, .extraction, .extractionReview]
    RecordType.text recordType
  match payload.asDict with
  | some payload => return { recordType, recordKey, payload }
  | none => rejected "Input should be a valid dictionary"

/-- `ReleaseRecord.model_validate` -/
def recordValidate (value : Json) : Result ReleaseRecord := do
  let entries ← objectOf value
  onlyFields ["record_type", "record_key", "payload"] entries
  let recordType ← textField entries "record_type"
  let recordKey ← textField entries "record_key"
  match lookup "payload" entries with
  | some payload => recordOf recordType recordKey payload
  | none => rejected "Field required"

/-- What a `for` over a JSON value goes through. -/
def iterate : Json → Result (List Json)
  | .arr items => .ok items
  | .obj entries => .ok (entries.map fun entry => .str entry.1)
  | .str text => .ok (text.toList.map fun c => .str (String.ofList [c]))
  | _ => .error ⟨.typeError, "object is not iterable"⟩

/-- The records of `records.json`. -/
def recordsFromJson (data : Bytes) : Result (List ReleaseRecord) := do
  let items ← iterate (← loads (← decode data))
  items.mapM recordValidate

/-- A row of `csv.DictReader` under a name: the last column with the name counts, and a column beyond the row
holds None. -/
def column (names row : Csv.Row) (name : String) : Option (Option Csv.Field) :=
  ((names.zip (row.map some ++ List.replicate (names.length - row.length) none)).reverse.find? fun entry =>
    entry.1 = name.toList).map (·.2)

/-- `row[name]` -/
def cell (names row : Csv.Row) (name : String) : Result (Option Csv.Field) :=
  match column names row name with
  | some value => .ok value
  | none => .error ⟨.keyError, name⟩

/-- A `str` that may be None. -/
def textCell : Option Csv.Field → Result String
  | some text => .ok (String.ofList text)
  | none => rejected "Input should be a valid string"

def csvRecord (names row : Csv.Row) : Result ReleaseRecord := do
  let recordType ← cell names row "record_type"
  let recordKey ← cell names row "record_key"
  match ← cell names row "payload_json" with
  | none => .error ⟨.typeError, "the JSON object must be str, bytes or bytearray, not NoneType"⟩
  | some text => do
    let payload ← loads text
    recordOf (← textCell recordType) (← textCell recordKey) payload

/-- `_records_from_csv`; the rows are read one by one. -/
def recordsFromCsv (data : Bytes) : Result (List ReleaseRecord) := do
  let text ← decode data
  match Csv.read fieldSizeLimit text with
  | ([], ends) => ends.map fun _ => []
  | (names :: rows, ends) => do
    let records ← (rows.filter (· ≠ [])).mapM (csvRecord names)
    ends.map fun _ => records

section
variable {Key : Type} (conversions : Conversions) (lowering : Lowering) (sha256 : Bytes → Digest)
  (ed25519 : Ed25519 Key) (parquet : Parquet)

/-- `_records_from_parquet` -/
def recordsFromParquet (data : Bytes) : Result (List ReleaseRecord) := do
  let rows ← parquet.read data
  rows.mapM fun (recordType, recordKey, payloadJson) => do
    recordOf recordType recordKey (← loads payloadJson.toList)

/-- The loop of `_validate_manifest_files` over the files. -/
def filesByName : List ReleaseFile → List (String × ReleaseFile) → Result (List (String × ReleaseFile))
  | [], files => .ok files
  | item :: items, files =>
    if (lookup item.name files).isSome then .error ⟨.valueError, "duplicate manifest file name: " ++ item.name⟩
    else filesByName items (files ++ [(item.name, item)])

/-- `files[name]` -/
def fileNamed (files : List (String × ReleaseFile)) (name : String) : Result ReleaseFile :=
  match lookup name files with
  | some file => .ok file
  | none => .error ⟨.keyError, name⟩

/-- `_validate_manifest_files` -/
def validateManifestFiles (manifest : ReleaseManifest) : Result (List (String × ReleaseFile)) := do
  let files ← filesByName manifest.files []
  raiseIf ((files.map (·.1)).toFinset ≠ (expectedReleaseFiles.map (·.1)).toFinset)
    ⟨.valueError, "release manifest must contain exactly the schema-v1 export files"⟩
  expectedReleaseFiles.forM fun (name, expectedMediaType) => do
    let file ← fileNamed files name
    raiseIf (file.mediaType ≠ expectedMediaType) ⟨.valueError, "unexpected media type for " ++ name⟩
  return files

/-- `_signer_trust_status` -/
def signerTrustStatus (signerKeySha256 : Digest) : Option (List String) → Result (Option Bool)
  | none => .ok none
  | some values => do
    raiseIf (values.any (fun value => !isFingerprint (lower lowering value).toList) = true)
      ⟨.valueError, "trusted signer fingerprints must be 64 hexadecimal characters"⟩
    return some (decide (signerKeySha256.hex ∈ values.map (lower lowering)))

/-- `_load_verified_manifest` -/
def loadVerifiedManifest (directory : ReleaseDirectory) (trusted : Option (List String)) :
    Result (ReleaseManifest × ReleaseSignature × Bool × Option Bool) := do
  let manifestRaw ← (directory.readBytes "manifest.json").map rstripNewlines
  let manifest ← ReleaseManifest.modelValidate conversions (← document manifestRaw)
  let _ ← validateManifestFiles manifest
  let signature ← ReleaseSignature.modelValidate (← document (← directory.readBytes "manifest.signature.json"))
  let publicKey ← b64decode signature.publicKeyB64.toList
  raiseIf (publicKey.length ≠ 32) ⟨.valueError, "An Ed25519 public key is 32 bytes long"⟩
  let signatureBytes ← b64decode signature.signatureB64.toList
  raiseIf (ed25519.verify publicKey signatureBytes manifestRaw = false) ⟨.invalidSignature, ""⟩
  let signatureValid := decide (sha256 manifestRaw = signature.manifestSha256) &&
    decide (sha256 publicKey = signature.signerKeySha256)
  let signerTrusted ← signerTrustStatus lowering signature.signerKeySha256 trusted
  return (manifest, signature, signatureValid, signerTrusted)

/-- `_record_dicts` -/
def recordDicts (records : List ReleaseRecord) : Result (List Json) :=
  (orderedRecords records).map fun ordered => ordered.map (·.modelDump)

/-- `formats_equivalent`, where the second comparison is made only after the first. -/
def formatsEquivalent (jsonRecords csvRecords parquetRecords : List ReleaseRecord) : Result Bool := do
  let canonical ← recordDicts jsonRecords
  if pyEqItems canonical (← recordDicts csvRecords) then
    return pyEqItems canonical (← recordDicts parquetRecords)
  else return false

/-- The data of a file, and whether it is as the manifest has it. -/
def checkedFile (directory : ReleaseDirectory) (files : List (String × ReleaseFile)) (name : String) :
    Result (Bytes × Bool) := do
  let item ← fileNamed files name
  let data ← directory.readBytes name
  return (data, decide (sha256 data = item.sha256) && decide (data.length = item.sizeBytes.1))

/-- The body of `verify_release`. -/
def checkRelease (directory : ReleaseDirectory) (trusted : Option (List String)) :
    Result ReleaseVerification := do
  let (manifest, signature, signatureValid, signerTrusted) ←
    loadVerifiedManifest conversions lowering sha256 ed25519 directory trusted
  let files ← validateManifestFiles manifest
  let (jsonData, jsonHash) ← checkedFile sha256 directory files "records.json"
  let (csvData, csvHash) ← checkedFile sha256 directory files "records.csv"
  let (parquetData, parquetHash) ← checkedFile sha256 directory files "records.parquet"
  let fileHashesValid := jsonHash && csvHash && parquetHash
  let jsonRecords ← recordsFromJson jsonData
  let csvRecords ← recordsFromCsv csvData
  let parquetRecords ← recordsFromParquet parquet parquetData
  let equivalent ← formatsEquivalent jsonRecords csvRecords parquetRecords
  let rooted ← merkleValid sha256 jsonRecords manifest.recordCount.1 manifest.merkleRoot
  return ⟨some manifest.releaseId,
    signatureValid && signerTrusted ≠ some false && fileHashesValid && equivalent && rooted,
    signatureValid, fileHashesValid, equivalent, rooted, some signature.signerKeySha256, signerTrusted, none⟩

/-- The exceptions that `verify_release` reports; an error of the CSV reader is none of them. -/
def reported : ErrorKind → Bool
  | .csvError | .runtimeError | .integrityError | .indexError | .overflowError | .dataError => false
  | _ => true

/-- `verify_release` -/
def verifyRelease (directory : ReleaseDirectory) (trusted : Option (List String)) : Result ReleaseVerification :=
  match checkRelease conversions lowering sha256 ed25519 parquet directory trusted with
  | .ok verification => .ok verification
  | .error error =>
    if reported error.kind then
      .ok ⟨none, false, false, false, false, false, none, none, some error.describe⟩
    else .error error

end

end BallotProof.Releases
