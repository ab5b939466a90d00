import BallotProof.ReleaseInclusion
import BallotProof.SemanticInvariance

/-! Semantic releases: `build_atomic_release` signs a summary of what a release says beside its manifest, and
`verify_semantic_release` takes the summary from the records anew. -/
namespace BallotProof.Releases
open Python

/-- `schema_version`, `semantic_algorithm` and `snapshot_strategy` have one value each. -/
structure ReleaseSemanticSummary where
  releaseId : String
  electionId : String
  ledgerMerkleRoot : Digest
  semanticRecordCount : PositiveInt
  semanticRoot : Digest
  normalizationSha256 : Digest

/-- `algorithm` has one value, `"Ed25519"`. -/
structure ReleaseSemanticSignature where
  semanticSummarySha256 : Digest
  publicKeyB64 : String
  signerKeySha256 : Digest
  signatureB64 : String

structure ReleaseSemanticVerification where
  releaseId : Option String
  valid : Bool
  signatureValid : Bool
  signerMatchesRelease : Bool
  semanticRootValid : Bool
  semanticRoot : Option Digest
  semanticRecordCount : Option Nat
  error : Option String
  deriving DecidableEq

/-- What is said of one type of record in `SEMANTIC_NORMALIZATION_RULES`. -/
def normalizationRule (exclude : List String) (reference : Option String) : Json := .obj <|
  ("exclude", .arr (exclude.map .str)) ::
  match reference with
  | some text => [("reference", .str text)]
  | none => []

/-- `SEMANTIC_NORMALIZATION_RULES` -/
def semanticNormalizationRules : Json := .obj [
  ("attestation", normalizationRule ["payload.evidence_id", "payload.evidence_version", "payload.record_hash",
    "signature_b64"] (some "content-derived evidence_ref")),
  ("duplicates", .str "identical normalized records collapse to one semantic record"),
  ("evidence_version", normalizationRule ["evidence_id", "version", "filename", "stored_at", "previous_record_hash",
    "record_hash"] (some "content-derived evidence_ref")),
  ("extraction", normalizationRule ["extraction_id", "evidence_id", "evidence_version", "record_hash", "stored_at",
    "supersedes_extraction_id", "provenance.created_at"]
    (some "content-derived evidence_ref and supersedes_semantic_ref")),
  ("extraction_review", normalizationRule ["review_id", "extraction_id", "evidence_id", "evidence_version",
    "stored_at"] (some "content-derived extraction_ref")),
  ("registry_snapshot", normalizationRule ["snapshot_id", "stored_at", "previous_snapshot_hash", "snapshot_hash",
    "payload.source.retrieved_at"] none)]

/-- `SEMANTIC_NORMALIZATION_SHA256` -/
def semanticNormalizationSha256 (sha256 : Bytes → Digest) : Digest :=
  sha256 (canonicalJsonBytes semanticNormalizationRules)

def ReleaseSemanticSummary.entries (summary : ReleaseSemanticSummary) : List (String × Json) := [
  ("election_id", .str summary.electionId),
  ("ledger_merkle_root", .str summary.ledgerMerkleRoot.hex),
  ("normalization_sha256", .str summary.normalizationSha256.hex),
  ("release_id", .str summary.releaseId),
  ("schema_version", .str "1"),
  ("semantic_algorithm", .str "sha256-semantic-record-set-v1"),
  ("semantic_record_count", .int summary.semanticRecordCount.1),
  ("semantic_root", .str summary.semanticRoot.hex),
  ("snapshot_strategy", .str "ballotproof-write-barrier-v1")]

/-- `summary.model_dump(mode="json")`, as the next of its model -/
def ReleaseSemanticSummary.json (summary : ReleaseSemanticSummary) : Json := .obj summary.entries

def ReleaseSemanticSignature.entries (signature : ReleaseSemanticSignature) : List (String × Json) := [
  ("algorithm", .str "Ed25519"),
  ("public_key_b64", .str signature.publicKeyB64),
  ("semantic_summary_sha256", .str signature.semanticSummarySha256.hex),
  ("signature_b64", .str signature.signatureB64),
  ("signer_key_sha256", .str signature.signerKeySha256.hex)]

def ReleaseSemanticSignature.json (signature : ReleaseSemanticSignature) : Json := .obj signature.entries

section
variable (conversions : Conversions)

def ReleaseSemanticSummary.modelValidate (value : Json) : Result ReleaseSemanticSummary := do
  let entries ← objectOf value
  onlyFields ["schema_version", "release_id", "election_id", "ledger_merkle_root", "semantic_algorithm",
    "semantic_record_count", "semantic_root", "normalization_sha256", "snapshot_strategy"] entries
  literalField entries "schema_version" "1"
  let releaseId ← textField entries "release_id"
  let electionId ← textField entries "election_id"
  let ledgerMerkleRoot ← hashField entries "ledger_merkle_root"
  literalField entries "semantic_algorithm" "sha256-semantic-record-set-v1"
  let semanticRecordCount ← positiveField entries "semantic_record_count" conversions
  let semanticRoot ← hashField entries "semantic_root"
  let normalizationSha256 ← hashField entries "normalization_sha256"
  literalField entries "snapshot_strategy" "ballotproof-write-barrier-v1"
  return { releaseId, electionId, ledgerMerkleRoot, semanticRecordCount, semanticRoot, normalizationSha256 }

def ReleaseSemanticSignature.modelValidate (value : Json) : Result ReleaseSemanticSignature := do
  let entries ← objectOf value
  onlyFields ["algorithm", "semantic_summary_sha256", "public_key_b64", "signer_key_sha256", "signature_b64"] entries
  literalField entries "algorithm" "Ed25519"
  let semanticSummarySha256 ← hashField entries "semantic_summary_sha256"
  let publicKeyB64 ← textField entries "public_key_b64"
  let signerKeySha256 ← hashField entries "signer_key_sha256"
  let signatureB64 ← textField entries "signature_b64"
  return ⟨semanticSummarySha256, publicKeyB64, signerKeySha256, signatureB64⟩

end

/-- A text that has to be a SHA-256 digest. -/
def digestOf (text : String) : Result Digest :=
  match Digest.ofHex text with
  | some digest => .ok digest
  | none => rejected "String should match pattern '^[a-f0-9]{64}$'"

/-- The records of `records.json`, read as a text file. -/
def readRecords (directory : ReleaseDirectory) : Result (List ReleaseRecord) := do
  let text ← decode (← directory.readBytes "records.json")
  (← iterate (← loads (universalNewlines text))).mapM recordValidate

section
variable {Key : Type} (conversions : Conversions) (lowering : Lowering) (sha256 : Bytes → Digest)
  (repr : Json → String) (ed25519 : Ed25519 Key) (parquet : Parquet)

/-- The signature over a summary. -/
def signSummary (key : Key) (message : Bytes) : ReleaseSemanticSignature :=
  ⟨sha256 message, String.ofList (b64encode (ed25519.publicKey key)), sha256 (ed25519.publicKey key),
    String.ofList (b64encode (ed25519.sign key message))⟩

/-- The summary of `build_atomic_release`, from the records that were read back. -/
def summarize (manifest : ReleaseManifest) (electionId : String) (records : List ReleaseRecord) :
    Result ReleaseSemanticSummary := do
  let (semanticRoot, semanticCount) ← semanticMerkleRoot sha256 repr records
  return ⟨manifest.releaseId, electionId, manifest.merkleRoot, ← positive semanticCount, ← digestOf semanticRoot,
    semanticNormalizationSha256 sha256⟩

/-- `build_atomic_release`, for the records that were collected under the barrier: the summary, and the files that
it leaves. -/
def buildAtomicRelease (records : List ReleaseRecord) (electionId : String) (key : Key) :
    Result (ReleaseSemanticSummary × ReleaseDirectory) := do
  let (manifest, directory) ← buildRelease sha256 ed25519 parquet records electionId key
  let records ← readRecords directory
  let summary ← summarize sha256 repr manifest electionId records
  let message := canonicalJsonBytes summary.json
  return (summary, fun name =>
    if name = "semantic.summary.json" then some (message ++ [10])
    else if name = "semantic.summary.signature.json" then
      some (canonicalJsonBytes (signSummary sha256 ed25519 key message).json ++ [10])
    else directory name)

/-- The body of `verify_semantic_release`, of a release that is valid. -/
def checkSemanticRelease (directory : ReleaseDirectory) : Result ReleaseSemanticVerification := do
  let manifest ← ReleaseManifest.modelValidate conversions (← document (← directory.readBytes "manifest.json"))
  let releaseSignature ← ReleaseSignature.modelValidate (← document (← directory.readBytes "manifest.signature.json"))
  let summaryRaw ← (directory.readBytes "semantic.summary.json").map rstripNewlines
  let summary ← ReleaseSemanticSummary.modelValidate conversions (← document summaryRaw)
  let signature ← ReleaseSemanticSignature.modelValidate
    (← document (← directory.readBytes "semantic.summary.signature.json"))
  let publicKey ← b64decode signature.publicKeyB64.toList
  raiseIf (publicKey.length ≠ 32) ⟨.valueError, "An Ed25519 public key is 32 bytes long"⟩
  let signatureBytes ← b64decode signature.signatureB64.toList
  raiseIf (ed25519.verify publicKey signatureBytes summaryRaw = false) ⟨.invalidSignature, ""⟩
  let signatureValid := decide (sha256 summaryRaw = signature.semanticSummarySha256) &&
    decide (sha256 publicKey = signature.signerKeySha256)
  let signerMatchesRelease := decide (signature.signerKeySha256 = releaseSignature.signerKeySha256)
  let records ← readRecords directory
  let (semanticRoot, semanticCount) ← semanticMerkleRoot sha256 repr records
  let semanticRootValid := decide (summary.releaseId = manifest.releaseId) &&
    decide (summary.electionId = manifest.electionId) &&
    decide (summary.ledgerMerkleRoot = manifest.merkleRoot) &&
    decide (summary.normalizationSha256 = semanticNormalizationSha256 sha256) &&
    decide (summary.semanticRecordCount.1 = semanticCount) && decide (summary.semanticRoot.hex = semanticRoot)
  return ⟨some summary.releaseId, signatureValid && signerMatchesRelease && semanticRootValid, signatureValid,
    signerMatchesRelease, semanticRootValid, some summary.semanticRoot, some summary.semanticRecordCount.1, none⟩

/-- `verify_semantic_release`; an error that is reported has a text. -/
def verifySemanticRelease (directory : ReleaseDirectory) (trusted : Option (List String)) :
    Result ReleaseSemanticVerification := do
  let base ← verifyRelease conversions lowering sha256 ed25519 parquet directory trusted
  if base.valid = false then
    return ⟨none, false, false, false, false, none, none, some (base.error.getD "base release verification failed")⟩
  else
    match checkSemanticRelease conversions sha256 repr ed25519 directory with
    | .ok verification => return verification
    | .error error =>
      if reported error.kind then return ⟨base.releaseId, false, false, false, false, none, none, some error.describe⟩
      else .error error

end

theorem ReleaseSemanticSummary.json_wellFormed (summary : ReleaseSemanticSummary) :
    summary.json.wellFormed = true := by
  apply entries_wellFormed
  · simp only [entries, keysAscend]
    decide
  · simp only [entries, List.mem_cons, List.not_mem_nil, or_false, forall_eq_or_imp, forall_eq]
    exact ⟨str_wellFormed _, str_wellFormed _, str_wellFormed _, str_wellFormed _, str_wellFormed _, str_wellFormed _,
      int_wellFormed summary.semanticRecordCount.2.2, str_wellFormed _, str_wellFormed _⟩

theorem ReleaseSemanticSignature.json_wellFormed (signature : ReleaseSemanticSignature) :
    signature.json.wellFormed = true := by
  apply entries_wellFormed
  · simp only [entries, keysAscend]
    decide
  · simp only [entries, List.mem_cons, List.not_mem_nil, or_false, forall_eq_or_imp, forall_eq]
    exact ⟨str_wellFormed _, str_wellFormed _, str_wellFormed _, str_wellFormed _, str_wellFormed _⟩

section
variable {conversions : Conversions}

theorem ReleaseSemanticSummary.read (summary : ReleaseSemanticSummary) :
    ReleaseSemanticSummary.modelValidate conversions summary.json = .ok summary := by
  have names : onlyFields ["schema_version", "release_id", "election_id", "ledger_merkle_root", "semantic_algorithm",
      "semantic_record_count", "semantic_root", "normalization_sha256", "snapshot_strategy"] summary.entries =
        .ok () := by
    simp [onlyFields, require, entries]
  have version : literalField summary.entries "schema_version" "1" = .ok () :=
    literalField_str (by simp [entries, lookup])
  have release : textField summary.entries "release_id" = .ok summary.releaseId :=
    textField_str (by simp [entries, lookup])
  have election : textField summary.entries "election_id" = .ok summary.electionId :=
    textField_str (by simp [entries, lookup])
  have ledger : hashField summary.entries "ledger_merkle_root" = .ok summary.ledgerMerkleRoot :=
    hashField_hex (by simp [entries, lookup])
  have algorithm : literalField summary.entries "semantic_algorithm" "sha256-semantic-record-set-v1" = .ok () :=
    literalField_str (by simp [entries, lookup])
  have count : positiveField summary.entries "semantic_record_count" conversions = .ok summary.semanticRecordCount :=
    positiveField_int (by simp [entries, lookup])
  have root : hashField summary.entries "semantic_root" = .ok summary.semanticRoot :=
    hashField_hex (by simp [entries, lookup])
  have normalization : hashField summary.entries "normalization_sha256" = .ok summary.normalizationSha256 :=
    hashField_hex (by simp [entries, lookup])
  have strategy : literalField summary.entries "snapshot_strategy" "ballotproof-write-barrier-v1" = .ok () :=
    literalField_str (by simp [entries, lookup])
  simp only [modelValidate, json, objectOf, ok_bind, names, version, release, election, ledger, algorithm, count, root,
    normalization, strategy]
  rfl

theorem ReleaseSemanticSignature.read (signature : ReleaseSemanticSignature) :
    ReleaseSemanticSignature.modelValidate signature.json = .ok signature := by
  have names : onlyFields ["algorithm", "semantic_summary_sha256", "public_key_b64", "signer_key_sha256",
      "signature_b64"] signature.entries = .ok () := by
    simp [onlyFields, require, entries]
  have algorithm : literalField signature.entries "algorithm" "Ed25519" = .ok () :=
    literalField_str (by simp [entries, lookup])
  have summary : hashField signature.entries "semantic_summary_sha256" = .ok signature.semanticSummarySha256 :=
    hashField_hex (by simp [entries, lookup])
  have publicKey : textField signature.entries "public_key_b64" = .ok signature.publicKeyB64 :=
    textField_str (by simp [entries, lookup])
  have signer : hashField signature.entries "signer_key_sha256" = .ok signature.signerKeySha256 :=
    hashField_hex (by simp [entries, lookup])
  have written : textField signature.entries "signature_b64" = .ok signature.signatureB64 :=
    textField_str (by simp [entries, lookup])
  simp only [modelValidate, json, objectOf, ok_bind, names, algorithm, summary, publicKey, signer, written]
  rfl

end

section
variable {Key : Type} {conversions : Conversions} {lowering : Lowering} {sha256 : Bytes → Digest}
  {repr : Json → String} {ed25519 : Ed25519 Key} {parquet : Parquet}

theorem readRecords_built (of : BuiltOf ed25519 sha256 parquet records key manifest directory) :
    readRecords directory = .ok ((sortRecords records).map jsonCopy) := by
  rw [readRecords, of.json, ok_bind]
  exact readText_built _

/-- The root and the number of the semantic records. -/
theorem semanticMerkleRoot_ok (h : semanticMerkleRoot sha256 repr records = .ok (text, count)) :
    ∃ contents root, semanticRecords sha256 repr records = .ok contents ∧
      MerkleTree.root (nodeHash sha256) (contents.map fun r => sha256 (canonicalJsonBytes r.modelDump)) = some root ∧
      text = root.hex ∧ count = contents.length := by
  obtain ⟨contents, found, h⟩ := bind_ok h
  split at h
  · rename_i root top
    obtain ⟨rfl, rfl⟩ := Prod.mk.inj (Except.ok.inj h)
    exact ⟨contents, root, found, top, rfl, rfl⟩
  · cases h

/-- What a summary says of a manifest and of the records beside it. -/
structure Summarizes (sha256 : Bytes → Digest) (repr : Json → String) (manifest : ReleaseManifest)
    (records : List ReleaseRecord) (summary : ReleaseSemanticSummary) : Prop where
  release : summary.releaseId = manifest.releaseId
  election : summary.electionId = manifest.electionId
  ledger : summary.ledgerMerkleRoot = manifest.merkleRoot
  normalization : summary.normalizationSha256 = semanticNormalizationSha256 sha256
  rooted : semanticMerkleRoot sha256 repr records =
    .ok (summary.semanticRoot.hex, summary.semanticRecordCount.1)

/-- A summary is what `build_atomic_release` would make of the manifest and the records, and nothing else is. -/
theorem summarize_ok :
    summarize sha256 repr manifest manifest.electionId records = .ok summary ↔
      Summarizes sha256 repr manifest records summary := by
  constructor
  · intro made
    obtain ⟨⟨text, count⟩, rooted, made⟩ := bind_ok made
    obtain ⟨positiveCount, counted, made⟩ := bind_ok made
    obtain ⟨digest, read, made⟩ := bind_ok made
    cases made
    obtain ⟨-, root, -, -, rfl, -⟩ := semanticMerkleRoot_ok rooted
    rw [digestOf, Digest.ofHex_hex] at read
    cases read
    exact ⟨rfl, rfl, rfl, rfl, by rw [rooted, positive_ok counted]⟩
  · intro of
    obtain ⟨release, election, ledger, normalization, rooted⟩ := of
    have counted : positive summary.semanticRecordCount.1 = .ok summary.semanticRecordCount :=
      dif_pos summary.semanticRecordCount.2
    simp only [summarize, rooted, ok_bind, counted, digestOf, Digest.ofHex_hex]
    rw [← release, ← election, ← ledger, ← normalization]
    rfl

theorem buildManifest_election (built : buildManifest sha256 parquet records electionId = .ok manifest) :
    manifest.electionId = electionId := by
  obtain ⟨root, -, built⟩ := bind_ok built
  obtain ⟨ordered, -, built⟩ := bind_ok built
  obtain ⟨files, -, built⟩ := bind_ok built
  obtain ⟨count, -, built⟩ := bind_ok built
  cases built
  rfl

/-- The files of a built directory beside the two of the summary. -/
structure AtomicOf (sha256 : Bytes → Digest) (repr : Json → String) (ed25519 : Ed25519 Key) (parquet : Parquet)
    (records : List ReleaseRecord) (key : Key) (manifest : ReleaseManifest) (summary : ReleaseSemanticSummary)
    (directory : ReleaseDirectory) : Prop where
  builtOf : BuiltOf ed25519 sha256 parquet records key manifest directory
  summarizes : Summarizes sha256 repr manifest ((sortRecords records).map jsonCopy) summary
  summarized : directory.readBytes "semantic.summary.json" = .ok (canonicalJsonBytes summary.json ++ [10])
  signed : directory.readBytes "semantic.summary.signature.json" = .ok (canonicalJsonBytes
    (signSummary sha256 ed25519 key (canonicalJsonBytes summary.json)).json ++ [10])

theorem buildAtomicRelease_ok
    (built : buildAtomicRelease sha256 repr ed25519 parquet records electionId key = .ok (summary, directory)) :
    ∃ manifest, buildManifest sha256 parquet records electionId = .ok manifest ∧
      AtomicOf sha256 repr ed25519 parquet records key manifest summary directory := by
  obtain ⟨⟨manifest, base⟩, release, built⟩ := bind_ok built
  obtain ⟨read, reads, built⟩ := bind_ok built
  obtain ⟨made, summarized, built⟩ := bind_ok built
  obtain ⟨rfl, rfl⟩ := Prod.mk.inj (Except.ok.inj built)
  have of := buildRelease_ok release
  cases reads.symm.trans (readRecords_built of)
  obtain ⟨found, manifestOk, release⟩ := bind_ok release
  obtain ⟨ordered, -, release⟩ := bind_ok release
  obtain ⟨rfl, -⟩ := Prod.mk.inj (Except.ok.inj release)
  cases buildManifest_election manifestOk
  refine ⟨found, manifestOk, ⟨of.manifestOf, ?_, ?_, ?_, ?_, ?_⟩, summarize_ok.mp summarized, ?_, ?_⟩
  · exact of.json
  · exact of.csv
  · exact of.table
  · exact of.signed
  · exact of.signature
  · simp [ReleaseDirectory.readBytes]
  · simp [ReleaseDirectory.readBytes]

theorem Summarizes.valid (of : Summarizes sha256 repr manifest records summary) :
    (decide (summary.releaseId = manifest.releaseId) && decide (summary.electionId = manifest.electionId) &&
      decide (summary.ledgerMerkleRoot = manifest.merkleRoot) &&
      decide (summary.normalizationSha256 = semanticNormalizationSha256 sha256)) = true := by
  simp [of.release, of.election, of.ledger, of.normalization]

theorem checkSemanticRelease_built (signing : ed25519.Lawful)
    (of : AtomicOf sha256 repr ed25519 parquet records key manifest summary directory) :
    checkSemanticRelease conversions sha256 repr ed25519 directory =
      .ok ⟨some summary.releaseId, true, true, true, true, some summary.semanticRoot,
        some summary.semanticRecordCount.1, none⟩ := by
  have message : rstripNewlines (canonicalJsonBytes summary.json ++ [10]) = canonicalJsonBytes summary.json :=
    rstripNewlines_object summary.entries
  have publicKey : b64decode (signSummary sha256 ed25519 key (canonicalJsonBytes summary.json)).publicKeyB64.toList =
      .ok (ed25519.publicKey key) := by
    simp [signSummary]
  have written : b64decode (signSummary sha256 ed25519 key (canonicalJsonBytes summary.json)).signatureB64.toList =
      .ok (ed25519.sign key (canonicalJsonBytes summary.json)) := by
    simp [signSummary]
  have size : raiseIf ((ed25519.publicKey key).length ≠ 32)
      ⟨.valueError, "An Ed25519 public key is 32 bytes long"⟩ = .ok () :=
    raiseIf_ok.mpr (not_not_intro (signing.size key))
  have verifies : raiseIf (ed25519.verify (ed25519.publicKey key) (ed25519.sign key (canonicalJsonBytes summary.json))
      (canonicalJsonBytes summary.json) = false) ⟨.invalidSignature, ""⟩ = .ok () :=
    raiseIf_ok.mpr (by rw [signing.verifies]; exact Bool.noConfusion)
  simp only [checkSemanticRelease, of.builtOf.signed, of.builtOf.signature, of.summarized, of.signed, Except.map,
    ok_bind, message, document_line manifest.json_wellFormed, manifest.read,
    document_line (ReleaseSignature.json_wellFormed _), ReleaseSignature.read,
    document_canonical summary.json_wellFormed, summary.read,
    document_line (ReleaseSemanticSignature.json_wellFormed _), ReleaseSemanticSignature.read, publicKey, size,
    written, verifies, readRecords_built of.builtOf, of.summarizes.rooted, of.summarizes.valid]
  simp [signSummary, signManifest, pure, Except.pure]

/-- What `build_atomic_release` wrote passes every check of `verify_semantic_release` under a trust in its signer,
except that the CSV reader raises where a record is larger than it takes. -/
theorem atomicRelease_verified (signing : ed25519.Lawful) (lawful : parquet.Lawful)
    (built : buildAtomicRelease sha256 repr ed25519 parquet records electionId key = .ok (summary, directory))
    (status : signerTrustStatus lowering (sha256 (ed25519.publicKey key)) trusted = .ok trust) :
    verifySemanticRelease conversions lowering sha256 repr ed25519 parquet directory trusted =
      if ¬∀ r ∈ records, Readable r then .error (Csv.Reader.tooLarge fieldSizeLimit)
      else if trust = some false then
        .ok ⟨none, false, false, false, false, none, none, some "base release verification failed"⟩
      else .ok ⟨some summary.releaseId, true, true, true, true, some summary.semanticRoot,
        some summary.semanticRecordCount.1, none⟩ := by
  obtain ⟨manifest, -, of⟩ := buildAtomicRelease_ok built
  have checked := @checkRelease_built _ conversions _ _ _ _ _ _ _ _ _ _ signing lawful of.builtOf status
  by_cases all : ∀ r ∈ records, Readable r
  · rw [if_neg (not_not_intro all)]
    rw [if_pos all] at checked
    by_cases distrusted : trust = some false
    · simp [verifySemanticRelease, verifyRelease, checked, distrusted, ok_bind, pure, Except.pure]
    · simp [verifySemanticRelease, verifyRelease, checked, distrusted, ok_bind,
        checkSemanticRelease_built signing of, pure, Except.pure]
  · rw [if_pos all]
    rw [if_neg all] at checked
    have raises : verifyRelease conversions lowering sha256 ed25519 parquet directory trusted =
        .error (Csv.Reader.tooLarge fieldSizeLimit) := by
      rw [verifyRelease, checked]
      rfl
    rw [verifySemanticRelease, raises]
    rfl

end

/-- One registry snapshot under a key. -/
def snapshotRecords (snapshotId : String) : List ReleaseRecord :=
  [⟨.registrySnapshot, snapshotId, ⟨[("payload", .obj [])], by decide⟩⟩]

theorem snapshotRelease_built (snapshotId : String) (named : snapshotId ∈ ["a", "b"]) : ∃ summary directory,
    buildAtomicRelease checksum noRepr mirrorEd25519 jsonParquet (snapshotRecords snapshotId) "e" () =
      .ok (summary, directory) := by
  have returns : (buildAtomicRelease checksum noRepr mirrorEd25519 jsonParquet (snapshotRecords snapshotId) "e"
      ()).isOk = true := by
    fin_cases named <;> decide +kernel
  cases built : buildAtomicRelease checksum noRepr mirrorEd25519 jsonParquet (snapshotRecords snapshotId) "e" () with
  | error error =>
    rw [built] at returns
    cases returns
  | ok release => exact ⟨release.1, release.2, rfl⟩

theorem snapshotRecords_readable (snapshotId : String) (named : snapshotId ∈ ["a", "b"]) :
    ∀ r ∈ snapshotRecords snapshotId, Readable r := by
  fin_cases named <;> decide +kernel

theorem atomicRelease_verified_example : ∃ summary directory,
    buildAtomicRelease checksum noRepr mirrorEd25519 jsonParquet (snapshotRecords "a") "e" () =
      .ok (summary, directory) ∧
    verifySemanticRelease sampleConversions asciiLowering checksum noRepr mirrorEd25519 jsonParquet directory none =
      .ok ⟨some summary.releaseId, true, true, true, true, some summary.semanticRoot,
        some summary.semanticRecordCount.1, none⟩ := by
  obtain ⟨summary, directory, built⟩ := snapshotRelease_built "a" (by simp)
  refine ⟨summary, directory, built, ?_⟩
  rw [atomicRelease_verified mirrorEd25519_lawful jsonParquet_lawful built rfl,
    if_neg (not_not_intro (snapshotRecords_readable "a" (by simp)))]
  rfl

end BallotProof.Releases
