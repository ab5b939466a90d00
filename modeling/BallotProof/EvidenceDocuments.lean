import BallotProof.Aware
import BallotProof.RegistryDocuments

/-! The documents of the evidence store: sources, extractions with their reviews, and signed
attestations. Each is written as JSON and read back with its checks made again. -/
namespace BallotProof
open Python

/-- A text whose length is bounded. -/
abbrev Text (low high : Nat) := {text : String // low ≤ text.length ∧ text.length ≤ high}

/-- `Annotated[int, Field(ge=1)]` -/
abbrev PositiveInt := {n : Nat // 1 ≤ n ∧ intFits n = true}

theorem one_positive : 1 ≤ 1 ∧ intFits ((1 : Nat) : Int) = true := by decide

/-- `int | str` -/
inductive FieldValue where
  | int (n : Int) (fits : intFits n = true)
  | str (text : String)

def FieldValue.toJson : FieldValue → Json
  | .int n _ => .int n
  | .str text => .str text

def optionalValue : Option FieldValue → Json
  | none => .null
  | some value => value.toJson

theorem optionalValue_wellFormed (value : Option FieldValue) : (optionalValue value).wellFormed = true := by
  cases value with
  | none => exact null_wellFormed
  | some value =>
    cases value with
    | int n fits => exact int_wellFormed fits
    | str text => exact str_wellFormed text

/-- The conversions, with the float read from a value and the text that JSON mode writes of a
datetime. -/
structure FieldConversions extends Conversions where
  number : Json → Option Binary64
  number_float : ∀ x, number (.float x) = some x
  written : Timestamp → String

section
variable (entries : List (String × Json)) (name : String)

def boundedText (low high : Nat) (text : String) : Result (Text low high) :=
  if bounds : low ≤ text.length ∧ text.length ≤ high then .ok ⟨text, bounds⟩
  else rejected "String length"

def boundedField (low high : Nat) : Result (Text low high) := do
  boundedText low high (← textField entries name)

def optionalBounded (high : Nat) : Result (Option (Text 0 high)) := do
  match ← optionalField entries name with
  | none => .ok none
  | some text => (boundedText 0 high text).map some

/-- The value that has a given text. -/
def textOf (values : List α) (text : α → String) (written : String) : Result α :=
  match values.find? (text · = written) with
  | some value => .ok value
  | none => rejected "Input should be one of the allowed values"

def positiveOf (conversions : Conversions) (value : Json) : Result PositiveInt :=
  match conversions.integer value with
  | some (.ofNat n) =>
    if bounds : 1 ≤ n ∧ intFits n = true then .ok ⟨n, bounds⟩
    else rejected "Input should be greater than or equal to 1"
  | some (.negSucc _) => rejected "Input should be greater than or equal to 1"
  | none => rejected "Input should be a valid integer"

def positiveField (conversions : Conversions) : Result PositiveInt :=
  match lookup name entries with
  | some value => positiveOf conversions value
  | none => rejected "Field required"

/-- A field of type `int | str | None`. -/
def valueField (conversions : Conversions) : Result (Option FieldValue) :=
  match lookup name entries with
  | none | some .null => .ok none
  | some (.str text) => .ok (some (.str text))
  | some value =>
    match conversions.integer value with
    | some n =>
      if fits : intFits n = true then .ok (some (.int n fits))
      else rejected "Unable to parse input string as an integer, exceeded maximum size"
    | none => rejected "Input should be a valid integer"

end

/-! ## Sources -/

inductive SourceType where
  | officialPublication | observerCapture | partyAgentCapture | newsroomCapture | other
  deriving DecidableEq

def SourceType.text : SourceType → String
  | .officialPublication => "official_publication"
  | .observerCapture => "observer_capture"
  | .partyAgentCapture => "party_agent_capture"
  | .newsroomCapture => "newsroom_capture"
  | .other => "other"

def SourceType.all : List SourceType :=
  [.officialPublication, .observerCapture, .partyAgentCapture, .newsroomCapture, .other]

structure EvidenceSource where
  provider : Text 1 128
  sourceType : SourceType
  sourceUrl : Option String

def EvidenceSource.dict (s : EvidenceSource) : Dict where
  entries := [("provider", .str s.provider.1), ("source_type", .str s.sourceType.text),
    ("source_url", optionalText s.sourceUrl)]
  wellFormed := by
    simp only [Json.wellFormed, wellFormedEntries, optionalText_wellFormed, keysAscend, Bool.and_true]
    decide

/-- `EvidenceSource.model_validate_json`, of the document that the text holds. -/
def EvidenceSource.modelValidate (conversions : Conversions) (value : Json) : Result EvidenceSource := do
  let entries ← objectOf value
  onlyFields ["provider", "source_type", "source_url"] entries
  let provider ← boundedField entries "provider" 1 128
  let sourceType ← textOf SourceType.all SourceType.text (← textField entries "source_type")
  let sourceUrl ← optionalUrlField conversions entries "source_url"
  return ⟨provider, sourceType, sourceUrl⟩

/-! ## Extractions -/

structure ExtractedField where
  fieldName : Text 1 256
  rawValue : Option (Text 0 2000)
  normalizedValue : Option FieldValue
  confidence : Binary64
  page : Option PositiveInt
  bbox : Option (Binary64 × Binary64 × Binary64 × Binary64)

structure ExtractionProvenance where
  engine : Text 1 128
  modelId : Text 1 256
  modelVersion : Option (Text 0 128)
  createdAt : String
  configHash : Option Digest

inductive ExtractionStatus where
  | machineExtracted | needsReview | humanReviewed | rejected
  deriving DecidableEq

def ExtractionStatus.text : ExtractionStatus → String
  | .machineExtracted => "machine_extracted"
  | .needsReview => "needs_review"
  | .humanReviewed => "human_reviewed"
  | .rejected => "rejected"

def ExtractionStatus.all : List ExtractionStatus := [.machineExtracted, .needsReview, .humanReviewed, .rejected]

structure ExtractionRecord where
  evidenceId : String
  evidenceVersion : PositiveInt
  recordHash : Digest
  status : ExtractionStatus
  provenance : ExtractionProvenance
  fields : List ExtractedField
  nonempty : fields ≠ []
  supersedesExtractionId : Option String
  extractionId : String
  storedAt : String

def floatJson (x : Binary64) : Json := jsonMode (.float x)

def bboxJson : Binary64 × Binary64 × Binary64 × Binary64 → Json
  | (a, b, c, d) => .arr [floatJson a, floatJson b, floatJson c, floatJson d]

def ExtractedField.modelDump (f : ExtractedField) : Json := .obj [
  ("bbox", (f.bbox.map bboxJson).getD .null),
  ("confidence", floatJson f.confidence),
  ("field_name", .str f.fieldName.1),
  ("normalized_value", optionalValue f.normalizedValue),
  ("page", (f.page.map fun n => Json.int n.1).getD .null),
  ("raw_value", optionalText (f.rawValue.map (·.1)))]

theorem floatJson_wellFormed (x : Binary64) : (floatJson x).wellFormed = true :=
  jsonMode_wellFormed _ (by simp only [Json.wellFormed])

theorem ExtractedField.modelDump_wellFormed (f : ExtractedField) : f.modelDump.wellFormed = true := by
  have bbox : ((f.bbox.map bboxJson).getD .null).wellFormed = true := by
    cases f.bbox with
    | none => exact null_wellFormed
    | some box => simp [bboxJson, Json.wellFormed, wellFormedItems, floatJson_wellFormed]
  have page : ((f.page.map fun n => Json.int n.1).getD .null).wellFormed = true := by
    cases f.page with
    | none => exact null_wellFormed
    | some n => exact int_wellFormed n.2.2
  simp only [ExtractedField.modelDump, Json.wellFormed, Bool.and_eq_true]
  refine ⟨by simp only [keysAscend]; decide, wellFormedEntries_iff.mpr ?_⟩
  simp only [List.mem_cons, List.not_mem_nil, or_false, forall_eq_or_imp, forall_eq]
  exact ⟨bbox, floatJson_wellFormed _, str_wellFormed _, optionalValue_wellFormed _, page, optionalText_wellFormed _⟩

def ExtractionProvenance.dict (p : ExtractionProvenance) : Dict where
  entries := [("config_hash", optionalHash p.configHash), ("created_at", .str p.createdAt),
    ("engine", .str p.engine.1), ("model_id", .str p.modelId.1),
    ("model_version", optionalText (p.modelVersion.map (·.1)))]
  wellFormed := by
    simp only [Json.wellFormed, wellFormedEntries, optionalHash, optionalText_wellFormed, keysAscend,
      Bool.and_true]
    decide

/-- `json.loads(record.model_dump_json())` -/
def ExtractionRecord.dict (r : ExtractionRecord) : Dict where
  entries := [
    ("evidence_id", .str r.evidenceId),
    ("evidence_version", .int r.evidenceVersion.1),
    ("extraction_id", .str r.extractionId),
    ("fields", .arr (r.fields.map (·.modelDump))),
    ("provenance", r.provenance.dict.toJson),
    ("record_hash", .str r.recordHash.hex),
    ("status", .str r.status.text),
    ("stored_at", .str r.storedAt),
    ("supersedes_extraction_id", optionalText r.supersedesExtractionId)]
  wellFormed := by
    simp only [Json.wellFormed, Bool.and_eq_true]
    refine ⟨by simp only [keysAscend]; decide, wellFormedEntries_iff.mpr ?_⟩
    simp only [List.mem_cons, List.not_mem_nil, or_false, forall_eq_or_imp, forall_eq]
    exact ⟨str_wellFormed _, int_wellFormed r.evidenceVersion.2.2, str_wellFormed _,
      arr_map_wellFormed ExtractedField.modelDump_wellFormed, Dict.toJson_wellFormed _, str_wellFormed _,
      str_wellFormed _, str_wellFormed _, optionalText_wellFormed _⟩

/-- `Confidence` lets pass what neither comparison excludes. -/
def inUnitInterval : Binary64 → Bool
  | .nan => true
  | .infinity _ => false
  | .finite negative units _ => (!negative || units = 0) && units ≤ unitsPerOne

section
variable (conversions : FieldConversions)

def floatOf (value : Json) : Result Binary64 :=
  match conversions.number value with
  | some x => .ok x
  | none => rejected "Input should be a valid number"

def confidenceField (entries : List (String × Json)) : Result Binary64 := do
  let x ← floatOf conversions ((lookup "confidence" entries).getD .null)
  require (inUnitInterval x = true) "Input should be between 0 and 1"
  return x

def bboxOf : Json → Result (Binary64 × Binary64 × Binary64 × Binary64)
  | .arr [a, b, c, d] => do
    return (← floatOf conversions a, ← floatOf conversions b, ← floatOf conversions c, ← floatOf conversions d)
  | _ => rejected "List should have 4 items after validation"

def readExtractedField (value : Json) : Result ExtractedField := do
  let entries ← objectOf value
  onlyFields ["field_name", "raw_value", "normalized_value", "confidence", "page", "bbox"] entries
  let fieldName ← boundedField entries "field_name" 1 256
  let rawValue ← optionalBounded entries "raw_value" 2000
  let normalizedValue ← valueField entries "normalized_value" conversions.toConversions
  let confidence ← confidenceField conversions entries
  let page ← optionalModelField entries "page" (positiveOf conversions.toConversions)
  let bbox ← optionalModelField entries "bbox" (bboxOf conversions)
  return ⟨fieldName, rawValue, normalizedValue, confidence, page, bbox⟩

def readExtractionProvenance (value : Json) : Result ExtractionProvenance := do
  let entries ← objectOf value
  onlyFields ["engine", "model_id", "model_version", "created_at", "config_hash"] entries
  let engine ← boundedField entries "engine" 1 128
  let modelId ← boundedField entries "model_id" 1 256
  let modelVersion ← optionalBounded entries "model_version" 128
  let createdAt ← datetimeField conversions.toConversions entries "created_at"
  let configHash ← optionalHashField entries "config_hash"
  return ⟨engine, modelId, modelVersion, createdAt, configHash⟩

/-- `ExtractionRecord.model_validate_json`, of the document that the text holds. -/
def ExtractionRecord.modelValidate (value : Json) : Result ExtractionRecord := do
  let entries ← objectOf value
  onlyFields ["evidence_id", "evidence_version", "record_hash", "status", "provenance", "fields",
    "supersedes_extraction_id", "extraction_id", "stored_at"] entries
  let evidenceId ← textField entries "evidence_id"
  let evidenceVersion ← positiveField entries "evidence_version" conversions.toConversions
  let recordHash ← hashField entries "record_hash"
  let status ← match lookup "status" entries with
    | none => .ok .machineExtracted
    | some (.str text) => textOf ExtractionStatus.all ExtractionStatus.text text
    | some _ => rejected "Input should be one of the allowed values"
  let provenance ← readExtractionProvenance conversions ((lookup "provenance" entries).getD .null)
  let fields ← listField entries "fields" (readExtractedField conversions)
  let supersedesExtractionId ← optionalField entries "supersedes_extraction_id"
  let extractionId ← textField entries "extraction_id"
  let storedAt ← datetimeField conversions.toConversions entries "stored_at"
  if nonempty : fields ≠ [] then
    return ⟨evidenceId, evidenceVersion, recordHash, status, provenance, fields, nonempty,
      supersedesExtractionId, extractionId, storedAt⟩
  else rejected "List should have at least 1 item after validation, not 0"

end

/-! ## Reviews -/

inductive ReviewDecision where
  | accept | correct | reject
  deriving DecidableEq

def ReviewDecision.text : ReviewDecision → String
  | .accept => "accept"
  | .correct => "correct"
  | .reject => "reject"

def ReviewDecision.all : List ReviewDecision := [.accept, .correct, .reject]

structure FieldReview where
  fieldName : Text 1 256
  decision : ReviewDecision
  correctedValue : Option FieldValue
  note : Option (Text 0 2000)
  corrected : decision = .correct ↔ correctedValue ≠ none

structure ExtractionReviewSubmission where
  reviewerId : Text 1 256
  fields : List FieldReview
  nonempty : fields ≠ []

structure ExtractionReview extends ExtractionReviewSubmission where
  reviewId : String
  extractionId : String
  evidenceId : String
  evidenceVersion : PositiveInt
  storedAt : String

def FieldReview.modelDump (f : FieldReview) : Json := .obj [
  ("corrected_value", optionalValue f.correctedValue),
  ("decision", .str f.decision.text),
  ("field_name", .str f.fieldName.1),
  ("note", optionalText (f.note.map (·.1)))]

theorem FieldReview.modelDump_wellFormed (f : FieldReview) : f.modelDump.wellFormed = true := by
  simp only [FieldReview.modelDump, Json.wellFormed, Bool.and_eq_true]
  refine ⟨by simp only [keysAscend]; decide, wellFormedEntries_iff.mpr ?_⟩
  simp only [List.mem_cons, List.not_mem_nil, or_false, forall_eq_or_imp, forall_eq]
  exact ⟨optionalValue_wellFormed _, str_wellFormed _, str_wellFormed _, optionalText_wellFormed _⟩

/-- `json.loads(review.model_dump_json())` -/
def ExtractionReview.dict (r : ExtractionReview) : Dict where
  entries := [
    ("evidence_id", .str r.evidenceId),
    ("evidence_version", .int r.evidenceVersion.1),
    ("extraction_id", .str r.extractionId),
    ("fields", .arr (r.fields.map (·.modelDump))),
    ("review_id", .str r.reviewId),
    ("reviewer_id", .str r.reviewerId.1),
    ("stored_at", .str r.storedAt)]
  wellFormed := by
    simp only [Json.wellFormed, Bool.and_eq_true]
    refine ⟨by simp only [keysAscend]; decide, wellFormedEntries_iff.mpr ?_⟩
    simp only [List.mem_cons, List.not_mem_nil, or_false, forall_eq_or_imp, forall_eq]
    exact ⟨str_wellFormed _, int_wellFormed r.evidenceVersion.2.2, str_wellFormed _,
      arr_map_wellFormed FieldReview.modelDump_wellFormed, str_wellFormed _, str_wellFormed _,
      str_wellFormed _⟩

section
variable (conversions : FieldConversions)

def readFieldReview (value : Json) : Result FieldReview := do
  let entries ← objectOf value
  onlyFields ["field_name", "decision", "corrected_value", "note"] entries
  let fieldName ← boundedField entries "field_name" 1 256
  let decision ← textOf ReviewDecision.all ReviewDecision.text (← textField entries "decision")
  let correctedValue ← valueField entries "corrected_value" conversions.toConversions
  let note ← optionalBounded entries "note" 2000
  if corrected : decision = .correct ↔ correctedValue ≠ none then
    return ⟨fieldName, decision, correctedValue, note, corrected⟩
  else if decision = .correct then
    rejected "Value error, corrected_value is required when decision is correct"
  else rejected "Value error, corrected_value is only allowed when decision is correct"

/-- `ExtractionReview.model_validate_json`, of the document that the text holds. -/
def ExtractionReview.modelValidate (value : Json) : Result ExtractionReview := do
  let entries ← objectOf value
  onlyFields ["reviewer_id", "fields", "review_id", "extraction_id", "evidence_id", "evidence_version",
    "stored_at"] entries
  let reviewerId ← boundedField entries "reviewer_id" 1 256
  let fields ← listField entries "fields" (readFieldReview conversions)
  let reviewId ← textField entries "review_id"
  let extractionId ← textField entries "extraction_id"
  let evidenceId ← textField entries "evidence_id"
  let evidenceVersion ← positiveField entries "evidence_version" conversions.toConversions
  let storedAt ← datetimeField conversions.toConversions entries "stored_at"
  if nonempty : fields ≠ [] then
    return ⟨⟨reviewerId, fields, nonempty⟩, reviewId, extractionId, evidenceId, evidenceVersion, storedAt⟩
  else rejected "List should have at least 1 item after validation, not 0"

end

/-! ## Attestations -/

inductive AttestationStatement where
  | reviewedSource | matchesSource | disputesExtraction
  deriving DecidableEq

def AttestationStatement.text : AttestationStatement → String
  | .reviewedSource => "reviewed_source"
  | .matchesSource => "matches_source"
  | .disputesExtraction => "disputes_extraction"

def AttestationStatement.all : List AttestationStatement := [.reviewedSource, .matchesSource, .disputesExtraction]

structure AttestationPayload where
  evidenceId : String
  evidenceVersion : PositiveInt
  recordHash : Digest
  actorId : Text 1 256
  statement : AttestationStatement
  issuedAt : String
  note : Option (Text 0 2000)

/-- `algorithm` has one value, `"Ed25519"`. -/
structure SignedAttestation where
  payload : AttestationPayload
  publicKeyB64 : String
  signatureB64 : String

def AttestationPayload.dict (p : AttestationPayload) : Dict where
  entries := [
    ("actor_id", .str p.actorId.1),
    ("evidence_id", .str p.evidenceId),
    ("evidence_version", .int p.evidenceVersion.1),
    ("issued_at", .str p.issuedAt),
    ("note", optionalText (p.note.map (·.1))),
    ("record_hash", .str p.recordHash.hex),
    ("statement", .str p.statement.text)]
  wellFormed := by
    simp only [Json.wellFormed, Bool.and_eq_true]
    refine ⟨by simp only [keysAscend]; decide, wellFormedEntries_iff.mpr ?_⟩
    simp only [List.mem_cons, List.not_mem_nil, or_false, forall_eq_or_imp, forall_eq]
    exact ⟨str_wellFormed _, str_wellFormed _, int_wellFormed p.evidenceVersion.2.2, str_wellFormed _,
      optionalText_wellFormed _, str_wellFormed _, str_wellFormed _⟩

/-- `json.loads(attestation.model_dump_json())` -/
def SignedAttestation.dict (a : SignedAttestation) : Dict where
  entries := [("algorithm", .str "Ed25519"), ("payload", a.payload.dict.toJson),
    ("public_key_b64", .str a.publicKeyB64), ("signature_b64", .str a.signatureB64)]
  wellFormed := by
    simp only [Json.wellFormed, Bool.and_eq_true]
    refine ⟨by simp only [keysAscend]; decide, wellFormedEntries_iff.mpr ?_⟩
    simp only [List.mem_cons, List.not_mem_nil, or_false, forall_eq_or_imp, forall_eq]
    exact ⟨str_wellFormed _, Dict.toJson_wellFormed _, str_wellFormed _, str_wellFormed _⟩

section
variable (conversions : Conversions)

def readAttestationPayload (value : Json) : Result AttestationPayload := do
  let entries ← objectOf value
  onlyFields ["evidence_id", "evidence_version", "record_hash", "actor_id", "statement", "issued_at",
    "note"] entries
  let evidenceId ← textField entries "evidence_id"
  let evidenceVersion ← positiveField entries "evidence_version" conversions
  let recordHash ← hashField entries "record_hash"
  let actorId ← boundedField entries "actor_id" 1 256
  let statement ← textOf AttestationStatement.all AttestationStatement.text (← textField entries "statement")
  let issuedAt ← datetimeField conversions entries "issued_at"
  let note ← optionalBounded entries "note" 2000
  return ⟨evidenceId, evidenceVersion, recordHash, actorId, statement, issuedAt, note⟩

/-- `SignedAttestation.model_validate_json`, of the document that the text holds. -/
def SignedAttestation.modelValidate (value : Json) : Result SignedAttestation := do
  let entries ← objectOf value
  onlyFields ["payload", "algorithm", "public_key_b64", "signature_b64"] entries
  let payload ← readAttestationPayload conversions ((lookup "payload" entries).getD .null)
  require (∀ algorithm ∈ lookup "algorithm" entries, algorithm.pyEq (.str "Ed25519") = true)
    "Input should be 'Ed25519'"
  let publicKeyB64 ← textField entries "public_key_b64"
  let signatureB64 ← textField entries "signature_b64"
  return ⟨payload, publicKeyB64, signatureB64⟩

end

end BallotProof
