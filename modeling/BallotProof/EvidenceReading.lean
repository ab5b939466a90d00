import BallotProof.EvidenceChain

/-! What is read back of the documents of the evidence store: extractions, as long as their numbers
are finite, and reviews and attestations always. -/
namespace Python

/-- `math.isfinite(x)` -/
def Binary64.isFinite : Binary64 → Bool
  | .finite .. => true
  | _ => false

end Python

namespace BallotProof
open Python HashChain Sql

/-- The conversions read what JSON mode writes, but no number from `null`. -/
structure FieldConversions.Reading (conversions : FieldConversions) : Prop where
  stable : conversions.Stable
  number_null : conversions.number .null = none
  written : ∀ t, conversions.datetime (.str (conversions.written t)) = some (conversions.written t)

def FiniteBox : Binary64 × Binary64 × Binary64 × Binary64 → Prop
  | (a, b, c, d) => a.isFinite = true ∧ b.isFinite = true ∧ c.isFinite = true ∧ d.isFinite = true

/-- All numbers of the field are finite. -/
structure ExtractedField.Finite (f : ExtractedField) : Prop where
  confidence : f.confidence.isFinite = true
  bbox : ∀ box ∈ f.bbox, FiniteBox box

/-- All numbers of the extraction are finite. -/
def ExtractionRecord.Finite (record : ExtractionRecord) : Prop := ∀ f ∈ record.fields, f.Finite

/-- A record that pydantic has built. -/
structure ExtractionRecord.Built (conversions : Conversions) (record : ExtractionRecord) : Prop where
  confidence : ∀ f ∈ record.fields, inUnitInterval f.confidence = true
  createdAt : conversions.datetime (.str record.provenance.createdAt) = some record.provenance.createdAt
  storedAt : conversions.datetime (.str record.storedAt) = some record.storedAt

section
variable {conversions : FieldConversions}

theorem floatOf_floatJson (finite : x.isFinite = true) : floatOf conversions (floatJson x) = .ok x := by
  cases x with
  | nan | infinity => cases finite
  | finite negative units fits =>
    simp [floatOf, floatJson, jsonMode, conversions.number_float]

/-- What is not finite is written as `null`. -/
theorem floatOf_finite (reading : conversions.Reading) (h : floatOf conversions (floatJson x) = .ok y) :
    x.isFinite = true := by
  cases x with
  | finite => rfl
  | nan | infinity =>
    simp only [floatOf, floatJson, jsonMode, reading.number_null] at h
    cases h

theorem bboxOf_bboxJson (finite : FiniteBox box) : bboxOf conversions (bboxJson box) = .ok box := by
  obtain ⟨a, b, c, d⟩ := box
  obtain ⟨ha, hb, hc, hd⟩ := finite
  simp only [bboxJson, bboxOf, floatOf_floatJson ha, floatOf_floatJson hb, floatOf_floatJson hc,
    floatOf_floatJson hd, ok_bind]
  rfl

theorem bboxOf_finite (reading : conversions.Reading) (h : bboxOf conversions (bboxJson box) = .ok other) :
    FiniteBox box := by
  obtain ⟨a, b, c, d⟩ := box
  obtain ⟨_, ha, h⟩ := bind_ok h
  obtain ⟨_, hb, h⟩ := bind_ok h
  obtain ⟨_, hc, h⟩ := bind_ok h
  obtain ⟨_, hd, -⟩ := bind_ok h
  exact ⟨floatOf_finite reading ha, floatOf_finite reading hb, floatOf_finite reading hc, floatOf_finite reading hd⟩

theorem optionalBounded_text {text : Option (Text 0 high)}
    (h : lookup name entries = some (optionalText (text.map (·.1)))) : optionalBounded entries name high = .ok text := by
  rw [optionalBounded, optionalField, h, optionalOf_text, ok_bind]
  cases text with
  | none => rfl
  | some text => simp [boundedText, text.2, Except.map]

theorem valueField_value {value : Option FieldValue} (h : lookup name entries = some (optionalValue value)) :
    valueField entries name conversions.toConversions = .ok value := by
  cases value with
  | none => simp [valueField, h, optionalValue]
  | some value =>
    cases value with
    | int n fits => simp [valueField, h, optionalValue, FieldValue.toJson, conversions.integer_int, fits]
    | str text => simp [valueField, h, optionalValue, FieldValue.toJson]

theorem positiveOf_int (n : PositiveInt) : positiveOf conversions.toConversions (.int (n.1 : Int)) = .ok n := by
  have integer : conversions.integer (.int (n.1 : Int)) = some (.ofNat n.1) := conversions.integer_int _
  simp [positiveOf, integer, n.2.1, n.2.2]

theorem positiveField_version {n : PositiveInt} (h : lookup name entries = some (.int (n.1 : Int))) :
    positiveField entries name conversions.toConversions = .ok n := by
  rw [positiveField, h]
  exact positiveOf_int n

theorem datetimeField_str {conversions : Conversions} (h : lookup name entries = some (.str text))
    (reads : conversions.datetime (.str text) = some text) :
    datetimeField conversions entries name = .ok text := by
  simp [datetimeField, h, reads]

/-! ## Extractions -/

/-- Everything but the numbers is read back as it was written. -/
theorem readExtractedField_dump (f : ExtractedField) : readExtractedField conversions f.modelDump = (do
    let confidence ← confidenceField conversions [("confidence", floatJson f.confidence)]
    let bbox ← optionalModelField [("bbox", (f.bbox.map bboxJson).getD .null)] "bbox" (bboxOf conversions)
    return { f with confidence, bbox }) := by
  obtain ⟨entries, dump⟩ : ∃ entries, f.modelDump = .obj entries := ⟨_, rfl⟩
  have listed := Json.obj.inj dump
  have names : onlyFields ["field_name", "raw_value", "normalized_value", "confidence", "page", "bbox"] entries =
      .ok () := by simp [onlyFields, require, ← listed]
  have fieldName : boundedField entries "field_name" 1 256 = .ok f.fieldName :=
    boundedField_str (by simp [← listed, lookup])
  have rawValue : optionalBounded entries "raw_value" 2000 = .ok f.rawValue :=
    optionalBounded_text (by simp [← listed, lookup])
  have normalizedValue : valueField entries "normalized_value" conversions.toConversions = .ok f.normalizedValue :=
    valueField_value (by simp [← listed, lookup])
  have confidence : confidenceField conversions entries =
      confidenceField conversions [("confidence", floatJson f.confidence)] := by
    simp [confidenceField, ← listed, lookup]
  have page : optionalModelField entries "page" (positiveOf conversions.toConversions) = .ok f.page := by
    have found : lookup "page" entries = some ((f.page.map fun n => Json.int n.1).getD .null) := by
      simp [← listed, lookup]
    rw [optionalModelField, found]
    cases f.page with
    | none => rfl
    | some n => exact congrArg (Except.map some) (positiveOf_int n)
  have bbox : optionalModelField entries "bbox" (bboxOf conversions) =
      optionalModelField [("bbox", (f.bbox.map bboxJson).getD .null)] "bbox" (bboxOf conversions) := by
    simp [optionalModelField, ← listed, lookup]
  rw [dump]
  simp only [readExtractedField, objectOf, ok_bind, names, fieldName, rawValue, normalizedValue, confidence, page, bbox]

theorem readExtractedField_finite {f : ExtractedField} (confident : inUnitInterval f.confidence = true)
    (finite : f.Finite) : readExtractedField conversions f.modelDump = .ok f := by
  have confidence : confidenceField conversions [("confidence", floatJson f.confidence)] = .ok f.confidence := by
    simp [confidenceField, lookup, floatOf_floatJson finite.confidence, require, confident]
  have bbox : optionalModelField [("bbox", (f.bbox.map bboxJson).getD .null)] "bbox" (bboxOf conversions) =
      .ok f.bbox := by
    cases found : f.bbox with
    | none => rfl
    | some box => exact congrArg (Except.map some) (bboxOf_bboxJson (finite.bbox box found))
  rw [readExtractedField_dump, confidence, ok_bind, bbox]
  rfl

/-- A field that is read again had finite numbers. -/
theorem finite_of_readExtractedField (reading : conversions.Reading) {f other : ExtractedField}
    (h : readExtractedField conversions f.modelDump = .ok other) : f.Finite := by
  rw [readExtractedField_dump] at h
  obtain ⟨_, confidence, h⟩ := bind_ok h
  obtain ⟨_, bbox, -⟩ := bind_ok h
  refine ⟨?_, fun box found => ?_⟩
  · obtain ⟨x, read, -⟩ := bind_ok confidence
    exact floatOf_finite reading read
  · rw [Option.mem_def.mp found] at bbox
    obtain ⟨_, read, -⟩ := map_ok bbox
    exact bboxOf_finite reading read

theorem readExtractionProvenance_dict {provenance : ExtractionProvenance}
    (createdAt : conversions.datetime (.str provenance.createdAt) = some provenance.createdAt) :
    readExtractionProvenance conversions provenance.dict.toJson = .ok provenance := by
  have names : onlyFields ["engine", "model_id", "model_version", "created_at", "config_hash"]
      provenance.dict.entries = .ok () := by simp [onlyFields, require, ExtractionProvenance.dict]
  have engine : boundedField provenance.dict.entries "engine" 1 128 = .ok provenance.engine :=
    boundedField_str (by simp [ExtractionProvenance.dict, lookup])
  have modelId : boundedField provenance.dict.entries "model_id" 1 256 = .ok provenance.modelId :=
    boundedField_str (by simp [ExtractionProvenance.dict, lookup])
  have modelVersion : optionalBounded provenance.dict.entries "model_version" 128 = .ok provenance.modelVersion :=
    optionalBounded_text (by simp [ExtractionProvenance.dict, lookup])
  have created : datetimeField conversions.toConversions provenance.dict.entries "created_at" =
      .ok provenance.createdAt := datetimeField_str (by simp [ExtractionProvenance.dict, lookup]) createdAt
  have configHash : optionalHashField provenance.dict.entries "config_hash" = .ok provenance.configHash :=
    optionalHashField_hash (by simp [ExtractionProvenance.dict, lookup])
  simp only [readExtractionProvenance, Dict.toJson, objectOf, ok_bind, names, engine, modelId, modelVersion,
    created, configHash]
  rfl

theorem ExtractionStatus.text_injective : Function.Injective ExtractionStatus.text := by
  intro a b
  cases a <;> cases b <;> decide

/-- Everything but the fields is read back as it was written. -/
theorem readExtraction_dict {record : ExtractionRecord} (built : record.Built conversions.toConversions) :
    ExtractionRecord.modelValidate conversions record.dict.toJson = (do
      let fields ← (record.fields.map (·.modelDump)).mapM (readExtractedField conversions)
      if nonempty : fields ≠ [] then return { record with fields, nonempty }
      else rejected "List should have at least 1 item after validation, not 0") := by
  have names : onlyFields ["evidence_id", "evidence_version", "record_hash", "status", "provenance", "fields",
      "supersedes_extraction_id", "extraction_id", "stored_at"] record.dict.entries = .ok () := by
    simp [onlyFields, require, ExtractionRecord.dict]
  have evidenceId : textField record.dict.entries "evidence_id" = .ok record.evidenceId :=
    textField_str (by simp [ExtractionRecord.dict, lookup])
  have evidenceVersion : positiveField record.dict.entries "evidence_version" conversions.toConversions =
      .ok record.evidenceVersion := positiveField_version (by simp [ExtractionRecord.dict, lookup])
  have recordHash : hashField record.dict.entries "record_hash" = .ok record.recordHash :=
    hashField_hex (by simp [ExtractionRecord.dict, lookup])
  have status : lookup "status" record.dict.entries = some (.str record.status.text) := by
    simp [ExtractionRecord.dict, lookup]
  have known : textOf ExtractionStatus.all ExtractionStatus.text record.status.text = .ok record.status :=
    textOf_text ExtractionStatus.text_injective (by cases record.status <;> decide)
  have provenance : (lookup "provenance" record.dict.entries).getD .null = record.provenance.dict.toJson := by
    simp [ExtractionRecord.dict, lookup]
  have fields : listField record.dict.entries "fields" (readExtractedField conversions) =
      (record.fields.map (·.modelDump)).mapM (readExtractedField conversions) := by
    simp [listField, ExtractionRecord.dict, lookup]
  have supersedes : optionalField record.dict.entries "supersedes_extraction_id" =
      .ok record.supersedesExtractionId := by simp [optionalField, ExtractionRecord.dict, lookup]
  have extractionId : textField record.dict.entries "extraction_id" = .ok record.extractionId :=
    textField_str (by simp [ExtractionRecord.dict, lookup])
  have storedAt : datetimeField conversions.toConversions record.dict.entries "stored_at" = .ok record.storedAt :=
    datetimeField_str (by simp [ExtractionRecord.dict, lookup]) built.storedAt
  simp only [ExtractionRecord.modelValidate, Dict.toJson, objectOf, ok_bind, names, evidenceId, evidenceVersion,
    recordHash, status, known, supersedes, extractionId, storedAt, fields]
  rw [provenance, readExtractionProvenance_dict built.createdAt, ok_bind]

/-- An extraction is read back exactly when its numbers are finite, and then as it was. -/
theorem readExtraction_iff (reading : conversions.Reading) {record : ExtractionRecord}
    (built : record.Built conversions.toConversions) :
    (record.Finite → ExtractionRecord.modelValidate conversions record.dict.toJson = .ok record) ∧
      ∀ other, ExtractionRecord.modelValidate conversions record.dict.toJson = .ok other → record.Finite := by
  rw [readExtraction_dict built]
  constructor
  · intro finite
    have back : (record.fields.map (·.modelDump)).mapM (readExtractedField conversions) = .ok record.fields :=
      mapM_map_back fun f member => readExtractedField_finite (built.confidence f member) (finite f member)
    rw [back, ok_bind]
    exact dif_pos record.nonempty
  · intro other h f member
    obtain ⟨fields, reads, -⟩ := bind_ok h
    obtain ⟨g, -, read⟩ := mapM_mem reads (List.mem_map_of_mem member)
    exact finite_of_readExtractedField reading read

/-! ## Reviews and attestations -/

theorem ReviewDecision.text_injective : Function.Injective ReviewDecision.text := by
  intro a b
  cases a <;> cases b <;> decide

theorem readFieldReview_dump (f : FieldReview) : readFieldReview conversions f.modelDump = .ok f := by
  obtain ⟨entries, dump⟩ : ∃ entries, f.modelDump = .obj entries := ⟨_, rfl⟩
  have listed := Json.obj.inj dump
  have names : onlyFields ["field_name", "decision", "corrected_value", "note"] entries = .ok () := by
    simp [onlyFields, require, ← listed]
  have fieldName : boundedField entries "field_name" 1 256 = .ok f.fieldName :=
    boundedField_str (by simp [← listed, lookup])
  have decision : textField entries "decision" = .ok f.decision.text := textField_str (by simp [← listed, lookup])
  have known : textOf ReviewDecision.all ReviewDecision.text f.decision.text = .ok f.decision :=
    textOf_text ReviewDecision.text_injective (by cases f.decision <;> decide)
  have correctedValue : valueField entries "corrected_value" conversions.toConversions = .ok f.correctedValue :=
    valueField_value (by simp [← listed, lookup])
  have note : optionalBounded entries "note" 2000 = .ok f.note := optionalBounded_text (by simp [← listed, lookup])
  rw [dump]
  simp only [readFieldReview, objectOf, ok_bind, names, fieldName, decision, known, correctedValue, note]
  exact dif_pos f.corrected

theorem readReview_dict {review : ExtractionReview}
    (storedAt : conversions.datetime (.str review.storedAt) = some review.storedAt) :
    ExtractionReview.modelValidate conversions review.dict.toJson = .ok review := by
  have names : onlyFields ["reviewer_id", "fields", "review_id", "extraction_id", "evidence_id",
      "evidence_version", "stored_at"] review.dict.entries = .ok () := by
    simp [onlyFields, require, ExtractionReview.dict]
  have reviewerId : boundedField review.dict.entries "reviewer_id" 1 256 = .ok review.reviewerId :=
    boundedField_str (by simp [ExtractionReview.dict, lookup])
  have fields : listField review.dict.entries "fields" (readFieldReview conversions) = .ok review.fields :=
    listField_map (by simp [ExtractionReview.dict, lookup]) readFieldReview_dump
  have reviewId : textField review.dict.entries "review_id" = .ok review.reviewId :=
    textField_str (by simp [ExtractionReview.dict, lookup])
  have extractionId : textField review.dict.entries "extraction_id" = .ok review.extractionId :=
    textField_str (by simp [ExtractionReview.dict, lookup])
  have evidenceId : textField review.dict.entries "evidence_id" = .ok review.evidenceId :=
    textField_str (by simp [ExtractionReview.dict, lookup])
  have evidenceVersion : positiveField review.dict.entries "evidence_version" conversions.toConversions =
      .ok review.evidenceVersion := positiveField_version (by simp [ExtractionReview.dict, lookup])
  have stored : datetimeField conversions.toConversions review.dict.entries "stored_at" = .ok review.storedAt :=
    datetimeField_str (by simp [ExtractionReview.dict, lookup]) storedAt
  simp only [ExtractionReview.modelValidate, Dict.toJson, objectOf, ok_bind, names, reviewerId, fields, reviewId,
    extractionId, evidenceId, evidenceVersion, stored]
  exact dif_pos review.nonempty

theorem AttestationStatement.text_injective : Function.Injective AttestationStatement.text := by
  intro a b
  cases a <;> cases b <;> decide

theorem readAttestation_dict {conversions : FieldConversions} {attestation : SignedAttestation}
    (issuedAt : conversions.datetime (.str attestation.payload.issuedAt) = some attestation.payload.issuedAt) :
    SignedAttestation.modelValidate conversions.toConversions attestation.dict.toJson = .ok attestation := by
  have payload : readAttestationPayload conversions.toConversions attestation.payload.dict.toJson =
      .ok attestation.payload := by
    have names : onlyFields ["evidence_id", "evidence_version", "record_hash", "actor_id", "statement", "issued_at",
        "note"] attestation.payload.dict.entries = .ok () := by simp [onlyFields, require, AttestationPayload.dict]
    have evidenceId : textField attestation.payload.dict.entries "evidence_id" = .ok attestation.payload.evidenceId :=
      textField_str (by simp [AttestationPayload.dict, lookup])
    have evidenceVersion : positiveField attestation.payload.dict.entries "evidence_version" conversions.toConversions =
        .ok attestation.payload.evidenceVersion := positiveField_version (by simp [AttestationPayload.dict, lookup])
    have recordHash : hashField attestation.payload.dict.entries "record_hash" = .ok attestation.payload.recordHash :=
      hashField_hex (by simp [AttestationPayload.dict, lookup])
    have actorId : boundedField attestation.payload.dict.entries "actor_id" 1 256 = .ok attestation.payload.actorId :=
      boundedField_str (by simp [AttestationPayload.dict, lookup])
    have statement : textField attestation.payload.dict.entries "statement" = .ok attestation.payload.statement.text :=
      textField_str (by simp [AttestationPayload.dict, lookup])
    have known : textOf AttestationStatement.all AttestationStatement.text attestation.payload.statement.text =
        .ok attestation.payload.statement :=
      textOf_text AttestationStatement.text_injective (by cases attestation.payload.statement <;> decide)
    have issued : datetimeField conversions.toConversions attestation.payload.dict.entries "issued_at" =
        .ok attestation.payload.issuedAt := datetimeField_str (by simp [AttestationPayload.dict, lookup]) issuedAt
    have note : optionalBounded attestation.payload.dict.entries "note" 2000 = .ok attestation.payload.note :=
      optionalBounded_text (by simp [AttestationPayload.dict, lookup])
    simp only [readAttestationPayload, Dict.toJson, objectOf, ok_bind, names, evidenceId, evidenceVersion, recordHash,
      actorId, statement, known, issued, note]
    rfl
  have names : onlyFields ["payload", "algorithm", "public_key_b64", "signature_b64"] attestation.dict.entries =
      .ok () := by simp [onlyFields, require, SignedAttestation.dict]
  have nested : (lookup "payload" attestation.dict.entries).getD .null = attestation.payload.dict.toJson := by
    simp [SignedAttestation.dict, lookup]
  have algorithm : lookup "algorithm" attestation.dict.entries = some (.str "Ed25519") := by
    simp [SignedAttestation.dict, lookup]
  have publicKey : textField attestation.dict.entries "public_key_b64" = .ok attestation.publicKeyB64 :=
    textField_str (by simp [SignedAttestation.dict, lookup])
  have signature : textField attestation.dict.entries "signature_b64" = .ok attestation.signatureB64 :=
    textField_str (by simp [SignedAttestation.dict, lookup])
  simp only [SignedAttestation.modelValidate, Dict.toJson, objectOf, ok_bind, names, publicKey, signature]
  rw [nested, payload, ok_bind, algorithm]
  simp [require, Json.pyEq]

end

end BallotProof
