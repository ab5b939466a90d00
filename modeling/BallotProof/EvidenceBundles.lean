import BallotProof.EvidenceReading

/-! Extractions and bundles in every state that the writers reach: what `add_extraction` accepted can
be read, and the bundle of its polling unit can be built, as long as the numbers are finite. -/
namespace BallotProof
open Python HashChain Sql

def WriteAnswer.extraction? : WriteAnswer → Option ExtractionRecord
  | .evidence (.extraction record) => some record
  | _ => none

theorem WriteAnswer.extraction?_eq {answer : WriteAnswer} (h : answer.extraction? = some record) :
    answer = .evidence (.extraction record) := by
  cases answer with
  | snapshot => cases h
  | evidence answer =>
    cases answer with
    | extraction => exact congrArg _ (congrArg _ (Option.some.inj h))
    | version | attested | review => cases h

/-- The models among the arguments of the statements about versions were built by pydantic. -/
def WriteRequest.DocumentsBuilt (conversions : Conversions) : WriteRequest → Prop
  | .evidence (.addExtraction call _ _) => (∀ f ∈ call.fields, inUnitInterval f.confidence = true) ∧
      ∃ value, conversions.datetime value = some call.provenance.createdAt
  | .evidence (.addAttestation attestation _) =>
      ∃ value, conversions.datetime value = some attestation.payload.issuedAt
  | _ => True

/-- The row that was inserted for a record. -/
structure ExtractionRow.Holds (row : ExtractionRow) (record : ExtractionRecord) : Prop where
  json : row.extractionJson = record.dict
  extractionId : row.extractionId = record.extractionId
  evidenceId : row.evidenceId = record.evidenceId
  evidenceVersion : row.evidenceVersion = record.evidenceVersion.1

/-- The rows hold documents that pydantic has built; `records` are the extractions returned. -/
structure Documents (conversions : Conversions) (records : List ExtractionRecord) (db : EvidenceDb) : Prop where
  unique : Sql.Unique (·.extractionId) db.extractions
  built : ∀ record ∈ records, record.Built conversions
  rows : ∀ row ∈ db.extractions, ∃ record ∈ records, row.Holds record
  stored : ∀ record ∈ records, ∃ row ∈ db.extractions, row.Holds record
  reviews : ∀ row ∈ db.reviews, ∃ review : ExtractionReview, row.reviewJson = review.dict ∧
    conversions.datetime (.str review.storedAt) = some review.storedAt
  attestations : ∀ row ∈ db.attestations, ∃ attestation : SignedAttestation, row.attestationJson = attestation.dict ∧
    conversions.datetime (.str attestation.payload.issuedAt) = some attestation.payload.issuedAt

theorem documents_empty (conversions : Conversions) : Documents conversions [] .empty :=
  ⟨List.nodup_nil, by simp, nofun, by simp, nofun, nofun⟩

section
variable {sha256 : Bytes → Digest} {conversions : FieldConversions} {db db' : EvidenceDb}
  {records : List ExtractionRecord}

/-- What `add_extraction` inserts and returns. -/
theorem addExtraction_ok (h : db.addExtraction conversions call uuid now = .ok (record, db')) :
    ∃ row, db' = { db with extractions := db.extractions ++ [row] } ∧ row.Holds record ∧
      record.extractionId ∉ db.extractions.map (·.extractionId) ∧ record.fields = call.fields ∧
      record.provenance = call.provenance ∧ record.storedAt = conversions.written now := by
  obtain ⟨evidence, -, h⟩ := bind_ok h
  obtain ⟨_, -, h⟩ := bind_ok h
  obtain ⟨_, -, h⟩ := bind_ok h
  split at h
  · dsimp only at h
    split at h
    · cases h
    · next inserted =>
      cases h
      obtain ⟨fresh, rfl⟩ := insertRow_some.mp inserted
      exact ⟨_, rfl, ⟨rfl, rfl, rfl, rfl⟩, fresh, rfl, rfl, rfl⟩
  · cases h

theorem addExtractionReview_ok (h : db.addExtractionReview conversions extractionId submission uuid now = .ok (review, db')) :
    ∃ row, db' = { db with reviews := db.reviews ++ [row] } ∧ row.reviewJson = review.dict ∧
      review.storedAt = conversions.written now := by
  obtain ⟨extraction, -, h⟩ := bind_ok h
  obtain ⟨_, -, h⟩ := bind_ok h
  dsimp only at h
  split at h
  · cases h
  · next inserted =>
    cases h
    obtain ⟨-, rfl⟩ := insertRow_some.mp inserted
    exact ⟨_, rfl, rfl, rfl⟩

theorem addAttestation_ok (h : db.addAttestation attestation gap = .ok (done, db')) :
    db' = db ∨ ∃ row, db' = { db with attestations := db.attestations ++ [row] } ∧
      row.attestationJson = attestation.dict := by
  obtain ⟨found, -, h⟩ := bind_ok h
  cases found with
  | none => cases h
  | some record =>
    obtain ⟨_, -, h⟩ := bind_ok h
    dsimp only at h
    split at h
    · cases h
      exact .inl rfl
    · cases h
      exact .inr ⟨_, rfl, rfl⟩

theorem Documents.extracted (documents : Documents conversions.toConversions records db)
    (reading : conversions.Reading) (confident : ∀ f ∈ call.fields, inUnitInterval f.confidence = true)
    (created : ∃ value, conversions.datetime value = some call.provenance.createdAt)
    (h : db.addExtraction conversions call uuid now = .ok (record, db')) :
    Documents conversions.toConversions (records ++ [record]) db' := by
  obtain ⟨row, rfl, holds, fresh, fields, provenance, stored⟩ := addExtraction_ok h
  obtain ⟨value, created⟩ := created
  have built : record.Built conversions.toConversions :=
    ⟨fields ▸ confident, by rw [provenance]; exact reading.stable.datetime _ _ created,
      by rw [stored]; exact reading.written now⟩
  refine ⟨?_, fun other member => ?_, fun other member => ?_, fun other member => ?_, documents.reviews,
    documents.attestations⟩
  · exact documents.unique.snoc (holds.extractionId ▸ fresh)
  · rcases List.mem_append.mp member with old | new
    · exact documents.built other old
    · exact List.mem_singleton.mp new ▸ built
  · rcases List.mem_append.mp member with old | new
    · obtain ⟨known, member, holds⟩ := documents.rows other old
      exact ⟨known, List.mem_append_left _ member, holds⟩
    · exact ⟨record, by simp, List.mem_singleton.mp new ▸ holds⟩
  · rcases List.mem_append.mp member with old | new
    · obtain ⟨known, member, holds⟩ := documents.stored other old
      exact ⟨known, List.mem_append_left _ member, holds⟩
    · exact ⟨row, by simp, List.mem_singleton.mp new ▸ holds⟩

theorem Documents.serve (documents : Documents conversions.toConversions records db) (reading : conversions.Reading)
    (built : (WriteRequest.evidence request).DocumentsBuilt conversions.toConversions)
    (h : serveEvidence sha256 conversions db request = .ok (answer, db')) :
    Documents conversions.toConversions (records ++ [WriteAnswer.evidence answer].filterMap (·.extraction?)) db' := by
  cases request with
  | appendVersion call uuid now =>
    obtain ⟨⟨record, versions⟩, -, h⟩ := bind_ok h
    cases h
    simp only [WriteAnswer.extraction?, List.filterMap_cons, List.filterMap_nil, List.append_nil]
    exact ⟨documents.unique, documents.built, documents.rows, documents.stored, documents.reviews,
      documents.attestations⟩
  | addAttestation attestation gap =>
    obtain ⟨⟨done, after⟩, attested, h⟩ := bind_ok h
    cases h
    rcases addAttestation_ok attested with rfl | ⟨row, rfl, json⟩
    · simpa [WriteAnswer.extraction?] using documents
    · obtain ⟨value, issued⟩ := built
      simp only [WriteAnswer.extraction?, List.filterMap_cons, List.filterMap_nil, List.append_nil]
      refine ⟨documents.unique, documents.built, documents.rows, documents.stored, documents.reviews, fun other member => ?_⟩
      rcases List.mem_append.mp member with old | new
      · exact documents.attestations other old
      · exact ⟨attestation, List.mem_singleton.mp new ▸ json, reading.stable.datetime _ _ issued⟩
  | addExtraction call uuid now =>
    obtain ⟨⟨record, after⟩, extracted, h⟩ := bind_ok h
    cases h
    exact documents.extracted reading built.1 built.2 extracted
  | addExtractionReview extractionId submission uuid now =>
    obtain ⟨⟨review, after⟩, reviewed, h⟩ := bind_ok h
    cases h
    obtain ⟨row, rfl, json, stored⟩ := addExtractionReview_ok reviewed
    simp only [WriteAnswer.extraction?, List.filterMap_cons, List.filterMap_nil, List.append_nil]
    refine ⟨documents.unique, documents.built, documents.rows, documents.stored, fun other member => ?_, documents.attestations⟩
    rcases List.mem_append.mp member with old | new
    · exact documents.reviews other old
    · exact ⟨review, List.mem_singleton.mp new ▸ json, by rw [stored]; exact reading.written now⟩

theorem run_documents (reading : conversions.Reading)
    (built : ∀ request ∈ requests, request.DocumentsBuilt conversions.toConversions) :
    Documents conversions.toConversions
      ((Requests.accepted (serveWrite sha256 conversions) .empty requests).filterMap (·.extraction?))
      (Requests.run (serveWrite sha256 conversions) .empty requests).evidence := by
  have good : Requests.Meets (serveWrite sha256 conversions)
      (fun _ request => request.DocumentsBuilt conversions.toConversions) .empty requests :=
    .of_forall fun request member _ => built request member
  have initial : Documents conversions.toConversions (([] : List WriteAnswer).filterMap (·.extraction?))
      Stores.empty.evidence := documents_empty _
  have kept := @Requests.run_invariant _ _ _ _ (serveWrite sha256 conversions) [] .empty requests _
    (fun answers stores => Documents conversions.toConversions (answers.filterMap (·.extraction?)) stores.evidence)
    (fun answers stores request answer after documents built served => ?_) initial good
  · simpa using kept
  · rw [List.filterMap_append]
    cases request with
    | evidence request =>
      obtain ⟨⟨answered, db⟩, written, h⟩ := bind_ok served
      cases h
      exact documents.serve reading built written
    | registry payload uuid storedAt =>
      obtain ⟨⟨snapshot, rows⟩, -, h⟩ := bind_ok served
      cases h
      simpa [WriteAnswer.extraction?] using documents

/-! ## Reading back -/

theorem Documents.getExtraction (documents : Documents conversions.toConversions records db) (member : record ∈ records) :
    db.getExtraction conversions record.extractionId =
      ExtractionRecord.modelValidate conversions record.dict.toJson := by
  obtain ⟨row, stored, holds⟩ := documents.stored record member
  have found : selectRow (·.extractionId) record.extractionId db.extractions = some row := by
    rw [← holds.extractionId]
    exact documents.unique.select stored
  simp only [EvidenceDb.getExtraction, found, holds.json]

/-- The extractions of a version are read exactly when their numbers are finite. -/
theorem Documents.extractionsOf_iff (documents : Documents conversions.toConversions records db)
    (reading : conversions.Reading) (evidenceId : String) (version : Nat) :
    (∃ read, db.extractionsOf conversions evidenceId version = .ok read) ↔
      ∀ record ∈ records, record.evidenceId = evidenceId → record.evidenceVersion.1 = version → record.Finite := by
  have listed (row : ExtractionRow) : row ∈ db.extractionRows evidenceId version ↔
      row ∈ db.extractions ∧ row.evidenceId = evidenceId ∧ row.evidenceVersion = version := by
    simp [EvidenceDb.extractionRows, mem_orderByTexts]
  constructor
  · rintro ⟨read, reads⟩ record member rfl rfl
    obtain ⟨row, stored, holds⟩ := documents.stored record member
    obtain ⟨other, -, back⟩ := mapM_mem reads ((listed row).mpr ⟨stored, holds.evidenceId, holds.evidenceVersion⟩)
    rw [holds.json] at back
    exact (readExtraction_iff reading (documents.built record member)).2 other back
  · intro finite
    refine mapM_isOk fun row member => ?_
    obtain ⟨stored, id, number⟩ := (listed row).mp member
    obtain ⟨record, known, holds⟩ := documents.rows row stored
    have numbers := finite record known (holds.evidenceId.symm.trans id) (holds.evidenceVersion.symm.trans number)
    refine ⟨record, ?_⟩
    rw [holds.json]
    exact (readExtraction_iff reading (documents.built record known)).1 numbers

theorem Documents.extractionReviews (documents : Documents conversions.toConversions records db) (extractionId : String) :
    ∃ reviews, db.extractionReviews conversions extractionId = .ok reviews := by
  refine mapM_isOk fun row member => ?_
  have stored : row ∈ db.reviews := (List.mem_filter.mp (mem_orderByTexts.mp member)).1
  obtain ⟨review, json, storedAt⟩ := documents.reviews row stored
  exact ⟨review, by rw [json]; exact readReview_dict storedAt⟩

theorem Documents.attestationsOf (documents : Documents conversions.toConversions records db) (evidenceId : String)
    (version : Nat) : ∃ attestations, db.attestationsOf conversions.toConversions evidenceId version = .ok attestations := by
  refine mapM_isOk fun row member => ?_
  have stored : row ∈ db.attestations := List.mem_of_mem_filter ((List.mem_insertionSort _).mp member)
  obtain ⟨attestation, json, issuedAt⟩ := documents.attestations row stored
  exact ⟨attestation, by rw [json]; exact readAttestation_dict issuedAt⟩

/-- The extraction is one of the latest version of its evidence id. -/
def EvidenceDb.OfLatest (db : EvidenceDb) (record : ExtractionRecord) : Prop :=
  (evidenceRows db.versions record.evidenceId).getLast?.map (·.version) = some record.evidenceVersion.1

/-- The item of an evidence id is built exactly when the extractions of its latest version are finite. -/
theorem bundleItem_iff (documents : Documents conversions.toConversions records db)
    (chains : EvidenceChains sha256 conversions.toConversions versions db.versions) (reading : conversions.Reading)
    (known : ∃ row ∈ db.versions, row.evidenceId = evidenceId) :
    (∃ item, db.bundleItem conversions sha256 evidenceId = .ok item) ↔
      ∀ record ∈ records, record.evidenceId = evidenceId → db.OfLatest record → record.Finite := by
  obtain ⟨row, stored, id⟩ := known
  have used : versions.filter (·.evidenceId = evidenceId) ≠ [] := by
    rw [chains.rows] at stored
    obtain ⟨version, member, rfl⟩ := List.mem_map.mp stored
    exact List.ne_nil_of_mem (List.mem_filter.mpr ⟨member, decide_eq_true id⟩)
  have last := List.getLast?_eq_some_getLast used
  generalize (versions.filter (·.evidenceId = evidenceId)).getLast used = latest at last
  have newest : ∀ record : ExtractionRecord, record.evidenceId = evidenceId →
      (db.OfLatest record ↔ record.evidenceVersion.1 = latest.version) := by
    rintro record rfl
    rw [EvidenceDb.OfLatest, chains.ordered, List.getLast?_map, last]
    simp only [Option.map_some, Option.some.injEq]
    exact eq_comm
  have item : db.bundleItem conversions sha256 evidenceId = (do
      let extractions ← db.extractionsOf conversions evidenceId latest.version
      let reviews ← extractions.mapM fun extraction => db.extractionReviews conversions extraction.extractionId
      let attestations ← db.attestationsOf conversions.toConversions evidenceId latest.version
      return ⟨evidenceId, latest, versions.filter (·.evidenceId = evidenceId),
        ⟨evidenceId, true, (versions.filter (·.evidenceId = evidenceId)).length, none⟩, attestations, extractions,
        reviews.flatten⟩) := by
    simp only [EvidenceDb.bundleItem, chains.history, ok_bind, last, chains.verified]
  have extracted := documents.extractionsOf_iff reading evidenceId latest.version
  rw [item]
  constructor
  · rintro ⟨_, built⟩ record member same ofLatest
    obtain ⟨extractions, reads, -⟩ := bind_ok built
    exact extracted.mp ⟨extractions, reads⟩ record member same ((newest record same).mp ofLatest)
  · intro finite
    obtain ⟨extractions, reads⟩ := extracted.mpr fun record member same number =>
      finite record member same ((newest record same).mpr number)
    have each : ∀ extraction ∈ extractions, ∃ reviews,
        db.extractionReviews conversions extraction.extractionId = .ok reviews :=
      fun extraction _ => documents.extractionReviews extraction.extractionId
    obtain ⟨reviews, reviewed⟩ := mapM_isOk each
    obtain ⟨attestations, attested⟩ := documents.attestationsOf evidenceId latest.version
    rw [reads, ok_bind, reviewed, ok_bind, attested]
    exact ⟨_, rfl⟩

/-- The extraction appears in the bundle of a polling unit. -/
def EvidenceDb.Bundled (db : EvidenceDb) (electionId pollingUnitCode : String) (record : ExtractionRecord) : Prop :=
  (∃ row ∈ db.versions, row.electionId = electionId ∧ row.pollingUnitCode = pollingUnitCode ∧
    row.evidenceId = record.evidenceId) ∧ db.OfLatest record

theorem mem_bundleIds : evidenceId ∈ db.bundleIds electionId pollingUnitCode ↔
    ∃ row ∈ db.versions, row.electionId = electionId ∧ row.pollingUnitCode = pollingUnitCode ∧
      row.evidenceId = evidenceId := by
  simp [EvidenceDb.bundleIds, mem_orderByTexts, and_assoc]

theorem pollingUnitBundle_iff (documents : Documents conversions.toConversions records db)
    (chains : EvidenceChains sha256 conversions.toConversions versions db.versions) (reading : conversions.Reading) :
    (∃ bundle, db.pollingUnitBundle conversions sha256 electionId pollingUnitCode = .ok bundle) ↔
      ∀ record ∈ records, db.Bundled electionId pollingUnitCode record → record.Finite := by
  have known (evidenceId : String) (member : evidenceId ∈ db.bundleIds electionId pollingUnitCode) :
      ∃ row ∈ db.versions, row.evidenceId = evidenceId := by
    obtain ⟨row, stored, -, -, id⟩ := mem_bundleIds.mp member
    exact ⟨row, stored, id⟩
  constructor
  · rintro ⟨_, built⟩ record member ⟨placed, ofLatest⟩
    obtain ⟨read, reads, -⟩ := bind_ok built
    have id := mem_bundleIds.mpr placed
    obtain ⟨item, -, bundled⟩ := mapM_mem reads id
    exact (bundleItem_iff documents chains reading (known _ id)).mp ⟨item, bundled⟩ record member rfl ofLatest
  · intro finite
    have each : ∀ evidenceId ∈ db.bundleIds electionId pollingUnitCode, ∃ item,
        db.bundleItem conversions sha256 evidenceId = .ok item := by
      intro evidenceId member
      refine (bundleItem_iff documents chains reading (known _ member)).mpr fun record stored same ofLatest => ?_
      subst same
      exact finite record stored ⟨mem_bundleIds.mp member, ofLatest⟩
    obtain ⟨read, reads⟩ := mapM_isOk each
    exact ⟨⟨electionId, pollingUnitCode, read⟩, by rw [EvidenceDb.pollingUnitBundle, reads]; rfl⟩

/-- An extraction that was returned can be read as it was, and so can the bundle of its polling unit. -/
structure ReadsBackIn (sha256 : Bytes → Digest) (conversions : FieldConversions) (db : EvidenceDb)
    (record : ExtractionRecord) : Prop where
  extraction : db.getExtraction conversions record.extractionId = .ok record
  bundle : ∀ row ∈ db.versions, row.evidenceId = record.evidenceId → row.version = record.evidenceVersion.1 →
    ∃ bundle, db.pollingUnitBundle conversions sha256 row.electionId row.pollingUnitCode = .ok bundle

/-- In every state that the writers reach, an extraction reads back with the bundle of its polling unit
exactly when its numbers and those of every extraction in the bundle are finite. -/
theorem readsBackIn_iff (sha256 : Bytes → Digest) (conversions : FieldConversions) (reading : conversions.Reading)
    (requests : List WriteRequest) (built : ∀ request ∈ requests, request.Built conversions.toConversions)
    (documentsBuilt : ∀ request ∈ requests, request.DocumentsBuilt conversions.toConversions)
    (record : ExtractionRecord)
    (returned : .evidence (.extraction record) ∈ Requests.accepted (serveWrite sha256 conversions) .empty requests) :
    let db := (Requests.run (serveWrite sha256 conversions) .empty requests).evidence
    ReadsBackIn sha256 conversions db record ↔
      record.Finite ∧ ∀ row ∈ db.versions, row.evidenceId = record.evidenceId →
        row.version = record.evidenceVersion.1 → ∀ other,
          .evidence (.extraction other) ∈ Requests.accepted (serveWrite sha256 conversions) .empty requests →
          db.Bundled row.electionId row.pollingUnitCode other → other.Finite := by
  intro db
  have documents := @run_documents sha256 conversions requests reading documentsBuilt
  have chains := (@run_chains sha256 conversions requests (fun _ => True) reading.stable built fun request _ => by
    cases request <;> trivial).evidence
  have member {other : ExtractionRecord}
      (answered : .evidence (.extraction other) ∈ Requests.accepted (serveWrite sha256 conversions) .empty requests) :
      other ∈ (Requests.accepted (serveWrite sha256 conversions) .empty requests).filterMap (·.extraction?) :=
    List.mem_filterMap.mpr ⟨_, answered, rfl⟩
  have own := readExtraction_iff reading (documents.built record (member returned))
  constructor
  · rintro ⟨extraction, bundle⟩
    rw [documents.getExtraction (member returned)] at extraction
    refine ⟨own.2 record extraction, fun row stored id version other answered bundled => ?_⟩
    exact (pollingUnitBundle_iff documents chains reading).mp (bundle row stored id version) other (member answered) bundled
  · rintro ⟨finite, others⟩
    refine ⟨(documents.getExtraction (member returned)).trans (own.1 finite), fun row stored id version => ?_⟩
    refine (pollingUnitBundle_iff documents chains reading).mpr fun other known bundled => ?_
    obtain ⟨answer, answered, same⟩ := List.mem_filterMap.mp known
    exact others row stored id version other (WriteAnswer.extraction?_eq same ▸ answered) bundled

end

theorem blankConversions_reading : blankConversions.Reading := ⟨blankConversions_stable, rfl, fun _ => rfl⟩

def oneFloat : Binary64 := .finite false unitsPerOne representable_one

/-- A field with a box up to `right`. -/
def boxedField (right : Binary64) : ExtractedField where
  fieldName := ⟨"votes", by decide⟩
  rawValue := none
  normalizedValue := none
  confidence := oneFloat
  page := none
  bbox := some (oneFloat, oneFloat, right, oneFloat)

/-- An extraction from the first version of `sampleCall`. -/
def boxedCall (right : Binary64) : ExtractionCall where
  evidenceId := "bp_ev_1"
  evidenceVersion := 1
  recordHash := (checksum []).hex
  provenance := ⟨⟨"ocr", by decide⟩, ⟨"m", by decide⟩, none, "t", none⟩
  fields := [boxedField right]
  status := .machineExtracted
  supersedesExtractionId := none

def boxedRequests (right : Binary64) : List WriteRequest := [
  .evidence (.appendVersion (sampleCall none) "1" sampleNow),
  .evidence (.addExtraction (boxedCall right) "2" sampleNow)]

def boxedRecord (right : Binary64) : ExtractionRecord where
  evidenceId := "bp_ev_1"
  evidenceVersion := ⟨1, one_positive⟩
  recordHash := checksum []
  status := .machineExtracted
  provenance := (boxedCall right).provenance
  fields := [boxedField right]
  nonempty := List.cons_ne_nil _ _
  supersedesExtractionId := none
  extractionId := "bp_ex_2"
  storedAt := sampleNow.isoformat

theorem boxedRequests_accepted (right : Binary64) : ∃ version,
    Requests.accepted (serveWrite (fun _ => checksum []) blankConversions) .empty (boxedRequests right) =
      [.evidence (.version version), .evidence (.extraction (boxedRecord right))] := ⟨_, rfl⟩

theorem boxedRequests_built (right : Binary64) :
    (∀ request ∈ boxedRequests right, request.Built blankConversions.toConversions) ∧
      ∀ request ∈ boxedRequests right, request.DocumentsBuilt blankConversions.toConversions := by
  simp only [boxedRequests, List.forall_mem_cons]
  refine ⟨⟨by rintro url ⟨⟩, trivial, by simp⟩, trivial, ⟨?_, .str "t", rfl⟩, by simp⟩
  intro f member
  have confident : inUnitInterval oneFloat = true := by decide +kernel
  exact List.mem_singleton.mp member ▸ confident

theorem boxedRecord_readsBack : ReadsBackIn (fun _ => checksum []) blankConversions
    (Requests.run (serveWrite (fun _ => checksum []) blankConversions) .empty (boxedRequests oneFloat)).evidence
    (boxedRecord oneFloat) := by
  obtain ⟨version, accepted⟩ := boxedRequests_accepted oneFloat
  have finite : (boxedRecord oneFloat).Finite := by
    intro f member
    rw [List.mem_singleton.mp member]
    exact ⟨rfl, by rintro box ⟨⟩; exact ⟨rfl, rfl, rfl, rfl⟩⟩
  refine (readsBackIn_iff (fun _ => checksum []) blankConversions blankConversions_reading (boxedRequests oneFloat)
    (boxedRequests_built oneFloat).1 (boxedRequests_built oneFloat).2 (boxedRecord oneFloat) ?_).mpr ⟨finite, ?_⟩
  · rw [accepted]
    simp
  · intro row _ _ _ other answered _
    rw [accepted] at answered
    simp only [List.mem_cons, List.not_mem_nil, or_false, WriteAnswer.evidence.injEq, reduceCtorEq,
      EvidenceAnswer.extraction.injEq, false_or] at answered
    exact answered ▸ finite

/-- A box that reaches to infinity is accepted and never read again. -/
theorem infiniteBox_unread :
    .evidence (.extraction (boxedRecord (.infinity false))) ∈ Requests.accepted
        (serveWrite (fun _ => checksum []) blankConversions) .empty (boxedRequests (.infinity false)) ∧
      ¬ReadsBackIn (fun _ => checksum []) blankConversions
        (Requests.run (serveWrite (fun _ => checksum []) blankConversions) .empty (boxedRequests (.infinity false))).evidence
        (boxedRecord (.infinity false)) := by
  obtain ⟨version, accepted⟩ := boxedRequests_accepted (.infinity false)
  have documents := @run_documents (fun _ => checksum []) blankConversions _ blankConversions_reading
    (boxedRequests_built (.infinity false)).2
  have member : boxedRecord (.infinity false) ∈ (Requests.accepted (serveWrite (fun _ => checksum []) blankConversions)
      .empty (boxedRequests (.infinity false))).filterMap (·.extraction?) := by
    rw [accepted]
    simp [WriteAnswer.extraction?]
  refine ⟨by rw [accepted]; simp, fun reads => ?_⟩
  have back := reads.extraction
  rw [documents.getExtraction member] at back
  have finite := (readExtraction_iff blankConversions_reading (documents.built _ member)).2 _ back
  have box := (finite (boxedField (.infinity false)) List.mem_cons_self).bbox _ rfl
  exact Bool.noConfusion box.2.2.1

end BallotProof
