import BallotProof.Memo
import BallotProof.ReleaseRecords

/-! The semantic view of a release: records without their local ids and timestamps, with
references replaced by digests of the content they point at. -/
namespace BallotProof
open Python

def bytesAscend (a b : Json) : Prop := canonicalJsonBytes a ≤ canonicalJsonBytes b

instance : DecidableRel bytesAscend := fun a b =>
  inferInstanceAs (Decidable (canonicalJsonBytes a ≤ canonicalJsonBytes b))

/-- `sorted(values, key=canonical_json_bytes)` -/
def sortObjects (values : List Json) : List Json := values.insertionSort bytesAscend

/-- `_require_dict` -/
def requireDict (value : Json) (label : String) : Result Dict :=
  match value.asDict with
  | some d => .ok d
  | none => .error ⟨.valueError, label ++ " must be an object"⟩

/-- `_sorted_objects`, which `_normalize_fields` calls with its own label. -/
def sortedObjects (values : Json) (label : String) : Result (List Json) :=
  match values with
  | .arr items => .ok (sortObjects items)
  | _ => .error ⟨.valueError, label ++ " must be an array"⟩

theorem sortObjects_perm (values : List Json) : (sortObjects values).Perm values :=
  List.perm_insertionSort _ values

theorem sortObjects_wellFormed (h : (Json.arr values).wellFormed = true) :
    (Json.arr (sortObjects values)).wellFormed = true := by
  simp only [Json.wellFormed, wellFormedItems_iff] at h ⊢
  exact fun item member => h item ((sortObjects_perm values).mem_iff.mp member)

theorem get_wellFormed {d : Dict} (h : d.get key = some value) : value.wellFormed = true := by
  have entries := d.wellFormed
  simp only [Json.wellFormed, Bool.and_eq_true] at entries
  exact wellFormedEntries_iff.mp entries.2 _ (lookup_mem h)

/-- `if isinstance(payload.get(key), list): payload[key] = _sorted_objects(payload[key], ...)` -/
def sortList (payload : Dict) (key : String) : Dict :=
  match found : payload.get key with
  | some (.arr items) =>
    payload.set key (.arr (sortObjects items)) (sortObjects_wellFormed (get_wellFormed found))
  | _ => payload

/-- What `source` becomes in the registry payload. -/
def dropRetrievedAt (payload : Dict) : Result Dict :=
  match payload.get "source" with
  | none | some .null => .ok payload
  | some value => do
    let source ← requireDict value "registry source"
    let source := source.pop "retrieved_at"
    return payload.set "source" source.toJson source.toJson_wellFormed

/-- `_registry_payload` -/
def registryPayload (record : ReleaseRecord) : Result Json := do
  let payload ← requireDict ((record.payload.get "payload").getD .null) "registry payload"
  let payload ← dropRetrievedAt payload
  return (sortList (sortList payload "offices") "units").toJson

/-- `_evidence_payload`, its items in key order. -/
def evidencePayload (record : ReleaseRecord) : Result Json := do
  let payload := record.payload
  let electionId ← payload.index "election_id"
  let pollingUnitCode ← payload.index "polling_unit_code"
  let documentType ← payload.index "document_type"
  let source ← payload.index "source"
  let artifactSha256 ← payload.index "artifact_sha256"
  let artifactSizeBytes ← payload.index "artifact_size_bytes"
  let mediaType := (payload.get "media_type").getD .null
  let observedAt ← payload.index "observed_at"
  return .obj [
    ("artifact_sha256", artifactSha256),
    ("artifact_size_bytes", artifactSizeBytes),
    ("document_type", documentType),
    ("election_id", electionId),
    ("media_type", mediaType),
    ("observed_at", observedAt),
    ("polling_unit_code", pollingUnitCode),
    ("source", source)]

def semanticPreimage (type : RecordType) (payload : Json) : Bytes :=
  canonicalJsonBytes (.obj [("payload", payload), ("record_type", .str type.text)])

/-- `str(value)`; the text of a list or a dict, which is no id of a stored record, is left open. -/
def pyStr (repr : Json → String) : Json → String
  | .null => "None"
  | .bool value => if value then "True" else "False"
  | .int n => String.ofList (intText n)
  | .float .nan => "nan"
  | .float (.infinity negative) => if negative then "-inf" else "inf"
  | .float (.finite negative units _) => String.ofList (reprNumber negative units).text
  | .str text => text
  | value => repr value

section
variable (repr : Json → String)

/-- `f"{payload['evidence_id']}:{payload[version_key]}"` -/
def localReference (payload : Dict) (versionKey : String) : Result String := do
  let evidenceId ← payload.index "evidence_id"
  let version ← payload.index versionKey
  return pyStr repr evidenceId ++ ":" ++ pyStr repr version

/-- `evidence_refs.get(evidence_local)`, which may not be missing. -/
def evidenceRef (evidenceRefs : Table Digest) (payload : Dict) : Result Digest := do
  let evidenceLocal ← localReference repr payload "evidence_version"
  match evidenceRefs.get evidenceLocal with
  | some ref => return ref
  | none => .error ⟨.valueError, "semantic evidence reference is missing: " ++ evidenceLocal⟩

/-- What `normalize_extraction` keeps of an extraction besides the one it supersedes. -/
structure ExtractionBody where
  evidenceRef : Digest
  status : Json
  provenance : Dict
  fields : List Json

def extractionBody (evidenceRefs : Table Digest) (payload : Dict) : Result ExtractionBody := do
  let ref ← evidenceRef repr evidenceRefs payload
  let provenance ← requireDict (← payload.index "provenance") "extraction provenance"
  let status ← payload.index "status"
  let fields ← sortedObjects (← payload.index "fields") "extraction fields"
  return ⟨ref, status, provenance.pop "created_at", fields⟩

/-- `str(payload["supersedes_extraction_id"])`, when there is one. -/
def supersedes (payload : Dict) : Option String :=
  match payload.get "supersedes_extraction_id" with
  | none | some .null => none
  | some value => some (pyStr repr value)

def ExtractionBody.payload (body : ExtractionBody) (supersedesRef : Option Digest) : Json := .obj <|
  [("evidence_ref", .str body.evidenceRef.hex), ("fields", .arr body.fields),
    ("provenance", body.provenance.toJson), ("status", body.status)] ++
  match supersedesRef with
  | none => []
  | some ref => [("supersedes_semantic_ref", .str ref.hex)]

end

/-- A normalized record before it gets its key. -/
abbrev NormalRecord := RecordType × Json

structure SemanticRecord where
  recordType : RecordType
  semanticKey : Digest
  payload : Json

/-- The maps and the list that the first loop of `semantic_records` fills. -/
structure SemanticIndex where
  evidenceRefs : Table Digest
  extractionRecords : Table ReleaseRecord
  normalized : List NormalRecord

/-- `extraction_cache` -/
abbrev ExtractionCache := String → Option (Digest × Json)

section
variable (sha256 : Bytes → Digest) (repr : Json → String)

/-- `_semantic_key` -/
def semanticKey (type : RecordType) (payload : Json) : Digest := sha256 (semanticPreimage type payload)

/-- The body of the first loop. -/
def indexRecord (state : SemanticIndex) (record : ReleaseRecord) : Result SemanticIndex :=
  match record.recordType with
  | .registrySnapshot => do
    let payload ← registryPayload record
    return { state with normalized := state.normalized ++ [(record.recordType, payload)] }
  | .evidenceVersion => do
    let payload ← evidencePayload record
    let key := semanticKey sha256 record.recordType payload
    let reference ← localReference repr record.payload "version"
    return { state with
      evidenceRefs := (state.evidenceRefs.set record.recordKey key).set reference key
      normalized := state.normalized ++ [(record.recordType, payload)] }
  | .extraction => .ok { state with
      extractionRecords := state.extractionRecords.set record.recordKey record }
  | .attestation | .extractionReview => .ok state

/-- What `normalize_extraction` does at one extraction: the one it asks for next, and its
own key and payload. -/
def extractionNode (evidenceRefs : Table Digest) (extractionRecords : Table ReleaseRecord)
    (extractionId : String) : Result (Memo.Node String (Digest × Json)) :=
  match extractionRecords.get extractionId with
  | none => .error ⟨.valueError, "semantic extraction reference is missing: " ++ extractionId⟩
  | some record => do
    let body ← extractionBody repr evidenceRefs record.payload
    return (supersedes repr record.payload, fun superseded =>
      let payload := body.payload (superseded.map (·.1))
      (semanticKey sha256 .extraction payload, payload))

/-- `normalize_extraction` from outside: no extraction is on the stack. -/
def normalizeExtraction (evidenceRefs : Table Digest) (extractionRecords : Table ReleaseRecord)
    (cache : ExtractionCache) (extractionId : String) : Result ((Digest × Json) × ExtractionCache) :=
  Memo.evaluate (extractionNode sha256 repr evidenceRefs extractionRecords)
    ⟨.valueError, "semantic extraction supersession graph contains a cycle"⟩
    ⟨.runtimeError, "maximum recursion depth exceeded"⟩
    (extractionRecords.entries.length + 1) cache [] extractionId

/-- The body of the loop over the sorted extraction ids. -/
def addExtraction (index : SemanticIndex) (state : ExtractionCache × List NormalRecord)
    (extractionId : String) : Result (ExtractionCache × List NormalRecord) := do
  let (result, cache) ← normalizeExtraction sha256 repr index.evidenceRefs index.extractionRecords
    state.1 extractionId
  return (cache, state.2 ++ [(.extraction, result.2)])

def attestationPayload (evidenceRefs : Table Digest) (signed : Dict) : Result Json := do
  let payload ← requireDict (← signed.index "payload") "attestation payload"
  let ref ← evidenceRef repr evidenceRefs payload
  let actorId ← payload.index "actor_id"
  let statement ← payload.index "statement"
  let issuedAt ← payload.index "issued_at"
  let note := (payload.get "note").getD .null
  let algorithm ← signed.index "algorithm"
  let publicKeyB64 ← signed.index "public_key_b64"
  return .obj [
    ("actor_id", actorId),
    ("algorithm", algorithm),
    ("evidence_ref", .str ref.hex),
    ("issued_at", issuedAt),
    ("note", note),
    ("public_key_b64", publicKeyB64),
    ("statement", statement)]

def reviewPayload (extractionRef : Digest) (payload : Dict) : Result Json := do
  let reviewerId ← payload.index "reviewer_id"
  let fields ← sortedObjects (← payload.index "fields") "extraction review fields"
  return .obj [
    ("extraction_ref", .str extractionRef.hex),
    ("fields", .arr fields),
    ("reviewer_id", reviewerId)]

/-- The body of the loop over attestations and reviews. -/
def addStatement (index : SemanticIndex) (state : ExtractionCache × List NormalRecord)
    (record : ReleaseRecord) : Result (ExtractionCache × List NormalRecord) :=
  match record.recordType with
  | .attestation => do
    let payload ← attestationPayload repr index.evidenceRefs record.payload
    return (state.1, state.2 ++ [(record.recordType, payload)])
  | .extractionReview => do
    let extractionId ← record.payload.index "extraction_id"
    let (result, cache) ← normalizeExtraction sha256 repr index.evidenceRefs index.extractionRecords
      state.1 (pyStr repr extractionId)
    let payload ← reviewPayload result.1 record.payload
    return (cache, state.2 ++ [(record.recordType, payload)])
  | _ => .ok state

/-- The list `normalized` of `semantic_records`. -/
def normalizedRecords (records : List ReleaseRecord) : Result (List NormalRecord) := do
  let index ← records.foldlM (indexRecord sha256 repr) ⟨.empty, .empty, []⟩
  let state ← index.extractionRecords.keys.foldlM (addExtraction sha256 repr index) (fun _ => none, [])
  let state ← records.foldlM (addStatement sha256 repr index) state
  return index.normalized ++ state.2

def semanticRecord (record : NormalRecord) : SemanticRecord :=
  ⟨record.1, semanticKey sha256 record.1 record.2, record.2⟩

end

/-- The key of the dict `unique`. -/
def SemanticRecord.identity (r : SemanticRecord) : RecordType × Digest := (r.recordType, r.semanticKey)

/-- The body of the loop that fills the dict `unique`, kept in order of insertion. -/
def addUnique (unique : List SemanticRecord) (candidate : SemanticRecord) :
    Result (List SemanticRecord) :=
  match unique.find? (·.identity = candidate.identity) with
  | none => .ok (unique ++ [candidate])
  | some existing => do
    raiseIf (existing.payload.pyEq candidate.payload = false)
      ⟨.valueError, "semantic SHA-256 collision detected"⟩
    return unique.map fun r => if r.identity = candidate.identity then candidate else r

def semanticSortKey (r : SemanticRecord) : String ×ₗ String :=
  toLex (r.recordType.text, r.semanticKey.hex)

def semanticAscend (a b : SemanticRecord) : Prop := semanticSortKey a ≤ semanticSortKey b

instance : DecidableRel semanticAscend := fun a b =>
  inferInstanceAs (Decidable (semanticSortKey a ≤ semanticSortKey b))

/-- `record.model_dump(mode="json")` -/
def SemanticRecord.modelDump (r : SemanticRecord) : Json := .obj [
  ("payload", jsonMode r.payload),
  ("record_type", .str r.recordType.text),
  ("semantic_key", .str r.semanticKey.hex)]

section
variable (sha256 : Bytes → Digest) (repr : Json → String)

/-- `semantic_records` -/
def semanticRecords (records : List ReleaseRecord) : Result (List SemanticRecord) := do
  let normalized ← normalizedRecords sha256 repr records
  let unique ← (normalized.map (semanticRecord sha256)).foldlM addUnique []
  return unique.insertionSort semanticAscend

/-- `semantic_merkle_root` -/
def semanticMerkleRoot (records : List ReleaseRecord) : Result (String × Nat) := do
  let normalized ← semanticRecords sha256 repr records
  match MerkleTree.root (nodeHash sha256)
    (normalized.map fun record => sha256 (canonicalJsonBytes record.modelDump)) with
  | some root => return (root.hex, normalized.length)
  | none => .error ⟨.valueError, "semantic release requires at least one record"⟩

end

end BallotProof
