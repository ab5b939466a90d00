import BallotProof.Jsonb
import BallotProof.Rows
import BallotProof.ReleaseRecords

/-! The PostgreSQL ledger of release records: `_insert_record` and the readers that recompute
every digest. -/
namespace BallotProof
open Python Sql

/-- A row of `application_records`. Its payload column is only ever written by the cast of what
`json.dumps` makes of a dict. -/
structure ApplicationRow where
  electionId : String
  recordType : RecordType
  recordKey : String
  payloadJson : Jsonb
  recordSha256 : Digest
  written : ∃ payload : Dict, jsonbOf payload.toJson = .ok payloadJson

/-- The primary key. -/
def ApplicationRow.key (row : ApplicationRow) : String × RecordType × String :=
  (row.electionId, row.recordType, row.recordKey)

/-- The columns of `application_records_global_key`. -/
def ApplicationRow.globalKey (row : ApplicationRow) : RecordType × String := (row.recordType, row.recordKey)

/-- `json_mapping` -/
def jsonMapping (value : Json) : Result Dict :=
  match value.asDict with
  | some dict => .ok dict
  | none => do
    let parsed ← match value with
      | .str text => Python.loads text.toList
      | other => .ok other
    match parsed.asDict with
    | some dict => .ok dict
    | none => .error ⟨.valueError, "PostgreSQL application payload must be a JSON object"⟩

/-- The record a row holds, as the driver and `json_mapping` decode it. -/
def ApplicationRow.record (row : ApplicationRow) : Result ReleaseRecord := do
  let value ← row.payloadJson.loads
  let payload ← jsonMapping value
  return { recordType := row.recordType, recordKey := row.recordKey, payload }

/-- The first record whose key repeats the one before it. -/
def repeatedRecord (previous : Option (String ×ₗ String)) : List ReleaseRecord → Option ReleaseRecord
  | [] => none
  | r :: rest => if some (recordSortKey r) = previous then some r else repeatedRecord (some (recordSortKey r)) rest

/-- `ordered_records` -/
def orderedApplicationRecords (records : List ReleaseRecord) : Result (List ReleaseRecord) :=
  match repeatedRecord none (sortRecords records) with
  | some r =>
    .error ⟨.valueError, "duplicate application record key: " ++ r.recordType.text ++ ":" ++ r.recordKey⟩
  | none => .ok (sortRecords records)

/-- The text of which `application_records_sha256` takes the digest. -/
def recordsText (records : List ReleaseRecord) : Bytes :=
  canonicalJsonBytes (.arr ((sortRecords records).map (·.modelDump)))

section
variable (sha256 : Bytes → Digest)

/-- `record_digest` -/
def recordDigest (record : ReleaseRecord) : Digest := sha256 (leafPreimage record)

/-- `application_records_sha256` -/
def applicationRecordsSha256 (records : List ReleaseRecord) : Result Digest := do
  let ordered ← orderedApplicationRecords records
  return sha256 (canonicalJsonBytes (.arr (ordered.map (·.modelDump))))

/-- `_row_to_record` -/
def rowToRecord (row : ApplicationRow) : Result ReleaseRecord := do
  let record ← row.record
  raiseIf (recordDigest sha256 record ≠ row.recordSha256)
    ⟨.valueError, "PostgreSQL application record digest mismatch"⟩
  return record

/-- `_records_in_connection`; the order of the query does not show, because `ordered_records`
sorts the records again. -/
def recordsInConnection (rows : List ApplicationRow) (electionId : String) : Result (List ReleaseRecord) := do
  let records ← (rows.filter fun row => row.electionId = electionId).mapM (rowToRecord sha256)
  orderedApplicationRecords records

/-- `_insert_record`. Every `RecordType` is one of `APPLICATION_RECORD_TYPES`. -/
def insertRecord (rows : List ApplicationRow) (electionId : String) (record : ReleaseRecord) :
    Result (List ApplicationRow) := do
  let digest := recordDigest sha256 record
  let _ ← storedText electionId
  let _ ← storedText record.recordKey
  match cast : jsonbOf record.payload.toJson with
  | .error error => .error error
  | .ok payloadJson =>
    match rows.find? fun row => row.key = (electionId, record.recordType, record.recordKey) with
    | none => do
      raiseIf ((record.recordType, record.recordKey) ∈ rows.map ApplicationRow.globalKey)
        ⟨.integrityError, "duplicate key value violates unique constraint \"application_records_global_key\""⟩
      return rows ++ [{
        electionId
        recordType := record.recordType
        recordKey := record.recordKey
        payloadJson
        recordSha256 := digest
        written := ⟨_, cast⟩ }]
    | some existing => do
      let value ← existing.payloadJson.loads
      raiseIf (existing.recordSha256 ≠ digest) ⟨.valueError,
        "PostgreSQL application record conflict: " ++ record.recordType.text ++ ":" ++ record.recordKey⟩
      let payload ← jsonMapping value
      raiseIf (recordDigest sha256 { recordType := record.recordType, recordKey := record.recordKey, payload } ≠
        digest) ⟨.valueError, "PostgreSQL application record payload does not match its digest"⟩
      return rows

end

theorem repeatedRecord_none : repeatedRecord previous records = none ↔
    rejectRepeats previous records = .ok () := by
  induction records generalizing previous with
  | nil => simp [repeatedRecord, rejectRepeats]
  | cons r rest ih =>
    rw [repeatedRecord, rejectRepeats]
    by_cases same : some (recordSortKey r) = previous
    · simp [same]
    · simp only [same, if_false, ih]

/-- `ordered_records` sorts, and refuses repeated keys. -/
theorem orderedApplicationRecords_ok {records ordered : List ReleaseRecord} :
    orderedApplicationRecords records = .ok ordered ↔ DistinctKeys records ∧ ordered = sortRecords records := by
  rw [← orderedRecords_ok]
  unfold orderedApplicationRecords orderedRecords
  cases repeated : repeatedRecord none (sortRecords records) with
  | none =>
    rw [repeatedRecord_none.mp repeated]
    simp [Except.map]
  | some r =>
    have refused : rejectRepeats none (sortRecords records) ≠ .ok () := fun accepted => by
      rw [repeatedRecord_none.mpr accepted] at repeated
      cases repeated
    cases result : rejectRepeats none (sortRecords records) with
    | error e => simp [Except.map]
    | ok u => exact absurd result refused

theorem applicationRecordsSha256_ok {sha256 : Bytes → Digest} :
    applicationRecordsSha256 sha256 records = .ok digest ↔
      DistinctKeys records ∧ digest = sha256 (recordsText records) := by
  unfold applicationRecordsSha256
  constructor
  · intro h
    obtain ⟨ordered, sorted, h⟩ := bind_ok h
    obtain ⟨distinct, rfl⟩ := orderedApplicationRecords_ok.mp sorted
    cases h
    exact ⟨distinct, rfl⟩
  · rintro ⟨distinct, rfl⟩
    rw [orderedApplicationRecords_ok.mpr ⟨distinct, rfl⟩]
    rfl

mutual
theorem jsonMode_finite : (v : Json) → finiteFloats v = true → jsonMode v = v
  | .null, _ | .bool _, _ | .int _, _ | .str _, _ | .float (.finite ..), _ => by simp only [jsonMode]
  | .float .nan, h | .float (.infinity _), h => by simp [finiteFloats] at h
  | .arr items, h => by
    rw [finiteFloats] at h
    rw [jsonMode, jsonModeItems_finite items h]
  | .obj entries, h => by
    rw [finiteFloats] at h
    rw [jsonMode, jsonModeEntries_finite entries h]

theorem jsonModeItems_finite : (items : List Json) → finiteItems items = true → jsonModeItems items = items
  | [], _ => by simp only [jsonModeItems]
  | item :: rest, h => by
    simp only [finiteItems, Bool.and_eq_true] at h
    rw [jsonModeItems, jsonMode_finite item h.1, jsonModeItems_finite rest h.2]

theorem jsonModeEntries_finite : (entries : List (String × Json)) → finiteEntries entries = true →
    jsonModeEntries entries = entries
  | [], _ => by simp only [jsonModeEntries]
  | (key, value) :: rest, h => by
    simp only [finiteEntries, Bool.and_eq_true] at h
    rw [jsonModeEntries, jsonMode_finite value h.1, jsonModeEntries_finite rest h.2]
end

/-- Records with finite payloads are told apart by what is hashed of them. -/
theorem modelDump_injective {a b : ReleaseRecord} (left : finiteFloats a.payload.toJson = true)
    (right : finiteFloats b.payload.toJson = true) (same : a.modelDump = b.modelDump) : a = b := by
  obtain ⟨types, keys, payloads⟩ := modelDump_eq_iff.mp same
  rw [jsonMode_finite _ left, jsonMode_finite _ right] at payloads
  have payloads := Dict.toJson_injective payloads
  cases a
  cases b
  simp_all

theorem jsonMapping_obj (good : (Json.obj entries).wellFormed = true) :
    jsonMapping (.obj entries) = .ok ⟨entries, good⟩ := by
  have dict : (Json.obj entries).asDict = some ⟨entries, good⟩ := dif_pos good
  rw [jsonMapping, dict]

/-- A decoded object is mapped to itself. -/
theorem jsonMapping_toJson (dict : Dict) : jsonMapping dict.toJson = .ok dict := jsonMapping_obj dict.wellFormed

/-- The payload column as a record keeps it. -/
structure ApplicationRow.Holds (row : ApplicationRow) (sha256 : Bytes → Digest) (r : ReleaseRecord) : Prop where
  recordType : row.recordType = r.recordType
  recordKey : row.recordKey = r.recordKey
  payload : jsonbOf r.payload.toJson = .ok row.payloadJson
  digest : row.recordSha256 = recordDigest sha256 r

/-- What an accepted insertion did to the table. -/
inductive Inserted (sha256 : Bytes → Digest) (rows : List ApplicationRow) (electionId : String) (r : ReleaseRecord) :
    List ApplicationRow → Prop
  | fresh (row : ApplicationRow) (election : row.electionId = electionId) (holds : row.Holds sha256 r)
      (new : row.key ∉ rows.map ApplicationRow.key) : Inserted sha256 rows electionId r (rows ++ [row])
  | present (row : ApplicationRow) (member : row ∈ rows)
      (key : row.key = (electionId, r.recordType, r.recordKey)) (digest : row.recordSha256 = recordDigest sha256 r)
      (back : ∃ record, row.record = .ok record ∧ recordDigest sha256 record = recordDigest sha256 r) :
      Inserted sha256 rows electionId r rows

section
variable {sha256 : Bytes → Digest}

/-- An accepted insertion: the payload was cast, and the row is new or was there with the same digest. -/
theorem insertRecord_ok (h : insertRecord sha256 rows electionId r = .ok rows') :
    (∃ stored, jsonbOf r.payload.toJson = .ok stored) ∧ Inserted sha256 rows electionId r rows' := by
  unfold insertRecord at h
  obtain ⟨_, -, h⟩ := bind_ok h
  obtain ⟨_, -, h⟩ := bind_ok h
  split at h
  · cases h
  · rename_i payloadJson cast
    refine ⟨⟨payloadJson, cast⟩, ?_⟩
    split at h
    · rename_i absent
      obtain ⟨_, -, h⟩ := bind_ok h
      cases h
      refine .fresh _ rfl ⟨rfl, rfl, cast, rfl⟩ ?_
      intro member
      obtain ⟨row, inside, same⟩ := List.mem_map.mp member
      have other := List.find?_eq_none.mp absent row inside
      exact other (decide_eq_true same)
    · rename_i existing found
      obtain ⟨value, loaded, h⟩ := bind_ok h
      obtain ⟨_, digests, h⟩ := bind_ok h
      obtain ⟨payload, mapped, h⟩ := bind_ok h
      obtain ⟨_, again, h⟩ := bind_ok h
      cases h
      have key : existing.key = (electionId, r.recordType, r.recordKey) := by
        simpa using List.find?_some found
      obtain ⟨-, types, keys⟩ := by simpa [ApplicationRow.key] using key
      refine .present existing (List.mem_of_find?_eq_some found) key ?_ ⟨⟨r.recordType, r.recordKey, payload⟩, ?_, ?_⟩
      · simpa using raiseIf_ok.mp digests
      · rw [ApplicationRow.record, loaded, ok_bind, mapped, ok_bind, types, keys]
        rfl
      · simpa using raiseIf_ok.mp again

theorem rowToRecord_ok {row : ApplicationRow} : rowToRecord sha256 row = .ok r ↔
    row.record = .ok r ∧ recordDigest sha256 r = row.recordSha256 := by
  unfold rowToRecord
  constructor
  · intro h
    obtain ⟨record, read, h⟩ := bind_ok h
    obtain ⟨_, digest, h⟩ := bind_ok h
    cases h
    exact ⟨read, by simpa using raiseIf_ok.mp digest⟩
  · rintro ⟨read, digest⟩
    rw [read, ok_bind, digest]
    simp [raiseIf]

/-- The document of a row is a dict without nan and infinities. -/
theorem ApplicationRow.loads_ok (row : ApplicationRow) (h : row.payloadJson.loads = .ok value) :
    ∃ dict : Dict, value = dict.toJson ∧ finiteFloats value = true := by
  obtain ⟨payload, stored⟩ := row.written
  have finite := loads_finite _ stored h
  have good := row.payloadJson.loads_wellFormed h
  rw [Dict.toJson, jsonbOf] at stored
  obtain ⟨entries, -, form⟩ := map_ok stored
  rw [← form, Jsonb.loads] at h
  obtain ⟨pairs, -, rfl⟩ := map_ok h
  exact ⟨⟨_, good⟩, rfl, finite⟩

/-- What a row decodes to has the columns of the row, and finite floats. -/
theorem record_ok {row : ApplicationRow} : row.record = .ok r ↔
    row.recordType = r.recordType ∧ row.recordKey = r.recordKey ∧ row.payloadJson.loads = .ok r.payload.toJson := by
  unfold ApplicationRow.record
  constructor
  · intro h
    obtain ⟨value, loaded, mapped⟩ := bind_ok h
    obtain ⟨dict, rfl, -⟩ := row.loads_ok loaded
    rw [jsonMapping_toJson, ok_bind] at mapped
    cases mapped
    exact ⟨rfl, rfl, loaded⟩
  · rintro ⟨types, keys, loaded⟩
    rw [loaded, ok_bind, jsonMapping_toJson, ok_bind, types, keys]
    rfl

theorem record_finite {row : ApplicationRow} (h : row.record = .ok r) : finiteFloats r.payload.toJson = true := by
  obtain ⟨-, -, loaded⟩ := record_ok.mp h
  obtain ⟨-, -, finite⟩ := row.loads_ok loaded
  exact finite

/-- A row gives back the record it was written from exactly when every float survives. -/
theorem ApplicationRow.Holds.record_iff {row : ApplicationRow} (holds : row.Holds sha256 r) :
    row.record = .ok r ↔ keptByJsonb r.payload.toJson = true := by
  rw [record_ok, ← loads_jsonbOf _ r.payload.toJson_wellFormed holds.payload]
  simp [holds.recordType, holds.recordKey]

end

end BallotProof
