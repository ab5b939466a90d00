import BallotProof.RegistryStore
import BallotProof.ReleaseFormats

/-! A release that `build_release` wrote, read back by `verify_release`: each of its documents gives what was
written, and the CSV reader takes no field above its limit. -/
namespace BallotProof.Releases
open Python

theorem loads_lines {v : Json} (h : v.wellFormed = true) (count : Nat) :
    loads (v.dumps ++ List.replicate count '\n') = .ok v := by
  cases count with
  | zero => rw [List.replicate_zero, List.append_nil, loads_dumps h]
  | succ count =>
    obtain ⟨c, tail, form, opening⟩ := dumps_head v
    have mark : (v.dumps ++ List.replicate (count + 1) '\n').head? ≠ some '\ufeff' := by
      rw [form, List.cons_append, List.head?_cons]
      rintro ⟨⟩
      cases opening
    have stop : Delimited (List.replicate (count + 1) '\n') := by
      rw [List.replicate_succ]
      refine ⟨?_, ?_, ?_, ?_⟩ <;> decide
    have read := readValue_dumps v h (2 * (v.dumps ++ List.replicate (count + 1) '\n').length + 1)
      (List.replicate (count + 1) '\n') (by rw [List.length_append]; omega) stop
    have blank : skipSpace (List.replicate (count + 1) '\n') = [] := by
      simp [skipSpace, isSpace]
    simp only [loads, if_neg mark, skipSpace_dumps v, read, blank]
    rfl

theorem loads_line {v : Json} (h : v.wellFormed = true) : loads (v.dumps ++ ['\n']) = .ok v := loads_lines h 1

theorem encode_newlines (count : Nat) : encode (List.replicate count '\n') = List.replicate count 10 := by
  induction count with
  | zero => rfl
  | succ count ih =>
    rw [List.replicate_succ, ← List.singleton_append, encode_append, ih]
    rfl

theorem decode_lines (text : List Char) (count : Nat) :
    decode (encode text ++ List.replicate count 10) = .ok (text ++ List.replicate count '\n') := by
  rw [← encode_newlines, ← encode_append, decode_encode]

theorem decode_line (text : List Char) : decode (encode text ++ [10]) = .ok (text ++ ['\n']) := decode_lines text 1

theorem document_canonical {v : Json} (h : v.wellFormed = true) : document (canonicalJsonBytes v) = .ok v := by
  rw [document, canonicalJsonBytes, decode_encode]
  dsimp only
  rw [loads_dumps h]

theorem document_lines {v : Json} (h : v.wellFormed = true) (count : Nat) :
    document (canonicalJsonBytes v ++ List.replicate count 10) = .ok v := by
  rw [document, canonicalJsonBytes, decode_lines]
  dsimp only
  rw [loads_lines h]

theorem document_line {v : Json} (h : v.wellFormed = true) : document (canonicalJsonBytes v ++ [10]) = .ok v :=
  document_lines h 1

/-- What is stripped are line feeds. -/
theorem rstripNewlines_ends (data : Bytes) : ∃ count, data = rstripNewlines data ++ List.replicate count 10 := by
  set stripped := data.reverse.takeWhile (· = 10) with taken
  have same : stripped = List.replicate stripped.length 10 :=
    List.eq_replicate_of_mem fun b member => of_decide_eq_true (@List.mem_takeWhile_imp _ (· = 10) _ b member)
  have split := congrArg List.reverse (@List.takeWhile_append_dropWhile _ (· = 10) data.reverse)
  rw [List.reverse_append, List.reverse_reverse, ← taken, same, List.reverse_replicate] at split
  exact ⟨stripped.length, split.symm⟩

theorem dumpEntries_ends (entries : List (String × Json)) : ∃ text, dumpEntries entries = text ++ ['\x7d'] := by
  induction entries with
  | nil => exact ⟨[], rfl⟩
  | cons entry entries ih =>
    obtain ⟨text, ends⟩ := ih
    refine ⟨',' :: (quote entry.1.toList ++ (':' :: (entry.2.dumps ++ text))), ?_⟩
    rw [dumpEntries, ends]
    simp

/-- The last byte of an object is no line feed. -/
theorem rstripNewlines_object (entries : List (String × Json)) :
    rstripNewlines (canonicalJsonBytes (.obj entries) ++ [10]) = canonicalJsonBytes (.obj entries) := by
  have last : ∃ text, (Json.obj entries).dumps = text ++ ['\x7d'] := by
    cases entries with
    | nil => exact ⟨['\x7b'], by simp [Json.dumps]⟩
    | cons entry rest =>
      obtain ⟨text, ends⟩ := dumpEntries_ends rest
      refine ⟨'\x7b' :: (quote entry.1.toList ++ (':' :: (entry.2.dumps ++ text))), ?_⟩
      rw [Json.dumps, ends]
      simp
  obtain ⟨text, last⟩ := last
  have bytes : canonicalJsonBytes (.obj entries) = encode text ++ [125] := by
    rw [canonicalJsonBytes, last, encode_append]
    rfl
  rw [bytes, rstripNewlines, List.reverse_append, List.reverse_append]
  simp [List.dropWhile]

theorem positive_ok {size : PositiveInt} (h : positive n = .ok size) : size.1 = n := by
  unfold positive at h
  split at h
  · cases h
    rfl
  · cases h

theorem entries_wellFormed {entries : List (String × Json)} (ascend : keysAscend entries = true)
    (each : ∀ entry ∈ entries, entry.2.wellFormed = true) : (Json.obj entries).wellFormed = true := by
  simp only [Json.wellFormed, Bool.and_eq_true]
  exact ⟨ascend, wellFormedEntries_iff.mpr each⟩

theorem ReleaseFile.json_wellFormed (file : ReleaseFile) : file.json.wellFormed = true := by
  apply entries_wellFormed
  · simp only [entries, keysAscend]
    decide
  · simp only [entries, List.mem_cons, List.not_mem_nil, or_false, forall_eq_or_imp, forall_eq]
    exact ⟨str_wellFormed _, str_wellFormed _, str_wellFormed _, int_wellFormed file.sizeBytes.2.2⟩

theorem ReleaseManifest.json_wellFormed (manifest : ReleaseManifest) : manifest.json.wellFormed = true := by
  apply entries_wellFormed
  · simp only [entries, keysAscend]
    decide
  · simp only [entries, List.mem_cons, List.not_mem_nil, or_false, forall_eq_or_imp, forall_eq]
    exact ⟨str_wellFormed _, arr_map_wellFormed ReleaseFile.json_wellFormed, str_wellFormed _, str_wellFormed _,
      int_wellFormed manifest.recordCount.2.2, str_wellFormed _, str_wellFormed _⟩

theorem ReleaseSignature.json_wellFormed (signature : ReleaseSignature) : signature.json.wellFormed = true := by
  apply entries_wellFormed
  · simp only [entries, keysAscend]
    decide
  · simp only [entries, List.mem_cons, List.not_mem_nil, or_false, forall_eq_or_imp, forall_eq]
    exact ⟨str_wellFormed _, str_wellFormed _, str_wellFormed _, str_wellFormed _, str_wellFormed _⟩

section
variable {conversions : Conversions}

theorem ReleaseFile.read (file : ReleaseFile) : ReleaseFile.modelValidate conversions file.json = .ok file := by
  have names : onlyFields ["name", "media_type", "sha256", "size_bytes"] file.entries = .ok () := by
    simp [onlyFields, require, entries]
  have name : textField file.entries "name" = .ok file.name := textField_str (by simp [entries, lookup])
  have mediaType : textField file.entries "media_type" = .ok file.mediaType :=
    textField_str (by simp [entries, lookup])
  have digest : hashField file.entries "sha256" = .ok file.sha256 := hashField_hex (by simp [entries, lookup])
  have size : positiveField file.entries "size_bytes" conversions = .ok file.sizeBytes :=
    positiveField_int (by simp [entries, lookup])
  simp only [modelValidate, json, objectOf, ok_bind, names, name, mediaType, digest, size]
  rfl

theorem ReleaseManifest.read (manifest : ReleaseManifest) :
    ReleaseManifest.modelValidate conversions manifest.json = .ok manifest := by
  have names : onlyFields ["schema_version", "release_id", "election_id", "record_count", "merkle_algorithm",
      "merkle_root", "files"] manifest.entries = .ok () := by
    simp [onlyFields, require, entries]
  have version : literalField manifest.entries "schema_version" "1" = .ok () :=
    literalField_str (by simp [entries, lookup])
  have release : textField manifest.entries "release_id" = .ok manifest.releaseId :=
    textField_str (by simp [entries, lookup])
  have election : textField manifest.entries "election_id" = .ok manifest.electionId :=
    textField_str (by simp [entries, lookup])
  have count : positiveField manifest.entries "record_count" conversions = .ok manifest.recordCount :=
    positiveField_int (by simp [entries, lookup])
  have algorithm : literalField manifest.entries "merkle_algorithm" "sha256-canonical-json-v1" = .ok () :=
    literalField_str (by simp [entries, lookup])
  have root : hashField manifest.entries "merkle_root" = .ok manifest.merkleRoot :=
    hashField_hex (by simp [entries, lookup])
  have files : requiredList manifest.entries "files" (ReleaseFile.modelValidate conversions) = .ok manifest.files := by
    have found : lookup "files" manifest.entries = some (.arr (manifest.files.map ReleaseFile.json)) := by
      simp [entries, lookup]
    rw [requiredList, found]
    exact mapM_map_back fun file _ => file.read
  simp only [modelValidate, json, objectOf, ok_bind, names, version, release, election, count, algorithm, root, files]
  rfl

theorem ReleaseSignature.read (signature : ReleaseSignature) :
    ReleaseSignature.modelValidate signature.json = .ok signature := by
  have names : onlyFields ["algorithm", "manifest_sha256", "public_key_b64", "signer_key_sha256", "signature_b64"]
      signature.entries = .ok () := by
    simp [onlyFields, require, entries]
  have algorithm : literalField signature.entries "algorithm" "Ed25519" = .ok () :=
    literalField_str (by simp [entries, lookup])
  have manifest : hashField signature.entries "manifest_sha256" = .ok signature.manifestSha256 :=
    hashField_hex (by simp [entries, lookup])
  have publicKey : textField signature.entries "public_key_b64" = .ok signature.publicKeyB64 :=
    textField_str (by simp [entries, lookup])
  have signer : hashField signature.entries "signer_key_sha256" = .ok signature.signerKeySha256 :=
    hashField_hex (by simp [entries, lookup])
  have written : textField signature.entries "signature_b64" = .ok signature.signatureB64 :=
    textField_str (by simp [entries, lookup])
  simp only [modelValidate, json, objectOf, ok_bind, names, algorithm, manifest, publicKey, signer, written]
  rfl

end

mutual
theorem jsonMode_jsonMode : (v : Json) → jsonMode (jsonMode v) = jsonMode v
  | .null | .bool _ | .int _ | .str _ => by simp only [jsonMode]
  | .float .nan | .float (.infinity _) | .float (.finite ..) => by simp only [jsonMode]
  | .arr items => by simp only [jsonMode, jsonModeItems_jsonModeItems items]
  | .obj entries => by simp only [jsonMode, jsonModeEntries_jsonModeEntries entries]

theorem jsonModeItems_jsonModeItems : (items : List Json) → jsonModeItems (jsonModeItems items) = jsonModeItems items
  | [] => by simp only [jsonModeItems]
  | item :: rest => by
    simp only [jsonModeItems, jsonMode_jsonMode item, jsonModeItems_jsonModeItems rest]

theorem jsonModeEntries_jsonModeEntries : (entries : List (String × Json)) →
    jsonModeEntries (jsonModeEntries entries) = jsonModeEntries entries
  | [] => by simp only [jsonModeEntries]
  | (_, value) :: rest => by
    simp only [jsonModeEntries, jsonMode_jsonMode value, jsonModeEntries_jsonModeEntries rest]
end

/-- The record that the JSON file holds. -/
def jsonCopy (r : ReleaseRecord) : ReleaseRecord :=
  { r with payload := ⟨jsonModeEntries r.payload.entries, by
      have formed := jsonMode_wellFormed r.payload.toJson r.payload.wellFormed
      rw [Dict.toJson, jsonMode] at formed
      exact formed⟩ }

theorem jsonCopy_modelDump (r : ReleaseRecord) : (jsonCopy r).modelDump = r.modelDump := by
  have payload : jsonMode (jsonCopy r).payload.toJson = jsonMode r.payload.toJson := by
    change jsonMode (.obj (jsonModeEntries r.payload.entries)) = jsonMode (.obj r.payload.entries)
    simp only [jsonMode, jsonModeEntries_jsonModeEntries]
  rw [ReleaseRecord.modelDump, payload]
  rfl

theorem textOf_recordType (recordType : RecordType) : textOf [.registrySnapshot, .evidenceVersion, .attestation,
    .extraction, .extractionReview] RecordType.text recordType.text = .ok recordType := by
  cases recordType <;> decide

theorem recordOf_record (r : ReleaseRecord) :
    recordOf r.recordType.text r.recordKey r.payload.toJson = .ok r := by
  rw [recordOf, textOf_recordType, ok_bind, Json.asDict_toJson]
  rfl

theorem recordValidate_dump (r : ReleaseRecord) : recordValidate r.modelDump = .ok (jsonCopy r) := by
  have back := recordOf_record (jsonCopy r)
  set entries : List (String × Json) := [
    ("payload", jsonMode r.payload.toJson),
    ("record_key", .str r.recordKey),
    ("record_type", .str r.recordType.text)] with fields
  have names : onlyFields ["record_type", "record_key", "payload"] entries = .ok () := by
    simp [onlyFields, require, fields]
  have recordType : textField entries "record_type" = .ok r.recordType.text := textField_str (by simp [fields, lookup])
  have recordKey : textField entries "record_key" = .ok r.recordKey := textField_str (by simp [fields, lookup])
  have payload : lookup "payload" entries = some (jsonCopy r).payload.toJson := by
    simp [fields, lookup, jsonCopy, Dict.toJson, jsonMode]
  have same : recordValidate r.modelDump = recordValidate (.obj entries) := rfl
  rw [same]
  simp only [recordValidate, objectOf, ok_bind, names, recordType, recordKey, payload]
  exact back

/-- The JSON file gives the records in JSON mode. -/
theorem recordsFromJson_bytes (ordered : List ReleaseRecord) :
    recordsFromJson (jsonBytes ordered) = .ok (ordered.map jsonCopy) := by
  have formed : (Json.arr (ordered.map (·.modelDump))).wellFormed = true := arr_map_wellFormed modelDump_wellFormed
  rw [recordsFromJson, jsonBytes, canonicalJsonBytes, decode_line, ok_bind, loads_line formed, ok_bind,
    iterate, ok_bind, List.mapM_map]
  exact mapM_ok fun r _ => recordValidate_dump r

theorem csvRecord_row (r : ReleaseRecord) : csvRecord csvHeader (csvRow r) = .ok r := by
  have recordType : cell csvHeader (csvRow r) "record_type" = .ok (some r.recordType.text.toList) := rfl
  have recordKey : cell csvHeader (csvRow r) "record_key" = .ok (some r.recordKey.toList) := rfl
  have payload : cell csvHeader (csvRow r) "payload_json" = .ok (some (canonicalPayload r)) := rfl
  rw [csvRecord, recordType, ok_bind, recordKey, ok_bind, payload, ok_bind]
  dsimp only
  rw [canonicalPayload, loads_dumps r.payload.toJson_wellFormed, ok_bind, textCell, textCell, String.ofList_toList,
    String.ofList_toList, ok_bind, ok_bind, recordOf_record]

/-- No field of the record is larger than the CSV reader takes. -/
def Readable (r : ReleaseRecord) : Prop :=
  r.recordKey.length ≤ fieldSizeLimit ∧ (canonicalPayload r).length ≤ fieldSizeLimit

instance : Decidable (Readable r) := instDecidableAnd

theorem fits_csvRow (r : ReleaseRecord) : Csv.Fits fieldSizeLimit (csvRow r) ↔ Readable r := by
  have short : r.recordType.text.length ≤ fieldSizeLimit := by
    cases r.recordType <;> decide
  simp [Csv.Fits, csvRow, Readable, short, String.length_toList]

/-- The CSV file gives the records, or the reader raises at the first that it does not take. -/
theorem recordsFromCsv_bytes (ordered : List ReleaseRecord) : recordsFromCsv (csvBytes ordered) =
    if ∀ r ∈ ordered, Readable r then .ok ordered else .error (Csv.Reader.tooLarge fieldSizeLimit) := by
  have some : ∀ row ∈ csvHeader :: ordered.map csvRow, row ≠ [] := by
    rw [List.forall_mem_cons]
    refine ⟨by simp [csvHeader], fun row member => ?_⟩
    obtain ⟨r, -, rfl⟩ := List.mem_map.mp member
    simp [csvRow]
  have header : Csv.Fits fieldSizeLimit csvHeader := by decide
  have all : (∀ row ∈ csvHeader :: ordered.map csvRow, Csv.Fits fieldSizeLimit row) ↔ ∀ r ∈ ordered, Readable r := by
    simp [header, fits_csvRow]
  have ends := Csv.read_writeRows fieldSizeLimit some
  rw [List.takeWhile_cons_of_pos (by simpa using header), if_congr all rfl rfl] at ends
  have rows : (((ordered.map csvRow).takeWhile (Csv.Fits fieldSizeLimit ·)).filter (· ≠ [])).mapM
      (csvRecord csvHeader) = .ok (ordered.takeWhile (Readable ·)) := by
    have same : (fun row => decide (Csv.Fits fieldSizeLimit row)) ∘ csvRow = fun r => decide (Readable r) := by
      funext r
      simp [fits_csvRow]
    have whole : ((ordered.takeWhile (Readable ·)).map csvRow).filter (· ≠ []) =
        (ordered.takeWhile (Readable ·)).map csvRow := by
      apply List.filter_eq_self.mpr
      intro row member
      obtain ⟨r, -, rfl⟩ := List.mem_map.mp member
      simp [csvRow]
    rw [List.takeWhile_map, same, whole]
    exact mapM_map_back fun r _ => csvRecord_row r
  rw [recordsFromCsv, csvBytes, decode_encode, ok_bind, ends]
  dsimp only
  rw [rows, ok_bind]
  split
  · rename_i readable
    rw [List.takeWhile_eq_self_iff.mpr fun r member => by simpa using readable r member]
    rfl
  · rfl

section
variable {Key : Type} {conversions : Conversions} {lowering : Lowering} {sha256 : Bytes → Digest}
  {ed25519 : Ed25519 Key} {parquet : Parquet}

theorem recordsFromParquet_bytes (lawful : parquet.Lawful) (ordered : List ReleaseRecord) :
    recordsFromParquet parquet (parquetBytes parquet ordered) = .ok ordered := by
  rw [recordsFromParquet, parquetBytes, lawful.reads, ok_bind]
  refine mapM_map_back fun r _ => ?_
  rw [parquetRow]
  dsimp only
  rw [String.toList_ofList, canonicalPayload, loads_dumps r.payload.toJson_wellFormed, ok_bind]
  exact recordOf_record r

theorem jsonCopy_sortKey (r : ReleaseRecord) : recordSortKey (jsonCopy r) = recordSortKey r := rfl

/-- Records in order stay in order in JSON mode. -/
theorem sortRecords_jsonCopy (records : List ReleaseRecord) :
    sortRecords ((sortRecords records).map jsonCopy) = (sortRecords records).map jsonCopy := by
  apply List.Pairwise.insertionSort_eq
  apply List.Pairwise.map jsonCopy _ (sortRecords_pairwise records)
  exact fun _ _ => id

theorem distinctKeys_jsonCopy (records : List ReleaseRecord) :
    DistinctKeys ((sortRecords records).map jsonCopy) ↔ DistinctKeys records := by
  have keys : ((sortRecords records).map jsonCopy).map recordSortKey = (sortRecords records).map recordSortKey := by
    rw [List.map_map]
    rfl
  unfold DistinctKeys
  rw [keys]
  exact DistinctKeys.perm (sortRecords_perm records)

theorem recordDicts_sorted (distinct : DistinctKeys records) :
    recordDicts (sortRecords records) = .ok ((sortRecords records).map (·.modelDump)) := by
  have ordered := orderedRecords_ok.mpr ⟨(DistinctKeys.perm (sortRecords_perm records)).mpr distinct, rfl⟩
  rw [recordDicts, ordered, sortRecords_sortRecords records distinct]
  rfl

theorem recordDicts_jsonCopy (distinct : DistinctKeys records) :
    recordDicts ((sortRecords records).map jsonCopy) = .ok ((sortRecords records).map (·.modelDump)) := by
  have ordered := orderedRecords_ok.mpr ⟨(distinctKeys_jsonCopy records).mpr distinct, rfl⟩
  rw [recordDicts, ordered, sortRecords_jsonCopy]
  simp only [Except.map, List.map_map]
  congr 1
  exact List.map_congr_left fun r _ => jsonCopy_modelDump r

/-- The three files of one list of records are equivalent. -/
theorem formatsEquivalent_built (distinct : DistinctKeys records) : formatsEquivalent
    ((sortRecords records).map jsonCopy) (sortRecords records) (sortRecords records) = .ok true := by
  rw [formatsEquivalent, recordDicts_jsonCopy distinct, ok_bind, recordDicts_sorted distinct, ok_bind,
    if_pos (pyEqItems_refl _), ok_bind, pyEqItems_refl]
  rfl

theorem merkleValid_built (rooted : merkleRoot sha256 records = .ok root) (count : n = records.length) :
    merkleValid sha256 ((sortRecords records).map jsonCopy) n root = .ok true := by
  obtain ⟨distinct, top⟩ := merkleRoot_ok.mp rooted
  refine merkleValid_true.mpr ⟨?_, merkleRoot_ok.mpr ⟨(distinctKeys_jsonCopy records).mpr distinct, ?_⟩⟩
  · rw [List.length_map, (sortRecords_perm records).length_eq, count]
  · have leaf (r : ReleaseRecord) : leafHash sha256 (jsonCopy r) = leafHash sha256 r := by
      rw [leafHash, leafHash, leafPreimage, leafPreimage, jsonCopy_modelDump]
    rw [sortRecords_jsonCopy, List.map_map, ← top]
    congr 1
    exact List.map_congr_left fun r _ => leaf r

/-- A manifest that was built over the records: what verification needs of it. -/
structure ManifestOf (sha256 : Bytes → Digest) (parquet : Parquet) (records : List ReleaseRecord)
    (manifest : ReleaseManifest) : Prop where
  rooted : merkleRoot sha256 records = .ok manifest.merkleRoot
  count : manifest.recordCount.1 = records.length
  files : ∃ jsonSize csvSize parquetSize : PositiveInt,
    jsonSize.1 = (jsonBytes (sortRecords records)).length ∧
    csvSize.1 = (csvBytes (sortRecords records)).length ∧
    parquetSize.1 = (parquetBytes parquet (sortRecords records)).length ∧
    manifest.files = [
      ⟨"records.json", "application/json", sha256 (jsonBytes (sortRecords records)), jsonSize⟩,
      ⟨"records.csv", "text/csv", sha256 (csvBytes (sortRecords records)), csvSize⟩,
      ⟨"records.parquet", "application/vnd.apache.parquet",
        sha256 (parquetBytes parquet (sortRecords records)), parquetSize⟩]

theorem buildManifest_ok (h : buildManifest sha256 parquet records electionId = .ok manifest) :
    ManifestOf sha256 parquet records manifest := by
  obtain ⟨root, rooted, h⟩ := bind_ok h
  obtain ⟨ordered, sorted, h⟩ := bind_ok h
  obtain ⟨-, rfl⟩ := orderedRecords_ok.mp sorted
  obtain ⟨files, entries, h⟩ := bind_ok h
  obtain ⟨count, counted, h⟩ := bind_ok h
  cases h
  simp only [exports, List.mapM_cons, List.mapM_nil] at entries
  obtain ⟨json, first, entries⟩ := bind_ok entries
  obtain ⟨both, others, entries⟩ := bind_ok entries
  obtain ⟨csv, second, others⟩ := bind_ok others
  obtain ⟨last, final, others⟩ := bind_ok others
  obtain ⟨table, third, final⟩ := bind_ok final
  cases final
  cases others
  cases entries
  obtain ⟨jsonSize, jsonOk, first⟩ := bind_ok first
  obtain ⟨csvSize, csvOk, second⟩ := bind_ok second
  obtain ⟨tableSize, tableOk, third⟩ := bind_ok third
  cases first
  cases second
  cases third
  exact ⟨rooted, positive_ok counted, jsonSize, csvSize, tableSize, positive_ok jsonOk, positive_ok csvOk,
    positive_ok tableOk, rfl⟩

theorem ManifestOf.validated (of : ManifestOf sha256 parquet records manifest) :
    ∃ files, validateManifestFiles manifest = .ok files ∧
      ∀ name data, (name, data) ∈ [("records.json", jsonBytes (sortRecords records)),
        ("records.csv", csvBytes (sortRecords records)),
        ("records.parquet", parquetBytes parquet (sortRecords records))] →
        ∃ file, fileNamed files name = .ok file ∧ sha256 data = file.sha256 ∧ data.length = file.sizeBytes.1 := by
  obtain ⟨jsonSize, csvSize, tableSize, jsonOk, csvOk, tableOk, files⟩ := of.files
  refine ⟨_, by rw [validateManifestFiles, files]; rfl, ?_⟩
  intro name data member
  simp only [List.mem_cons, Prod.mk.injEq, List.not_mem_nil, or_false] at member
  rcases member with ⟨rfl, rfl⟩ | ⟨rfl, rfl⟩ | ⟨rfl, rfl⟩
  · exact ⟨_, rfl, rfl, jsonOk.symm⟩
  · exact ⟨_, rfl, rfl, csvOk.symm⟩
  · exact ⟨_, rfl, rfl, tableOk.symm⟩

/-- Every file of a built directory, and what the signature says of the manifest. -/
structure BuiltOf (ed25519 : Ed25519 Key) (sha256 : Bytes → Digest) (parquet : Parquet) (records : List ReleaseRecord)
    (key : Key) (manifest : ReleaseManifest) (directory : ReleaseDirectory) : Prop where
  manifestOf : ManifestOf sha256 parquet records manifest
  json : directory.readBytes "records.json" = .ok (jsonBytes (sortRecords records))
  csv : directory.readBytes "records.csv" = .ok (csvBytes (sortRecords records))
  table : directory.readBytes "records.parquet" = .ok (parquetBytes parquet (sortRecords records))
  signed : directory.readBytes "manifest.json" = .ok (canonicalJsonBytes manifest.json ++ [10])
  signature : directory.readBytes "manifest.signature.json" = .ok (canonicalJsonBytes
    (signManifest sha256 ed25519 key (canonicalJsonBytes manifest.json)).json ++ [10])

theorem buildRelease_ok (h : buildRelease sha256 ed25519 parquet records electionId key = .ok (manifest, directory)) :
    BuiltOf ed25519 sha256 parquet records key manifest directory := by
  obtain ⟨built, manifestOk, h⟩ := bind_ok h
  obtain ⟨ordered, sorted, h⟩ := bind_ok h
  obtain ⟨-, rfl⟩ := orderedRecords_ok.mp sorted
  obtain ⟨rfl, rfl⟩ := Prod.mk.inj (Except.ok.inj h)
  have message : rstripNewlines (canonicalJsonBytes built.json ++ [10]) = canonicalJsonBytes built.json :=
    rstripNewlines_object built.entries
  refine ⟨buildManifest_ok manifestOk, ?_, ?_, ?_, ?_, ?_⟩ <;>
    simp [ReleaseDirectory.readBytes, message]

theorem loadVerifiedManifest_built (signing : ed25519.Lawful)
    (of : BuiltOf ed25519 sha256 parquet records key manifest directory)
    (status : signerTrustStatus lowering (sha256 (ed25519.publicKey key)) trusted = .ok trust) :
    loadVerifiedManifest conversions lowering sha256 ed25519 directory trusted =
      .ok (manifest, signManifest sha256 ed25519 key (canonicalJsonBytes manifest.json), true, trust) := by
  obtain ⟨files, validated, -⟩ := of.manifestOf.validated
  have message : rstripNewlines (canonicalJsonBytes manifest.json ++ [10]) = canonicalJsonBytes manifest.json :=
    rstripNewlines_object manifest.entries
  have publicKey : b64decode (signManifest sha256 ed25519 key (canonicalJsonBytes manifest.json)).publicKeyB64.toList =
      .ok (ed25519.publicKey key) := by
    simp [signManifest]
  have written : b64decode (signManifest sha256 ed25519 key (canonicalJsonBytes manifest.json)).signatureB64.toList =
      .ok (ed25519.sign key (canonicalJsonBytes manifest.json)) := by
    simp [signManifest]
  have size : raiseIf ((ed25519.publicKey key).length ≠ 32)
      ⟨.valueError, "An Ed25519 public key is 32 bytes long"⟩ = .ok () :=
    raiseIf_ok.mpr (not_not_intro (signing.size key))
  have verifies : raiseIf (ed25519.verify (ed25519.publicKey key) (ed25519.sign key (canonicalJsonBytes manifest.json))
      (canonicalJsonBytes manifest.json) = false) ⟨.invalidSignature, ""⟩ = .ok () :=
    raiseIf_ok.mpr (by rw [signing.verifies]; exact Bool.noConfusion)
  rw [loadVerifiedManifest, of.signed]
  simp only [Except.map, ok_bind, message, document_canonical manifest.json_wellFormed, manifest.read, validated,
    of.signature, document_line (ReleaseSignature.json_wellFormed _), ReleaseSignature.read, publicKey, size, written,
    verifies]
  rw [signManifest]
  simp only [status, ok_bind, decide_true, Bool.and_self]
  rfl

theorem checkedFile_built (read : directory.readBytes name = .ok data) (named : fileNamed files name = .ok file)
    (digest : sha256 data = file.sha256) (size : data.length = file.sizeBytes.1) :
    checkedFile sha256 directory files name = .ok (data, true) := by
  rw [checkedFile, named, ok_bind, read, ok_bind, decide_eq_true digest, decide_eq_true size]
  rfl

/-- Every check passes, except that the CSV reader may raise. -/
theorem checkRelease_built (signing : ed25519.Lawful) (lawful : parquet.Lawful)
    (of : BuiltOf ed25519 sha256 parquet records key manifest directory)
    (status : signerTrustStatus lowering (sha256 (ed25519.publicKey key)) trusted = .ok trust) :
    checkRelease conversions lowering sha256 ed25519 parquet directory trusted =
      if ∀ r ∈ records, Readable r then
        .ok ⟨some manifest.releaseId, trust ≠ some false, true, true, true, true,
          some (sha256 (ed25519.publicKey key)), trust, none⟩
      else .error (Csv.Reader.tooLarge fieldSizeLimit) := by
  obtain ⟨files, validated, entry⟩ := of.manifestOf.validated
  obtain ⟨distinct, -⟩ := merkleRoot_ok.mp of.manifestOf.rooted
  have checked (name : String) (data : Bytes) (member : (name, data) ∈ [
      ("records.json", jsonBytes (sortRecords records)), ("records.csv", csvBytes (sortRecords records)),
      ("records.parquet", parquetBytes parquet (sortRecords records))])
      (read : directory.readBytes name = .ok data) : checkedFile sha256 directory files name = .ok (data, true) := by
    obtain ⟨file, named, digest, size⟩ := entry name data member
    exact checkedFile_built read named digest size
  have readable : (∀ r ∈ sortRecords records, Readable r) ↔ ∀ r ∈ records, Readable r :=
    forall_congr' fun r => imp_congr_left (sortRecords_perm records).mem_iff
  have csv : recordsFromCsv (csvBytes (sortRecords records)) = if ∀ r ∈ records, Readable r then
      .ok (sortRecords records) else .error (Csv.Reader.tooLarge fieldSizeLimit) := by
    rw [recordsFromCsv_bytes, if_congr readable rfl rfl]
  rw [checkRelease, loadVerifiedManifest_built signing of status]
  simp only [ok_bind, validated, checked _ _ (by simp) of.json, checked _ _ (by simp) of.csv,
    checked _ _ (by simp) of.table, recordsFromJson_bytes, csv]
  by_cases all : ∀ r ∈ records, Readable r
  · simp only [if_pos all, ok_bind, recordsFromParquet_bytes lawful, formatsEquivalent_built distinct,
      merkleValid_built of.manifestOf.rooted of.manifestOf.count]
    simp [signManifest, pure, Except.pure]
  · simp only [if_neg all]
    rfl

/-- What `build_release` wrote passes every check of `verify_release`, except that the CSV reader raises
where a record is larger than it takes. -/
theorem builtRelease_verified (signing : ed25519.Lawful) (lawful : parquet.Lawful)
    (built : buildRelease sha256 ed25519 parquet records electionId key = .ok (manifest, directory))
    (status : signerTrustStatus lowering (sha256 (ed25519.publicKey key)) trusted = .ok trust) :
    verifyRelease conversions lowering sha256 ed25519 parquet directory trusted =
      if ∀ r ∈ records, Readable r then
        .ok ⟨some manifest.releaseId, trust ≠ some false, true, true, true, true,
          some (sha256 (ed25519.publicKey key)), trust, none⟩
      else .error (Csv.Reader.tooLarge fieldSizeLimit) := by
  rw [verifyRelease, checkRelease_built signing lawful (buildRelease_ok built) status]
  by_cases all : ∀ r ∈ records, Readable r
  · simp only [if_pos all]
  · simp only [if_neg all]
    rfl

end

/-- A table kept as JSON. -/
def jsonParquet : Parquet where
  write rows := canonicalJsonBytes (.arr (rows.map fun (recordType, recordKey, payload) =>
    .arr [.str recordType, .str recordKey, .str payload]))
  read data := do
    (← iterate (← document data)).mapM fun row =>
      match row with
      | .arr [.str recordType, .str recordKey, .str payload] => .ok (recordType, recordKey, payload)
      | _ => .error ⟨.osError, "not a table"⟩

theorem jsonParquet_lawful : jsonParquet.Lawful where
  reads rows := by
    have formed : (Json.arr (rows.map fun row => .arr [.str row.1, .str row.2.1, .str row.2.2])).wellFormed = true := by
      apply arr_map_wellFormed
      intro row
      simp [Json.wellFormed, wellFormedItems]
    simp only [jsonParquet, document_canonical formed, ok_bind, iterate]
    exact mapM_map_back fun row _ => rfl

theorem mirrorEd25519_lawful : mirrorEd25519.Lawful :=
  ⟨fun _ => rfl, fun _ _ => decide_eq_true rfl⟩

theorem exampleRelease_built : ∃ manifest directory,
    buildRelease checksum mirrorEd25519 jsonParquet exampleRecords "e" () = .ok (manifest, directory) := by
  have returns : (buildRelease checksum mirrorEd25519 jsonParquet exampleRecords "e" ()).isOk = true := by
    decide +kernel
  cases built : buildRelease checksum mirrorEd25519 jsonParquet exampleRecords "e" () with
  | error error =>
    rw [built] at returns
    cases returns
  | ok release => exact ⟨release.1, release.2, rfl⟩

theorem exampleRecords_readable : ∀ r ∈ exampleRecords, Readable r := by decide +kernel

theorem builtRelease_verified_example : ∃ manifest directory,
    buildRelease checksum mirrorEd25519 jsonParquet exampleRecords "e" () = .ok (manifest, directory) ∧
      verifyRelease sampleConversions asciiLowering checksum mirrorEd25519 jsonParquet directory none =
        .ok ⟨some manifest.releaseId, true, true, true, true, true, some (checksum (mirrorEd25519.publicKey ())),
          none, none⟩ := by
  obtain ⟨manifest, directory, built⟩ := exampleRelease_built
  refine ⟨manifest, directory, built, ?_⟩
  rw [builtRelease_verified mirrorEd25519_lawful jsonParquet_lawful built rfl, if_pos exampleRecords_readable]
  rfl

end BallotProof.Releases
