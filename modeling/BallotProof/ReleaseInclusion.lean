import BallotProof.ReleaseRoundTrip
import BallotProof.TextFiles

/-! Inclusion proofs of releases: `create_release_inclusion_proof` takes them from a verified directory, and
`verify_release_inclusion_proof` holds them against its signed manifest. -/
namespace BallotProof.Releases
open Python

structure ReleaseManifestVerification where
  releaseId : Option String
  merkleRoot : Option Digest
  valid : Bool
  signatureValid : Bool
  signerKeySha256 : Option Digest
  signerTrusted : Option Bool
  error : Option String

section
variable {Key : Type} (conversions : Conversions) (lowering : Lowering) (sha256 : Bytes → Digest)
  (ed25519 : Ed25519 Key) (parquet : Parquet)

/-- `verify_release_manifest` -/
def verifyReleaseManifest (directory : ReleaseDirectory) (trusted : Option (List String)) :
    Result ReleaseManifestVerification :=
  match loadVerifiedManifest conversions lowering sha256 ed25519 directory trusted with
  | .ok (manifest, signature, signatureValid, signerTrusted) =>
    .ok ⟨some manifest.releaseId, some manifest.merkleRoot, signatureValid && signerTrusted ≠ some false,
      signatureValid, some signature.signerKeySha256, signerTrusted, none⟩
  | .error error =>
    if reported error.kind then .ok ⟨none, none, false, false, none, none, some error.describe⟩
    else .error error

/-- `create_release_inclusion_proof`; an error that is reported has a text. -/
def createReleaseInclusionProof (directory : ReleaseDirectory) (recordType recordKey : String)
    (trusted : Option (List String)) : Result ReleaseProofBundle := do
  let verification ← verifyRelease conversions lowering sha256 ed25519 parquet directory trusted
  raiseIf (verification.valid = false) ⟨.valueError, verification.error.getD "release verification failed"⟩
  let manifest ← ReleaseManifest.modelValidate conversions (← document (← directory.readBytes "manifest.json"))
  let text ← decode (← directory.readBytes "records.json")
  let records ← (← iterate (← loads (universalNewlines text))).mapM recordValidate
  let bundle ← buildInclusionProof sha256 records manifest.releaseId recordType recordKey
  raiseIf (bundle.proof.merkleRoot ≠ manifest.merkleRoot)
    ⟨.valueError, "inclusion proof root does not match release manifest"⟩
  return bundle

/-- `verify_release_inclusion_proof` -/
def verifyReleaseInclusionProof (bundle : ReleaseProofBundle) (directory : Option ReleaseDirectory)
    (trusted : Option (List String)) : Result Bool :=
  if verifyInclusionProof sha256 bundle = false then .ok false
  else
    match directory with
    | none => .ok true
    | some directory => do
      let verification ← verifyReleaseManifest conversions lowering sha256 ed25519 directory trusted
      return verification.valid && verification.releaseId = some bundle.proof.releaseId &&
        verification.merkleRoot = some bundle.proof.merkleRoot

end

/-- What `verify_release` read of a release that it found valid. -/
structure Contents where
  manifest : ReleaseManifest
  signature : ReleaseSignature
  trust : Option Bool
  files : List (String × ReleaseFile)
  jsonData : Bytes
  csvData : Bytes
  parquetData : Bytes
  jsonRecords : List ReleaseRecord
  csvRecords : List ReleaseRecord
  parquetRecords : List ReleaseRecord

section
variable {Key : Type} {conversions : Conversions} {lowering : Lowering} {sha256 : Bytes → Digest}
  {ed25519 : Ed25519 Key} {parquet : Parquet}

/-- Everything that a valid release has passed. -/
structure Contents.Verified (conversions : Conversions) (lowering : Lowering) (sha256 : Bytes → Digest)
    (ed25519 : Ed25519 Key) (parquet : Parquet) (directory : ReleaseDirectory) (trusted : Option (List String))
    (c : Contents) : Prop where
  loaded : loadVerifiedManifest conversions lowering sha256 ed25519 directory trusted =
    .ok (c.manifest, c.signature, true, c.trust)
  known : c.trust ≠ some false
  validated : validateManifestFiles c.manifest = .ok c.files
  json : checkedFile sha256 directory c.files "records.json" = .ok (c.jsonData, true)
  csv : checkedFile sha256 directory c.files "records.csv" = .ok (c.csvData, true)
  table : checkedFile sha256 directory c.files "records.parquet" = .ok (c.parquetData, true)
  jsonRead : recordsFromJson c.jsonData = .ok c.jsonRecords
  csvRead : recordsFromCsv c.csvData = .ok c.csvRecords
  tableRead : recordsFromParquet parquet c.parquetData = .ok c.parquetRecords
  equivalent : formatsEquivalent c.jsonRecords c.csvRecords c.parquetRecords = .ok true
  rooted : merkleValid sha256 c.jsonRecords c.manifest.recordCount.1 c.manifest.merkleRoot = .ok true

theorem verifyRelease_valid
    (returned : verifyRelease conversions lowering sha256 ed25519 parquet directory trusted = .ok verification)
    (valid : verification.valid = true) :
    ∃ c : Contents, c.Verified conversions lowering sha256 ed25519 parquet directory trusted ∧
      verification.releaseId = some c.manifest.releaseId := by
  rw [verifyRelease] at returned
  cases checked : checkRelease conversions lowering sha256 ed25519 parquet directory trusted with
  | error error =>
    rw [checked] at returned
    dsimp only at returned
    split at returned
    · cases returned
      cases valid
    · cases returned
  | ok found =>
    rw [checked] at returned
    cases returned
    obtain ⟨⟨manifest, signature, signatureValid, trust⟩, loaded, checked⟩ := bind_ok checked
    obtain ⟨files, validated, checked⟩ := bind_ok checked
    obtain ⟨⟨jsonData, jsonHash⟩, json, checked⟩ := bind_ok checked
    obtain ⟨⟨csvData, csvHash⟩, csv, checked⟩ := bind_ok checked
    obtain ⟨⟨parquetData, tableHash⟩, table, checked⟩ := bind_ok checked
    obtain ⟨jsonRecords, jsonRead, checked⟩ := bind_ok checked
    obtain ⟨csvRecords, csvRead, checked⟩ := bind_ok checked
    obtain ⟨parquetRecords, tableRead, checked⟩ := bind_ok checked
    obtain ⟨equivalent, same, checked⟩ := bind_ok checked
    obtain ⟨rooted, root, checked⟩ := bind_ok checked
    cases checked
    simp only [Bool.and_eq_true, decide_eq_true_eq] at valid
    obtain ⟨⟨⟨⟨rfl, known⟩, ⟨rfl, rfl⟩, rfl⟩, rfl⟩, rfl⟩ := valid
    exact ⟨⟨manifest, signature, trust, files, jsonData, csvData, parquetData, jsonRecords, csvRecords,
      parquetRecords⟩, ⟨loaded, known, validated, json, csv, table, jsonRead, csvRead, tableRead, same, root⟩, rfl⟩

/-- A bundle that `build_inclusion_proof` returns verifies and leads to the root of the records. -/
theorem buildInclusionProof_ok {bundle : ReleaseProofBundle}
    (built : buildInclusionProof sha256 records releaseId recordType recordKey = .ok bundle) :
    bundle.record ∈ records ∧ bundle.record.recordType.text = recordType ∧ bundle.record.recordKey = recordKey ∧
      bundle.proof.releaseId = releaseId ∧ merkleRoot sha256 records = .ok bundle.proof.merkleRoot ∧
      verifyInclusionProof sha256 bundle = true := by
  obtain ⟨ordered, sorted, built⟩ := bind_ok built
  obtain ⟨distinct, rfl⟩ := orderedRecords_ok.mp sorted
  obtain ⟨-, -, built⟩ := bind_ok built
  split at built
  · cases built
  · rename_i record index search
    obtain ⟨root, rooted, built⟩ := bind_ok built
    have here : (sortRecords records)[index]? = some record :=
      List.mk_mem_zipIdx_iff_getElem?.mp (List.mem_of_find?_eq_some search)
    have named := List.find?_some search
    simp only [decide_eq_true_eq] at named
    have leaf : ((sortRecords records).map (leafHash sha256))[index]? = some (leafHash sha256 record) := by
      simp [here]
    obtain ⟨steps, path, top⟩ := MerkleTree.walk_path (nodeHash sha256) _ _ index _ leaf le_rfl
    simp only [path] at built
    cases built
    have again := (merkleRoot_ok.mp rooted).2
    rw [sortRecords_sortRecords records distinct, MerkleTree.root, top] at again
    refine ⟨(sortRecords_perm records).mem_iff.mp (List.mem_of_getElem? here), named.1, named.2, rfl,
      merkleRoot_ok.mpr ⟨distinct, by rw [MerkleTree.root, top]; exact again⟩, ?_⟩
    simp [verifyInclusionProof, Option.some.inj again]

/-- A record has a proof exactly when its type and key are among the records. -/
theorem buildInclusionProof_exact (releaseId recordType recordKey : String) (distinct : DistinctKeys records)
    (filled : records ≠ []) :
    if ∃ r ∈ records, r.recordType.text = recordType ∧ r.recordKey = recordKey then
      ∃ bundle, buildInclusionProof sha256 records releaseId recordType recordKey = .ok bundle
    else buildInclusionProof sha256 records releaseId recordType recordKey =
      .error ⟨.keyError, "'Unknown release record: " ++ recordType ++ ":" ++ recordKey ++ "'"⟩ := by
  have sorted := orderedRecords_ok.mpr ⟨distinct, rfl⟩
  have some : raiseIf ((sortRecords records).isEmpty = true) ⟨.valueError, "release requires at least one record"⟩ =
      .ok () := by
    apply raiseIf_ok.mpr
    rw [List.isEmpty_iff]
    intro none
    have length := (sortRecords_perm records).length_eq
    rw [none] at length
    exact filled (List.eq_nil_of_length_eq_zero length.symm)
  rw [buildInclusionProof, sorted, ok_bind, some, ok_bind]
  by_cases present : ∃ r ∈ records, r.recordType.text = recordType ∧ r.recordKey = recordKey
  · rw [if_pos present]
    split
    · rename_i search
      obtain ⟨r, member, named⟩ := present
      obtain ⟨i, here⟩ := List.mem_iff_getElem?.mp ((sortRecords_perm records).mem_iff.mpr member)
      have missing := List.find?_eq_none.mp search (r, i) (List.mk_mem_zipIdx_iff_getElem?.mpr here)
      exact absurd (decide_eq_true named) missing
    · rename_i record index search
      have here : (sortRecords records)[index]? = .some record :=
        List.mk_mem_zipIdx_iff_getElem?.mp (List.mem_of_find?_eq_some search)
      have leaf : ((sortRecords records).map (leafHash sha256))[index]? = .some (leafHash sha256 record) := by
        simp [here]
      obtain ⟨steps, path, top⟩ := MerkleTree.walk_path (nodeHash sha256) _ _ index _ leaf le_rfl
      have root : merkleRoot sha256 (sortRecords records) =
          .ok (MerkleTree.walk (nodeHash sha256) (leafHash sha256 record) steps) := by
        refine merkleRoot_ok.mpr ⟨(DistinctKeys.perm (sortRecords_perm records)).mpr distinct, ?_⟩
        rw [sortRecords_sortRecords records distinct, MerkleTree.root, top]
        rfl
      simp only [root, ok_bind, path]
      exact ⟨_, rfl⟩
  · rw [if_neg present]
    split
    · rfl
    · rename_i record index search
      have here := List.mem_of_getElem? (List.mk_mem_zipIdx_iff_getElem?.mp (List.mem_of_find?_eq_some search))
      have named := List.find?_some search
      exact absurd ⟨record, (sortRecords_perm records).mem_iff.mp here, of_decide_eq_true named⟩ present

/-- The JSON file has no carriage return that `read_text` could change. -/
theorem readText_built (ordered : List ReleaseRecord) : (do
    (← iterate (← loads (universalNewlines (← decode (jsonBytes ordered))))).mapM recordValidate) =
      .ok (ordered.map jsonCopy) := by
  have formed : (Json.arr (ordered.map (·.modelDump))).wellFormed = true := arr_map_wellFormed modelDump_wellFormed
  have plain : '\r' ∉ (Json.arr (ordered.map (·.modelDump))).dumps ++ ['\n'] := by
    simp [noReturn_dumps]
  rw [jsonBytes, canonicalJsonBytes, decode_line, ok_bind, universalNewlines_eq plain, loads_line formed, ok_bind,
    iterate, ok_bind, List.mapM_map]
  exact mapM_ok fun r _ => recordValidate_dump r

/-- The records that a directory lists have proofs that hold against its manifest, and no other record has one. -/
theorem builtRelease_proves (signing : ed25519.Lawful) (lawful : parquet.Lawful)
    (built : buildRelease sha256 ed25519 parquet records electionId key = .ok (manifest, directory))
    (status : signerTrustStatus lowering (sha256 (ed25519.publicKey key)) trusted = .ok trust)
    (known : trust ≠ some false) (all : ∀ r ∈ records, Readable r) :
    (∀ r ∈ records, ∃ bundle,
      createReleaseInclusionProof conversions lowering sha256 ed25519 parquet directory r.recordType.text r.recordKey
        trusted = .ok bundle ∧ bundle.record = jsonCopy r ∧
      verifyReleaseInclusionProof conversions lowering sha256 ed25519 bundle (some directory) trusted = .ok true) ∧
    ∀ recordType recordKey, (∀ r ∈ records, r.recordType.text = recordType → r.recordKey ≠ recordKey) →
      createReleaseInclusionProof conversions lowering sha256 ed25519 parquet directory recordType recordKey trusted =
        .error ⟨.keyError, "'Unknown release record: " ++ recordType ++ ":" ++ recordKey ++ "'"⟩ := by
  have of := buildRelease_ok built
  obtain ⟨distinct, -⟩ := merkleRoot_ok.mp of.manifestOf.rooted
  have verified : verifyRelease conversions lowering sha256 ed25519 parquet directory trusted =
      .ok ⟨some manifest.releaseId, true, true, true, true, true, some (sha256 (ed25519.publicKey key)), trust,
        none⟩ := by
    rw [verifyRelease, checkRelease_built signing lawful of status, if_pos all, decide_eq_true known]
  have copies := (distinctKeys_jsonCopy records).mpr distinct
  have rooted : merkleRoot sha256 ((sortRecords records).map jsonCopy) = .ok manifest.merkleRoot :=
    (merkleValid_true.mp (merkleValid_built of.manifestOf.rooted of.manifestOf.count)).2
  have text : ∃ text, decode (jsonBytes (sortRecords records)) = .ok text ∧
      (do (← iterate (← loads (universalNewlines text))).mapM recordValidate) =
        .ok ((sortRecords records).map jsonCopy) := by
    have read := readText_built (sortRecords records)
    obtain ⟨text, decoded, read⟩ := bind_ok read
    exact ⟨text, decoded, read⟩
  have created (recordType recordKey : String) :
      createReleaseInclusionProof conversions lowering sha256 ed25519 parquet directory recordType recordKey trusted =
        (do
          let bundle ← buildInclusionProof sha256 ((sortRecords records).map jsonCopy) manifest.releaseId recordType
            recordKey
          raiseIf (bundle.proof.merkleRoot ≠ manifest.merkleRoot)
            ⟨.valueError, "inclusion proof root does not match release manifest"⟩
          return bundle) := by
    obtain ⟨text, decoded, read⟩ := text
    obtain ⟨value, parsed, read⟩ := bind_ok read
    obtain ⟨items, iterated, read⟩ := bind_ok read
    simp only [createReleaseInclusionProof, verified, of.signed, of.json, ok_bind, decoded, parsed, iterated, read,
      document_line manifest.json_wellFormed, manifest.read]
    rfl
  refine ⟨fun r member => ?_, fun recordType recordKey absent => ?_⟩
  · have among : jsonCopy r ∈ (sortRecords records).map jsonCopy :=
      List.mem_map_of_mem ((sortRecords_perm records).mem_iff.mpr member)
    have exact := @buildInclusionProof_exact sha256 _ manifest.releaseId r.recordType.text r.recordKey copies
      (List.ne_nil_of_mem among)
    rw [if_pos ⟨jsonCopy r, among, rfl, rfl⟩] at exact
    obtain ⟨bundle, made⟩ := exact
    obtain ⟨found, recordType, recordKey, release, root, proves⟩ := buildInclusionProof_ok made
    have root : bundle.proof.merkleRoot = manifest.merkleRoot := Except.ok.inj (root.symm.trans rooted)
    have same : bundle.record = jsonCopy r := by
      apply List.inj_on_of_nodup_map copies found among
      rw [recordSortKey, recordType, recordKey]
      rfl
    refine ⟨bundle, ?_, same, ?_⟩
    · have agree : raiseIf (bundle.proof.merkleRoot ≠ manifest.merkleRoot)
          ⟨.valueError, "inclusion proof root does not match release manifest"⟩ = .ok () :=
        raiseIf_ok.mpr (not_not_intro root)
      rw [created, made, ok_bind, agree]
      rfl
    · rw [verifyReleaseInclusionProof, if_neg (by rw [proves]; exact Bool.noConfusion), verifyReleaseManifest,
        loadVerifiedManifest_built signing of status]
      simp [ok_bind, known, release, root, pure, Except.pure]
  · have some : 0 < records.length := of.manifestOf.count ▸ manifest.recordCount.2.1
    obtain ⟨r, member⟩ := List.exists_mem_of_length_pos some
    have exact := @buildInclusionProof_exact sha256 _ manifest.releaseId recordType recordKey copies
      (List.ne_nil_of_mem (List.mem_map_of_mem ((sortRecords_perm records).mem_iff.mpr member)))
    rw [if_neg] at exact
    · rw [created, exact]
      rfl
    · rintro ⟨copy, among, named, keyed⟩
      obtain ⟨r, member, rfl⟩ := List.mem_map.mp among
      exact absent r ((sortRecords_perm records).mem_iff.mp member) named keyed

/-- The records that the three files of a directory list. -/
def listed (parquet : Parquet) (directory : ReleaseDirectory) :
    Result (List ReleaseRecord × List ReleaseRecord × List ReleaseRecord) := do
  let jsonRecords ← recordsFromJson (← directory.readBytes "records.json")
  let csvRecords ← recordsFromCsv (← directory.readBytes "records.csv")
  let parquetRecords ← recordsFromParquet parquet (← directory.readBytes "records.parquet")
  return (jsonRecords, csvRecords, parquetRecords)

theorem checkedFile_read (checked : checkedFile sha256 directory files name = .ok (data, true)) :
    directory.readBytes name = .ok data ∧ ∃ file, fileNamed files name = .ok file ∧ sha256 data = file.sha256 := by
  obtain ⟨file, named, checked⟩ := bind_ok checked
  obtain ⟨found, read, checked⟩ := bind_ok checked
  obtain ⟨rfl, same⟩ := Prod.mk.inj (Except.ok.inj checked)
  rw [Bool.and_eq_true, decide_eq_true_eq] at same
  exact ⟨read, file, named, same.1⟩

theorem Contents.Verified.listed {c : Contents}
    (h : c.Verified conversions lowering sha256 ed25519 parquet directory trusted) :
    Releases.listed parquet directory = .ok (c.jsonRecords, c.csvRecords, c.parquetRecords) := by
  simp only [Releases.listed, (checkedFile_read h.json).1, (checkedFile_read h.csv).1, (checkedFile_read h.table).1,
    ok_bind, h.jsonRead, h.csvRead, h.tableRead]
  rfl

theorem pyEqItems_mem {left right : List Json} (same : pyEqItems left right = true) (member : a ∈ left) :
    ∃ b ∈ right, a.pyEq b = true := by
  induction left generalizing right with
  | nil => cases member
  | cons first rest ih =>
    cases right with
    | nil => cases same
    | cons other others =>
      rw [pyEqItems, Bool.and_eq_true] at same
      rcases List.mem_cons.mp member with rfl | member
      · exact ⟨other, List.mem_cons_self, same.1⟩
      · obtain ⟨b, among, equal⟩ := ih same.2 member
        exact ⟨b, List.mem_cons_of_mem _ among, equal⟩

theorem recordDicts_ok (h : recordDicts records = .ok dicts) : dicts = (sortRecords records).map (·.modelDump) := by
  obtain ⟨ordered, sorted, rfl⟩ := map_ok h
  obtain ⟨-, rfl⟩ := orderedRecords_ok.mp sorted
  rfl

/-- A record of the JSON file has an equal, for Python, in each of the other files. -/
theorem formatsEquivalent_mem (equivalent : formatsEquivalent jsonRecords csvRecords parquetRecords = .ok true)
    (member : r ∈ jsonRecords) :
    (∃ s ∈ csvRecords, r.modelDump.pyEq s.modelDump = true) ∧
      ∃ s ∈ parquetRecords, r.modelDump.pyEq s.modelDump = true := by
  obtain ⟨canonical, json, equivalent⟩ := bind_ok equivalent
  obtain ⟨others, csv, equivalent⟩ := bind_ok equivalent
  cases recordDicts_ok json
  cases recordDicts_ok csv
  have among : r.modelDump ∈ (sortRecords jsonRecords).map (·.modelDump) :=
    List.mem_map_of_mem ((sortRecords_perm _).mem_iff.mpr member)
  have equal {records : List ReleaseRecord}
      (same : pyEqItems ((sortRecords jsonRecords).map (·.modelDump)) ((sortRecords records).map (·.modelDump)) =
        true) :
      ∃ s ∈ records, r.modelDump.pyEq s.modelDump = true := by
    obtain ⟨dumped, found, equal⟩ := pyEqItems_mem same among
    obtain ⟨s, among, rfl⟩ := List.mem_map.mp found
    exact ⟨s, (sortRecords_perm _).mem_iff.mp among, equal⟩
  split at equivalent
  · rename_i same
    obtain ⟨dicts, table, equivalent⟩ := bind_ok equivalent
    cases recordDicts_ok table
    exact ⟨equal same, equal (Except.ok.inj equivalent)⟩
  · cases equivalent

/-- A walk to the root of `records` starts at the leaf of one of them. -/
theorem leafHash_of_walk {bundle : ReleaseProofBundle}
    (free : CollisionFree sha256 (inclusionInputs sha256 records bundle))
    (apart : ∀ r ∈ bundle.record :: records, ∀ pair ∈ treePairs sha256 records ++ proofPairs sha256 bundle,
      leafPreimage r ≠ nodePreimage pair)
    (proves : verifyInclusionProof sha256 bundle = true)
    (root : merkleRoot sha256 records = .ok bundle.proof.merkleRoot) :
    ∃ r ∈ records, r.modelDump = bundle.record.modelDump := by
  obtain ⟨-, top⟩ := merkleRoot_ok.mp root
  have reached : MerkleTree.walk (nodeHash sha256) (leafHash sha256 bundle.record) bundle.proof.steps ∈
      MerkleTree.climb (nodeHash sha256) (leaves sha256 records).length (leaves sha256 records) := by
    rw [verifyInclusionProof_walk proves]
    exact List.mem_of_mem_head? top
  have hashed (r : ReleaseRecord) (member : r ∈ bundle.record :: records) :
      leafPreimage r ∈ inclusionInputs sha256 records bundle :=
    List.mem_append_left _ (List.mem_map_of_mem member)
  have listed (r : ReleaseRecord) (member : leafHash sha256 r ∈ leaves sha256 records) :
      ∃ s ∈ records, leafHash sha256 s = leafHash sha256 r := by
    obtain ⟨s, found, same⟩ := List.mem_map.mp member
    exact ⟨s, (sortRecords_perm records).mem_iff.mp found, same⟩
  have leaf : leafHash sha256 bundle.record ∈ leaves sha256 records := by
    apply MerkleTree.walk_sound (nodeHash sha256) (separates_of_collisionFree
      (free.mono (List.subset_append_right _ _))) _ reached
    intro x member pair hashedPair same
    obtain ⟨r, among, rfl⟩ : ∃ r ∈ bundle.record :: records, x = leafHash sha256 r := by
      rcases List.mem_cons.mp member with rfl | member
      · exact ⟨bundle.record, List.mem_cons_self, rfl⟩
      · obtain ⟨s, found, rfl⟩ := List.mem_map.mp member
        exact ⟨s, List.mem_cons_of_mem _ ((sortRecords_perm records).mem_iff.mp found), rfl⟩
    exact apart r among pair hashedPair (free _ (hashed r among) _
      (List.mem_append_right _ (List.mem_map_of_mem hashedPair)) same)
  obtain ⟨r, member, same⟩ := listed bundle.record leaf
  refine ⟨r, member, leafPreimage_eq_iff.mp ?_⟩
  exact free _ (hashed r (List.mem_cons_of_mem _ member)) _ (hashed _ List.mem_cons_self) same

theorem verifyReleaseInclusionProof_true {bundle : ReleaseProofBundle}
    (accepted : verifyReleaseInclusionProof conversions lowering sha256 ed25519 bundle (some directory) trusted =
      .ok true) :
    verifyInclusionProof sha256 bundle = true ∧ ∃ manifest signature trust,
      loadVerifiedManifest conversions lowering sha256 ed25519 directory trusted =
        .ok (manifest, signature, true, trust) ∧ trust ≠ some false ∧
      manifest.releaseId = bundle.proof.releaseId ∧ manifest.merkleRoot = bundle.proof.merkleRoot := by
  rw [verifyReleaseInclusionProof] at accepted
  split at accepted
  · cases accepted
  · rename_i proves
    refine ⟨Bool.not_eq_false _ ▸ proves, ?_⟩
    obtain ⟨verification, checked, accepted⟩ := bind_ok accepted
    rw [verifyReleaseManifest] at checked
    split at checked
    · rename_i manifest signature signatureValid trust loaded
      cases checked
      have accepted := Except.ok.inj accepted
      simp only [Bool.and_eq_true, decide_eq_true_eq, Option.some.injEq] at accepted
      obtain ⟨⟨⟨rfl, known⟩, release⟩, root⟩ := accepted
      exact ⟨manifest, signature, trust, loaded, known, release, root⟩
    · split at checked
      · cases checked
        cases accepted
      · cases checked

/-- What a loaded manifest has passed: the signature is over the bytes of the file. -/
structure Loaded (conversions : Conversions) (sha256 : Bytes → Digest) (ed25519 : Ed25519 Key)
    (directory : ReleaseDirectory) (manifest : ReleaseManifest) (signature : ReleaseSignature)
    (message publicKey signatureBytes : Bytes) : Prop where
  read : (directory.readBytes "manifest.json").map rstripNewlines = .ok message
  validated : (do ReleaseManifest.modelValidate conversions (← document message)) = .ok manifest
  signed : (do ReleaseSignature.modelValidate (← document (← directory.readBytes "manifest.signature.json"))) =
    .ok signature
  key : b64decode signature.publicKeyB64.toList = .ok publicKey
  bytes : b64decode signature.signatureB64.toList = .ok signatureBytes
  verifies : ed25519.verify publicKey signatureBytes message = true

theorem loadVerifiedManifest_ok
    (loaded : loadVerifiedManifest conversions lowering sha256 ed25519 directory trusted =
      .ok (manifest, signature, true, trust)) :
    ∃ message publicKey signatureBytes,
      Loaded conversions sha256 ed25519 directory manifest signature message publicKey signatureBytes ∧
      sha256 publicKey = signature.signerKeySha256 ∧
      signerTrustStatus lowering signature.signerKeySha256 trusted = .ok trust := by
  obtain ⟨message, read, loaded⟩ := bind_ok loaded
  obtain ⟨value, parsed, loaded⟩ := bind_ok loaded
  obtain ⟨found, built, loaded⟩ := bind_ok loaded
  obtain ⟨-, -, loaded⟩ := bind_ok loaded
  obtain ⟨data, signed, loaded⟩ := bind_ok loaded
  obtain ⟨document, parsedSignature, loaded⟩ := bind_ok loaded
  obtain ⟨written, builtSignature, loaded⟩ := bind_ok loaded
  obtain ⟨publicKey, key, loaded⟩ := bind_ok loaded
  obtain ⟨-, -, loaded⟩ := bind_ok loaded
  obtain ⟨signatureBytes, bytes, loaded⟩ := bind_ok loaded
  obtain ⟨_, verifies, loaded⟩ := bind_ok loaded
  obtain ⟨status, checked, loaded⟩ := bind_ok loaded
  have parts := Except.ok.inj loaded
  simp only [Prod.mk.injEq, Bool.and_eq_true, decide_eq_true_eq] at parts
  obtain ⟨rfl, rfl, valid, rfl⟩ := parts
  refine ⟨message, publicKey, signatureBytes, ⟨read, ?_, ?_, key, bytes, ?_⟩, valid.2, checked⟩
  · rw [parsed, ok_bind, built]
  · rw [signed, ok_bind, parsedSignature, ok_bind, builtSignature]
  · exact Bool.not_eq_false _ ▸ raiseIf_ok.mp verifies

/-- The manifest does not depend on the fingerprints that are trusted. -/
theorem Loaded.same (one : Loaded conversions sha256 ed25519 directory manifest signature message publicKey written)
    (other : Loaded conversions sha256 ed25519 directory manifest' signature' message' publicKey' written') :
    manifest = manifest' := by
  cases one.read.symm.trans other.read
  exact Except.ok.inj (one.validated.symm.trans other.validated)

/-- A proof that holds against a verified release is of one of its records, and the other two files hold an equal. -/
theorem releaseProof_sound {bundle : ReleaseProofBundle}
    (returned : verifyRelease conversions lowering sha256 ed25519 parquet directory trusted = .ok verification)
    (valid : verification.valid = true)
    (lists : listed parquet directory = .ok (jsonRecords, csvRecords, parquetRecords))
    (accepted : verifyReleaseInclusionProof conversions lowering sha256 ed25519 bundle (some directory) trusted' =
      .ok true)
    (free : CollisionFree sha256 (inclusionInputs sha256 jsonRecords bundle))
    (apart : ∀ r ∈ bundle.record :: jsonRecords,
      ∀ pair ∈ treePairs sha256 jsonRecords ++ proofPairs sha256 bundle, leafPreimage r ≠ nodePreimage pair) :
    (∃ r ∈ jsonRecords, r.modelDump = bundle.record.modelDump) ∧
      (∃ r ∈ csvRecords, bundle.record.modelDump.pyEq r.modelDump = true) ∧
      ∃ r ∈ parquetRecords, bundle.record.modelDump.pyEq r.modelDump = true := by
  obtain ⟨c, verified, -⟩ := verifyRelease_valid returned valid
  cases lists.symm.trans verified.listed
  obtain ⟨proves, manifest, signature, trust, loaded, -, release, root⟩ := verifyReleaseInclusionProof_true accepted
  obtain ⟨message, publicKey, written, here, -⟩ := loadVerifiedManifest_ok verified.loaded
  obtain ⟨message', publicKey', written', there, -⟩ := loadVerifiedManifest_ok loaded
  cases here.same there
  obtain ⟨-, rooted⟩ := merkleValid_true.mp verified.rooted
  obtain ⟨r, member, dumps⟩ := leafHash_of_walk free apart proves (root ▸ rooted)
  obtain ⟨csv, table⟩ := formatsEquivalent_mem verified.equivalent member
  rw [dumps] at csv table
  exact ⟨⟨r, member, dumps⟩, csv, table⟩

/-- The key, the signature and the message that a directory presents. -/
def presented (directory : ReleaseDirectory) : Result (Bytes × Bytes × Bytes) := do
  let message ← (directory.readBytes "manifest.json").map rstripNewlines
  let signature ← ReleaseSignature.modelValidate (← document (← directory.readBytes "manifest.signature.json"))
  return (← b64decode signature.publicKeyB64.toList, ← b64decode signature.signatureB64.toList, message)

theorem Loaded.presented
    (loaded : Loaded conversions sha256 ed25519 directory manifest signature message publicKey written) :
    Releases.presented directory = .ok (publicKey, written, message) := by
  obtain ⟨data, read, signed⟩ := bind_ok loaded.signed
  obtain ⟨value, parsed, built⟩ := bind_ok signed
  simp only [Releases.presented, loaded.read, read, parsed, built, loaded.key, loaded.bytes, ok_bind]
  rfl

theorem presented_built (of : BuiltOf ed25519 sha256 parquet records key manifest directory) :
    presented directory = .ok (ed25519.publicKey key, ed25519.sign key (canonicalJsonBytes manifest.json),
      canonicalJsonBytes manifest.json) := by
  have message : rstripNewlines (canonicalJsonBytes manifest.json ++ [10]) = canonicalJsonBytes manifest.json :=
    rstripNewlines_object manifest.entries
  have publicKey : b64decode (signManifest sha256 ed25519 key (canonicalJsonBytes manifest.json)).publicKeyB64.toList =
      .ok (ed25519.publicKey key) := by
    simp [signManifest]
  have written : b64decode (signManifest sha256 ed25519 key (canonicalJsonBytes manifest.json)).signatureB64.toList =
      .ok (ed25519.sign key (canonicalJsonBytes manifest.json)) := by
    simp [signManifest]
  simp only [presented, of.signed, Except.map, message, of.signature, document_line (ReleaseSignature.json_wellFormed _),
    ReleaseSignature.read, publicKey, written, ok_bind]
  rfl

/-- What is hashed of a directory, and of the builds and the key it is held against. -/
def authenticInputs (parquet : Parquet) (directory : ReleaseDirectory) (publicKey : Bytes)
    (builds : List (List ReleaseRecord × String)) : List Bytes :=
  publicKey :: (match presented directory with
    | .ok (key, _, _) => [key]
    | .error _ => []) ++
  ["records.json", "records.csv", "records.parquet"].filterMap directory ++
  builds.flatMap fun build => (exports parquet (sortRecords build.1)).map fun entry => entry.2.2

theorem signerTrustStatus_one {signer : Digest}
    (status : signerTrustStatus lowering signer (some [key.hex]) = .ok trust) (known : trust ≠ some false) : signer = key := by
  obtain ⟨-, -, status⟩ := bind_ok status
  cases status
  simp only [List.map_cons, List.map_nil, lower_hex, List.mem_singleton, ne_eq, Option.some.injEq,
    decide_eq_false_iff_not, not_not] at known
  exact Digest.hex_injective known

theorem readBytes_ok {directory : ReleaseDirectory} (read : directory.readBytes name = .ok data) :
    directory name = some data := by
  unfold ReleaseDirectory.readBytes at read
  split at read
  · rename_i found here
    cases read
    exact here
  · cases read

theorem ManifestOf.pinned (of : ManifestOf sha256 parquet records manifest)
    (validated : validateManifestFiles manifest = .ok names)
    (member : (name, data) ∈ [("records.json", jsonBytes (sortRecords records)),
      ("records.csv", csvBytes (sortRecords records)), ("records.parquet", parquetBytes parquet (sortRecords records))])
    (checked : checkedFile sha256 directory names name = .ok (found, true)) :
    directory.readBytes name = .ok found ∧ sha256 found = sha256 data := by
  obtain ⟨names', validated', entry⟩ := of.validated
  cases validated.symm.trans validated'
  obtain ⟨read, file, named, digest⟩ := checkedFile_read checked
  obtain ⟨file', named', digest', -⟩ := entry name data member
  cases named.symm.trans named'
  exact ⟨read, digest.trans digest'.symm⟩

/-- The files of a verified directory are those that its manifest was built over. -/
theorem Contents.Verified.files {c : Contents}
    (verified : c.Verified conversions lowering sha256 ed25519 parquet directory trusted)
    (of : ManifestOf sha256 parquet records c.manifest)
    (free : CollisionFree sha256 (["records.json", "records.csv", "records.parquet"].filterMap directory ++
      (exports parquet (sortRecords records)).map fun entry => entry.2.2)) :
    directory.readBytes "records.json" = .ok (jsonBytes (sortRecords records)) ∧
    directory.readBytes "records.csv" = .ok (csvBytes (sortRecords records)) ∧
    directory.readBytes "records.parquet" = .ok (parquetBytes parquet (sortRecords records)) := by
  have pin (name : String) (data found : Bytes) (exported : (name, data) ∈ [
      ("records.json", jsonBytes (sortRecords records)), ("records.csv", csvBytes (sortRecords records)),
      ("records.parquet", parquetBytes parquet (sortRecords records))])
      (checked : checkedFile sha256 directory c.files name = .ok (found, true)) :
      directory.readBytes name = .ok data := by
    obtain ⟨read, digest⟩ := of.pinned verified.validated exported checked
    have three : name ∈ ["records.json", "records.csv", "records.parquet"] :=
      List.mem_map_of_mem (f := Prod.fst) exported
    have here : found ∈ ["records.json", "records.csv", "records.parquet"].filterMap directory :=
      List.mem_filterMap.mpr ⟨name, three, readBytes_ok read⟩
    have there : data ∈ (exports parquet (sortRecords records)).map fun entry => entry.2.2 :=
      List.mem_map_of_mem (f := Prod.snd) exported
    rw [read, free found (List.mem_append_left _ here) data (List.mem_append_right _ there) digest]
  exact ⟨pin _ _ _ (by simp) verified.json, pin _ _ _ (by simp) verified.csv, pin _ _ _ (by simp) verified.table⟩

end

theorem builtRelease_proves_example : ∃ manifest directory,
    buildRelease checksum mirrorEd25519 jsonParquet exampleRecords "e" () = .ok (manifest, directory) ∧ ∃ bundle,
      createReleaseInclusionProof sampleConversions asciiLowering checksum mirrorEd25519 jsonParquet directory
        "extraction" "c" none = .ok bundle ∧ bundle.record = jsonCopy (exampleRecord "c") ∧
      verifyReleaseInclusionProof sampleConversions asciiLowering checksum mirrorEd25519 bundle (some directory) none =
        .ok true := by
  obtain ⟨manifest, directory, built⟩ := exampleRelease_built
  have status : signerTrustStatus asciiLowering (checksum (mirrorEd25519.publicKey ())) none = .ok none := rfl
  have proves := @builtRelease_proves _ sampleConversions _ _ _ _ _ _ _ _ _ _ _ mirrorEd25519_lawful jsonParquet_lawful
    built status (by simp) exampleRecords_readable
  exact ⟨manifest, directory, built, proves.1 (exampleRecord "c") (by simp [exampleRecords])⟩

/-- The proof of the example for a manifest. -/
def exampleProof (manifest : ReleaseManifest) : ReleaseProofBundle :=
  { exampleBundle with proof := { exampleBundle.proof with releaseId := manifest.releaseId } }

theorem releaseProof_sound_example : ∃ manifest directory,
    buildRelease checksum mirrorEd25519 jsonParquet exampleRecords "e" () = .ok (manifest, directory) ∧
      verifyReleaseInclusionProof sampleConversions asciiLowering checksum mirrorEd25519 (exampleProof manifest)
        (some directory) none = .ok true ∧
      ∃ r ∈ (sortRecords exampleRecords).map jsonCopy, r.modelDump = (exampleRecord "c").modelDump := by
  obtain ⟨manifest, directory, built⟩ := exampleRelease_built
  have of := buildRelease_ok built
  have status : signerTrustStatus asciiLowering (checksum (mirrorEd25519.publicKey ())) none = .ok none := rfl
  have verified : verifyRelease sampleConversions asciiLowering checksum mirrorEd25519 jsonParquet directory none =
      .ok ⟨some manifest.releaseId, true, true, true, true, true, some (checksum (mirrorEd25519.publicKey ())), none,
        none⟩ := by
    rw [verifyRelease, checkRelease_built mirrorEd25519_lawful jsonParquet_lawful of status,
      if_pos exampleRecords_readable]
    rfl
  have lists : listed jsonParquet directory = .ok ((sortRecords exampleRecords).map jsonCopy, sortRecords exampleRecords,
      sortRecords exampleRecords) := by
    have readable : ∀ r ∈ sortRecords exampleRecords, Readable r := fun r member =>
      exampleRecords_readable r ((sortRecords_perm _).mem_iff.mp member)
    simp only [listed, of.json, of.csv, of.table, ok_bind, recordsFromJson_bytes, recordsFromCsv_bytes,
      recordsFromParquet_bytes jsonParquet_lawful, if_pos readable]
    rfl
  have root : manifest.merkleRoot = exampleBundle.proof.merkleRoot := by
    have rooted : merkleRoot checksum exampleRecords = .ok exampleBundle.proof.merkleRoot :=
      merkleRoot_ok.mpr ⟨by decide, by decide +kernel⟩
    exact Except.ok.inj (of.manifestOf.rooted.symm.trans rooted)
  have proves : verifyInclusionProof checksum (exampleProof manifest) = true := by
    have same : verifyInclusionProof checksum (exampleProof manifest) = verifyInclusionProof checksum exampleBundle := rfl
    rw [same]
    decide +kernel
  have accepted : verifyReleaseInclusionProof sampleConversions asciiLowering checksum mirrorEd25519
      (exampleProof manifest) (some directory) none = .ok true := by
    rw [verifyReleaseInclusionProof, if_neg (by rw [proves]; exact Bool.noConfusion), verifyReleaseManifest,
      loadVerifiedManifest_built mirrorEd25519_lawful of status]
    simp [ok_bind, exampleProof, root, pure, Except.pure]
  exact ⟨manifest, directory, built, accepted, (releaseProof_sound verified rfl lists accepted
    (by change CollisionFree checksum (inclusionInputs checksum _ exampleBundle); decide +kernel)
    (by change ∀ r ∈ exampleBundle.record :: _, ∀ pair ∈ _ ++ proofPairs checksum exampleBundle, _; decide +kernel)).1⟩

end BallotProof.Releases
