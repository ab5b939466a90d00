import BallotProof.SemanticRelease

/-! What a valid semantic release says: its summary is determined by its records, one root stands for one content, and
under one trusted key the whole of it is of one build. -/
namespace BallotProof.Releases
open Python

section
variable {Key : Type} {conversions : Conversions} {lowering : Lowering} {sha256 : Bytes → Digest}
  {repr : Json → String} {ed25519 : Ed25519 Key} {parquet : Parquet}

/-- The lines that a Merkle tree over semantic records hashes. -/
def contentLines (contents : List SemanticRecord) : List Bytes :=
  contents.map fun r => canonicalJsonBytes r.modelDump

/-- What is hashed to the semantic root of the records. -/
def semanticInputs (sha256 : Bytes → Digest) (repr : Json → String) (records : List ReleaseRecord) : List Bytes :=
  match semanticRecords sha256 repr records with
  | .ok contents => contentLines contents ++ (MerkleTree.combined (nodeHash sha256) contents.length
      ((contentLines contents).map sha256)).map nodePreimage
  | .error _ => []

theorem map_sha256_injective {a b : List Bytes} (free : CollisionFree sha256 (a ++ b))
    (same : a.map sha256 = b.map sha256) : a = b := by
  induction a generalizing b with
  | nil => exact (List.map_eq_nil_iff.mp same.symm).symm
  | cons x a ih =>
    cases b with
    | nil => cases same
    | cons y b =>
      obtain ⟨head, tail⟩ := List.cons.inj same
      rw [free x (by simp) y (by simp) head, ih (free.mono fun z member => ?_) tail]
      simp only [List.mem_append, List.mem_cons] at member ⊢
      tauto

theorem leaves_contentLines (contents : List SemanticRecord) :
    contents.map (fun r => sha256 (canonicalJsonBytes r.modelDump)) = (contentLines contents).map sha256 := by
  rw [contentLines, List.map_map]
  rfl

theorem semanticRoot_inj
    (left : semanticMerkleRoot sha256 repr records = .ok (text, count))
    (right : semanticMerkleRoot sha256 repr others = .ok (text, count))
    (free : CollisionFree sha256 (semanticInputs sha256 repr records ++ semanticInputs sha256 repr others)) :
    ∃ contents contents', semanticRecords sha256 repr records = .ok contents ∧
      semanticRecords sha256 repr others = .ok contents' ∧ contentLines contents = contentLines contents' := by
  obtain ⟨contents, root, found, top, rfl, rfl⟩ := semanticMerkleRoot_ok left
  obtain ⟨contents', root', found', top', same, length⟩ := semanticMerkleRoot_ok right
  cases Digest.hex_injective same
  have size (list : List SemanticRecord) : ((contentLines list).map sha256).length = list.length := by
    rw [List.length_map, contentLines, List.length_map]
  rw [leaves_contentLines] at top top'
  simp only [semanticInputs, found, found'] at free
  refine ⟨contents, contents', found, found', ?_⟩
  apply map_sha256_injective (free.mono fun line member => ?_)
  · apply MerkleTree.root_injective (nodeHash sha256) (by rw [size, size, length]) _ top top'
    apply separates_of_collisionFree (free.mono fun line member => ?_)
    rw [size, size, List.map_append] at member
    rcases List.mem_append.mp member with here | there
    · exact List.mem_append_left _ (List.mem_append_right _ here)
    · exact List.mem_append_right _ (List.mem_append_right _ there)
  · rcases List.mem_append.mp member with here | there
    · exact List.mem_append_left _ (List.mem_append_left _ here)
    · exact List.mem_append_right _ (List.mem_append_left _ there)

/-- The key, the signature and the message that a directory presents for its summary. -/
def presentedSummary (directory : ReleaseDirectory) : Result (Bytes × Bytes × Bytes) := do
  let message ← (directory.readBytes "semantic.summary.json").map rstripNewlines
  let signature ← ReleaseSemanticSignature.modelValidate
    (← document (← directory.readBytes "semantic.summary.signature.json"))
  return (← b64decode signature.publicKeyB64.toList, ← b64decode signature.signatureB64.toList, message)

/-- What `verify_semantic_release` read beside the files of the release. -/
structure Sidecar where
  manifest : ReleaseManifest
  summary : ReleaseSemanticSummary
  records : List ReleaseRecord
  publicKey : Bytes
  signatureBytes : Bytes
  message : Bytes

/-- Everything that a valid summary has passed, beside a release signed by `signer`. -/
structure Sidecar.Verified (conversions : Conversions) (sha256 : Bytes → Digest) (repr : Json → String)
    (ed25519 : Ed25519 Key) (directory : ReleaseDirectory) (signer : Digest) (s : Sidecar) : Prop where
  validated : (do ReleaseManifest.modelValidate conversions (← document (← directory.readBytes "manifest.json"))) =
    .ok s.manifest
  read : (directory.readBytes "semantic.summary.json").map rstripNewlines = .ok s.message
  summarized : (do ReleaseSemanticSummary.modelValidate conversions (← document s.message)) = .ok s.summary
  presents : presentedSummary directory = .ok (s.publicKey, s.signatureBytes, s.message)
  verifies : ed25519.verify s.publicKey s.signatureBytes s.message = true
  signed : sha256 s.publicKey = signer
  records : readRecords directory = .ok s.records
  summarizes : Summarizes sha256 repr s.manifest s.records s.summary

theorem checkSemanticRelease_valid
    (signed : (do ReleaseSignature.modelValidate (← document (← directory.readBytes "manifest.signature.json"))) =
      .ok releaseSignature)
    (checked : checkSemanticRelease conversions sha256 repr ed25519 directory = .ok verification)
    (valid : verification.valid = true) :
    ∃ s : Sidecar, s.Verified conversions sha256 repr ed25519 directory releaseSignature.signerKeySha256 ∧
      verification = ⟨some s.summary.releaseId, true, true, true, true, some s.summary.semanticRoot,
        some s.summary.semanticRecordCount.1, none⟩ := by
  obtain ⟨manifestData, manifestRead, checked⟩ := bind_ok checked
  obtain ⟨manifestValue, manifestParsed, checked⟩ := bind_ok checked
  obtain ⟨manifest, manifestBuilt, checked⟩ := bind_ok checked
  obtain ⟨signatureData, signatureRead, checked⟩ := bind_ok checked
  obtain ⟨signatureValue, signatureParsed, checked⟩ := bind_ok checked
  obtain ⟨found, signatureBuilt, checked⟩ := bind_ok checked
  rw [signatureRead, ok_bind, signatureParsed, ok_bind, signatureBuilt] at signed
  cases signed
  obtain ⟨message, read, checked⟩ := bind_ok checked
  obtain ⟨summaryValue, summaryParsed, checked⟩ := bind_ok checked
  obtain ⟨summary, summaryBuilt, checked⟩ := bind_ok checked
  obtain ⟨sidecarData, sidecarRead, checked⟩ := bind_ok checked
  obtain ⟨sidecarValue, sidecarParsed, checked⟩ := bind_ok checked
  obtain ⟨signature, sidecarBuilt, checked⟩ := bind_ok checked
  obtain ⟨publicKey, key, checked⟩ := bind_ok checked
  obtain ⟨-, -, checked⟩ := bind_ok checked
  obtain ⟨signatureBytes, bytes, checked⟩ := bind_ok checked
  obtain ⟨_, verifies, checked⟩ := bind_ok checked
  obtain ⟨records, recordsRead, checked⟩ := bind_ok checked
  obtain ⟨⟨text, count⟩, rooted, checked⟩ := bind_ok checked
  cases checked
  simp only [Bool.and_eq_true, decide_eq_true_eq] at valid
  obtain ⟨⟨⟨digest, signer⟩, matching⟩, ⟨⟨⟨⟨release, election⟩, ledger⟩, normalization⟩, counted⟩, root⟩ := valid
  refine ⟨⟨manifest, summary, records, publicKey, signatureBytes, message⟩, ⟨?_, read, ?_, ?_, ?_, ?_, recordsRead,
    ⟨release, election, ledger, normalization, ?_⟩⟩, ?_⟩
  · rw [manifestRead, ok_bind, manifestParsed, ok_bind, manifestBuilt]
  · rw [summaryParsed, ok_bind, summaryBuilt]
  · simp only [presentedSummary, read, sidecarRead, sidecarParsed, sidecarBuilt, key, bytes, ok_bind]
    rfl
  · exact Bool.not_eq_false _ ▸ raiseIf_ok.mp verifies
  · exact signer.trans matching
  · rw [rooted, counted, root]
  · simp [digest, signer, matching, release, election, ledger, normalization, counted, root]

theorem verifySemanticRelease_valid
    (returned : verifySemanticRelease conversions lowering sha256 repr ed25519 parquet directory trusted =
      .ok verification) (valid : verification.valid = true) :
    ∃ (c : Contents) (s : Sidecar), c.Verified conversions lowering sha256 ed25519 parquet directory trusted ∧
      s.Verified conversions sha256 repr ed25519 directory c.signature.signerKeySha256 ∧
      verification = ⟨some s.summary.releaseId, true, true, true, true, some s.summary.semanticRoot,
        some s.summary.semanticRecordCount.1, none⟩ := by
  obtain ⟨base, verified, returned⟩ := bind_ok returned
  split at returned
  · cases returned
    cases valid
  · rename_i sound
    obtain ⟨c, contents, -⟩ := verifyRelease_valid verified (Bool.not_eq_false _ ▸ sound)
    obtain ⟨message, publicKey, written, loaded, -⟩ := loadVerifiedManifest_ok contents.loaded
    split at returned
    · rename_i found checked
      cases returned
      obtain ⟨s, sidecar, same⟩ := checkSemanticRelease_valid loaded.signed checked valid
      exact ⟨c, s, contents, sidecar, same⟩
    · split at returned
      · cases returned
        cases valid
      · cases returned

/-- Of two valid releases, whoever signed them, the summaries agree in root and count exactly when the records say
the same, line by line of their canonical contents. -/
theorem semanticRelease_binding
    (returned : verifySemanticRelease conversions lowering sha256 repr ed25519 parquet directory trusted =
      .ok verification) (valid : verification.valid = true)
    (returned' : verifySemanticRelease conversions lowering sha256 repr ed25519 parquet directory' trusted' =
      .ok verification') (valid' : verification'.valid = true)
    (read : readRecords directory = .ok records) (read' : readRecords directory' = .ok records')
    (free : CollisionFree sha256 (semanticInputs sha256 repr records ++ semanticInputs sha256 repr records')) :
    verification.semanticRoot = verification'.semanticRoot ∧
        verification.semanticRecordCount = verification'.semanticRecordCount ↔
      ∃ contents contents', semanticRecords sha256 repr records = .ok contents ∧
        semanticRecords sha256 repr records' = .ok contents' ∧ contentLines contents = contentLines contents' := by
  obtain ⟨c, s, -, sidecar, rfl⟩ := verifySemanticRelease_valid returned valid
  obtain ⟨c', s', -, sidecar', rfl⟩ := verifySemanticRelease_valid returned' valid'
  cases read.symm.trans sidecar.records
  cases read'.symm.trans sidecar'.records
  have rooted := sidecar.summarizes.rooted
  have rooted' := sidecar'.summarizes.rooted
  constructor
  · rintro ⟨root, count⟩
    simp only [Option.some.injEq] at root count
    rw [root, count] at rooted
    exact semanticRoot_inj rooted rooted' free
  · rintro ⟨contents, contents', found, found', same⟩
    obtain ⟨_, root, here, top, text, count⟩ := semanticMerkleRoot_ok rooted
    obtain ⟨_, root', there, top', text', count'⟩ := semanticMerkleRoot_ok rooted'
    cases found.symm.trans here
    cases found'.symm.trans there
    rw [leaves_contentLines] at top top'
    rw [same, top'] at top
    cases top
    have length := congrArg List.length same
    rw [contentLines, contentLines, List.length_map, List.length_map] at length
    exact ⟨congrArg some (Digest.hex_injective (text.trans text'.symm)),
      congrArg some (count.trans (length.trans count'.symm))⟩

/-- A message that the holder of a key has signed in one of the builds, each given by its records and its election:
the manifest or the summary of `build_atomic_release`. -/
def SignedIn (sha256 : Bytes → Digest) (repr : Json → String) (ed25519 : Ed25519 Key) (parquet : Parquet) (key : Key)
    (build : List ReleaseRecord × String) (message : Bytes) : Prop :=
  ∃ manifest summary directory, buildManifest sha256 parquet build.1 build.2 = .ok manifest ∧
    buildAtomicRelease sha256 repr ed25519 parquet build.1 build.2 key = .ok (summary, directory) ∧
    (message = canonicalJsonBytes manifest.json ∨ message = canonicalJsonBytes summary.json)

/-- No summary can pass for a manifest: a manifest has not its fields. -/
theorem summary_not_manifest (summary : ReleaseSemanticSummary) :
    ReleaseManifest.modelValidate conversions summary.json ≠ .ok found := by
  have extra : onlyFields ["schema_version", "release_id", "election_id", "record_count", "merkle_algorithm",
      "merkle_root", "files"] summary.entries = rejected "Extra inputs are not permitted" := by
    simp [onlyFields, require, ReleaseSemanticSummary.entries]
  intro read
  simp only [ReleaseManifest.modelValidate, ReleaseSemanticSummary.json, objectOf, ok_bind, extra] at read
  cases read

theorem manifest_not_summary (manifest : ReleaseManifest) :
    ReleaseSemanticSummary.modelValidate conversions manifest.json ≠ .ok found := by
  have extra : onlyFields ["schema_version", "release_id", "election_id", "ledger_merkle_root", "semantic_algorithm",
      "semantic_record_count", "semantic_root", "normalization_sha256", "snapshot_strategy"] manifest.entries =
        rejected "Extra inputs are not permitted" := by
    simp [onlyFields, require, ReleaseManifest.entries]
  intro read
  simp only [ReleaseSemanticSummary.modelValidate, ReleaseManifest.json, objectOf, ok_bind, extra] at read
  cases read

/-- A manifest and records have one summary. -/
theorem Summarizes.unique (one : Summarizes sha256 repr manifest records summary)
    (other : Summarizes sha256 repr manifest records summary') : summary = summary' := by
  obtain ⟨root, count⟩ := Prod.mk.inj (Except.ok.inj (one.rooted.symm.trans other.rooted))
  cases summary
  cases summary'
  simp only [ReleaseSemanticSummary.mk.injEq]
  exact ⟨one.release.trans other.release.symm, one.election.trans other.election.symm,
    one.ledger.trans other.ledger.symm, Subtype.ext count, Digest.hex_injective root,
    one.normalization.trans other.normalization.symm⟩

/-- What is hashed of a directory, and of the builds and the key it is held against. -/
def atomicInputs (parquet : Parquet) (directory : ReleaseDirectory) (publicKey : Bytes)
    (builds : List (List ReleaseRecord × String)) : List Bytes :=
  (match presentedSummary directory with
    | .ok (key, _, _) => [key]
    | .error _ => []) ++ authenticInputs parquet directory publicKey builds

/-- The stripped file and the whole of it give one document where the first is canonical. -/
theorem document_stripped {directory : ReleaseDirectory} {v : Json} (formed : v.wellFormed = true)
    (read : (directory.readBytes name).map rstripNewlines = .ok (canonicalJsonBytes v)) :
    ∃ data, directory.readBytes name = .ok data ∧ document data = .ok v := by
  obtain ⟨data, here, stripped⟩ := map_ok read
  obtain ⟨count, ends⟩ := rstripNewlines_ends data
  refine ⟨data, here, ?_⟩
  rw [ends, stripped, document_lines formed]

theorem presentedSummary_built (of : AtomicOf sha256 repr ed25519 parquet records key manifest summary directory) :
    presentedSummary directory = .ok (ed25519.publicKey key, ed25519.sign key (canonicalJsonBytes summary.json),
      canonicalJsonBytes summary.json) := by
  have message : rstripNewlines (canonicalJsonBytes summary.json ++ [10]) = canonicalJsonBytes summary.json :=
    rstripNewlines_object summary.entries
  simp only [presentedSummary, of.summarized, of.signed, Except.map, message,
    document_line (ReleaseSemanticSignature.json_wellFormed _), ReleaseSemanticSignature.read, ok_bind]
  simp [signSummary, pure, Except.pure]

/-- A semantic release that is valid under one trusted fingerprint is, but for the signature files, one that the
holder of the key has built in one call: no manifest of one build stands beside the summary of another. -/
theorem semanticRelease_authentic
    (returned : verifySemanticRelease conversions lowering sha256 repr ed25519 parquet directory
      (some [(sha256 (ed25519.publicKey key)).hex]) = .ok verification)
    (valid : verification.valid = true)
    (unforged : ∀ signature message, (presented directory = .ok (ed25519.publicKey key, signature, message) ∨
        presentedSummary directory = .ok (ed25519.publicKey key, signature, message)) →
      ed25519.verify (ed25519.publicKey key) signature message = true →
      ∃ build ∈ builds, SignedIn sha256 repr ed25519 parquet key build message)
    (free : CollisionFree sha256 (atomicInputs parquet directory (ed25519.publicKey key) builds)) :
    ∃ build ∈ builds, ∃ summary built,
      buildAtomicRelease sha256 repr ed25519 parquet build.1 build.2 key = .ok (summary, built) ∧
      verification = ⟨some summary.releaseId, true, true, true, true, some summary.semanticRoot,
        some summary.semanticRecordCount.1, none⟩ ∧
      (∀ name ∈ ["records.json", "records.csv", "records.parquet"],
        directory.readBytes name = built.readBytes name) ∧
      ∀ name ∈ ["manifest.json", "semantic.summary.json"],
        (directory.readBytes name).map rstripNewlines = (built.readBytes name).map rstripNewlines := by
  obtain ⟨c, s, contents, sidecar, rfl⟩ := verifySemanticRelease_valid returned valid
  obtain ⟨message, publicKey, written, loaded, signer, status⟩ := loadVerifiedManifest_ok contents.loaded
  have fingerprint := signerTrustStatus_one status contents.known
  have presents := loaded.presented
  have key_eq : publicKey = ed25519.publicKey key := by
    refine free _ ?_ _ ?_ (signer.trans fingerprint)
    · simp [atomicInputs, authenticInputs, presents]
    · simp [atomicInputs, authenticInputs]
  have sidecarKey : s.publicKey = ed25519.publicKey key := by
    refine free _ ?_ _ ?_ (sidecar.signed.trans fingerprint)
    · simp [atomicInputs, sidecar.presents]
    · simp [atomicInputs, authenticInputs]
  subst key_eq
  -- The message under the manifest is a manifest of a build, and so all of the release is of this build.
  obtain ⟨build, member, manifest, summary, built, manifestOk, atomic, rfl | rfl⟩ :=
    unforged _ _ (.inl presents) loaded.verifies
  swap
  · have read := loaded.validated
    rw [document_canonical summary.json_wellFormed, ok_bind] at read
    exact absurd read (summary_not_manifest summary)
  have same := loaded.validated
  rw [document_canonical manifest.json_wellFormed, ok_bind, manifest.read] at same
  have same := Except.ok.inj same
  obtain ⟨found, foundOk, of⟩ := buildAtomicRelease_ok atomic
  cases manifestOk.symm.trans foundOk
  obtain ⟨json, csv, table⟩ := contents.files (same ▸ of.builtOf.manifestOf) (free.mono fun data among => by
    rcases List.mem_append.mp among with here | there
    · exact List.mem_append_right _ (List.mem_append_left _ (List.mem_append_right _ here))
    · exact List.mem_append_right _ (List.mem_append_right _ (List.mem_flatMap.mpr ⟨build, member, there⟩)))
  have summarizes : Summarizes sha256 repr manifest ((sortRecords build.1).map jsonCopy) s.summary := by
    have records : readRecords directory = .ok ((sortRecords build.1).map jsonCopy) := by
      rw [readRecords, json, ok_bind]
      exact readText_built _
    obtain ⟨data, whole, parsed⟩ := document_stripped manifest.json_wellFormed loaded.read
    have validated := sidecar.validated
    rw [whole, ok_bind, parsed, ok_bind, manifest.read] at validated
    rw [Except.ok.inj validated, Except.ok.inj (records.symm.trans sidecar.records)]
    exact sidecar.summarizes
  have summary_eq := summarizes.unique of.summarizes
  -- The message under the summary may be of another build, yet it says what the records of this one say.
  have summaryMessage : s.message = canonicalJsonBytes summary.json := by
    obtain ⟨other, -, manifest', summary', -, -, -, form | form⟩ :=
      unforged _ _ (.inr (sidecarKey ▸ sidecar.presents)) (sidecarKey ▸ sidecar.verifies)
    · have read := sidecar.summarized
      rw [form, document_canonical manifest'.json_wellFormed, ok_bind] at read
      exact absurd read (manifest_not_summary manifest')
    · have read := sidecar.summarized
      rw [form, document_canonical summary'.json_wellFormed, ok_bind, summary'.read] at read
      rw [form, Except.ok.inj read, summary_eq]
  have message : rstripNewlines (canonicalJsonBytes manifest.json ++ [10]) = canonicalJsonBytes manifest.json :=
    rstripNewlines_object manifest.entries
  have summaryLine : rstripNewlines (canonicalJsonBytes summary.json ++ [10]) = canonicalJsonBytes summary.json :=
    rstripNewlines_object summary.entries
  refine ⟨build, member, summary, built, atomic, by rw [summary_eq], ?_, ?_⟩
  · simp only [List.forall_mem_cons, List.not_mem_nil, false_implies, implies_true, and_true]
    exact ⟨json.trans of.builtOf.json.symm, csv.trans of.builtOf.csv.symm, table.trans of.builtOf.table.symm⟩
  · simp only [List.forall_mem_cons, List.not_mem_nil, false_implies, implies_true, and_true]
    rw [loaded.read, sidecar.read, summaryMessage, of.builtOf.signed, of.summarized, Except.map, Except.map, message,
      summaryLine]
    exact ⟨rfl, rfl⟩

end

theorem semanticRelease_binding_example : ∃ summary summary' directory directory',
    buildAtomicRelease checksum noRepr mirrorEd25519 jsonParquet (snapshotRecords "a") "e" () =
      .ok (summary, directory) ∧
    buildAtomicRelease checksum noRepr mirrorEd25519 jsonParquet (snapshotRecords "b") "e" () =
      .ok (summary', directory') ∧
    summary.semanticRoot = summary'.semanticRoot := by
  obtain ⟨summary, directory, built⟩ := snapshotRelease_built "a" (by simp)
  obtain ⟨summary', directory', built'⟩ := snapshotRelease_built "b" (by simp)
  refine ⟨summary, summary', directory, directory', built, built', ?_⟩
  have read {snapshotId summary directory} (built : buildAtomicRelease checksum noRepr mirrorEd25519 jsonParquet
      (snapshotRecords snapshotId) "e" () = .ok (summary, directory)) :
      readRecords directory = .ok ((sortRecords (snapshotRecords snapshotId)).map jsonCopy) := by
    obtain ⟨manifest, -, of⟩ := buildAtomicRelease_ok built
    exact readRecords_built of.builtOf
  have verified {snapshotId summary directory} (named : snapshotId ∈ ["a", "b"])
      (built : buildAtomicRelease checksum noRepr mirrorEd25519 jsonParquet (snapshotRecords snapshotId) "e" () =
        .ok (summary, directory)) :
      verifySemanticRelease sampleConversions asciiLowering checksum noRepr mirrorEd25519 jsonParquet directory none =
        .ok ⟨some summary.releaseId, true, true, true, true, some summary.semanticRoot,
          some summary.semanticRecordCount.1, none⟩ := by
    obtain ⟨manifest, -, of⟩ := buildAtomicRelease_ok built
    have status : signerTrustStatus asciiLowering (checksum (mirrorEd25519.publicKey ())) none = .ok none := rfl
    have checked := @checkRelease_built _ sampleConversions _ _ _ _ _ _ _ _ _ _ mirrorEd25519_lawful
      jsonParquet_lawful of.builtOf status
    rw [if_pos (snapshotRecords_readable snapshotId named)] at checked
    rw [verifySemanticRelease, verifyRelease, checked, ok_bind, checkSemanticRelease_built mirrorEd25519_lawful of]
    rfl
  have free : CollisionFree checksum
      (semanticInputs checksum noRepr ((sortRecords (snapshotRecords "a")).map jsonCopy) ++
        semanticInputs checksum noRepr ((sortRecords (snapshotRecords "b")).map jsonCopy)) := by
    decide +kernel
  have contents : ∃ contents contents',
      semanticRecords checksum noRepr ((sortRecords (snapshotRecords "a")).map jsonCopy) = .ok contents ∧
      semanticRecords checksum noRepr ((sortRecords (snapshotRecords "b")).map jsonCopy) = .ok contents' ∧
      contentLines contents = contentLines contents' :=
    ⟨_, _, rfl, rfl, rfl⟩
  have same := (semanticRelease_binding (verified (by simp) built) rfl (verified (by simp) built') rfl (read built)
    (read built') free).mpr contents
  exact Option.some.inj same.1

theorem semanticRelease_authentic_example : ∃ summary directory,
    buildAtomicRelease checksum noRepr mirrorEd25519 jsonParquet (snapshotRecords "a") "e" () =
      .ok (summary, directory) ∧ ∃ built summary',
    buildAtomicRelease checksum noRepr mirrorEd25519 jsonParquet (snapshotRecords "a") "e" () =
      .ok (summary', built) ∧ directory.readBytes "records.csv" = built.readBytes "records.csv" := by
  obtain ⟨summary, directory, atomic⟩ := snapshotRelease_built "a" (by simp)
  obtain ⟨manifest, manifestOk, of⟩ := buildAtomicRelease_ok atomic
  have status : signerTrustStatus asciiLowering (checksum (mirrorEd25519.publicKey ()))
      (some [(checksum (mirrorEd25519.publicKey ())).hex]) = .ok (some true) := by decide +kernel
  have checked := @checkRelease_built _ sampleConversions _ _ _ _ _ _ _ _ _ _ mirrorEd25519_lawful jsonParquet_lawful
    of.builtOf status
  rw [if_pos (snapshotRecords_readable "a" (by simp))] at checked
  have verified : verifySemanticRelease sampleConversions asciiLowering checksum noRepr mirrorEd25519 jsonParquet
      directory (some [(checksum (mirrorEd25519.publicKey ())).hex]) =
        .ok ⟨some summary.releaseId, true, true, true, true, some summary.semanticRoot,
          some summary.semanticRecordCount.1, none⟩ := by
    rw [verifySemanticRelease, verifyRelease, checked, ok_bind, checkSemanticRelease_built mirrorEd25519_lawful of]
    rfl
  have presents := presented_built of.builtOf
  have presentsSummary := presentedSummary_built of
  have inputs : atomicInputs jsonParquet directory (mirrorEd25519.publicKey ()) [(snapshotRecords "a", "e")] =
      [mirrorEd25519.publicKey ()] ++ (mirrorEd25519.publicKey () :: [mirrorEd25519.publicKey ()] ++
      [jsonBytes (sortRecords (snapshotRecords "a")), csvBytes (sortRecords (snapshotRecords "a")),
        parquetBytes jsonParquet (sortRecords (snapshotRecords "a"))] ++
      [jsonBytes (sortRecords (snapshotRecords "a")), csvBytes (sortRecords (snapshotRecords "a")),
        parquetBytes jsonParquet (sortRecords (snapshotRecords "a"))]) := by
    rw [atomicInputs, authenticInputs, presents, presentsSummary]
    simp [readBytes_ok of.builtOf.json, readBytes_ok of.builtOf.csv, readBytes_ok of.builtOf.table, exports]
  have unforged (signature message : Bytes)
      (presents' : presented directory = .ok (mirrorEd25519.publicKey (), signature, message) ∨
        presentedSummary directory = .ok (mirrorEd25519.publicKey (), signature, message))
      (_ : mirrorEd25519.verify (mirrorEd25519.publicKey ()) signature message = true) :
      ∃ build ∈ [(snapshotRecords "a", "e")],
        SignedIn checksum noRepr mirrorEd25519 jsonParquet () build message := by
    refine ⟨(snapshotRecords "a", "e"), List.mem_singleton_self _, manifest, summary, directory, manifestOk, atomic, ?_⟩
    rcases presents' with presents' | presents'
    · cases presents.symm.trans presents'
      exact .inl rfl
    · cases presentsSummary.symm.trans presents'
      exact .inr rfl
  obtain ⟨build, member, summary', built, made, -, files, -⟩ :=
    semanticRelease_authentic verified rfl unforged (by rw [inputs]; decide +kernel)
  cases List.mem_singleton.mp member
  exact ⟨summary, directory, atomic, built, summary', made, files _ (by simp)⟩

end BallotProof.Releases
