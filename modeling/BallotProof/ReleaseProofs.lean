import BallotProof.ReleaseRecords

/-! Portable inclusion proofs: a record, its leaf digest and the siblings on the way to
the root. The verifier sees nothing of the tree, so siblings and sides are arbitrary. -/
namespace BallotProof
open Python

/-- `ReleaseInclusionProof`; a field with pattern `^[a-f0-9]{64}$` is the digest it spells. -/
structure ReleaseInclusionProof where
  releaseId : String
  merkleRoot : Digest
  recordType : RecordType
  recordKey : String
  leafSha256 : Digest
  steps : List (MerkleTree.Step Digest)

structure ReleaseProofBundle where
  record : ReleaseRecord
  proof : ReleaseInclusionProof

section
variable (sha256 : Bytes → Digest)

/-- `verify_inclusion_proof` -/
def verifyInclusionProof (bundle : ReleaseProofBundle) : Bool :=
  let record := bundle.record
  let proof := bundle.proof
  if record.recordType ≠ proof.recordType ∨ record.recordKey ≠ proof.recordKey then false
  else
    let current := leafHash sha256 record
    if current ≠ proof.leafSha256 then false
    else decide (MerkleTree.walk (nodeHash sha256) current proof.steps = proof.merkleRoot)

/-- `build_inclusion_proof`; its loop over the levels is `MerkleTree.path`. -/
def buildInclusionProof (records : List ReleaseRecord) (releaseId recordType recordKey : String) :
    Result ReleaseProofBundle := do
  let ordered ← orderedRecords records
  raiseIf (ordered.isEmpty = true) ⟨.valueError, "release requires at least one record"⟩
  match ordered.zipIdx.find? fun (record, _) =>
    record.recordType.text = recordType ∧ record.recordKey = recordKey with
  | none => .error ⟨.keyError, "'Unknown release record: " ++ recordType ++ ":" ++ recordKey ++ "'"⟩
  | some (record, index) =>
    let level := ordered.map (leafHash sha256)
    let root ← merkleRoot sha256 ordered
    match MerkleTree.path (nodeHash sha256) level.length level index with
    | none => .error ⟨.indexError, "list index out of range"⟩
    | some steps => return {
        record
        proof := {
          releaseId
          merkleRoot := root
          recordType := record.recordType
          recordKey := record.recordKey
          leafSha256 := leafHash sha256 record
          steps } }

/-- `merkle_valid` in `verify_release` -/
def merkleValid (records : List ReleaseRecord) (recordCount : Nat) (root : Digest) : Result Bool :=
  if records.length = recordCount then (merkleRoot sha256 records).map fun found => decide (found = root)
  else .ok false

/-- The leaves of the tree over `records`. -/
def leaves (records : List ReleaseRecord) : List Digest :=
  (sortRecords records).map (leafHash sha256)

/-- The pairs of digests that `merkle_root` hashes. -/
def treePairs (records : List ReleaseRecord) : List (Digest × Digest) :=
  MerkleTree.combined (nodeHash sha256) (leaves sha256 records).length (leaves sha256 records)

/-- The pairs of digests that `verify_inclusion_proof` hashes. -/
def proofPairs (bundle : ReleaseProofBundle) : List (Digest × Digest) :=
  MerkleTree.walked (nodeHash sha256) (leafHash sha256 bundle.record) bundle.proof.steps

/-- Everything hashed to build a root over `records` and to check `bundle` against it. -/
def inclusionInputs (records : List ReleaseRecord) (bundle : ReleaseProofBundle) : List Bytes :=
  (bundle.record :: records).map leafPreimage ++
    (treePairs sha256 records ++ proofPairs sha256 bundle).map nodePreimage

end

theorem nodePreimage_injective : Function.Injective nodePreimage := by
  rintro ⟨a, b⟩ ⟨c, d⟩ same
  obtain ⟨rfl, rfl⟩ := Digest.append_inj same
  rfl

section
variable {sha256 : Bytes → Digest}

/-- Where the hash is collision free, digests separate the pairs they are made of. -/
theorem separates_of_collisionFree {occurring : List (Digest × Digest)}
    (free : CollisionFree sha256 (occurring.map nodePreimage)) :
    MerkleTree.Separates (nodeHash sha256) occurring := by
  intro p hp q hq same
  exact nodePreimage_injective
    (free _ (List.mem_map_of_mem hp) _ (List.mem_map_of_mem hq) same)

theorem verifyInclusionProof_walk {bundle : ReleaseProofBundle}
    (h : verifyInclusionProof sha256 bundle = true) :
    MerkleTree.walk (nodeHash sha256) (leafHash sha256 bundle.record) bundle.proof.steps =
      bundle.proof.merkleRoot := by
  unfold verifyInclusionProof at h
  simp only at h
  split at h
  · cases h
  · split at h
    · cases h
    · exact of_decide_eq_true h

/-- A bundle that verifies against the root of `records` carries one of them. -/
theorem verifyInclusionProof_sound {records : List ReleaseRecord} {bundle : ReleaseProofBundle}
    (free : CollisionFree sha256 (inclusionInputs sha256 records bundle))
    (injective : Set.InjOn leafPreimage {r | r ∈ bundle.record :: records})
    (apart : ∀ r ∈ bundle.record :: records,
      ∀ pair ∈ treePairs sha256 records ++ proofPairs sha256 bundle,
        leafPreimage r ≠ nodePreimage pair)
    (verified : verifyInclusionProof sha256 bundle = true)
    (root : merkleRoot sha256 records = .ok bundle.proof.merkleRoot) :
    bundle.record ∈ records := by
  obtain ⟨-, top⟩ := merkleRoot_ok.mp root
  have reached : MerkleTree.walk (nodeHash sha256) (leafHash sha256 bundle.record)
      bundle.proof.steps ∈
        MerkleTree.climb (nodeHash sha256) (leaves sha256 records).length (leaves sha256 records) := by
    rw [verifyInclusionProof_walk verified]
    exact List.mem_of_mem_head? top
  have separates := separates_of_collisionFree
    (free.mono (List.subset_append_right (List.map leafPreimage (bundle.record :: records)) _))
  have leaf : ∀ r ∈ bundle.record :: records, ∀ pair ∈ treePairs sha256 records ++
      proofPairs sha256 bundle, leafHash sha256 r ≠ nodeHash sha256 pair.1 pair.2 := by
    intro r hr pair hp same
    exact apart r hr pair hp (free _ (List.mem_append_left _ (List.mem_map_of_mem hr)) _
      (List.mem_append_right _ (List.mem_map_of_mem hp)) same)
  have member : leafHash sha256 bundle.record ∈ leaves sha256 records := by
    apply MerkleTree.walk_sound (nodeHash sha256) separates _ reached
    intro x hx pair hp
    rcases List.mem_cons.mp hx with rfl | hx
    · exact leaf _ (List.mem_cons_self ..) pair hp
    · obtain ⟨r, hr, rfl⟩ := List.mem_map.mp hx
      exact leaf r (List.mem_cons_of_mem _ ((sortRecords_perm records).mem_iff.mp hr)) pair hp
  obtain ⟨r, hr, same⟩ := List.mem_map.mp member
  have hr : r ∈ records := (sortRecords_perm records).mem_iff.mp hr
  have preimages := free _ (List.mem_append_left _ (List.mem_map_of_mem (List.mem_cons_of_mem _ hr)))
    _ (List.mem_append_left _ (List.mem_map_of_mem (List.mem_cons_self ..))) same
  have records_eq := injective (List.mem_cons_of_mem _ hr) (List.mem_cons_self ..) preimages
  exact records_eq ▸ hr

theorem sortRecords_sortRecords (records : List ReleaseRecord) (distinct : DistinctKeys records) :
    sortRecords (sortRecords records) = sortRecords records :=
  sortRecords_eq_of_perm (sortRecords_perm records) ((DistinctKeys.perm (sortRecords_perm records)).mpr distinct)

/-- Every record of a release has a proof, and the proof leads to the root of the release. -/
theorem buildInclusionProof_complete {records : List ReleaseRecord} {r : ReleaseRecord}
    (distinct : DistinctKeys records) (member : r ∈ records) (releaseId : String) :
    ∃ bundle, buildInclusionProof sha256 records releaseId r.recordType.text r.recordKey = .ok bundle ∧
      bundle.record = r ∧ verifyInclusionProof sha256 bundle = true ∧
      merkleRoot sha256 records = .ok bundle.proof.merkleRoot := by
  have among : r ∈ sortRecords records := (sortRecords_perm records).mem_iff.mpr member
  obtain ⟨i, hi⟩ := List.mem_iff_getElem?.mp among
  have someMatch : ∃ entry, (sortRecords records).zipIdx.find? (fun (record, _) =>
      record.recordType.text = r.recordType.text ∧ record.recordKey = r.recordKey) = some entry := by
    rw [← Option.isSome_iff_exists, List.find?_isSome]
    exact ⟨(r, i), List.mk_mem_zipIdx_iff_getElem?.mpr hi, by simp⟩
  obtain ⟨⟨found, index⟩, search⟩ := someMatch
  have here : (sortRecords records)[index]? = some found :=
    List.mk_mem_zipIdx_iff_getElem?.mp (List.mem_of_find?_eq_some search)
  have same : found = r := by
    have keys := List.find?_some search
    simp only [decide_eq_true_eq, RecordType.text_injective.eq_iff] at keys
    have old : found ∈ records := (sortRecords_perm records).mem_iff.mp (List.mem_of_getElem? here)
    exact List.inj_on_of_nodup_map distinct old member (by simp [recordSortKey, keys])
  subst same
  have leaf : ((sortRecords records).map (leafHash sha256))[index]? = some (leafHash sha256 found) := by
    simp [here]
  obtain ⟨steps, built, top⟩ := MerkleTree.walk_path (nodeHash sha256) _ _ index _ leaf le_rfl
  have root : merkleRoot sha256 records =
      .ok (MerkleTree.walk (nodeHash sha256) (leafHash sha256 found) steps) :=
    merkleRoot_ok.mpr ⟨distinct, by rw [MerkleTree.root, top]; rfl⟩
  have again : merkleRoot sha256 (sortRecords records) =
      .ok (MerkleTree.walk (nodeHash sha256) (leafHash sha256 found) steps) :=
    merkleRoot_ok.mpr ⟨(DistinctKeys.perm (sortRecords_perm records)).mpr distinct,
      by rw [sortRecords_sortRecords records distinct, MerkleTree.root, top]; rfl⟩
  have nonempty : (sortRecords records).isEmpty = false := by
    simpa using List.ne_nil_of_mem among
  refine ⟨⟨found, releaseId, MerkleTree.walk (nodeHash sha256) (leafHash sha256 found) steps,
    found.recordType, found.recordKey, leafHash sha256 found, steps⟩,
    bind_eq_ok.mpr ⟨_, orderedRecords_ok.mpr ⟨distinct, rfl⟩, bind_eq_ok.mpr ⟨(),
    raiseIf_ok.mpr (by simp [nonempty]), ?_⟩⟩, rfl, ?_, root⟩
  · simp only [search]
    refine bind_eq_ok.mpr ⟨_, again, ?_⟩
    simp only [built]
    rfl
  · simp [verifyInclusionProof, MerkleTree.walk]

/-- Everything hashed to build two roots. -/
def bindingInputs (sha256 : Bytes → Digest) (records others : List ReleaseRecord) : List Bytes :=
  (records ++ others).map leafPreimage ++
    (treePairs sha256 records ++ treePairs sha256 others).map nodePreimage

theorem map_leafHash_injective {a b : List ReleaseRecord}
    (free : CollisionFree sha256 ((a ++ b).map leafPreimage))
    (injective : Set.InjOn leafPreimage {r | r ∈ a ++ b})
    (same : a.map (leafHash sha256) = b.map (leafHash sha256)) : a = b := by
  induction a generalizing b with
  | nil => exact (List.map_eq_nil_iff.mp same.symm).symm
  | cons r rest ih =>
    cases b with
    | nil => cases same
    | cons s rest' =>
      obtain ⟨first, others⟩ := List.cons.inj same
      have within : rest ++ rest' ⊆ r :: rest ++ s :: rest' := by grind
      have tails := ih (free.mono (List.map_subset _ within)) (injective.mono within) others
      have preimages := free (leafPreimage r) (by simp) (leafPreimage s) (by simp) first
      rw [tails, injective (by simp) (by simp) preimages]

/-- The root and the number of records pin the records, in spite of the repeated last nodes. -/
theorem sortRecords_eq_of_root {records others : List ReleaseRecord} {root : Digest}
    (free : CollisionFree sha256 (bindingInputs sha256 records others))
    (injective : Set.InjOn leafPreimage {r | r ∈ records ++ others})
    (length : records.length = others.length)
    (left : merkleRoot sha256 records = .ok root) (right : merkleRoot sha256 others = .ok root) :
    sortRecords records = sortRecords others := by
  obtain ⟨-, left⟩ := merkleRoot_ok.mp left
  obtain ⟨-, right⟩ := merkleRoot_ok.mp right
  have sorted : (sortRecords records).length = (sortRecords others).length := by
    rw [(sortRecords_perm records).length_eq, (sortRecords_perm others).length_eq, length]
  have leavesLength : (leaves sha256 records).length = (leaves sha256 others).length := by
    simp only [leaves, List.length_map, sorted]
  have nonempty {list : List ReleaseRecord}
      (root : MerkleTree.root (nodeHash sha256) ((sortRecords list).map (leafHash sha256)) = some root) :
      leaves sha256 list ≠ [] := by
    rintro none
    rw [leaves] at none
    rw [none] at root
    cases root
  have top {list : List ReleaseRecord} (fuel : Nat) (eq : fuel = (leaves sha256 list).length)
      (found : MerkleTree.root (nodeHash sha256) ((sortRecords list).map (leafHash sha256)) = some root) :
      MerkleTree.climb (nodeHash sha256) fuel (leaves sha256 list) = [root] := by
    subst eq
    have one := MerkleTree.length_climb (nodeHash sha256) _ (leaves sha256 list) (nonempty found) le_rfl
    obtain ⟨d, hd⟩ := List.length_eq_one_iff.mp one
    rw [MerkleTree.root, ← leaves, hd] at found
    rw [hd, Option.some.inj found]
  have separates : MerkleTree.Separates (nodeHash sha256)
      (treePairs sha256 records ++ treePairs sha256 others) :=
    separates_of_collisionFree (free.mono (List.subset_append_right _ _))
  have same : leaves sha256 records = leaves sha256 others := by
    refine MerkleTree.climb_injective (nodeHash sha256) (leaves sha256 records).length _ _ leavesLength ?_
      ((top _ rfl left).trans (top _ leavesLength right).symm)
    rw [treePairs, treePairs, ← leavesLength] at separates
    exact separates
  have within : sortRecords records ++ sortRecords others ⊆ records ++ others := fun r hr =>
    (List.mem_append.mp hr).elim
      (fun h => List.mem_append_left _ ((sortRecords_perm records).mem_iff.mp h))
      (fun h => List.mem_append_right _ ((sortRecords_perm others).mem_iff.mp h))
  exact map_leafHash_injective
    (free.mono (List.Subset.trans (List.map_subset _ within) (List.subset_append_left _ _)))
    (injective.mono within) same

theorem merkleValid_true {records : List ReleaseRecord} :
    merkleValid sha256 records count root = .ok true ↔
      records.length = count ∧ merkleRoot sha256 records = .ok root := by
  unfold merkleValid
  split
  · rename_i length
    simp only [length, true_and]
    cases merkleRoot sha256 records <;> simp [Except.map]
  · rename_i length
    simp [length]

/-- Two lists of one length with one root are equal record by record, and so are two lists
that pass the check of one manifest. -/
theorem merkleRoot_binding {records others : List ReleaseRecord}
    (free : CollisionFree sha256 (bindingInputs sha256 records others))
    (injective : Set.InjOn leafPreimage {r | r ∈ records ++ others}) :
    (∀ root, records.length = others.length → merkleRoot sha256 records = .ok root →
      merkleRoot sha256 others = .ok root → sortRecords records = sortRecords others) ∧
    ∀ count root, merkleValid sha256 records count root = .ok true →
      merkleValid sha256 others count root = .ok true → records.Perm others := by
  have equal (root : Digest) (length : records.length = others.length)
      (left : merkleRoot sha256 records = .ok root) (right : merkleRoot sha256 others = .ok root) :=
    sortRecords_eq_of_root free injective length left right
  refine ⟨equal, fun count root left right => ?_⟩
  obtain ⟨count, left⟩ := merkleValid_true.mp left
  obtain ⟨count', right⟩ := merkleValid_true.mp right
  have sorted := equal root (count.trans count'.symm) left right
  exact (sortRecords_perm records).symm.trans (sorted ▸ sortRecords_perm others)

end

/-- Three small records, and the last one with its proof: the tree repeats it once. -/
def exampleRecord (key : String) : ReleaseRecord := ⟨.extraction, key, ⟨[], by decide⟩⟩

def exampleRecords : List ReleaseRecord :=
  [exampleRecord "b", exampleRecord "c", exampleRecord "a"]

def exampleBundle : ReleaseProofBundle where
  record := exampleRecord "c"
  proof := {
    releaseId := "bp_rel_example"
    merkleRoot := ((MerkleTree.root (nodeHash checksum) (leaves checksum exampleRecords)).getD
      (checksum []))
    recordType := .extraction
    recordKey := "c"
    leafSha256 := leafHash checksum (exampleRecord "c")
    steps := [⟨.right, leafHash checksum (exampleRecord "c")⟩,
      ⟨.left, nodeHash checksum (leafHash checksum (exampleRecord "a"))
        (leafHash checksum (exampleRecord "b"))⟩] }

theorem verifyInclusionProof_sound_example :
    verifyInclusionProof checksum exampleBundle = true ∧ exampleBundle.record ∈ exampleRecords :=
  ⟨by decide +kernel, @verifyInclusionProof_sound checksum _ _ (by decide +kernel)
    (leafPreimage_injOn.mono (by
      intro r hr
      have hr : r ∈ exampleRecord "c" :: exampleRecords := hr
      simp only [exampleRecords, List.mem_cons, List.not_mem_nil, or_false] at hr
      rcases hr with rfl | rfl | rfl | rfl <;> rfl))
    (by decide +kernel) (by decide +kernel) (merkleRoot_ok.mpr ⟨by decide, by decide +kernel⟩)⟩

theorem buildInclusionProof_complete_example : ∃ bundle,
    buildInclusionProof checksum exampleRecords "bp_rel_example" "extraction" "c" = .ok bundle ∧
      bundle.record = exampleRecord "c" ∧ verifyInclusionProof checksum bundle = true ∧
      merkleRoot checksum exampleRecords = .ok bundle.proof.merkleRoot :=
  @buildInclusionProof_complete checksum exampleRecords (exampleRecord "c") (by decide)
    (by simp [exampleRecords]) "bp_rel_example"

theorem merkleRoot_binding_example :
    merkleValid checksum exampleRecords.reverse 3 exampleBundle.proof.merkleRoot = .ok true ∧
      exampleRecords.Perm exampleRecords.reverse := by
  have valid : merkleValid checksum exampleRecords.reverse 3 exampleBundle.proof.merkleRoot =
      .ok true := by decide +kernel
  refine ⟨valid, (@merkleRoot_binding checksum exampleRecords exampleRecords.reverse
    (by decide +kernel) (leafPreimage_injOn.mono ?_)).2 3 exampleBundle.proof.merkleRoot
    (by decide +kernel) valid⟩
  intro r hr
  have hr : r ∈ exampleRecords ++ exampleRecords.reverse := hr
  simp only [exampleRecords, List.reverse_cons, List.reverse_nil, List.nil_append, List.cons_append,
    List.mem_cons, List.not_mem_nil, or_false] at hr
  rcases hr with rfl | rfl | rfl | rfl | rfl | rfl <;> rfl

end BallotProof
