import BallotProof.Dict
import BallotProof.MerkleTree

/-! Release records, their canonical order and the Merkle root over them. -/
namespace BallotProof
open Python

/-- `ReleaseRecord.record_type` -/
inductive RecordType where
  | registrySnapshot | evidenceVersion | attestation | extraction | extractionReview
  deriving DecidableEq, Repr

def RecordType.text : RecordType → String
  | .registrySnapshot => "registry_snapshot"
  | .evidenceVersion => "evidence_version"
  | .attestation => "attestation"
  | .extraction => "extraction"
  | .extractionReview => "extraction_review"

theorem RecordType.text_injective : Function.Injective RecordType.text := by
  intro a b; cases a <;> cases b <;> decide

structure ReleaseRecord where
  recordType : RecordType
  recordKey : String
  payload : Dict

/-- `_record_sort_key` -/
def recordSortKey (r : ReleaseRecord) : String ×ₗ String := toLex (r.recordType.text, r.recordKey)

def inOrder (a b : ReleaseRecord) : Prop := recordSortKey a ≤ recordSortKey b

instance : DecidableRel inOrder := fun a b =>
  inferInstanceAs (Decidable (recordSortKey a ≤ recordSortKey b))

/-- `sorted(records, key=_record_sort_key)` -/
def sortRecords (records : List ReleaseRecord) : List ReleaseRecord :=
  records.insertionSort inOrder

/-- The loop of `_ordered_records` over the sorted records. -/
def rejectRepeats (previous : Option (String ×ₗ String)) : List ReleaseRecord → Result Unit
  | [] => .ok ()
  | r :: rest =>
    if some (recordSortKey r) = previous then
      .error ⟨.valueError, "duplicate release record key: " ++ r.recordType.text ++ ":" ++ r.recordKey⟩
    else rejectRepeats (some (recordSortKey r)) rest

/-- `_ordered_records` -/
def orderedRecords (records : List ReleaseRecord) : Result (List ReleaseRecord) :=
  (rejectRepeats none (sortRecords records)).map fun _ => sortRecords records

mutual
/-- JSON mode of `model_dump` on a value without a schema: nan and the infinities
become null. -/
def jsonMode : Json → Json
  | .float (.finite negative units h) => .float (.finite negative units h)
  | .float _ => .null
  | .arr items => .arr (jsonModeItems items)
  | .obj entries => .obj (jsonModeEntries entries)
  | value => value

def jsonModeItems : List Json → List Json
  | [] => []
  | item :: rest => jsonMode item :: jsonModeItems rest

def jsonModeEntries : List (String × Json) → List (String × Json)
  | [] => []
  | (key, value) :: rest => (key, jsonMode value) :: jsonModeEntries rest
end

/-- `record.model_dump(mode="json")` -/
def ReleaseRecord.modelDump (r : ReleaseRecord) : Json := .obj [
  ("payload", jsonMode r.payload.toJson),
  ("record_key", .str r.recordKey),
  ("record_type", .str r.recordType.text)]

/-- The bytes that `_leaf_hash` hashes. -/
def leafPreimage (r : ReleaseRecord) : Bytes := canonicalJsonBytes r.modelDump

section
variable (sha256 : Bytes → Digest)

/-- `_leaf_hash` -/
def leafHash (r : ReleaseRecord) : Digest := sha256 (leafPreimage r)

def nodePreimage (pair : Digest × Digest) : Bytes := pair.1.bytes ++ pair.2.bytes

/-- `hashlib.sha256(left + right).digest()` -/
def nodeHash (left right : Digest) : Digest := sha256 (nodePreimage (left, right))

/-- `merkle_root`; there is no root exactly when there is no record. -/
def merkleRoot (records : List ReleaseRecord) : Result Digest :=
  match orderedRecords records with
  | .error error => .error error
  | .ok ordered =>
    match MerkleTree.root (nodeHash sha256) (ordered.map (leafHash sha256)) with
    | none => .error ⟨.valueError, "release requires at least one record"⟩
    | some digest => .ok digest

end

mutual
theorem jsonMode_wellFormed : (v : Json) → v.wellFormed = true → (jsonMode v).wellFormed = true
  | .null, h | .bool _, h | .int _, h | .str _, h => by simpa only [jsonMode] using h
  | .float .nan, _ | .float (.infinity _), _ | .float (.finite ..), _ => by
    simp only [jsonMode, Json.wellFormed]
  | .arr items, h => by
    simp only [jsonMode, Json.wellFormed] at h ⊢
    exact jsonModeItems_wellFormed items h
  | .obj entries, h => by
    simp only [jsonMode, Json.wellFormed, Bool.and_eq_true] at h ⊢
    exact ⟨jsonModeEntries_keys entries h.1, jsonModeEntries_wellFormed entries h.2⟩

theorem jsonModeItems_wellFormed : (items : List Json) → wellFormedItems items = true →
    wellFormedItems (jsonModeItems items) = true
  | [], _ => by simp only [jsonModeItems, wellFormedItems]
  | item :: rest, h => by
    simp only [wellFormedItems, Bool.and_eq_true] at h
    simp only [jsonModeItems, wellFormedItems, jsonMode_wellFormed item h.1,
      jsonModeItems_wellFormed rest h.2, Bool.and_self]

theorem jsonModeEntries_wellFormed : (entries : List (String × Json)) →
    wellFormedEntries entries = true → wellFormedEntries (jsonModeEntries entries) = true
  | [], _ => by simp only [jsonModeEntries, wellFormedEntries]
  | (_, value) :: rest, h => by
    simp only [wellFormedEntries, Bool.and_eq_true] at h
    simp only [jsonModeEntries, wellFormedEntries, jsonMode_wellFormed value h.1,
      jsonModeEntries_wellFormed rest h.2, Bool.and_self]

theorem jsonModeEntries_keys : (entries : List (String × Json)) → keysAscend entries = true →
    keysAscend (jsonModeEntries entries) = true
  | [], _ => by simp only [jsonModeEntries, keysAscend]
  | [(_, _)], _ => by simp only [jsonModeEntries, keysAscend]
  | (_, _) :: (l, w) :: rest, h => by
    simp only [keysAscend, Bool.and_eq_true] at h
    have tail := jsonModeEntries_keys ((l, w) :: rest) h.2
    simp only [jsonModeEntries] at tail
    simp only [jsonModeEntries, keysAscend, h.1, tail, Bool.and_self]
end

theorem modelDump_wellFormed (r : ReleaseRecord) : r.modelDump.wellFormed = true := by
  have payload := jsonMode_wellFormed r.payload.toJson r.payload.wellFormed
  have keys : keysAscend [("payload", jsonMode r.payload.toJson), ("record_key", .str r.recordKey),
      ("record_type", .str r.recordType.text)] = true := by
    simp only [keysAscend]; decide
  simp only [ReleaseRecord.modelDump, Json.wellFormed, wellFormedEntries, keys, payload, Bool.and_self]

/-- Canonical bytes determine the dumped record. -/
theorem leafPreimage_eq_iff {a b : ReleaseRecord} :
    leafPreimage a = leafPreimage b ↔ a.modelDump = b.modelDump :=
  ⟨canonicalJsonBytes_injective (modelDump_wellFormed a) (modelDump_wellFormed b),
    congrArg canonicalJsonBytes⟩

theorem modelDump_eq_iff {a b : ReleaseRecord} : a.modelDump = b.modelDump ↔
    a.recordType = b.recordType ∧ a.recordKey = b.recordKey ∧
      jsonMode a.payload.toJson = jsonMode b.payload.toJson := by
  simp only [ReleaseRecord.modelDump, Json.obj.injEq, List.cons.injEq, Prod.mk.injEq,
    Json.str.injEq, RecordType.text_injective.eq_iff, true_and, and_true]
  tauto

/-- Records without nan and infinities have injective canonical JSON. -/
theorem leafPreimage_injOn :
    Set.InjOn leafPreimage {r | jsonMode r.payload.toJson = r.payload.toJson} := by
  intro a finite b finite' same
  obtain ⟨types, keys, payloads⟩ := modelDump_eq_iff.mp (leafPreimage_eq_iff.mp same)
  rw [finite, finite'] at payloads
  have payloads := Dict.toJson_injective payloads
  cases a; cases b
  simp_all

/-- No two records share type and key. -/
def DistinctKeys (records : List ReleaseRecord) : Prop := (records.map recordSortKey).Nodup

instance (records : List ReleaseRecord) : Decidable (DistinctKeys records) :=
  inferInstanceAs (Decidable (List.Nodup _))

theorem sortRecords_perm (records : List ReleaseRecord) : (sortRecords records).Perm records :=
  List.perm_insertionSort _ records

instance : Std.Total inOrder := ⟨fun a b => le_total (recordSortKey a) (recordSortKey b)⟩

instance : IsTrans ReleaseRecord inOrder := ⟨fun _ _ _ ab bc => le_trans ab bc⟩

theorem sortRecords_pairwise (records : List ReleaseRecord) :
    (sortRecords records).Pairwise inOrder := List.pairwise_insertionSort inOrder records

/-- The loop finds every repeat, because equal keys stand next to each other. -/
theorem rejectRepeats_ok {ordered : List ReleaseRecord} {previous : Option (String ×ₗ String)}
    (sorted : ordered.Pairwise inOrder)
    (above : ∀ p ∈ previous, ∀ r ∈ ordered, p ≤ recordSortKey r) :
    rejectRepeats previous ordered = .ok () ↔
      DistinctKeys ordered ∧ ∀ p ∈ previous, p ∉ ordered.map recordSortKey := by
  induction ordered generalizing previous with
  | nil => simp [rejectRepeats, DistinctKeys]
  | cons r rest ih =>
    obtain ⟨first, sorted⟩ := List.pairwise_cons.mp sorted
    have step := @ih (some (recordSortKey r)) sorted (by simpa [inOrder] using first)
    rw [rejectRepeats]
    by_cases repeated : some (recordSortKey r) = previous
    · subst repeated
      simp
    · rw [if_neg repeated, step]
      simp only [DistinctKeys, List.map_cons, List.nodup_cons, Option.mem_some_iff, forall_eq',
        List.mem_cons, not_or]
      constructor
      · rintro ⟨distinct, fresh⟩
        refine ⟨⟨fresh, distinct⟩, fun p hp => ⟨?_, fun member => ?_⟩⟩
        · rintro rfl
          exact repeated hp.symm
        · obtain ⟨q, hq, eq⟩ := List.mem_map.mp member
          have low : p ≤ recordSortKey r := above p hp r (by simp)
          have high : recordSortKey r ≤ p := eq ▸ first q hq
          exact repeated (le_antisymm low high ▸ hp.symm)
      · rintro ⟨⟨fresh, distinct⟩, -⟩
        exact ⟨distinct, fresh⟩

theorem DistinctKeys.perm {a b : List ReleaseRecord} (perm : a.Perm b) :
    DistinctKeys a ↔ DistinctKeys b := (perm.map recordSortKey).nodup_iff

/-- `_ordered_records` returns the sorted records exactly when their keys are distinct. -/
theorem orderedRecords_ok {records ordered : List ReleaseRecord} :
    orderedRecords records = .ok ordered ↔ DistinctKeys records ∧ ordered = sortRecords records := by
  have loop := @rejectRepeats_ok _ none (sortRecords_pairwise records) (by simp)
  rw [DistinctKeys.perm (sortRecords_perm records)] at loop
  simp only [Option.mem_def, reduceCtorEq, false_implies, implies_true, and_true] at loop
  unfold orderedRecords
  cases result : rejectRepeats none (sortRecords records) with
  | error e =>
    have : ¬DistinctKeys records := by rw [← loop, result]; simp
    simp [Except.map, this]
  | ok u =>
    have : DistinctKeys records := by rw [← loop, result]
    simp [Except.map, this, eq_comm]

/-- Ordering forgets the order of the input. -/
theorem sortRecords_eq_of_perm {a b : List ReleaseRecord} (perm : a.Perm b)
    (distinct : DistinctKeys a) : sortRecords a = sortRecords b := by
  apply @List.Perm.eq_of_pairwise _ inOrder _ _ _ (sortRecords_pairwise a) (sortRecords_pairwise b)
    ((sortRecords_perm a).trans (perm.trans (sortRecords_perm b).symm))
  intro x y hx hy xy yx
  have key : recordSortKey x = recordSortKey y := le_antisymm xy yx
  have hx : x ∈ a := (sortRecords_perm a).mem_iff.mp hx
  have hy : y ∈ a := perm.mem_iff.mpr ((sortRecords_perm b).mem_iff.mp hy)
  exact List.inj_on_of_nodup_map distinct hx hy key

section
variable {sha256 : Bytes → Digest}

theorem root_isSome {level : List Digest} (h : level ≠ []) :
    ∃ d, MerkleTree.root (nodeHash sha256) level = some d := by
  have one := MerkleTree.length_climb (nodeHash sha256) level.length level h le_rfl
  obtain ⟨d, hd⟩ := List.length_eq_one_iff.mp one
  exact ⟨d, by rw [MerkleTree.root, hd]; rfl⟩

/-- What a returned root says: distinct keys, at least one record, and the top of the tree. -/
theorem merkleRoot_ok {records : List ReleaseRecord} {root : Digest} :
    merkleRoot sha256 records = .ok root ↔ DistinctKeys records ∧
      MerkleTree.root (nodeHash sha256) ((sortRecords records).map (leafHash sha256)) = some root := by
  unfold merkleRoot
  cases ordered : orderedRecords records with
  | error e =>
    have : ¬DistinctKeys records := fun distinct => by
      rw [orderedRecords_ok.mpr ⟨distinct, rfl⟩] at ordered; cases ordered
    simp [this]
  | ok list =>
    obtain ⟨distinct, rfl⟩ := orderedRecords_ok.mp ordered
    simp only [distinct, true_and]
    split <;> simp_all

end

end BallotProof
