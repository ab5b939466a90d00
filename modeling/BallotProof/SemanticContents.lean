import BallotProof.Loop
import BallotProof.Semantics

/-! What `semantic_records` computes, without its maps, its cache and its loops: the normal
form of each record, read off the records it refers to. -/
namespace BallotProof
open Python

variable {sha256 : Bytes → Digest} {repr : Json → String}

/-- Some evidence version of the list has this local reference. -/
def HasEvidence (records : List ReleaseRecord) (reference : String) : Prop :=
  ∃ r ∈ records, r.recordType = .evidenceVersion ∧ r.recordKey = reference

def HasExtraction (records : List ReleaseRecord) (extractionId : String) : Prop :=
  ∃ r ∈ records, r.recordType = .extraction ∧ r.recordKey = extractionId

instance : Decidable (HasEvidence records reference) := by unfold HasEvidence; infer_instance

instance : Decidable (HasExtraction records extractionId) := by unfold HasExtraction; infer_instance

/-- `signed["payload"]`, when it is a dict. -/
def attestedPayload (signed : Dict) : Option Dict := (signed.get "payload").bind Json.asDict

/-- The records of an election: type and key name one record, the key of an evidence
version is its local reference, and every reference points into the list. -/
structure ReferentiallyClosed (repr : Json → String) (records : List ReleaseRecord) : Prop where
  distinct : DistinctKeys records
  coherent : ∀ r ∈ records, r.recordType = .evidenceVersion →
    localReference repr r.payload "version" = .ok r.recordKey
  extracted : ∀ r ∈ records, r.recordType = .extraction →
    ∀ reference ∈ (localReference repr r.payload "evidence_version").toOption,
      HasEvidence records reference
  superseded : ∀ r ∈ records, r.recordType = .extraction →
    ∀ extractionId ∈ supersedes repr r.payload, HasExtraction records extractionId
  attested : ∀ r ∈ records, r.recordType = .attestation → ∀ payload ∈ attestedPayload r.payload,
    ∀ reference ∈ (localReference repr payload "evidence_version").toOption,
      HasEvidence records reference
  reviewed : ∀ r ∈ records, r.recordType = .extractionReview →
    ∀ value ∈ r.payload.get "extraction_id", HasExtraction records (pyStr repr value)

theorem ReferentiallyClosed.unique (closed : ReferentiallyClosed repr records)
    (hr : r ∈ records) (hs : s ∈ records) (types : r.recordType = s.recordType)
    (keys : r.recordKey = s.recordKey) : r = s :=
  List.inj_on_of_nodup_map closed.distinct hr hs (by simp [recordSortKey, types, keys])

/-- The maps of the first loop, as relations between texts and records. -/
structure IndexOf (sha256 : Bytes → Digest) (records : List ReleaseRecord)
    (index : SemanticIndex) : Prop where
  evidence : ∀ reference digest, index.evidenceRefs.get reference = some digest ↔
    ∃ r ∈ records, r.recordType = .evidenceVersion ∧ r.recordKey = reference ∧
      ∃ payload, evidencePayload r = .ok payload ∧
        digest = semanticKey sha256 .evidenceVersion payload
  extractions : ∀ extractionId r, index.extractionRecords.get extractionId = some r ↔
    r ∈ records ∧ r.recordType = .extraction ∧ r.recordKey = extractionId
  normalized : ∀ pair, pair ∈ index.normalized ↔ ∃ r ∈ records, pair.1 = r.recordType ∧
    (r.recordType = .registrySnapshot ∧ registryPayload r = .ok pair.2 ∨
      r.recordType = .evidenceVersion ∧ evidencePayload r = .ok pair.2)
  read : ∀ r ∈ records, (r.recordType = .registrySnapshot → ∃ payload, registryPayload r = .ok payload) ∧
    (r.recordType = .evidenceVersion → ∃ payload, evidencePayload r = .ok payload)

theorem indexOf_nil : IndexOf sha256 [] ⟨.empty, .empty, []⟩ := by
  constructor <;> simp

theorem exists_mem_snoc {front : List α} {P : α → Prop} :
    (∃ q ∈ front ++ [r], P q) ↔ (∃ q ∈ front, P q) ∨ P r := by
  simp only [List.mem_append, List.mem_singleton, or_and_right, exists_or, exists_eq_left]

theorem forall_mem_snoc {front : List α} {P : α → Prop} :
    (∀ q ∈ front ++ [r], P q) ↔ (∀ q ∈ front, P q) ∧ P r := by
  simp only [List.mem_append, List.mem_singleton, or_imp, forall_and, forall_eq]

theorem indexRecord_indexOf (closed : ReferentiallyClosed repr records)
    (all : records = front ++ r :: back) (valid : IndexOf sha256 front s)
    (h : indexRecord sha256 repr s r = .ok t) : IndexOf sha256 (front ++ [r]) t := by
  have member : r ∈ records := by simp [all]
  have same {q : ReleaseRecord} (hq : q ∈ front) (types : q.recordType = r.recordType)
      (keys : q.recordKey = r.recordKey) : q = r := closed.unique (by simp [all, hq]) member types keys
  unfold indexRecord at h
  split at h
  · rename_i type
    obtain ⟨payload, built, h⟩ := bind_ok h
    cases h
    refine ⟨?_, ?_, ?_, forall_mem_snoc.mpr ⟨valid.read, fun _ => ⟨payload, built⟩, by simp [type]⟩⟩
    · simp [valid.evidence, type]
    · intro extractionId q
      rw [valid.extractions]
      simp only [List.mem_append, List.mem_singleton]
      grind
    · rintro ⟨label, content⟩
      rw [exists_mem_snoc, ← valid.normalized]
      simp [type, built, eq_comm]
  · rename_i type
    obtain ⟨payload, built, h⟩ := bind_ok h
    obtain ⟨reference, found, h⟩ := bind_ok h
    have key : reference = r.recordKey := by
      rw [closed.coherent r member type, Except.ok.injEq] at found
      exact found.symm
    cases h
    refine ⟨?_, ?_, ?_, forall_mem_snoc.mpr ⟨valid.read, by simp [type], fun _ => ⟨payload, built⟩⟩⟩
    · intro text digest
      rw [exists_mem_snoc, ← valid.evidence, Table.get_set, Table.get_set, key]
      by_cases here : text = r.recordKey
      · simp only [here, if_true, type, true_and, built, Except.ok.injEq, exists_eq_left',
          Option.some.injEq]
        refine ⟨fun eq => .inr eq.symm, fun either => either.elim (fun old => ?_) Eq.symm⟩
        obtain ⟨q, hq, qType, qKey, other, qBuilt, eq⟩ := (valid.evidence _ _).mp old
        rw [same hq (qType.trans type.symm) qKey, built, Except.ok.injEq] at qBuilt
        rw [eq, qBuilt]
      · simp [here, Ne.symm here]
    · intro extractionId q
      rw [valid.extractions]
      simp only [List.mem_append, List.mem_singleton]
      grind
    · rintro ⟨label, content⟩
      rw [exists_mem_snoc, ← valid.normalized]
      simp [type, built, eq_comm]
  · rename_i type
    cases h
    refine ⟨?_, ?_, ?_, forall_mem_snoc.mpr ⟨valid.read, by simp [type]⟩⟩
    · simp [valid.evidence, type]
    · intro extractionId q
      rw [Table.get_set]
      split
      · rename_i here
        rw [Option.some.injEq, List.mem_append, List.mem_singleton]
        refine ⟨by rintro rfl; exact ⟨.inr rfl, type, here.symm⟩, ?_⟩
        rintro ⟨old | new, qType, qKey⟩
        · exact (same old (qType.trans type.symm) (qKey.trans here)).symm
        · exact new.symm
      · rename_i elsewhere
        rw [valid.extractions]
        simp only [List.mem_append, List.mem_singleton]
        grind
    · simp [valid.normalized, type]
  all_goals
    rename_i type
    cases h
    refine ⟨?_, ?_, ?_, forall_mem_snoc.mpr ⟨valid.read, by simp [type]⟩⟩
    · simp [valid.evidence, type]
    · intro extractionId q
      rw [valid.extractions]
      simp only [List.mem_append, List.mem_singleton]
      grind
    · simp [valid.normalized, type]

theorem indexRecord_total (closed : ReferentiallyClosed repr records) (member : r ∈ records)
    (registry : r.recordType = .registrySnapshot → ∃ payload, registryPayload r = .ok payload)
    (evidence : r.recordType = .evidenceVersion → ∃ payload, evidencePayload r = .ok payload) :
    ∃ t, indexRecord sha256 repr s r = .ok t := by
  unfold indexRecord
  split
  · rename_i type
    obtain ⟨payload, built⟩ := registry type
    exact ⟨_, bind_eq_ok.mpr ⟨payload, built, rfl⟩⟩
  · rename_i type
    obtain ⟨payload, built⟩ := evidence type
    exact ⟨_, bind_eq_ok.mpr ⟨payload, built,
      bind_eq_ok.mpr ⟨_, closed.coherent r member type, rfl⟩⟩⟩
  all_goals exact ⟨_, rfl⟩

/-! ## Extractions -/

/-- The graph of supersessions that an index describes. -/
def SemanticIndex.node (sha256 : Bytes → Digest) (repr : Json → String) (index : SemanticIndex) :
    String → Result (Memo.Node String (Digest × Json)) :=
  extractionNode sha256 repr index.evidenceRefs index.extractionRecords

/-- The key and the payload of an extraction, found by following its supersessions. -/
def Extracts (sha256 : Bytes → Digest) (repr : Json → String) (index : SemanticIndex)
    (extractionId : String) (result : Digest × Json) : Prop :=
  ∃ n, Memo.Value (index.node sha256 repr) n extractionId result

theorem Extracts.unique (first : Extracts sha256 repr index extractionId result)
    (second : Extracts sha256 repr index extractionId other) : result = other := by
  obtain ⟨n, first⟩ := first
  obtain ⟨m, second⟩ := second
  exact (first.unique second).2

theorem node_known {index : SemanticIndex} (h : index.node sha256 repr extractionId = .ok node) :
    extractionId ∈ index.extractionRecords.keys := by
  simp only [SemanticIndex.node, extractionNode] at h
  split at h
  · cases h
  · rename_i record found
    exact (index.extractionRecords.mem_keys).mpr ⟨record, found⟩

theorem normalizeExtraction_ok {index : SemanticIndex}
    (valid : Memo.CacheValid (index.node sha256 repr) cache) :
    (∃ cache', normalizeExtraction sha256 repr index.evidenceRefs index.extractionRecords cache
      extractionId = .ok (result, cache')) ↔ Extracts sha256 repr index extractionId result := by
  constructor
  · rintro ⟨cache', done⟩
    exact (Memo.evaluate_sound valid done).1
  · rintro ⟨n, found⟩
    have bounded := found.depth_lt fun _ _ => node_known
    simp only [Table.keys, List.length_map] at bounded
    exact Memo.evaluate_complete valid found (by simp) (by omega)

theorem normalizeExtraction_cache {index : SemanticIndex}
    (valid : Memo.CacheValid (index.node sha256 repr) cache)
    (done : normalizeExtraction sha256 repr index.evidenceRefs index.extractionRecords cache
      extractionId = .ok (result, cache')) : Memo.CacheValid (index.node sha256 repr) cache' :=
  (Memo.evaluate_sound valid done).2

/-- The normal form of a record, given what the references of the list stand for. -/
def Normal (sha256 : Bytes → Digest) (repr : Json → String) (index : SemanticIndex)
    (r : ReleaseRecord) (pair : NormalRecord) : Prop :=
  pair.1 = r.recordType ∧
    match r.recordType with
    | .registrySnapshot => registryPayload r = .ok pair.2
    | .evidenceVersion => evidencePayload r = .ok pair.2
    | .extraction => ∃ key, Extracts sha256 repr index r.recordKey (key, pair.2)
    | .attestation => attestationPayload repr index.evidenceRefs r.payload = .ok pair.2
    | .extractionReview => ∃ extractionId result, r.payload.index "extraction_id" = .ok extractionId ∧
        Extracts sha256 repr index (pyStr repr extractionId) result ∧
        reviewPayload result.1 r.payload = .ok pair.2

theorem Normal.unique (first : Normal sha256 repr index r pair)
    (second : Normal sha256 repr index r other) : pair = other := by
  refine Prod.ext (first.1.trans second.1.symm) ?_
  obtain ⟨-, first⟩ := first
  obtain ⟨-, second⟩ := second
  cases type : r.recordType with
  | registrySnapshot | evidenceVersion | attestation =>
    simp only [type] at first second
    exact Except.ok.inj (first.symm.trans second)
  | extraction =>
    simp only [type] at first second
    obtain ⟨key, first⟩ := first
    obtain ⟨key', second⟩ := second
    exact (Prod.mk.inj (first.unique second)).2
  | extractionReview =>
    simp only [type] at first second
    obtain ⟨extractionId, result, found, extracts, first⟩ := first
    obtain ⟨again, result', found', extracts', second⟩ := second
    rw [found, Except.ok.injEq] at found'
    rw [← found'] at extracts'
    rw [extracts.unique extracts', second] at first
    exact (Except.ok.inj first).symm

/-! ## The loops -/

/-- The records that the last loop normalizes. -/
def isStatement (r : ReleaseRecord) : Prop :=
  r.recordType = .attestation ∨ r.recordType = .extractionReview

/-- A loop has collected what the items done so far add, from a valid cache. -/
structure Collected (sha256 : Bytes → Digest) (repr : Json → String) (index : SemanticIndex)
    (before : List NormalRecord) (adds : α → NormalRecord → Prop) (front : List α)
    (state : ExtractionCache × List NormalRecord) : Prop where
  cache : Memo.CacheValid (index.node sha256 repr) state.1
  pairs : ∀ pair, pair ∈ state.2 ↔ pair ∈ before ∨ ∃ item ∈ front, adds item pair

theorem Collected.snoc (done : Collected sha256 repr index before adds front s)
    (cache : Memo.CacheValid (index.node sha256 repr) t.1) (pairs : t.2 = s.2 ++ added)
    (adds_iff : ∀ pair, adds item pair ↔ pair ∈ added) :
    Collected sha256 repr index before adds (front ++ [item]) t := by
  refine ⟨cache, fun pair => ?_⟩
  rw [pairs, List.mem_append, done.pairs, exists_mem_snoc, adds_iff, or_assoc]

def AddsExtraction (sha256 : Bytes → Digest) (repr : Json → String) (index : SemanticIndex)
    (extractionId : String) (pair : NormalRecord) : Prop :=
  pair.1 = .extraction ∧ ∃ key, Extracts sha256 repr index extractionId (key, pair.2)

theorem addExtraction_collected
    (done : Collected sha256 repr index before (AddsExtraction sha256 repr index) front s)
    (h : addExtraction sha256 repr index s extractionId = .ok t) :
    (∃ result, Extracts sha256 repr index extractionId result) ∧
    Collected sha256 repr index before (AddsExtraction sha256 repr index) (front ++ [extractionId]) t := by
  obtain ⟨⟨result, cache⟩, evaluated, h⟩ := bind_ok h
  cases h
  have extracts := (normalizeExtraction_ok done.cache).mp ⟨cache, evaluated⟩
  refine ⟨⟨result, extracts⟩, done.snoc (normalizeExtraction_cache done.cache evaluated) rfl ?_⟩
  rintro ⟨label, content⟩
  simp only [AddsExtraction, List.mem_singleton, Prod.mk.injEq]
  refine and_congr_right fun _ => ⟨fun ⟨key, other⟩ => ?_, fun eq => ⟨result.1, eq ▸ extracts⟩⟩
  exact congrArg Prod.snd (other.unique extracts)

theorem addExtraction_total
    (done : Collected sha256 repr index before (AddsExtraction sha256 repr index) front s)
    (found : Extracts sha256 repr index extractionId result) :
    ∃ t, addExtraction sha256 repr index s extractionId = .ok t := by
  obtain ⟨cache, evaluated⟩ := (normalizeExtraction_ok done.cache).mpr found
  exact ⟨_, bind_eq_ok.mpr ⟨_, evaluated, rfl⟩⟩

def AddsStatement (sha256 : Bytes → Digest) (repr : Json → String) (index : SemanticIndex)
    (r : ReleaseRecord) (pair : NormalRecord) : Prop :=
  isStatement r ∧ Normal sha256 repr index r pair

theorem addStatement_collected
    (done : Collected sha256 repr index before (AddsStatement sha256 repr index) front s)
    (h : addStatement sha256 repr index s r = .ok t) :
    (isStatement r → ∃ pair, Normal sha256 repr index r pair) ∧
    Collected sha256 repr index before (AddsStatement sha256 repr index) (front ++ [r]) t := by
  unfold addStatement at h
  split at h
  · rename_i type
    obtain ⟨payload, built, h⟩ := bind_ok h
    cases h
    have normal : Normal sha256 repr index r (r.recordType, payload) := ⟨rfl, by simpa [type] using built⟩
    refine ⟨fun _ => ⟨_, normal⟩, done.snoc done.cache rfl fun pair => ?_⟩
    rw [List.mem_singleton]
    exact ⟨fun adds => adds.2.unique normal, fun eq => ⟨.inl type, eq ▸ normal⟩⟩
  · rename_i type
    obtain ⟨extractionId, found, h⟩ := bind_ok h
    obtain ⟨⟨result, cache⟩, evaluated, h⟩ := bind_ok h
    obtain ⟨payload, built, h⟩ := bind_ok h
    cases h
    have extracts := (normalizeExtraction_ok done.cache).mp ⟨cache, evaluated⟩
    have normal : Normal sha256 repr index r (r.recordType, payload) := by
      refine ⟨rfl, ?_⟩
      simp only [type]
      exact ⟨extractionId, result, found, extracts, built⟩
    refine ⟨fun _ => ⟨_, normal⟩,
      done.snoc (normalizeExtraction_cache done.cache evaluated) rfl fun pair => ?_⟩
    rw [List.mem_singleton]
    exact ⟨fun adds => adds.2.unique normal, fun eq => ⟨.inr type, eq ▸ normal⟩⟩
  · rename_i attestation review
    cases h
    have other : ¬isStatement r := fun either => either.elim attestation review
    exact ⟨fun statement => absurd statement other,
      done.snoc done.cache (List.append_nil _).symm fun pair => by simp [AddsStatement, other]⟩

theorem addStatement_total
    (done : Collected sha256 repr index before (AddsStatement sha256 repr index) front s)
    (found : isStatement r → ∃ pair, Normal sha256 repr index r pair) :
    ∃ t, addStatement sha256 repr index s r = .ok t := by
  unfold addStatement
  split
  · rename_i type
    obtain ⟨pair, -, built⟩ := found (.inl type)
    simp only [type] at built
    exact ⟨_, bind_eq_ok.mpr ⟨_, built, rfl⟩⟩
  · rename_i type
    obtain ⟨pair, -, built⟩ := found (.inr type)
    simp only [type] at built
    obtain ⟨extractionId, result, read, extracts, built⟩ := built
    obtain ⟨cache, evaluated⟩ := (normalizeExtraction_ok done.cache).mpr extracts
    exact ⟨_, bind_eq_ok.mpr ⟨_, read, bind_eq_ok.mpr ⟨_, evaluated, bind_eq_ok.mpr ⟨_, built, rfl⟩⟩⟩⟩
  · exact ⟨_, rfl⟩

theorem mem_extractionKeys (index : IndexOf sha256 records maps) :
    extractionId ∈ maps.extractionRecords.keys ↔ HasExtraction records extractionId := by
  simp only [Table.mem_keys, index.extractions, HasExtraction]

/-- What the three parts of the list hold is what the records normalize to. -/
theorem mem_normalized (index : IndexOf sha256 records maps) :
    (pair ∈ maps.normalized ∨
      (∃ k ∈ maps.extractionRecords.keys, AddsExtraction sha256 repr maps k pair) ∨
      ∃ r ∈ records, AddsStatement sha256 repr maps r pair) ↔
    ∃ r ∈ records, Normal sha256 repr maps r pair := by
  constructor
  · rintro (direct | ⟨k, known, type, extracts⟩ | ⟨r, member, -, normal⟩)
    · obtain ⟨r, member, label, ⟨type, built⟩ | ⟨type, built⟩⟩ := (index.normalized pair).mp direct
      · exact ⟨r, member, label, by simpa only [type] using built⟩
      · exact ⟨r, member, label, by simpa only [type] using built⟩
    · obtain ⟨r, member, extraction, rfl⟩ := (mem_extractionKeys index).mp known
      exact ⟨r, member, type.trans extraction.symm, by simpa only [extraction] using extracts⟩
    · exact ⟨r, member, normal⟩
  · rintro ⟨r, member, normal⟩
    obtain ⟨label, built⟩ := normal
    cases type : r.recordType with
    | registrySnapshot =>
      simp only [type] at built
      exact .inl ((index.normalized pair).mpr ⟨r, member, label, .inl ⟨type, built⟩⟩)
    | evidenceVersion =>
      simp only [type] at built
      exact .inl ((index.normalized pair).mpr ⟨r, member, label, .inr ⟨type, built⟩⟩)
    | extraction =>
      simp only [type] at built
      exact .inr (.inl ⟨r.recordKey, (mem_extractionKeys index).mpr ⟨r, member, type, rfl⟩,
        label.trans type, built⟩)
    | attestation => exact .inr (.inr ⟨r, member, .inl type, label, built⟩)
    | extractionReview => exact .inr (.inr ⟨r, member, .inr type, label, built⟩)

theorem collected_nil (before : List NormalRecord) (adds : α → NormalRecord → Prop)
    (valid : Memo.CacheValid (index.node sha256 repr) cache) :
    Collected sha256 repr index before adds [] (cache, before) := ⟨valid, by simp⟩

/-- `normalized` holds the normal form of every record, and nothing else. -/
theorem normalizedRecords_ok (closed : ReferentiallyClosed repr records)
    (h : normalizedRecords sha256 repr records = .ok normalized) :
    ∃ index, IndexOf sha256 records index ∧
      (∀ r ∈ records, ∃ pair, Normal sha256 repr index r pair) ∧
      ∀ pair, pair ∈ normalized ↔ ∃ r ∈ records, Normal sha256 repr index r pair := by
  obtain ⟨index, first, h⟩ := bind_ok h
  obtain ⟨middle, second, h⟩ := bind_ok h
  obtain ⟨last, third, h⟩ := bind_ok h
  cases h
  have indexed : IndexOf sha256 records index := foldlM_invariant indexOf_nil
    (fun _ _ _ _ _ all valid step => indexRecord_indexOf closed all valid step) first
  obtain ⟨extracts, collected⟩ := @foldlM_invariant _ _ _ _ _
    (fun front s => (∀ k ∈ front, ∃ result, Extracts sha256 repr index k result) ∧
      Collected sha256 repr index [] (AddsExtraction sha256 repr index) front s) _
    ⟨by simp, collected_nil [] _ .empty⟩
    (fun _ k _ _ _ _ done step => by
      obtain ⟨found, collected⟩ := addExtraction_collected done.2 step
      exact ⟨forall_mem_snoc.mpr ⟨done.1, found⟩, collected⟩) second
  obtain ⟨statements, collected'⟩ := @foldlM_invariant _ _ _ _ _
    (fun front s => (∀ r ∈ front, isStatement r → ∃ pair, Normal sha256 repr index r pair) ∧
      Collected sha256 repr index middle.2 (AddsStatement sha256 repr index) front s) _
    ⟨by simp, collected_nil middle.2 _ collected.cache⟩
    (fun _ r _ _ _ _ done step => by
      obtain ⟨found, collected⟩ := addStatement_collected done.2 step
      exact ⟨forall_mem_snoc.mpr ⟨done.1, found⟩, collected⟩) third
  refine ⟨index, indexed, fun r member => ?_, fun pair => ?_⟩
  · cases type : r.recordType with
    | registrySnapshot =>
      obtain ⟨payload, built⟩ := (indexed.read r member).1 type
      exact ⟨(r.recordType, payload), rfl, by simpa only [type] using built⟩
    | evidenceVersion =>
      obtain ⟨payload, built⟩ := (indexed.read r member).2 type
      exact ⟨(r.recordType, payload), rfl, by simpa only [type] using built⟩
    | extraction =>
      obtain ⟨⟨key, payload⟩, found⟩ :=
        extracts r.recordKey ((mem_extractionKeys indexed).mpr ⟨r, member, type, rfl⟩)
      exact ⟨(r.recordType, payload), rfl, by simp only [type]; exact ⟨key, found⟩⟩
    | attestation => exact statements r member (.inl type)
    | extractionReview => exact statements r member (.inr type)
  · rw [← mem_normalized indexed, List.mem_append, collected'.pairs, collected.pairs]
    simp

/-- Records that have normal forms are normalized. -/
theorem normalizedRecords_total (closed : ReferentiallyClosed repr records)
    (read : ∀ r ∈ records,
      (r.recordType = .registrySnapshot → ∃ payload, registryPayload r = .ok payload) ∧
      (r.recordType = .evidenceVersion → ∃ payload, evidencePayload r = .ok payload))
    (normal : ∀ index, IndexOf sha256 records index →
      ∀ r ∈ records, ∃ pair, Normal sha256 repr index r pair) :
    ∃ normalized, normalizedRecords sha256 repr records = .ok normalized := by
  obtain ⟨index, first, indexed⟩ := @foldlM_total _ _ _ (indexRecord sha256 repr) (IndexOf sha256)
    records indexOf_nil (fun front r back s all valid => by
      have member : r ∈ records := by simp [all]
      obtain ⟨t, step⟩ := indexRecord_total closed member (read r member).1 (read r member).2
      exact ⟨t, step, indexRecord_indexOf closed all valid step⟩)
  have normal := normal index indexed
  obtain ⟨middle, second, collected⟩ := @foldlM_total _ _ _ (addExtraction sha256 repr index)
    (Collected sha256 repr index [] (AddsExtraction sha256 repr index)) index.extractionRecords.keys
    (collected_nil [] _ .empty) (fun front k back s all done => by
      have known : k ∈ index.extractionRecords.keys := by simp [all]
      obtain ⟨r, member, type, rfl⟩ := (mem_extractionKeys indexed).mp known
      obtain ⟨pair, -, built⟩ := normal r member
      simp only [type] at built
      obtain ⟨key, found⟩ := built
      obtain ⟨t, step⟩ := addExtraction_total done found
      exact ⟨t, step, (addExtraction_collected done step).2⟩)
  obtain ⟨last, third, -⟩ := @foldlM_total _ _ _ (addStatement sha256 repr index)
    (Collected sha256 repr index middle.2 (AddsStatement sha256 repr index)) records
    (collected_nil middle.2 _ collected.cache) (fun front r back s all done => by
      obtain ⟨t, step⟩ := addStatement_total done fun _ => normal r (by simp [all])
      exact ⟨t, step, (addStatement_collected done step).2⟩)
  exact ⟨_, bind_eq_ok.mpr ⟨_, first, bind_eq_ok.mpr ⟨_, second, bind_eq_ok.mpr ⟨_, third, rfl⟩⟩⟩⟩

end BallotProof
