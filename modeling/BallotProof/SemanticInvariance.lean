import BallotProof.SemanticKeys

/-! Two lists that say the same about an election under different local names have the
same semantic records. -/
namespace BallotProof
open Python

/-- The local name in the old list for each local name in the new one. A renaming gives
every record one new name, a copy gives a record another one. -/
structure LocalNames where
  evidence : String → String
  extraction : String → String

/-- The dicts agree on every key but these. -/
def AgreeExcept (keys : List String) (a b : Dict) : Prop := ∀ key ∉ keys, b.get key = a.get key

/-- Equal, or lists with the same items in another order. -/
def SameItems (a b : Option Json) : Prop :=
  a = b ∨ ∃ items items' : List Json, a = some (.arr items) ∧ b = some (.arr items') ∧ items.Perm items'

/-- Equal, or dicts that differ in these keys only. -/
def SameDict (keys : List String) (a b : Option Json) : Prop :=
  a = b ∨ ∃ d d' : Dict, a = some d.toJson ∧ b = some d'.toJson ∧ AgreeExcept keys d d'

section
variable (repr : Json → String) (names : LocalNames)

/-- The second dict names the same evidence version under its new name. -/
def SameEvidence (versionKey : String) (a b : Dict) : Prop :=
  ∃ reference, localReference repr b versionKey = .ok reference ∧
    localReference repr a versionKey = .ok (names.evidence reference)

/-- A registry payload with other `retrieved_at`, and its offices and units in another order. -/
structure SameRegistry (a b : Dict) : Prop where
  rest : AgreeExcept ["source", "offices", "units"] a b
  source : SameDict ["retrieved_at"] (a.get "source") (b.get "source")
  offices : SameItems (a.get "offices") (b.get "offices")
  units : SameItems (a.get "units") (b.get "units")

structure SameExtraction (a b : Dict) : Prop where
  rest : AgreeExcept ["extraction_id", "evidence_id", "evidence_version", "record_hash", "stored_at",
    "supersedes_extraction_id", "provenance", "fields"] a b
  provenance : SameDict ["created_at"] (a.get "provenance") (b.get "provenance")
  fields : SameItems (a.get "fields") (b.get "fields")
  evidence : SameEvidence repr names "evidence_version" a b
  superseded : (supersedes repr b).map names.extraction = supersedes repr a

structure SameAttestation (a b : Dict) : Prop where
  rest : AgreeExcept ["payload", "signature_b64"] a b
  payload : ∃ d d' : Dict, a.get "payload" = some d.toJson ∧ b.get "payload" = some d'.toJson ∧
    AgreeExcept ["evidence_id", "evidence_version", "record_hash"] d d' ∧
    SameEvidence repr names "evidence_version" d d'

structure SameReview (a b : Dict) : Prop where
  rest : AgreeExcept ["review_id", "extraction_id", "evidence_id", "evidence_version", "stored_at",
    "fields"] a b
  fields : SameItems (a.get "fields") (b.get "fields")
  extraction : ∃ value value', a.get "extraction_id" = some value ∧
    b.get "extraction_id" = some value' ∧ names.extraction (pyStr repr value') = pyStr repr value

/-- The second record says what the first says, under its own local names, with other
local-only fields and with its lists in another order. -/
def Restates (a b : ReleaseRecord) : Prop :=
  b.recordType = a.recordType ∧
    match a.recordType with
    | .registrySnapshot => ∃ d d' : Dict, a.payload.get "payload" = some d.toJson ∧
        b.payload.get "payload" = some d'.toJson ∧ SameRegistry d d'
    | .evidenceVersion => names.evidence b.recordKey = a.recordKey ∧
        AgreeExcept ["evidence_id", "version", "filename", "stored_at", "previous_record_hash",
          "record_hash"] a.payload b.payload
    | .attestation => SameAttestation repr names a.payload b.payload
    | .extraction => names.extraction b.recordKey = a.recordKey ∧
        SameExtraction repr names a.payload b.payload
    | .extractionReview => SameReview repr names a.payload b.payload

/-- Every record is restated, and every record of the new list restates one of the old. -/
structure Relisting (records relisted : List ReleaseRecord) : Prop where
  kept : ∀ a ∈ records, ∃ b ∈ relisted, Restates repr names a b
  restated : ∀ b ∈ relisted, ∃ a ∈ records, Restates repr names a b

end

variable {sha256 : Bytes → Digest} {repr : Json → String} {names : LocalNames}

/-! ## Contents under new names -/

instance : Std.Total bytesAscend :=
  ⟨fun a b => List.le_total (canonicalJsonBytes a) (canonicalJsonBytes b)⟩

instance : IsTrans Json bytesAscend := ⟨fun _ _ _ ab bc => List.le_trans ab bc⟩

theorem sortObjects_eq_of_perm {a b : List Json} (perm : a.Perm b)
    (valid : (Json.arr a).wellFormed = true) : sortObjects b = sortObjects a := by
  simp only [Json.wellFormed, wellFormedItems_iff] at valid
  apply @List.Perm.eq_of_pairwise _ bytesAscend _ _ _ (List.pairwise_insertionSort _ b)
    (List.pairwise_insertionSort _ a)
    ((sortObjects_perm b).trans (perm.symm.trans (sortObjects_perm a).symm))
  intro x y hx hy xy yx
  have hx : x ∈ a := perm.mem_iff.mpr ((sortObjects_perm b).mem_iff.mp hx)
  have hy : y ∈ a := (sortObjects_perm a).mem_iff.mp hy
  exact canonicalJsonBytes_injective (valid x hx) (valid y hy) (List.le_antisymm xy yx)

theorem AgreeExcept.index {a b : Dict} (agree : AgreeExcept keys a b) (other : key ∉ keys) :
    b.index key = a.index key := by
  simp only [Dict.index, agree key other]

theorem AgreeExcept.pop {a b : Dict} (agree : AgreeExcept [key] a b) : b.pop key = a.pop key := by
  apply Dict.ext_get
  intro other
  by_cases same : other = key
  · rw [same, Dict.get_pop_same, Dict.get_pop_same]
  · rw [Dict.get_pop_other _ same, Dict.get_pop_other _ same, agree other (by simpa using same)]

theorem evidencePayload_restates {a b : ReleaseRecord} (agree : AgreeExcept ["evidence_id", "version",
    "filename", "stored_at", "previous_record_hash", "record_hash"] a.payload b.payload) :
    evidencePayload b = evidencePayload a := by
  have index (key : String) (other : key ∉ ["evidence_id", "version", "filename", "stored_at",
    "previous_record_hash", "record_hash"]) := agree.index other
  have get := agree "media_type" (by decide)
  simp (disch := decide) only [evidencePayload, index, get]

/-- What sorting makes of a value. -/
def sortItems : Json → Json
  | .arr items => .arr (sortObjects items)
  | value => value

theorem get_sortList (d : Dict) (key other : String) : (sortList d key).get other =
    if other = key then (d.get key).map sortItems else d.get other := by
  unfold sortList
  split
  · rename_i items found
    by_cases same : other = key
    · rw [if_pos same, same, Dict.get_set_same, found]
      rfl
    · rw [if_neg same, Dict.get_set_other _ _ same]
  · rename_i absent
    split
    · rename_i same
      rw [same]
      cases found : d.get key with
      | none => rfl
      | some value =>
        cases value with
        | arr items => exact absurd found (absent items)
        | _ => rfl
    · rfl

theorem SameItems.sorted {a b : Dict} (same : SameItems (a.get key) (b.get key)) :
    (b.get key).map sortItems = (a.get key).map sortItems := by
  rcases same with same | ⟨items, items', left, right, perm⟩
  · rw [same]
  · rw [left, right, Option.map_some, Option.map_some, sortItems, sortItems,
      sortObjects_eq_of_perm perm (get_wellFormed left)]

@[simp] theorem requireDict_toJson (d : Dict) (label : String) :
    requireDict d.toJson label = .ok d := by
  simp [requireDict]

theorem requireDict_ok (h : requireDict value label = .ok d) : value = d.toJson := by
  unfold requireDict Json.asDict at h
  split at h
  · rename_i found
    cases h
    split at found
    · split at found
      · cases found; rfl
      · cases found
    · cases found
  · cases h

/-- What `_registry_payload` does to the source alone. -/
theorem dropRetrievedAt_ok {a a' : Dict} (h : dropRetrievedAt a = .ok a') :
    (a' = a ∧ (a.get "source" = none ∨ a.get "source" = some .null)) ∨
    ∃ source : Dict, a.get "source" = some source.toJson ∧
      a' = a.set "source" (source.pop "retrieved_at").toJson (source.pop "retrieved_at").toJson_wellFormed := by
  unfold dropRetrievedAt at h
  split at h
  · rename_i found; cases h; exact .inl ⟨rfl, .inl found⟩
  · rename_i found; cases h; exact .inl ⟨rfl, .inr found⟩
  · rename_i found
    obtain ⟨source, read, h⟩ := bind_ok h
    cases h
    exact .inr ⟨source, requireDict_ok read ▸ found, rfl⟩

theorem dropRetrievedAt_dict {a source : Dict} (found : a.get "source" = some source.toJson) :
    dropRetrievedAt a = .ok (a.set "source" (source.pop "retrieved_at").toJson
      (source.pop "retrieved_at").toJson_wellFormed) := by
  unfold dropRetrievedAt
  rw [found]
  split
  · rename_i none; cases none
  · rename_i null; cases null
  · rename_i value _ some
    cases some
    rw [requireDict_toJson]
    rfl

theorem dropRetrievedAt_absent {a : Dict} (absent : a.get "source" = none ∨ a.get "source" = some .null) :
    dropRetrievedAt a = .ok a := by
  unfold dropRetrievedAt
  rcases absent with absent | absent <;> rw [absent]

theorem dropRetrievedAt_same {a b a' : Dict}
    (same : SameDict ["retrieved_at"] (a.get "source") (b.get "source"))
    (h : dropRetrievedAt a = .ok a') : ∃ b', dropRetrievedAt b = .ok b' ∧
      b'.get "source" = a'.get "source" ∧ AgreeExcept ["source"] a a' ∧ AgreeExcept ["source"] b b' := by
  have outside (d : Dict) (source : Dict) : AgreeExcept ["source"] d (d.set "source"
      (source.pop "retrieved_at").toJson (source.pop "retrieved_at").toJson_wellFormed) :=
    fun key other => Dict.get_set_other _ _ (by simpa using other)
  rcases dropRetrievedAt_ok h with ⟨rfl, absent⟩ | ⟨source, found, rfl⟩
  · rcases same with same | ⟨d, d', left, -, -⟩
    · exact ⟨b, dropRetrievedAt_absent (same ▸ absent), same.symm, fun _ _ => rfl, fun _ _ => rfl⟩
    · rcases absent with absent | absent <;> rw [absent] at left <;> cases left
  · have restated : ∃ source' : Dict, b.get "source" = some source'.toJson ∧
        AgreeExcept ["retrieved_at"] source source' := by
      rcases same with same | ⟨d, d', left, right, agree⟩
      · exact ⟨source, same ▸ found, fun _ _ => rfl⟩
      · rw [found, Option.some.injEq] at left
        exact ⟨d', right, Dict.toJson_injective left ▸ agree⟩
    obtain ⟨source', found', agree⟩ := restated
    refine ⟨_, dropRetrievedAt_dict found', ?_, outside a source, outside b source'⟩
    rw [Dict.get_set_same, Dict.get_set_same, agree.pop]

theorem registryPayload_restates {a b : ReleaseRecord} {d d' : Dict}
    (left : a.payload.get "payload" = some d.toJson) (right : b.payload.get "payload" = some d'.toJson)
    (same : SameRegistry d d') (h : registryPayload a = .ok payload) :
    registryPayload b = .ok payload := by
  simp only [registryPayload, left, right, Option.getD_some, requireDict_toJson] at h ⊢
  obtain ⟨_, ⟨⟩, h⟩ := bind_ok h
  obtain ⟨e, dropped, h⟩ := bind_ok h
  cases h
  obtain ⟨e', dropped', source, agree, agree'⟩ := dropRetrievedAt_same same.source dropped
  refine bind_eq_ok.mpr ⟨d', rfl, bind_eq_ok.mpr ⟨e', dropped', ?_⟩⟩
  have offices : (e'.get "offices").map sortItems = (e.get "offices").map sortItems := by
    rw [agree "offices" (by decide), agree' "offices" (by decide), same.offices.sorted]
  have units : (e'.get "units").map sortItems = (e.get "units").map sortItems := by
    rw [agree "units" (by decide), agree' "units" (by decide), same.units.sorted]
  suffices sorted : sortList (sortList e' "offices") "units" = sortList (sortList e "offices") "units" by
    rw [sorted]; rfl
  apply Dict.ext_get
  intro key
  simp only [get_sortList, show ("units" : String) ≠ "offices" by decide, if_false, offices, units]
  split
  · rfl
  split
  · rfl
  rename_i notUnits notOffices
  by_cases isSource : key = "source"
  · rw [isSource, source]
  · rw [agree key (by simpa using isSource), agree' key (by simpa using isSource),
      same.rest key (by simp [isSource, notUnits, notOffices])]

theorem sortedObjects_restates {a b : Dict} (same : SameItems (a.get key) (b.get key))
    (found : a.index key = .ok value) (h : sortedObjects value label = .ok items) :
    ∃ value', b.index key = .ok value' ∧ sortedObjects value' label = .ok items := by
  rcases same with same | ⟨list, list', left, right, perm⟩
  · exact ⟨value, by rw [← found, Dict.index, Dict.index, same], h⟩
  · simp only [Dict.index, left, Except.ok.injEq] at found
    subst found
    refine ⟨.arr list', by rw [Dict.index, right], ?_⟩
    rw [sortedObjects, sortObjects_eq_of_perm perm (get_wellFormed left)]
    exact h

theorem reviewPayload_restates {a b : Dict} (same : SameReview repr names a b)
    (h : reviewPayload ref a = .ok payload) : reviewPayload ref b = .ok payload := by
  obtain ⟨reviewer, read, h⟩ := bind_ok h
  obtain ⟨value, found, h⟩ := bind_ok h
  obtain ⟨fields, sorted, h⟩ := bind_ok h
  obtain ⟨value', found', sorted'⟩ := sortedObjects_restates same.fields found sorted
  rw [← same.rest.index (by decide)] at read
  exact bind_eq_ok.mpr ⟨_, read, bind_eq_ok.mpr ⟨_, found', bind_eq_ok.mpr ⟨_, sorted', h⟩⟩⟩

/-! ## References under new names -/

/-- Two closed lists, one restating the other, with the index of each. -/
structure Restatement (sha256 : Bytes → Digest) (repr : Json → String) (names : LocalNames)
    (records relisted : List ReleaseRecord) (index index' : SemanticIndex) : Prop where
  closed : ReferentiallyClosed repr records
  closed' : ReferentiallyClosed repr relisted
  relisting : Relisting repr names records relisted
  indexed : IndexOf sha256 records index
  indexed' : IndexOf sha256 relisted index'

theorem Restatement.evidence (both : Restatement sha256 repr names records relisted index index')
    (known : HasEvidence relisted reference)
    (found : index.evidenceRefs.get (names.evidence reference) = some digest) :
    index'.evidenceRefs.get reference = some digest := by
  obtain ⟨b, hb, type, rfl⟩ := known
  obtain ⟨a, ha, types, same⟩ := both.relisting.restated b hb
  have aType : a.recordType = .evidenceVersion := types.symm.trans type
  simp only [aType] at same
  obtain ⟨r, hr, rType, rKey, payload, built, rfl⟩ := (both.indexed.evidence _ _).mp found
  have here : r = a := both.closed.unique hr ha (rType.trans aType.symm) (rKey.trans same.1)
  refine (both.indexed'.evidence _ _).mpr ⟨b, hb, type, rfl, payload, ?_, rfl⟩
  rw [evidencePayload_restates same.2, ← here, built]

theorem Restatement.evidenceRef (both : Restatement sha256 repr names records relisted index index')
    (same : SameEvidence repr names "evidence_version" a b)
    (known : ∀ reference ∈ (localReference repr b "evidence_version").toOption,
      HasEvidence relisted reference)
    (h : evidenceRef repr index.evidenceRefs a = .ok digest) :
    evidenceRef repr index'.evidenceRefs b = .ok digest := by
  obtain ⟨reference, right, left⟩ := same
  obtain ⟨_, read, h⟩ := bind_ok h
  rw [left, Except.ok.injEq] at read
  subst read
  refine bind_eq_ok.mpr ⟨reference, right, ?_⟩
  split at h
  · rename_i ref found
    rw [both.evidence (known reference (by simp [right, Except.toOption])) found]
    exact h
  · cases h

theorem Restatement.extractionBody
    (both : Restatement sha256 repr names records relisted index index')
    (same : SameExtraction repr names a b)
    (known : ∀ reference ∈ (localReference repr b "evidence_version").toOption,
      HasEvidence relisted reference)
    (h : extractionBody repr index.evidenceRefs a = .ok body) :
    extractionBody repr index'.evidenceRefs b = .ok body := by
  obtain ⟨ref, evidence, h⟩ := bind_ok h
  obtain ⟨value, read, h⟩ := bind_ok h
  obtain ⟨provenance, isDict, h⟩ := bind_ok h
  obtain ⟨status, readStatus, h⟩ := bind_ok h
  obtain ⟨list, readFields, h⟩ := bind_ok h
  obtain ⟨fields, sorted, h⟩ := bind_ok h
  cases h
  obtain ⟨list', readFields', sorted'⟩ := sortedObjects_restates same.fields readFields sorted
  have restated : ∃ provenance' : Dict, b.index "provenance" = .ok provenance'.toJson ∧
      provenance'.pop "created_at" = provenance.pop "created_at" := by
    have isDict := requireDict_ok isDict
    subst isDict
    rcases same.provenance with eq | ⟨d, d', left, right, agree⟩
    · exact ⟨provenance, by rw [← read, Dict.index, Dict.index, eq], rfl⟩
    · refine ⟨d', by rw [Dict.index, right], ?_⟩
      simp only [Dict.index, left, Except.ok.injEq] at read
      rw [agree.pop, Dict.toJson_injective read]
  obtain ⟨provenance', read', popped⟩ := restated
  rw [← same.rest.index (by decide)] at readStatus
  refine bind_eq_ok.mpr ⟨ref, both.evidenceRef same.evidence known evidence,
    bind_eq_ok.mpr ⟨_, read', bind_eq_ok.mpr ⟨provenance', requireDict_toJson _ _,
    bind_eq_ok.mpr ⟨status, readStatus, bind_eq_ok.mpr ⟨list', readFields',
    bind_eq_ok.mpr ⟨fields, sorted', ?_⟩⟩⟩⟩⟩⟩
  rw [← popped]
  rfl

theorem Restatement.attestationPayload
    (both : Restatement sha256 repr names records relisted index index')
    (same : SameAttestation repr names a b)
    (known : ∀ payload ∈ attestedPayload b,
      ∀ reference ∈ (localReference repr payload "evidence_version").toOption,
        HasEvidence relisted reference)
    (h : attestationPayload repr index.evidenceRefs a = .ok payload) :
    attestationPayload repr index'.evidenceRefs b = .ok payload := by
  obtain ⟨d, d', left, right, agree, evidence⟩ := same.payload
  obtain ⟨value, read, h⟩ := bind_ok h
  obtain ⟨inner, isDict, h⟩ := bind_ok h
  simp only [Dict.index, left, Except.ok.injEq] at read
  rw [← read, requireDict_toJson, Except.ok.injEq] at isDict
  subst isDict
  obtain ⟨ref, found, h⟩ := bind_ok h
  have known := known d' (by simp [attestedPayload, right])
  have note := agree "note" (by decide)
  refine bind_eq_ok.mpr ⟨d'.toJson, by rw [Dict.index, right], bind_eq_ok.mpr ⟨d',
    requireDict_toJson _ _, bind_eq_ok.mpr ⟨ref, both.evidenceRef evidence known found, ?_⟩⟩⟩
  rw [agree.index (by decide), agree.index (by decide), agree.index (by decide), note,
    same.rest.index (by decide), same.rest.index (by decide)]
  exact h

/-- An extraction has the same key and payload under each of its new names. -/
theorem Restatement.extracts (both : Restatement sha256 repr names records relisted index index')
    (known : HasExtraction relisted extractionId)
    (found : Extracts sha256 repr index (names.extraction extractionId) result) :
    Extracts sha256 repr index' extractionId result := by
  obtain ⟨n, found⟩ := found
  refine ⟨n, Memo.Value.transfer (fun k inside node here => ?_) found known⟩
  obtain ⟨b, hb, type, rfl⟩ := inside
  obtain ⟨a, ha, types, same⟩ := both.relisting.restated b hb
  have aType : a.recordType = .extraction := types.symm.trans type
  simp only [aType] at same
  simp only [SemanticIndex.node, extractionNode] at here ⊢
  split at here
  · cases here
  · rename_i r read
    obtain ⟨hr, rType, rKey⟩ := (both.indexed.extractions _ _).mp read
    have eq : r = a := both.closed.unique hr ha (rType.trans aType.symm) (rKey.trans same.1)
    subst eq
    obtain ⟨body, built, here⟩ := bind_ok here
    cases here
    rw [(both.indexed'.extractions _ _).mpr ⟨hb, type, rfl⟩]
    exact ⟨supersedes repr b.payload, bind_eq_ok.mpr ⟨body,
      both.extractionBody same.2 (both.closed'.extracted b hb type) built, rfl⟩,
      same.2.superseded, both.closed'.superseded b hb type⟩

/-- A record and its restatement have the same normal form. -/
theorem Restatement.normal (both : Restatement sha256 repr names records relisted index index')
    (hb : b ∈ relisted) (same : Restates repr names a b) (h : Normal sha256 repr index a pair) :
    Normal sha256 repr index' b pair := by
  obtain ⟨types, same⟩ := same
  obtain ⟨label, h⟩ := h
  refine ⟨label.trans types.symm, ?_⟩
  cases type : a.recordType with
  | registrySnapshot =>
    simp only [types, type] at same h ⊢
    obtain ⟨d, d', left, right, same⟩ := same
    exact registryPayload_restates left right same h
  | evidenceVersion =>
    simp only [types, type] at same h ⊢
    rw [evidencePayload_restates same.2, h]
  | attestation =>
    simp only [types, type] at same h ⊢
    exact both.attestationPayload same (both.closed'.attested b hb (types.trans type)) h
  | extraction =>
    simp only [types, type] at same h ⊢
    obtain ⟨key, h⟩ := h
    exact ⟨key, both.extracts ⟨b, hb, types.trans type, rfl⟩ (same.1 ▸ h)⟩
  | extractionReview =>
    simp only [types, type] at same h ⊢
    obtain ⟨extractionId, result, read, extracts, h⟩ := h
    obtain ⟨value, value', left, right, named⟩ := same.extraction
    simp only [Dict.index, left, Except.ok.injEq] at read
    subst read
    have known := both.closed'.reviewed b hb (types.trans type) value' right
    exact ⟨value', result, by rw [Dict.index, right], both.extracts known (named ▸ extracts),
      reviewPayload_restates same h⟩

/-- Both lists have the same set of normal forms. -/
theorem normalizedRecords_relisted (closed : ReferentiallyClosed repr records)
    (closed' : ReferentiallyClosed repr relisted) (relisting : Relisting repr names records relisted)
    (h : normalizedRecords sha256 repr records = .ok normalized) :
    ∃ normalized', normalizedRecords sha256 repr relisted = .ok normalized' ∧
      ∀ pair, pair ∈ normalized' ↔ pair ∈ normalized := by
  obtain ⟨index, indexed, normal, members⟩ := normalizedRecords_ok closed h
  have restated (index' : SemanticIndex) (indexed' : IndexOf sha256 relisted index') :
      Restatement sha256 repr names records relisted index index' :=
    ⟨closed, closed', relisting, indexed, indexed'⟩
  have forms (index' : SemanticIndex) (indexed' : IndexOf sha256 relisted index') :
      ∀ b ∈ relisted, ∃ pair, Normal sha256 repr index' b pair := fun b hb => by
    obtain ⟨a, ha, same⟩ := relisting.restated b hb
    obtain ⟨pair, form⟩ := normal a ha
    exact ⟨pair, (restated index' indexed').normal hb same form⟩
  obtain ⟨normalized', done⟩ := normalizedRecords_total closed' (fun b hb => by
    obtain ⟨a, ha, types, same⟩ := relisting.restated b hb
    obtain ⟨pair, -, form⟩ := normal a ha
    refine ⟨fun type => ?_, fun type => ?_⟩
    · simp only [types.symm.trans type] at same form
      obtain ⟨d, d', left, right, same⟩ := same
      exact ⟨_, registryPayload_restates left right same form⟩
    · simp only [types.symm.trans type] at same form
      exact ⟨_, (evidencePayload_restates same.2).trans form⟩) forms
  refine ⟨normalized', done, fun pair => ?_⟩
  obtain ⟨index', indexed', -, members'⟩ := normalizedRecords_ok closed' done
  rw [members, members']
  constructor
  · rintro ⟨b, hb, form⟩
    obtain ⟨a, ha, same⟩ := relisting.restated b hb
    obtain ⟨pair', form'⟩ := normal a ha
    have := ((restated index' indexed').normal hb same form').unique form
    exact ⟨a, ha, this ▸ form'⟩
  · rintro ⟨a, ha, form⟩
    obtain ⟨b, hb, same⟩ := relisting.kept a ha
    exact ⟨b, hb, (restated index' indexed').normal hb same form⟩

/-! ## Kinds of relisting -/

/-- The names leave the names of a list as they are. -/
structure LocalNames.Fixes (names : LocalNames) (records : List ReleaseRecord) : Prop where
  evidence : ∀ reference, HasEvidence records reference → names.evidence reference = reference
  extraction : ∀ extractionId, HasExtraction records extractionId →
    names.extraction extractionId = extractionId

theorem agreeExcept_refl (keys : List String) (d : Dict) : AgreeExcept keys d d := fun _ _ => rfl

theorem index_get {d : Dict} (h : d.index key = .ok value) : d.get key = some value := by
  unfold Dict.index at h
  split at h
  · rename_i found
    cases h
    exact found
  · cases h

theorem evidenceRef_names (fixes : names.Fixes records)
    (known : ∀ reference ∈ (localReference repr d "evidence_version").toOption,
      HasEvidence records reference)
    (h : evidenceRef repr refs d = .ok digest) : SameEvidence repr names "evidence_version" d d := by
  obtain ⟨reference, read, -⟩ := bind_ok h
  exact ⟨reference, read, by rw [fixes.evidence reference (known reference (by simp [read, Except.toOption])), read]⟩

theorem Restates.refl (closed : ReferentiallyClosed repr records) (fixes : names.Fixes records)
    (member : a ∈ records) (normal : Normal sha256 repr index a pair) (indexed : IndexOf sha256 records index) :
    Restates repr names a a := by
  obtain ⟨-, h⟩ := normal
  refine ⟨rfl, ?_⟩
  cases type : a.recordType with
  | registrySnapshot =>
    simp only [type] at h ⊢
    obtain ⟨d, read, -⟩ := bind_ok h
    have read := requireDict_ok read
    cases found : a.payload.get "payload" with
    | none => rw [found] at read; cases read
    | some value =>
      rw [found, Option.getD_some] at read
      subst read
      exact ⟨d, d, rfl, rfl, agreeExcept_refl _ d, .inl rfl, .inl rfl, .inl rfl⟩
  | evidenceVersion =>
    exact ⟨fixes.evidence _ ⟨a, member, type, rfl⟩, agreeExcept_refl _ _⟩
  | attestation =>
    simp only [type] at h ⊢
    obtain ⟨value, read, h⟩ := bind_ok h
    obtain ⟨d, isDict, h⟩ := bind_ok h
    obtain ⟨ref, found, -⟩ := bind_ok h
    have read := index_get read
    rw [requireDict_ok isDict] at read
    exact ⟨agreeExcept_refl _ _, d, d, read, read, agreeExcept_refl _ d, evidenceRef_names fixes
      (closed.attested a member type d (by simp [attestedPayload, read])) found⟩
  | extraction =>
    simp only [type] at h ⊢
    refine ⟨fixes.extraction _ ⟨a, member, type, rfl⟩, agreeExcept_refl _ _, .inl rfl, .inl rfl, ?_, ?_⟩
    · obtain ⟨key, n, h⟩ := h
      have node : ∃ node, index.node sha256 repr a.recordKey = .ok node := by
        generalize (key, pair.2) = result at h
        cases h with
        | last found => exact ⟨_, found⟩
        | step found => exact ⟨_, found⟩
      obtain ⟨node, found⟩ := node
      simp only [SemanticIndex.node, extractionNode,
        (indexed.extractions _ _).mpr ⟨member, type, rfl⟩] at found
      obtain ⟨body, built, -⟩ := bind_ok found
      obtain ⟨ref, evidence, -⟩ := bind_ok built
      exact evidenceRef_names fixes (closed.extracted a member type) evidence
    · refine (Option.map_congr fun x hx => ?_).trans (congrFun Option.map_id _)
      exact fixes.extraction x (closed.superseded a member type x hx)
  | extractionReview =>
    simp only [type] at h ⊢
    obtain ⟨value, result, read, -⟩ := h
    have read := index_get read
    exact ⟨agreeExcept_refl _ _, .inl rfl, value, value, read, read,
      fixes.extraction _ (closed.reviewed a member type value read)⟩

/-- A permutation with copies: every new record restates an old one under fresh names. -/
theorem Relisting.of_copies (closed : ReferentiallyClosed repr records) (fixes : names.Fixes records)
    (h : normalizedRecords sha256 repr records = .ok normalized)
    (perm : relisted.Perm (records ++ copies))
    (copied : ∀ b ∈ copies, ∃ a ∈ records, Restates repr names a b) :
    Relisting repr names records relisted := by
  obtain ⟨index, indexed, normal, -⟩ := normalizedRecords_ok closed h
  have self (a : ReleaseRecord) (ha : a ∈ records) : Restates repr names a a := by
    obtain ⟨pair, form⟩ := normal a ha
    exact Restates.refl closed fixes ha form indexed
  refine ⟨fun a ha => ⟨a, perm.mem_iff.mpr (List.mem_append_left _ ha), self a ha⟩, fun b hb => ?_⟩
  rcases List.mem_append.mp (perm.mem_iff.mp hb) with old | new
  · exact ⟨b, old, self b old⟩
  · exact copied b new

/-- A change of every record in its place, such as a renaming. -/
theorem Relisting.of_map (change : ReleaseRecord → ReleaseRecord)
    (restates : ∀ a ∈ records, Restates repr names a (change a)) :
    Relisting repr names records (records.map change) := by
  refine ⟨fun a ha => ⟨change a, List.mem_map_of_mem ha, restates a ha⟩, fun b hb => ?_⟩
  obtain ⟨a, ha, rfl⟩ := List.mem_map.mp hb
  exact ⟨a, ha, restates a ha⟩

/-- The semantic root does not see local names, local-only fields, the order of records and
lists, or copies. -/
theorem semanticMerkleRoot_relisted (closed : ReferentiallyClosed repr records)
    (closed' : ReferentiallyClosed repr relisted) (relisting : Relisting repr names records relisted)
    (succeeds : semanticRecords sha256 repr records = .ok semantic)
    (free : ∀ normalized, normalizedRecords sha256 repr records = .ok normalized →
      CollisionFree sha256 (keyPreimages normalized)) :
    semanticMerkleRoot sha256 repr relisted = semanticMerkleRoot sha256 repr records := by
  obtain ⟨normalized, done, -⟩ := bind_ok succeeds
  obtain ⟨normalized', done', same⟩ := normalizedRecords_relisted closed closed' relisting done
  obtain ⟨index, -, -, members⟩ := normalizedRecords_ok closed done
  have valid : ∀ pair ∈ normalized, pair.2.wellFormed = true := fun pair hp => by
    obtain ⟨r, -, form⟩ := (members pair).mp hp
    exact form.wellFormed
  rw [semanticMerkleRoot, semanticMerkleRoot,
    semanticRecords_congr done done' same valid (free normalized done)]

/-- What every evidence version of the example says. -/
def sampleContent : Dict := ⟨[("artifact_sha256", .str "a"), ("artifact_size_bytes", .int 1),
  ("document_type", .str "d"), ("election_id", .str "e"), ("observed_at", .str "t"),
  ("polling_unit_code", .str "p"), ("source", .str "s")], by decide⟩

def sampleEvidence (evidenceId filename : String) (version : Int) (fits : intFits version = true) :
    ReleaseRecord :=
  ⟨.evidenceVersion, evidenceId ++ ":" ++ String.ofList (intText version),
    ((sampleContent.set "evidence_id" (.str evidenceId) (str_wellFormed _)).set "version" (.int version) (int_wellFormed fits)).set
      "filename" (.str filename) (str_wellFormed _)⟩

def sampleProvenance (createdAt : String) : Dict :=
  ⟨[("created_at", .str createdAt), ("engine", .str "m")], rfl⟩

def sampleFields (names : List String) : Json := .arr (names.map .str)

theorem sampleFields_wellFormed (names : List String) : (sampleFields names).wellFormed = true := by
  simp only [sampleFields, Json.wellFormed, wellFormedItems_iff, List.mem_map]
  rintro _ ⟨name, -, rfl⟩
  simp only [Json.wellFormed]

def sampleBody (evidenceId createdAt : String) (version : Int) (fits : intFits version = true)
    (fields : List String) (superseded : Json) (valid : superseded.wellFormed = true) : Dict :=
  let named : Dict := ((⟨[("status", .str "ok")], rfl⟩ : Dict).set "evidence_id" (.str evidenceId) (str_wellFormed _)).set
    "evidence_version" (.int version) (int_wellFormed fits)
  ((named.set "provenance" (sampleProvenance createdAt).toJson (Dict.toJson_wellFormed _)).set "fields"
    (sampleFields fields) (sampleFields_wellFormed fields)).set "supersedes_extraction_id" superseded valid

def sampleRecords : List ReleaseRecord := [
  sampleEvidence "ev" "scan" 1 rfl,
  ⟨.extraction, "x1", sampleBody "ev" "t1" 1 rfl ["a", "b"] .null null_wellFormed⟩,
  ⟨.extraction, "x2", sampleBody "ev" "t2" 1 rfl ["a"] (.str "x1") (str_wellFormed _)⟩]

/-- Other ids in another order, other local fields, and the evidence a second time. -/
def sampleRelisted : List ReleaseRecord := [
  ⟨.extraction, "a2", sampleBody "doc" "t4" 7 rfl ["a"] (.str "b1") (str_wellFormed _)⟩,
  sampleEvidence "copy" "again" 2 rfl,
  ⟨.extraction, "b1", sampleBody "copy" "t3" 2 rfl ["b", "a"] .null null_wellFormed⟩,
  sampleEvidence "doc" "photo" 7 rfl]

def sampleNames : LocalNames where
  evidence _ := "ev:1"
  extraction extractionId := if extractionId = "a2" then "x2" else "x1"

def noRepr (_ : Json) : String := ""

theorem sampleEvidence_restates (fits : intFits version = true) : Restates noRepr sampleNames
    (sampleEvidence "ev" "scan" 1 rfl) (sampleEvidence evidenceId filename version fits) := by
  refine ⟨rfl, rfl, fun key other => ?_⟩
  simp only [List.mem_cons, List.not_mem_nil, or_false, not_or] at other
  simp (disch := simp [other]) only [sampleEvidence, Dict.get_set_other]

theorem sampleBody_same (fits : intFits version = true) (fits' : intFits version' = true)
    (valid : Json.wellFormed old = true) (valid' : Json.wellFormed new = true)
    (perm : fields.Perm fields')
    (reference : evidenceId ++ ":" ++ String.ofList (intText version) = "ev:1")
    (superseded : (supersedes noRepr (sampleBody evidenceId' createdAt' version' fits' fields' new valid')).map
      sampleNames.extraction = supersedes noRepr (sampleBody evidenceId createdAt version fits fields old valid)) :
    SameExtraction noRepr sampleNames (sampleBody evidenceId createdAt version fits fields old valid)
      (sampleBody evidenceId' createdAt' version' fits' fields' new valid') := by
  have get (d : Dict) (key other : String) (value : Json) (h : value.wellFormed = true) :
      (d.set key value h).get other = if other = key then some value else d.get other := by
    split
    · rename_i same; rw [same, Dict.get_set_same]
    · rename_i apart; exact Dict.get_set_other d h apart
  constructor
  · intro key other
    simp only [List.mem_cons, List.not_mem_nil, or_false, not_or] at other
    simp only [sampleBody, get, other, if_false]
  · refine .inr ⟨sampleProvenance createdAt, sampleProvenance createdAt', ?_, ?_, fun key other => ?_⟩
    · simp [sampleBody, get]
    · simp [sampleBody, get]
    · have apart : key ≠ "created_at" := by simpa using other
      simp [sampleProvenance, Dict.get, lookup, apart.symm]
  · refine .inr ⟨fields.map .str, fields'.map .str, ?_, ?_, perm.map _⟩
    · simp [sampleBody, get, sampleFields]
    · simp [sampleBody, get, sampleFields]
  · refine ⟨evidenceId' ++ ":" ++ String.ofList (intText version'), ?_, ?_⟩
    · simp [localReference, Dict.index, sampleBody, get, bind, Except.bind, pure, Except.pure, pyStr]
    · simp [sampleNames, ← reference, localReference, Dict.index, sampleBody, get, bind, Except.bind,
        pure, Except.pure, pyStr]
  · exact superseded

theorem sample_closed : ReferentiallyClosed noRepr sampleRecords ∧ ReferentiallyClosed noRepr sampleRelisted := by
  constructor <;> constructor
  all_goals decide +kernel

theorem semanticMerkleRoot_relisted_example :
    semanticMerkleRoot checksum noRepr sampleRelisted = semanticMerkleRoot checksum noRepr sampleRecords := by
  have first : Restates noRepr sampleNames (sampleRecords.get ⟨1, by decide⟩) (sampleRelisted.get ⟨2, by decide⟩) :=
    ⟨rfl, rfl, sampleBody_same rfl rfl null_wellFormed null_wellFormed (by decide)
      (by decide +kernel) (by decide +kernel)⟩
  have second : Restates noRepr sampleNames (sampleRecords.get ⟨2, by decide⟩) (sampleRelisted.get ⟨0, by decide⟩) :=
    ⟨rfl, rfl, sampleBody_same rfl rfl (str_wellFormed _) (str_wellFormed _) (by decide)
      (by decide +kernel) (by decide +kernel)⟩
  have relisting : Relisting noRepr sampleNames sampleRecords sampleRelisted := by
    constructor
    · intro a ha
      simp only [sampleRecords, List.mem_cons, List.not_mem_nil, or_false] at ha
      rcases ha with rfl | rfl | rfl
      · exact ⟨sampleEvidence "doc" "photo" 7 rfl, by simp [sampleRelisted], sampleEvidence_restates rfl⟩
      · exact ⟨_, by simp [sampleRelisted], first⟩
      · exact ⟨_, by simp [sampleRelisted], second⟩
    · intro b hb
      simp only [sampleRelisted, List.mem_cons, List.not_mem_nil, or_false] at hb
      rcases hb with rfl | rfl | rfl | rfl
      · exact ⟨_, by simp [sampleRecords], second⟩
      · exact ⟨_, by simp [sampleRecords], sampleEvidence_restates _⟩
      · exact ⟨_, by simp [sampleRecords], first⟩
      · exact ⟨_, by simp [sampleRecords], sampleEvidence_restates _⟩
  have succeeds : (semanticRecords checksum noRepr sampleRecords).toBool = true := by decide +kernel
  have free : ((normalizedRecords checksum noRepr sampleRecords).toOption.map fun normalized =>
      decide (CollisionFree checksum (keyPreimages normalized))) = some true := by decide +kernel
  cases semantic : semanticRecords checksum noRepr sampleRecords with
  | error e => rw [semantic] at succeeds; cases succeeds
  | ok list =>
    refine semanticMerkleRoot_relisted sample_closed.1 sample_closed.2 relisting semantic ?_
    intro normalized found
    rw [found] at free
    simpa [Except.toOption] using free

end BallotProof
