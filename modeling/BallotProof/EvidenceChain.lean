import BallotProof.EvidenceStore

/-! Runs of the writers of both stores: every version is numbered and linked to the one before
it, and every chain verifies from what is read back of the rows. -/
namespace BallotProof
open Python HashChain Sql

/-- Conversions whose results are read again as they are: the text that JSON mode writes of a
datetime always, the normal form of a URL wherever it is accepted. -/
structure Conversions.Stable (conversions : Conversions) : Prop where
  datetime : ∀ value text, conversions.datetime value = some text →
    conversions.datetime (.str text) = some text
  url : ∀ text url other, conversions.url text = some url → conversions.url url = some other → other = url

/-- A source that pydantic has built. -/
def EvidenceSource.Built (conversions : Conversions) (source : EvidenceSource) : Prop :=
  ∀ url ∈ source.sourceUrl, ∃ text, conversions.url text = some url

/-- A payload that pydantic has built. -/
structure ElectionRegistryPayload.Built (conversions : Conversions) (payload : ElectionRegistryPayload) :
    Prop where
  valid : payload.validate = .ok ()
  electionDate : ∃ value, conversions.datetime value = some payload.electionDate
  retrievedAt : ∃ value, conversions.datetime value = some payload.source.retrievedAt
  sourceUrl : ∀ url ∈ payload.source.sourceUrl, ∃ text, conversions.url text = some url

/-- The normal form of the source URL is a URL that pydantic accepts. -/
def ElectionRegistryPayload.UrlAccepted (conversions : Conversions) (payload : ElectionRegistryPayload) : Prop :=
  ∀ url ∈ payload.source.sourceUrl, conversions.url url ≠ none

theorem readsBack_iff {conversions : Conversions} (stable : conversions.Stable)
    {payload : ElectionRegistryPayload} (built : payload.Built conversions) :
    payload.ReadsBack conversions ↔ payload.UrlAccepted conversions := by
  constructor
  · intro back url found
    rw [back.sourceUrl url found]
    exact Option.some_ne_none url
  · intro accepted
    obtain ⟨date, dateBuilt⟩ := built.electionDate
    obtain ⟨retrieved, retrievedBuilt⟩ := built.retrievedAt
    refine ⟨built.valid, stable.datetime _ _ dateBuilt, stable.datetime _ _ retrievedBuilt, ?_⟩
    intro url found
    obtain ⟨text, normal⟩ := built.sourceUrl url found
    obtain ⟨other, again⟩ := Option.ne_none_iff_exists'.mp (accepted url found)
    rw [again, stable.url text url other normal again]

/-! ## Evidence versions -/

section
variable {conversions : Conversions}

theorem textOf_text {values : List α} {text : α → String} (distinct : Function.Injective text)
    (member : value ∈ values) : textOf values text (text value) = .ok value := by
  have found : values.find? (text · = text value) = some value := by
    induction values with
    | nil => cases member
    | cons first rest ih =>
      by_cases same : text first = text value
      · rw [List.find?_cons_of_pos (by simpa using same), distinct same]
      · rw [List.find?_cons_of_neg (by simpa using same)]
        rcases List.mem_cons.mp member with rfl | later
        · exact absurd rfl same
        · exact ih later
  simp [textOf, found]

theorem SourceType.text_injective : Function.Injective SourceType.text := by
  intro a b
  cases a <;> cases b <;> decide

theorem boundedField_str {text : Text low high} (h : lookup name entries = some (.str text.1)) :
    boundedField entries name low high = .ok text := by
  rw [boundedField, textField_str h, ok_bind, boundedText, dif_pos text.2]

/-- Everything but the URL is read back as it was written. -/
theorem readSource (source : EvidenceSource) :
    EvidenceSource.modelValidate conversions source.dict.toJson =
      (optionalUrlField conversions source.dict.entries "source_url").map fun url =>
        { source with sourceUrl := url } := by
  have names : onlyFields ["provider", "source_type", "source_url"] source.dict.entries = .ok () := by
    simp [onlyFields, require, EvidenceSource.dict]
  have provider : boundedField source.dict.entries "provider" 1 128 = .ok source.provider :=
    boundedField_str (by simp [EvidenceSource.dict, lookup])
  have written : textField source.dict.entries "source_type" = .ok source.sourceType.text :=
    textField_str (by simp [EvidenceSource.dict, lookup])
  have known : textOf SourceType.all SourceType.text source.sourceType.text = .ok source.sourceType :=
    textOf_text SourceType.text_injective (by cases source.sourceType <;> decide)
  simp only [EvidenceSource.modelValidate, Dict.toJson, objectOf, ok_bind, names, provider, written, known]
  cases optionalUrlField conversions source.dict.entries "source_url" <;> rfl

theorem sourceUrl_field (source : EvidenceSource) :
    optionalField source.dict.entries "source_url" = .ok source.sourceUrl := by
  simp [optionalField, EvidenceSource.dict, lookup]

/-- A source whose URL is read as it is. -/
def EvidenceSource.ReadsBack (conversions : Conversions) (source : EvidenceSource) : Prop :=
  ∀ url ∈ source.sourceUrl, conversions.url url = some url

theorem readSource_back {source : EvidenceSource} (back : source.ReadsBack conversions) :
    EvidenceSource.modelValidate conversions source.dict.toJson = .ok source := by
  rw [readSource, optionalUrlField, sourceUrl_field, ok_bind]
  cases found : source.sourceUrl with
  | none => exact congrArg Except.ok (by cases source; simp_all)
  | some url =>
    simp only [back url found]
    exact congrArg Except.ok (by cases source; simp_all)

/-- What a built source is read back as, when it is read at all. -/
theorem readSource_stable (stable : conversions.Stable) {source read : EvidenceSource}
    (built : source.Built conversions)
    (h : EvidenceSource.modelValidate conversions source.dict.toJson = .ok read) :
    read = source ∧ source.ReadsBack conversions := by
  have back : source.ReadsBack conversions := by
    intro url found
    obtain ⟨text, normal⟩ := built url found
    rw [readSource, optionalUrlField, sourceUrl_field, ok_bind, found] at h
    cases again : conversions.url url with
    | none =>
      simp only [again] at h
      cases h
    | some other => rw [stable.url text url other normal again]
  rw [readSource_back back] at h
  exact ⟨(Except.ok.inj h).symm, back⟩

end

/-- The row that is inserted for a version. -/
def EvidenceVersion.row (record : EvidenceVersion) : EvidenceRow :=
  { record with source := record.source.dict.toJson }

/-- The table holds the rows of versions that form one chain an evidence id. -/
structure EvidenceChains (sha256 : Bytes → Digest) (conversions : Conversions)
    (records : List EvidenceVersion) (rows : List EvidenceRow) : Prop where
  rows : rows = records.map (·.row)
  sources : ∀ record ∈ records, record.source.ReadsBack conversions
  chains : (evidenceLog sha256).Keyed (·.evidenceId) records

section
variable {sha256 : Bytes → Digest} {conversions : Conversions}

theorem toVersion_row {record : EvidenceVersion} (back : record.source.ReadsBack conversions) :
    record.row.toVersion conversions = .ok record := by
  rw [EvidenceRow.toVersion]
  simp only [EvidenceVersion.row, readSource_back back, ok_bind]
  exact dif_pos record.positive

/-- A record keeps the arguments of the call that appended it. -/
structure RecordBody.Keeps (body : RecordBody EvidenceSource) (call : AppendCall) (now : Timestamp) : Prop where
  electionId : body.electionId = call.electionId
  pollingUnitCode : body.pollingUnitCode = call.pollingUnitCode
  documentType : body.documentType = call.documentType
  source : body.source = call.source
  artifact : body.artifact = call.artifact
  mediaType : body.mediaType = call.mediaType
  filename : body.filename = call.filename
  observedAt : body.observedAt = call.observedAt
  storedAt : body.storedAt = now

theorem nextBody_ok (h : nextBody rows call uuid now = .ok body) :
    nextKey rows call uuid = .ok (body.evidenceId, body.version, body.previousRecordHash) ∧
      body.Keeps call now := by
  obtain ⟨⟨evidenceId, version, previous⟩, key, h⟩ := bind_ok h
  dsimp only at h
  split at h
  · cases h
    exact ⟨key, rfl, rfl, rfl, rfl, rfl, rfl, rfl, rfl, rfl⟩
  · cases h

/-- What a successful append inserts and returns. -/
theorem appendVersion_ok (stable : conversions.Stable) (built : call.source.Built conversions)
    (h : appendVersion conversions sha256 rows call uuid now = .ok (record, rows')) :
    nextKey rows call uuid = .ok (record.evidenceId, record.version, record.previousRecordHash) ∧
      record.Keeps call now ∧ record.source.ReadsBack conversions ∧ record.recordHash = hashRecord sha256 record.json ∧
      (¬∃ other ∈ rows, other.evidenceId = record.evidenceId ∧ other.version = record.version) ∧
      rows' = rows ++ [record.row] := by
  obtain ⟨body, next, h⟩ := bind_ok h
  obtain ⟨source, valid, h⟩ := bind_ok h
  obtain ⟨key, kept⟩ := nextBody_ok next
  have read : source = body.source ∧ body.source.ReadsBack conversions := by
    obtain ⟨again, reread, valid⟩ := bind_ok valid
    obtain ⟨_, -, valid⟩ := bind_ok valid
    obtain ⟨_, -, valid⟩ := bind_ok valid
    cases valid
    exact readSource_stable stable (by rw [kept.source]; exact built) reread
  obtain ⟨rfl, back⟩ := read
  split at h
  · dsimp only at h
    split at h
    · cases h
    · rename_i positive fresh
      cases h
      exact ⟨key, kept, back, rfl, fun taken => fresh (.inl taken), rfl⟩
  · cases h

theorem EvidenceChains.nil : EvidenceChains sha256 conversions [] [] := ⟨rfl, by simp, .nil⟩

namespace EvidenceChains
variable {records : List EvidenceVersion} {rows : List EvidenceRow}

/-- The rows of an evidence id come in the order in which they were appended. -/
theorem ordered (chains : EvidenceChains sha256 conversions records rows) (evidenceId : String) :
    evidenceRows rows evidenceId = (records.filter (·.evidenceId = evidenceId)).map (·.row) := by
  have filtered : rows.filter (·.evidenceId = evidenceId) =
      (records.filter (·.evidenceId = evidenceId)).map (·.row) := by
    rw [chains.rows, List.filter_map]
    rfl
  rw [evidenceRows, selectOrdered, filtered]
  apply orderBy_of_ascending
  rw [List.map_map]
  exact (chains.chains.numbered evidenceId).ascending

theorem history (chains : EvidenceChains sha256 conversions records rows) (evidenceId : String) :
    evidenceHistory conversions rows evidenceId = .ok (records.filter (·.evidenceId = evidenceId)) := by
  rw [evidenceHistory, chains.ordered evidenceId]
  have back : ∀ record ∈ records.filter (·.evidenceId = evidenceId),
      record.row.toVersion conversions = .ok record := fun record member =>
    toVersion_row (chains.sources record (List.mem_filter.mp member).1)
  generalize records.filter (·.evidenceId = evidenceId) = read at back
  induction read with
  | nil => rfl
  | cons record rest ih =>
    rw [List.map_cons, List.mapM_cons, back record List.mem_cons_self,
      ih fun other member => back other (List.mem_cons_of_mem _ member)]
    rfl

/-- Every chain is reported valid, with as many versions as there are. -/
theorem verified (chains : EvidenceChains sha256 conversions records rows) (evidenceId : String) :
    verifyEvidenceChain conversions sha256 rows evidenceId =
      .ok ⟨evidenceId, true, (records.filter (·.evidenceId = evidenceId)).length, none⟩ := by
  have linked := Log.firstBroken_none.mpr (chains.chains.linked evidenceId)
  rw [verifyEvidenceChain, chains.history evidenceId, ok_bind, verifyVersions, linked]
  rfl

/-- An id of which no first version is stored has no version at all. -/
theorem unused (chains : EvidenceChains sha256 conversions records rows)
    (fresh : ¬∃ other ∈ rows, other.evidenceId = evidenceId ∧ other.version = 1) :
    records.filter (·.evidenceId = evidenceId) = [] := by
  by_contra used
  have numbered := chains.chains.numbered evidenceId
  obtain ⟨first, rest, split⟩ := List.exists_cons_of_ne_nil used
  rw [Log.Numbered, split, List.map_cons, List.length_cons, List.range'_succ] at numbered
  have version : first.version = 1 := (List.cons.inj numbered).1
  have member : first ∈ records.filter (·.evidenceId = evidenceId) := by simp [split]
  obtain ⟨member, id⟩ := List.mem_filter.mp member
  apply fresh
  refine ⟨first.row, ?_, of_decide_eq_true id, version⟩
  rw [chains.rows]
  exact List.mem_map_of_mem member

/-- The number and the link of the next version of a chain. -/
theorem next (chains : EvidenceChains sha256 conversions records rows)
    (h : nextKey rows call uuid = .ok (evidenceId, version, previous))
    (fresh : ¬∃ other ∈ rows, other.evidenceId = evidenceId ∧ other.version = version) :
    version = (evidenceLog sha256).next (records.filter (·.evidenceId = evidenceId)) ∧
      previous = (records.filter (·.evidenceId = evidenceId)).getLast?.map (·.recordHash) := by
  unfold nextKey at h
  split at h
  · cases h
    rw [chains.unused fresh]
    exact ⟨rfl, rfl⟩
  · rename_i asked _
    simp only [chains.ordered asked, List.getLast?_map] at h
    cases last : (records.filter (·.evidenceId = asked)).getLast? with
    | none =>
      rw [last] at h
      cases h
    | some record =>
      rw [last] at h
      cases h
      simp only [Log.next, last]
      exact ⟨rfl, rfl⟩

/-- An append that succeeds adds its record at the end of its chain. -/
theorem append (chains : EvidenceChains sha256 conversions records rows) (stable : conversions.Stable)
    (built : call.source.Built conversions)
    (h : appendVersion conversions sha256 rows call uuid now = .ok (record, rows')) :
    EvidenceChains sha256 conversions (records ++ [record]) rows' := by
  obtain ⟨key, -, back, hash, fresh, rfl⟩ := appendVersion_ok stable built h
  obtain ⟨version, previous⟩ := chains.next key fresh
  refine ⟨?_, ?_, chains.chains.snoc version previous hash⟩
  · rw [chains.rows, List.map_append]
    rfl
  · intro other member
    rcases List.mem_append.mp member with old | new
    · exact chains.sources other old
    · rw [List.mem_singleton.mp new]
      exact back

end EvidenceChains

end

/-! ## Runs -/

def WriteAnswer.version? : WriteAnswer → Option EvidenceVersion
  | .evidence (.version record) => some record
  | _ => none

def WriteAnswer.snapshot? : WriteAnswer → Option ElectionRegistrySnapshot
  | .snapshot s => some s
  | _ => none

/-- The models among the arguments were built by pydantic. -/
def WriteRequest.Built (conversions : Conversions) : WriteRequest → Prop
  | .evidence (.appendVersion call _ _) => call.source.Built conversions
  | .registry payload _ _ => payload.Built conversions
  | _ => True

/-- The URL of a registry that is appended can be read again. -/
def WriteRequest.UrlAccepted (conversions : Conversions) : WriteRequest → Prop
  | .registry payload _ _ => payload.UrlAccepted conversions
  | _ => True

/-- What holds of both stores after the requests that were answered. -/
structure StoresChained (sha256 : Bytes → Digest) (conversions : Conversions) (answers : List WriteAnswer)
    (stores : Stores) : Prop where
  versions : ∀ evidenceId, (evidenceRows stores.evidence.versions evidenceId).map (·.version) =
    List.range' 1 (evidenceRows stores.evidence.versions evidenceId).length
  snapshots : ∀ electionId, (registryRows stores.registry electionId).map (·.version) =
    List.range' 1 (registryRows stores.registry electionId).length
  storedVersions : stores.evidence.versions = (answers.filterMap (·.version?)).map (·.row)
  storedSnapshots : stores.registry = (answers.filterMap (·.snapshot?)).map (·.row)
  verifiedVersions : ∀ evidenceId, verifyEvidenceChain conversions sha256 stores.evidence.versions evidenceId =
    .ok ⟨evidenceId, true, (evidenceRows stores.evidence.versions evidenceId).length, none⟩
  verifiedSnapshots : ∀ electionId, verifyRegistryChain sha256 conversions stores.registry electionId =
    .ok ⟨electionId, true, (registryRows stores.registry electionId).length, none⟩

/-- A condition on the registry that is appended. -/
def WriteRequest.Registers (known : ElectionRegistryPayload → Prop) : WriteRequest → Prop
  | .registry payload _ _ => known payload
  | _ => True

/-- What a run keeps, whether its payloads can be read or not; `known` is what is known of
the registries that are appended. -/
structure RunChains (sha256 : Bytes → Digest) (conversions : Conversions)
    (known : ElectionRegistryPayload → Prop) (answers : List WriteAnswer) (stores : Stores) : Prop where
  evidence : EvidenceChains sha256 conversions (answers.filterMap (·.version?)) stores.evidence.versions
  registry : RegistryChains sha256 (answers.filterMap (·.snapshot?)) stores.registry
  payloads : ∀ s ∈ answers.filterMap (·.snapshot?), known s.payload

section
variable {sha256 : Bytes → Digest} {conversions : FieldConversions}

theorem addAttestation_versions {db : EvidenceDb} (h : db.addAttestation attestation gap = .ok (done, db')) :
    db'.versions = db.versions := by
  obtain ⟨found, -, h⟩ := bind_ok h
  cases found with
  | none => cases h
  | some record =>
    obtain ⟨_, -, h⟩ := bind_ok h
    dsimp only at h
    split at h <;> cases h <;> rfl

theorem addExtraction_versions {db : EvidenceDb}
    (h : db.addExtraction conversions call uuid now = .ok (record, db')) : db'.versions = db.versions := by
  obtain ⟨evidence, -, h⟩ := bind_ok h
  obtain ⟨_, -, h⟩ := bind_ok h
  obtain ⟨_, -, h⟩ := bind_ok h
  split at h
  · dsimp only at h
    split at h <;> cases h
    rfl
  · cases h

theorem addExtractionReview_versions {db : EvidenceDb}
    (h : db.addExtractionReview conversions extractionId submission uuid now = .ok (review, db')) :
    db'.versions = db.versions := by
  obtain ⟨extraction, -, h⟩ := bind_ok h
  obtain ⟨_, -, h⟩ := bind_ok h
  dsimp only at h
  split at h <;> cases h
  rfl

/-- Only `append_version` touches the table of versions. -/
theorem serveEvidence_versions {db : EvidenceDb}
    (h : serveEvidence sha256 conversions db request = .ok (answer, db')) :
    (∃ call uuid now record, request = .appendVersion call uuid now ∧ answer = .version record ∧
      appendVersion conversions.toConversions sha256 db.versions call uuid now =
        .ok (record, db'.versions)) ∨
    db'.versions = db.versions ∧ ∀ record, answer ≠ .version record := by
  cases request with
  | appendVersion call uuid now =>
    obtain ⟨⟨record, versions⟩, appended, h⟩ := bind_ok h
    cases h
    exact .inl ⟨call, uuid, now, record, rfl, rfl, appended⟩
  | addAttestation attestation gap =>
    obtain ⟨⟨done, after⟩, attested, h⟩ := bind_ok h
    cases h
    exact .inr ⟨addAttestation_versions attested, fun _ same => by cases same⟩
  | addExtraction call uuid now =>
    obtain ⟨⟨record, after⟩, extracted, h⟩ := bind_ok h
    cases h
    exact .inr ⟨addExtraction_versions extracted, fun _ same => by cases same⟩
  | addExtractionReview extractionId submission uuid now =>
    obtain ⟨⟨review, after⟩, reviewed, h⟩ := bind_ok h
    cases h
    exact .inr ⟨addExtractionReview_versions reviewed, fun _ same => by cases same⟩

/-- A request that is answered keeps every chain. -/
theorem RunChains.serve {stores : Stores} (stable : conversions.Stable)
    (chains : RunChains sha256 conversions.toConversions known answers stores)
    (built : request.Built conversions.toConversions) (registers : request.Registers known)
    (h : serveWrite sha256 conversions stores request = .ok (answer, stores')) :
    RunChains sha256 conversions.toConversions known (answers ++ [answer]) stores' := by
  cases request with
  | evidence request =>
    obtain ⟨⟨answered, db⟩, served, h⟩ := bind_ok h
    cases h
    have snapshots : (answers ++ [WriteAnswer.evidence answered]).filterMap (·.snapshot?) =
        answers.filterMap (·.snapshot?) := by simp [WriteAnswer.snapshot?]
    refine ⟨?_, by rw [snapshots]; exact chains.registry, by rw [snapshots]; exact chains.payloads⟩
    rcases serveEvidence_versions served with
      ⟨call, uuid, now, record, rfl, rfl, appended⟩ | ⟨kept, other⟩
    · simpa [WriteAnswer.version?] using chains.evidence.append stable built appended
    · have versions : (answers ++ [WriteAnswer.evidence answered]).filterMap (·.version?) =
          answers.filterMap (·.version?) := by
        cases answered with
        | version record => exact absurd rfl (other record)
        | attested | extraction | review => simp [WriteAnswer.version?]
      rw [versions, kept]
      exact chains.evidence
  | registry payload uuid storedAt =>
    obtain ⟨⟨s, rows⟩, appended, h⟩ := bind_ok h
    cases h
    obtain ⟨registry, rfl⟩ := chains.registry.append appended
    refine ⟨by simpa [WriteAnswer.version?] using chains.evidence,
      by simpa [WriteAnswer.snapshot?] using registry, ?_⟩
    intro t member
    simp only [WriteAnswer.snapshot?, List.filterMap_append, List.filterMap_cons, List.filterMap_nil,
      List.mem_append, List.mem_singleton] at member
    rcases member with old | rfl
    · exact chains.payloads t old
    · exact registers

theorem run_chains (stable : conversions.Stable)
    (built : ∀ request ∈ requests, request.Built conversions.toConversions)
    (registers : ∀ request ∈ requests, request.Registers known) :
    RunChains sha256 conversions.toConversions known
      (Requests.accepted (serveWrite sha256 conversions) .empty requests)
      (Requests.run (serveWrite sha256 conversions) .empty requests) := by
  have initial : RunChains sha256 conversions.toConversions known [] .empty := ⟨.nil, .nil, by simp⟩
  have good : Requests.Meets (serveWrite sha256 conversions)
      (fun _ request => request.Built conversions.toConversions ∧ request.Registers known) .empty requests :=
    Requests.Meets.of_forall fun request member _ => ⟨built request member, registers request member⟩
  simpa using Requests.run_invariant
    (fun _ _ _ _ _ chains good served => RunChains.serve stable chains good.1 good.2 served) initial good

/-- A stored payload that can be read has a URL that is accepted. -/
theorem modelValidate_url {conversions : Conversions} {payload read : ElectionRegistryPayload}
    (h : ElectionRegistryPayload.modelValidate conversions payload.dict.toJson = .ok read) :
    payload.UrlAccepted conversions := by
  obtain ⟨entries, object, h⟩ := bind_ok h
  cases object
  obtain ⟨_, -, h⟩ := bind_ok h
  obtain ⟨_, -, h⟩ := bind_ok h
  obtain ⟨_, -, h⟩ := bind_ok h
  obtain ⟨_, -, h⟩ := bind_ok h
  obtain ⟨_, -, h⟩ := bind_ok h
  obtain ⟨source, readSource, -⟩ := bind_ok h
  have stored : (lookup "source" payload.dict.entries).getD .null = payload.source.dict.toJson := by
    simp [ElectionRegistryPayload.dict, lookup]
  rw [stored] at readSource
  obtain ⟨entries, object, readSource⟩ := bind_ok readSource
  cases object
  obtain ⟨_, -, readSource⟩ := bind_ok readSource
  obtain ⟨_, -, readSource⟩ := bind_ok readSource
  obtain ⟨other, readUrl, -⟩ := bind_ok readSource
  have field : optionalField payload.source.dict.entries "source_url" = .ok payload.source.sourceUrl := by
    simp [optionalField, RegistrySource.dict, lookup]
  rw [optionalUrlField, field] at readUrl
  intro url found refused
  rw [Option.mem_def.mp found] at readUrl
  simp only [ok_bind, refused] at readUrl
  cases readUrl

/-- The registry chain of an election verifies exactly when the URLs of its payloads can be
read again. -/
theorem RunChains.verified_iff (stable : conversions.Stable)
    (chains : RunChains sha256 conversions.toConversions known answers stores)
    (built : ∀ payload, known payload → payload.Built conversions.toConversions) (electionId : String) :
    verifyRegistryChain sha256 conversions.toConversions stores.registry electionId =
        .ok ⟨electionId, true, (registryRows stores.registry electionId).length, none⟩ ↔
      ∀ s ∈ answers.filterMap (·.snapshot?), s.electionId = electionId →
        s.payload.UrlAccepted conversions.toConversions := by
  constructor
  · intro verified s member election
    obtain ⟨read, validated⟩ := chains.registry.verified_reads verified s member election
    exact modelValidate_url validated
  · intro accepted
    rw [chains.registry.ordered, List.length_map]
    exact chains.registry.verified fun s member election =>
      (readsBack_iff stable (built _ (chains.payloads s member))).mpr (accepted s member election)

/-- In every run of the writers whose registries have URLs that can be read again, the
versions are numbered without gaps, each answer is stored once, what fails changes nothing
and every chain verifies. -/
theorem stores_chained (sha256 : Bytes → Digest) (conversions : FieldConversions)
    (stable : conversions.Stable) (requests : List WriteRequest)
    (built : ∀ request ∈ requests, request.Built conversions.toConversions)
    (accepted : ∀ request ∈ requests, request.UrlAccepted conversions.toConversions) :
    let serve := serveWrite sha256 conversions
    let stores := Requests.run serve .empty requests
    StoresChained sha256 conversions.toConversions (Requests.accepted serve .empty requests) stores ∧
      ∀ request error, serve stores request = .error error → Requests.next serve stores request = stores := by
  have chains := @run_chains sha256 conversions requests
    (fun payload => payload.Built conversions.toConversions ∧ payload.UrlAccepted conversions.toConversions)
    stable built fun request member => by
      cases request with
      | evidence request => trivial
      | registry payload uuid storedAt => exact ⟨built _ member, accepted _ member⟩
  refine ⟨⟨fun evidenceId => ?_, fun electionId => ?_, chains.evidence.rows, chains.registry.rows,
    fun evidenceId => ?_, fun electionId => ?_⟩, fun _ _ failed => Requests.next_error failed⟩
  · rw [chains.evidence.ordered, List.map_map, List.length_map]
    exact chains.evidence.chains.numbered evidenceId
  · rw [chains.registry.ordered, List.map_map, List.length_map]
    exact chains.registry.chains.numbered electionId
  · rw [chains.evidence.ordered, List.length_map]
    exact chains.evidence.verified evidenceId
  · exact (chains.verified_iff stable (fun _ known => known.1) electionId).mpr fun s member _ =>
      (chains.payloads s member).2

end

/-- Percent encoding of the blanks of a path. -/
def encodeBlank (c : Char) : List Char := if c = ' ' then ['%', '2', '0'] else [c]

/-- A URL has at most 2083 characters when it is read; its normal form has no blanks. -/
def blankUrl (text : String) : Option String :=
  if text.length ≤ 2083 then some (String.ofList (text.toList.flatMap encodeBlank)) else none

def blankConversions : FieldConversions where
  toConversions := { sampleConversions with url := blankUrl }
  number
    | .float x => some x
    | _ => none
  number_float _ := rfl
  written := (·.isoformat)

theorem encodeBlank_again (text : List Char) :
    (text.flatMap encodeBlank).flatMap encodeBlank = text.flatMap encodeBlank := by
  rw [List.flatMap_assoc]
  refine List.flatMap_congr fun c _ => ?_
  by_cases blank : c = ' '
  · subst blank
    rfl
  · simp [encodeBlank, blank]

theorem blankUrl_again (h : blankUrl text = some url) (again : blankUrl url = some other) : other = url := by
  simp only [blankUrl, Option.ite_none_right_eq_some, Option.some.injEq] at h again
  rw [← again.2, ← h.2, String.toList_ofList, encodeBlank_again]

theorem blankConversions_stable : blankConversions.Stable where
  datetime value text h := by
    cases value with
    | str written => cases h; rfl
    | null | bool | int | float | arr | obj => cases h
  url _ _ _ := blankUrl_again

/-- A URL with `n` blanks in its path. -/
def blankPath (n : Nat) : List Char :=
  ['h', 't', 't', 'p', ':', '/', '/', 'a', '/'] ++ (List.replicate n ' ' ++ ['b'])

theorem blankPath_length (n : Nat) : (blankPath n).length = n + 10 := by
  simp [blankPath]

theorem encodeBlanks_length (n : Nat) : ((blankPath n).flatMap encodeBlank).length = 3 * n + 10 := by
  have blanks : ((List.replicate n ' ').flatMap encodeBlank).length = 3 * n := by
    induction n with
    | zero => rfl
    | succ n ih => rw [List.replicate_succ, List.flatMap_cons, List.length_append, ih]; simp [encodeBlank]; omega
  rw [blankPath, List.flatMap_append, List.flatMap_append, List.length_append, List.length_append, blanks]
  simp only [encodeBlank, List.flatMap_cons, List.flatMap_nil]
  simp
  omega

/-- 700 blanks pass the limit, and their normal form does not. -/
theorem blankUrl_long : ∃ text url, blankUrl text = some url ∧ blankUrl url = none := by
  refine ⟨String.ofList (blankPath 700), _, if_pos ?_, if_neg ?_⟩
  · rw [String.length_ofList, blankPath_length]
    decide
  · rw [String.length_ofList, String.toList_ofList, encodeBlanks_length]
    decide

def sampleNow : Timestamp := .aware (Datetime.utc 0 Datetime.epoch_range)

/-- A registry of election `e` with a source URL. -/
def linkedRegistry (url : Option String) : ElectionRegistryPayload :=
  { sampleRegistry ["a", "b"] ["u", "v"] with source := ⟨"p", url, "t", none⟩ }

theorem linkedRegistry_built {text url : String} (normal : blankConversions.url text = some url) :
    (linkedRegistry (some url)).Built blankConversions.toConversions := by
  refine ⟨?_, ⟨.str "d", rfl⟩, ⟨.str "t", rfl⟩, ?_⟩
  · have valid : (linkedRegistry none).validate = .ok () := by decide +kernel
    exact valid
  · intro other found
    cases found
    exact ⟨text, normal⟩

def sampleCall (evidenceId : Option String) : AppendCall where
  artifact := ⟨checksum [], 1, Sql.one_lt_integerLimit⟩
  electionId := "e"
  pollingUnitCode := "u"
  documentType := "EC8A"
  source := ⟨⟨"p", by decide⟩, .other, none⟩
  observedAt := sampleNow
  mediaType := none
  filename := none
  evidenceId := evidenceId

/-- A registry and two versions of one evidence id. -/
def sampleRequests : List WriteRequest := [
  .registry (linkedRegistry (some "http://a/%20")) "0" sampleNow,
  .evidence (.appendVersion (sampleCall none) "1" sampleNow),
  .evidence (.appendVersion (sampleCall (some "bp_ev_1")) "2" sampleNow)]

theorem stores_chained_example :
    (Requests.accepted (serveWrite checksum blankConversions) .empty sampleRequests).length = 3 ∧
      StoresChained checksum blankConversions.toConversions
        (Requests.accepted (serveWrite checksum blankConversions) .empty sampleRequests)
        (Requests.run (serveWrite checksum blankConversions) .empty sampleRequests) := by
  have answered : (Requests.accepted (serveWrite checksum blankConversions) .empty sampleRequests).length =
      3 := by decide +kernel
  have valid : (linkedRegistry (some "http://a/%20")).UrlAccepted blankConversions.toConversions := by
    intro url found
    cases found
    decide +kernel
  have unchanged : blankConversions.url "http://a/%20" = some "http://a/%20" := by decide +kernel
  have normalized := linkedRegistry_built unchanged
  refine ⟨answered, (stores_chained _ _ blankConversions_stable _ ?_ ?_).1⟩
  · simp only [sampleRequests, List.forall_mem_cons]
    refine ⟨normalized, ?_, ?_, by simp⟩
    · rintro url ⟨⟩
    · rintro url ⟨⟩
  · simp only [sampleRequests, List.forall_mem_cons]
    exact ⟨valid, trivial, trivial, by simp⟩

/-- A registry whose URL gets longer than a URL may be when it is normalized. -/
theorem longUrl_unreadable :
    ∃ conversions : FieldConversions, conversions.Stable ∧
      ∃ requests : List WriteRequest, (∀ request ∈ requests, request.Built conversions.toConversions) ∧
        ∀ sha256, (Requests.accepted (serveWrite sha256 conversions) .empty requests).length = 1 ∧
          ¬∃ report, verifyRegistryChain sha256 conversions.toConversions
            (Requests.run (serveWrite sha256 conversions) .empty requests).registry "e" = .ok report := by
  obtain ⟨text, url, normal, long⟩ := blankUrl_long
  have built := linkedRegistry_built normal
  let requests : List WriteRequest := [.registry (linkedRegistry (some url)) "0" sampleNow]
  have all : ∀ request ∈ requests, request.Built blankConversions.toConversions := by
    simpa [requests, WriteRequest.Built] using built
  refine ⟨blankConversions, blankConversions_stable, requests, all, fun sha256 => ⟨rfl, ?_⟩⟩
  rintro ⟨report, reported⟩
  have chains := @run_chains sha256 blankConversions requests (fun _ => True) blankConversions_stable all
    fun request _ => by cases request <;> trivial
  obtain ⟨read, validated⟩ := chains.registry.verified_reads reported _ List.mem_cons_self rfl
  exact modelValidate_url validated url rfl long

end BallotProof
