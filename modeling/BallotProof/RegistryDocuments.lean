import BallotProof.Registry

/-! Registry payloads as documents: reading one back from its JSON, with every check made
again, and the reduced document that is hashed. -/
namespace BallotProof
open Python

attribute [simp] ok_bind

@[simp] theorem map_ok_eq (a : α) (f : α → β) : f <$> (Except.ok a : Result α) = .ok (f a) := rfl

/-- Items that are each read back from what is written of them. -/
theorem mapM_map_back {write : α → β} {read : β → Result α} {items : List α}
    (back : ∀ item ∈ items, read (write item) = .ok item) : (items.map write).mapM read = .ok items := by
  induction items with
  | nil => rfl
  | cons item rest ih =>
    rw [List.map_cons, List.mapM_cons, back item List.mem_cons_self,
      ih fun other member => back other (List.mem_cons_of_mem _ member)]
    rfl

/-- The conversions of pydantic that the models leave to it: the text JSON mode writes of the
datetime read from a value, the normal form of a URL, and the integer read from a value. -/
structure Conversions where
  datetime : Json → Option String
  url : String → Option String
  integer : Json → Option Int
  integer_int : ∀ n, integer (.int n) = some n

/-- `extra="forbid"` -/
def onlyFields (names : List String) (entries : List (String × Json)) : Result Unit :=
  require (∀ entry ∈ entries, entry.1 ∈ names) "Extra inputs are not permitted"

def objectOf : Json → Result (List (String × Json))
  | .obj entries => .ok entries
  | _ => rejected "Input should be an object"

def textField (entries : List (String × Json)) (name : String) : Result String :=
  match lookup name entries with
  | some (.str text) => .ok text
  | some _ => rejected "Input should be a valid string"
  | none => rejected "Field required"

/-- A value of type `str | None` with default `None`. -/
def optionalOf : Option Json → Result (Option String)
  | some (.str text) => .ok (some text)
  | some .null | none => .ok none
  | some _ => rejected "Input should be a valid string"

def optionalField (entries : List (String × Json)) (name : String) : Result (Option String) :=
  optionalOf (lookup name entries)

/-- A field with the pattern `^[a-f0-9]{64}$`. -/
def hashField (entries : List (String × Json)) (name : String) : Result Digest := do
  let text ← textField entries name
  match Digest.ofHex text with
  | some digest => .ok digest
  | none => rejected "String should match pattern '^[a-f0-9]{64}$'"

def optionalHashField (entries : List (String × Json)) (name : String) : Result (Option Digest) := do
  match ← optionalField entries name with
  | none => .ok none
  | some text =>
    match Digest.ofHex text with
    | some digest => .ok (some digest)
    | none => rejected "String should match pattern '^[a-f0-9]{64}$'"

/-- A field of type `list[...]` with an empty default. -/
def listField (entries : List (String × Json)) (name : String) (read : Json → Result α) :
    Result (List α) :=
  match lookup name entries with
  | some (.arr items) => items.mapM read
  | none => .ok []
  | some _ => rejected "Input should be a valid list"

/-- A field that is a model or `None`, the default. -/
def optionalModelField (entries : List (String × Json)) (name : String) (read : Json → Result α) :
    Result (Option α) :=
  match lookup name entries with
  | none | some .null => .ok none
  | some value => (read value).map some

section
variable (conversions : Conversions)

def datetimeField (entries : List (String × Json)) (name : String) : Result String :=
  match lookup name entries with
  | some value =>
    match conversions.datetime value with
    | some text => .ok text
    | none => rejected "Input should be a valid datetime"
  | none => rejected "Field required"

def optionalUrlField (entries : List (String × Json)) (name : String) : Result (Option String) := do
  match ← optionalField entries name with
  | none => .ok none
  | some text =>
    match conversions.url text with
    | some url => .ok (some url)
    | none => rejected "Input should be a valid URL"

def readRegistrySource (value : Json) : Result RegistrySource := do
  let entries ← objectOf value
  onlyFields ["provider", "source_url", "retrieved_at", "source_sha256"] entries
  let provider ← textField entries "provider"
  let sourceUrl ← optionalUrlField conversions entries "source_url"
  let retrievedAt ← datetimeField conversions entries "retrieved_at"
  let sourceSha256 ← optionalHashField entries "source_sha256"
  return ⟨provider, sourceUrl, retrievedAt, sourceSha256⟩

def readRegistryProfileBinding (value : Json) : Result RegistryProfileBinding := do
  let entries ← objectOf value
  onlyFields ["profile_id", "profile_version", "profile_hash"] entries
  let profileId ← textField entries "profile_id"
  let profileHash ← hashField entries "profile_hash"
  match (lookup "profile_version" entries).bind conversions.integer with
  | some (.ofNat n) =>
    if fits : intFits n = true then return ⟨profileId, n, profileHash, fits⟩
    else rejected "Unable to parse input string as an integer, exceeded maximum size"
  | some (.negSucc _) => rejected "Input should be greater than or equal to 1"
  | none => rejected "Input should be a valid integer"

def readRegistryOffice (value : Json) : Result RegistryOffice := do
  let entries ← objectOf value
  onlyFields ["office_id", "name", "level"] entries
  return ⟨← textField entries "office_id", ← textField entries "name", ← textField entries "level"⟩

def readRegistryCandidate (value : Json) : Result RegistryCandidate := do
  let entries ← objectOf value
  onlyFields ["candidate_id", "office_id", "name", "party_id", "ballot_label"] entries
  return ⟨← textField entries "candidate_id", ← textField entries "office_id",
    ← textField entries "name", ← textField entries "party_id", ← optionalField entries "ballot_label"⟩

def readRegistryContest (value : Json) : Result RegistryContest := do
  let entries ← objectOf value
  onlyFields ["contest_id", "name", "scope", "contest_type", "choice_kind"] entries
  return ⟨← textField entries "contest_id", ← textField entries "name", ← textField entries "scope",
    ← textField entries "contest_type", ← textField entries "choice_kind"⟩

def readRegistryChoice (value : Json) : Result RegistryChoice := do
  let entries ← objectOf value
  onlyFields ["choice_id", "contest_id", "name", "affiliation_id", "ballot_label"] entries
  return ⟨← textField entries "choice_id", ← textField entries "contest_id", ← textField entries "name",
    ← optionalField entries "affiliation_id", ← optionalField entries "ballot_label"⟩

def readRegistryUnit (value : Json) : Result RegistryUnit := do
  let entries ← objectOf value
  onlyFields ["unit_id", "unit_type", "name", "parent_id"] entries
  return ⟨← textField entries "unit_id", ← textField entries "unit_type",
    ← optionalField entries "name", ← optionalField entries "parent_id"⟩

def readRegistryTopologyEdge (value : Json) : Result RegistryTopologyEdge := do
  let entries ← objectOf value
  onlyFields ["parent_id", "child_id"] entries
  return ⟨← textField entries "parent_id", ← textField entries "child_id"⟩

/-- `ElectionRegistryPayload.model_validate_json`, of the document that the text holds. -/
def ElectionRegistryPayload.modelValidate (value : Json) : Result ElectionRegistryPayload := do
  let entries ← objectOf value
  onlyFields ["election_id", "election_name", "country_code", "election_date", "source", "offices",
    "candidates", "contests", "choices", "units", "topology", "jurisdiction_profile"] entries
  let electionId ← textField entries "election_id"
  let electionName ← textField entries "election_name"
  let countryCode ← textField entries "country_code"
  let electionDate ← datetimeField conversions entries "election_date"
  let source ← readRegistrySource conversions ((lookup "source" entries).getD .null)
  let offices ← listField entries "offices" readRegistryOffice
  let candidates ← listField entries "candidates" readRegistryCandidate
  let contests ← listField entries "contests" readRegistryContest
  let choices ← listField entries "choices" readRegistryChoice
  let units ← listField entries "units" readRegistryUnit
  let topology ← listField entries "topology" readRegistryTopologyEdge
  let jurisdictionProfile ←
    optionalModelField entries "jurisdiction_profile" (readRegistryProfileBinding conversions)
  let payload : ElectionRegistryPayload := ⟨electionId, electionName, countryCode, electionDate, source,
    offices, candidates, contests, choices, units, topology, jurisdictionProfile⟩
  payload.validate
  return payload

end

/-- The texts of a validated payload are the ones that JSON mode writes, and they are read
back as they are. -/
structure ElectionRegistryPayload.ReadsBack (conversions : Conversions)
    (payload : ElectionRegistryPayload) : Prop where
  valid : payload.validate = .ok ()
  electionDate : conversions.datetime (.str payload.electionDate) = some payload.electionDate
  retrievedAt : conversions.datetime (.str payload.source.retrievedAt) = some payload.source.retrievedAt
  sourceUrl : ∀ url ∈ payload.source.sourceUrl, conversions.url url = some url

section
variable {conversions : Conversions}

theorem textField_str (h : lookup name entries = some (.str text)) :
    textField entries name = .ok text := by simp [textField, h]

@[simp] theorem optionalOf_text (text : Option String) :
    optionalOf (some (optionalText text)) = .ok text := by
  cases text <;> rfl

theorem hashField_hex {digest : Digest} (h : lookup name entries = some (.str digest.hex)) :
    hashField entries name = .ok digest := by
  simp [hashField, textField_str h]

theorem optionalHashField_hash (h : lookup name entries = some (optionalHash digest)) :
    optionalHashField entries name = .ok digest := by
  rw [optionalHashField, optionalField, h, optionalHash, optionalOf_text]
  cases digest <;> simp

theorem listField_map {dump : α → Json} {read : Json → Result α}
    (h : lookup name entries = some (.arr (items.map dump))) (back : ∀ item, read (dump item) = .ok item) :
    listField entries name read = .ok items := by
  simp only [listField, h]
  clear h
  induction items with
  | nil => rfl
  | cons item rest ih => simp [List.mapM_cons, back, ih]

/-- What was checked when a payload was read holds of what it is dumped to. -/
theorem readItems_modelDump :
    (∀ o : RegistryOffice, readRegistryOffice o.modelDump = .ok o) ∧
    (∀ c : RegistryCandidate, readRegistryCandidate c.modelDump = .ok c) ∧
    (∀ c : RegistryContest, readRegistryContest c.modelDump = .ok c) ∧
    (∀ c : RegistryChoice, readRegistryChoice c.modelDump = .ok c) ∧
    (∀ u : RegistryUnit, readRegistryUnit u.modelDump = .ok u) ∧
    ∀ e : RegistryTopologyEdge, readRegistryTopologyEdge e.modelDump = .ok e := by
  refine ⟨fun o => ?_, fun c => ?_, fun c => ?_, fun c => ?_, fun u => ?_, fun e => ?_⟩
  · simp [readRegistryOffice, RegistryOffice.modelDump, objectOf, onlyFields, require, textField, lookup]
  · simp [readRegistryCandidate, RegistryCandidate.modelDump, objectOf, onlyFields, require, textField,
      optionalField, lookup]
  · simp [readRegistryContest, RegistryContest.modelDump, objectOf, onlyFields, require, textField, lookup]
  · simp [readRegistryChoice, RegistryChoice.modelDump, objectOf, onlyFields, require, textField,
      optionalField, lookup]
  · simp [readRegistryUnit, RegistryUnit.modelDump, objectOf, onlyFields, require, textField,
      optionalField, lookup]
  · simp [readRegistryTopologyEdge, RegistryTopologyEdge.modelDump, objectOf, onlyFields, require,
      textField, lookup]

theorem readRegistryProfileBinding_modelDump (p : RegistryProfileBinding) :
    readRegistryProfileBinding conversions p.modelDump = .ok p := by
  have version : conversions.integer (.int (p.profileVersion : Int)) = some (.ofNat p.profileVersion) :=
    conversions.integer_int _
  simp [readRegistryProfileBinding, RegistryProfileBinding.modelDump, objectOf, onlyFields, require,
    textField, hashField, lookup, version, p.fits]

theorem readRegistrySource_dict (payload : ElectionRegistryPayload)
    (back : payload.ReadsBack conversions) :
    readRegistrySource conversions payload.source.dict.toJson = .ok payload.source := by
  have url : optionalUrlField conversions payload.source.dict.entries "source_url" =
      .ok payload.source.sourceUrl := by
    have field : optionalField payload.source.dict.entries "source_url" = .ok payload.source.sourceUrl := by
      simp [optionalField, RegistrySource.dict, lookup]
    rw [optionalUrlField, field]
    cases found : payload.source.sourceUrl with
    | none => rfl
    | some url => simp [back.sourceUrl url found]
  have retrieved : datetimeField conversions payload.source.dict.entries "retrieved_at" =
      .ok payload.source.retrievedAt := by
    simp [datetimeField, RegistrySource.dict, lookup, back.retrievedAt]
  have hash : optionalHashField payload.source.dict.entries "source_sha256" =
      .ok payload.source.sourceSha256 :=
    optionalHashField_hash (by simp [RegistrySource.dict, lookup])
  have provider : textField payload.source.dict.entries "provider" = .ok payload.source.provider :=
    textField_str (by simp [RegistrySource.dict, lookup])
  have names : onlyFields ["provider", "source_url", "retrieved_at", "source_sha256"]
      payload.source.dict.entries = .ok () := by
    simp [onlyFields, require, RegistrySource.dict]
  simp only [readRegistrySource, Dict.toJson, objectOf, ok_bind, names, provider, url, retrieved, hash]
  rfl

/-- A validated payload is read back from what is stored of it. -/
theorem modelValidate_dict {payload : ElectionRegistryPayload} (back : payload.ReadsBack conversions) :
    ElectionRegistryPayload.modelValidate conversions payload.dict.toJson = .ok payload := by
  obtain ⟨offices, candidates, contests, choices, units, topology⟩ := readItems_modelDump
  have names : onlyFields ["election_id", "election_name", "country_code", "election_date", "source",
      "offices", "candidates", "contests", "choices", "units", "topology", "jurisdiction_profile"]
      payload.dict.entries = .ok () := by
    simp [onlyFields, require, ElectionRegistryPayload.dict]
  have date : datetimeField conversions payload.dict.entries "election_date" = .ok payload.electionDate := by
    simp [datetimeField, ElectionRegistryPayload.dict, lookup, back.electionDate]
  have source : (lookup "source" payload.dict.entries).getD .null = payload.source.dict.toJson := by
    simp [ElectionRegistryPayload.dict, lookup]
  have profile : optionalModelField payload.dict.entries "jurisdiction_profile"
      (readRegistryProfileBinding conversions) = .ok payload.jurisdictionProfile := by
    have found : lookup "jurisdiction_profile" payload.dict.entries =
        some ((payload.jurisdictionProfile.map (·.modelDump)).getD .null) := by
      simp [ElectionRegistryPayload.dict, lookup]
    rw [optionalModelField, found]
    cases payload.jurisdictionProfile with
    | none => rfl
    | some p => exact congrArg (Except.map some) (readRegistryProfileBinding_modelDump p)
  have text (name value : String) (found : lookup name payload.dict.entries = some (.str value)) :
      textField payload.dict.entries name = .ok value := textField_str found
  have electionId := text "election_id" payload.electionId (by simp [ElectionRegistryPayload.dict, lookup])
  have electionName := text "election_name" payload.electionName
    (by simp [ElectionRegistryPayload.dict, lookup])
  have countryCode := text "country_code" payload.countryCode
    (by simp [ElectionRegistryPayload.dict, lookup])
  have officeList : listField payload.dict.entries "offices" readRegistryOffice = .ok payload.offices :=
    listField_map (by simp [ElectionRegistryPayload.dict, lookup]) offices
  have candidateList : listField payload.dict.entries "candidates" readRegistryCandidate =
      .ok payload.candidates := listField_map (by simp [ElectionRegistryPayload.dict, lookup]) candidates
  have contestList : listField payload.dict.entries "contests" readRegistryContest = .ok payload.contests :=
    listField_map (by simp [ElectionRegistryPayload.dict, lookup]) contests
  have choiceList : listField payload.dict.entries "choices" readRegistryChoice = .ok payload.choices :=
    listField_map (by simp [ElectionRegistryPayload.dict, lookup]) choices
  have unitList : listField payload.dict.entries "units" readRegistryUnit = .ok payload.units :=
    listField_map (by simp [ElectionRegistryPayload.dict, lookup]) units
  have edgeList : listField payload.dict.entries "topology" readRegistryTopologyEdge = .ok payload.topology :=
    listField_map (by simp [ElectionRegistryPayload.dict, lookup]) topology
  simp only [ElectionRegistryPayload.modelValidate, Dict.toJson, objectOf, ok_bind, names, electionId,
    electionName, countryCode, date, officeList, candidateList, contestList, choiceList, unitList,
    edgeList, profile]
  rw [source, readRegistrySource_dict payload back]
  simp only [ok_bind, back.valid]
  rfl

end

/-! ## The document that is hashed -/

namespace ElectionRegistryPayload
variable (payload : ElectionRegistryPayload)

def neutral : Bool := !payload.contests.isEmpty || !payload.choices.isEmpty

def legacy : Bool := !payload.offices.isEmpty || !payload.candidates.isEmpty

/-- `registry_payload_hash_document` -/
def hashDocument : Dict :=
  let document := payload.dict
  let document :=
    if payload.jurisdictionProfile.isNone then document.pop "jurisdiction_profile" else document
  let document := if payload.neutral then document else (document.pop "contests").pop "choices"
  if payload.legacy then document else (document.pop "offices").pop "candidates"

/-- The keys that are left out. -/
def dropped (key : String) : Bool :=
  (payload.jurisdictionProfile.isNone && key = "jurisdiction_profile") ||
    (!payload.neutral && (key = "contests" || key = "choices")) ||
    (!payload.legacy && (key = "offices" || key = "candidates"))

end ElectionRegistryPayload

theorem Dict.get_pop (d : Dict) (key other : String) :
    (d.pop key).get other = if other = key then none else d.get other := by
  split
  · rename_i same
    rw [same, Dict.get_pop_same]
  · rename_i apart
    exact Dict.get_pop_other d apart

theorem get_hashDocument (payload : ElectionRegistryPayload) (key : String) :
    payload.hashDocument.get key = if payload.dropped key then none else payload.dict.get key := by
  unfold ElectionRegistryPayload.hashDocument ElectionRegistryPayload.dropped
  cases payload.jurisdictionProfile.isNone <;> cases payload.neutral <;> cases payload.legacy <;>
    simp [Dict.get_pop] <;> grind

theorem optionalText_injective : Function.Injective optionalText := by
  intro a b same
  cases a <;> cases b <;> simp_all [optionalText]

theorem optionalHash_injective : Function.Injective optionalHash := by
  intro a b same
  have texts := optionalText_injective same
  cases a <;> cases b <;> simp_all

theorem registryItems_injective :
    Function.Injective RegistryOffice.modelDump ∧ Function.Injective RegistryCandidate.modelDump ∧
    Function.Injective RegistryContest.modelDump ∧ Function.Injective RegistryChoice.modelDump ∧
    Function.Injective RegistryUnit.modelDump ∧ Function.Injective RegistryTopologyEdge.modelDump := by
  obtain ⟨offices, candidates, contests, choices, units, topology⟩ := readItems_modelDump
  have back {α : Type} {dump : α → Json} {read : Json → Result α} (h : ∀ a, read (dump a) = .ok a) :
      Function.Injective dump := fun a b same => by
    have read_same := congrArg read same
    rw [h, h] at read_same
    exact Except.ok.inj read_same
  exact ⟨back offices, back candidates, back contests, back choices, back units, back topology⟩

theorem profileBinding_injective : Function.Injective RegistryProfileBinding.modelDump := by
  intro p q same
  simp only [RegistryProfileBinding.modelDump, Json.obj.injEq, List.cons.injEq, Prod.mk.injEq,
    true_and, Json.str.injEq, Json.int.injEq, Nat.cast_inj, Digest.hex_inj, and_true] at same
  obtain ⟨hash, id, version⟩ := same
  cases p
  cases q
  simp_all

theorem registrySource_injective : Function.Injective RegistrySource.dict := by
  intro s t same
  have entries := congrArg Dict.entries same
  simp only [RegistrySource.dict, List.cons.injEq, Prod.mk.injEq, true_and, Json.str.injEq,
    and_true, optionalText_injective.eq_iff, optionalHash_injective.eq_iff] at entries
  obtain ⟨provider, retrieved, hash, url⟩ := entries
  cases s
  cases t
  simp_all

theorem payloadDict_injective : Function.Injective ElectionRegistryPayload.dict := by
  intro payload other same
  obtain ⟨offices, candidates, contests, choices, units, topology⟩ := registryItems_injective
  have profiles : Function.Injective fun p : Option RegistryProfileBinding =>
      (p.map (·.modelDump)).getD .null := by
    intro p q same
    cases p <;> cases q
    · rfl
    · cases same
    · cases same
    · exact congrArg some (profileBinding_injective same)
  have sources : Function.Injective fun s : RegistrySource => s.dict.toJson :=
    Dict.toJson_injective.comp registrySource_injective
  have entries := congrArg Dict.entries same
  simp only [ElectionRegistryPayload.dict, List.cons.injEq, Prod.mk.injEq, true_and, and_true,
    Json.str.injEq, Json.arr.injEq, (List.map_injective_iff.mpr offices).eq_iff,
    (List.map_injective_iff.mpr candidates).eq_iff, (List.map_injective_iff.mpr contests).eq_iff,
    (List.map_injective_iff.mpr choices).eq_iff, (List.map_injective_iff.mpr units).eq_iff,
    (List.map_injective_iff.mpr topology).eq_iff] at entries
  obtain ⟨candidateEq, choiceEq, contestEq, country, date, id, name, profile, officeEq, source,
    edgeEq, unitEq⟩ := entries
  have profile := profiles profile
  have source := sources source
  cases payload
  cases other
  simp_all

/-- A key that is left out stands for its default. -/
theorem dropped_default (payload : ElectionRegistryPayload) (key : String)
    (left : payload.dropped key = true) :
    payload.dict.get key = some (if key = "jurisdiction_profile" then .null else .arr []) := by
  have none (h : payload.jurisdictionProfile.isNone = true) : payload.jurisdictionProfile = none :=
    Option.isNone_iff_eq_none.mp h
  simp only [ElectionRegistryPayload.dropped, ElectionRegistryPayload.neutral,
    ElectionRegistryPayload.legacy, Bool.or_eq_true, Bool.and_eq_true, decide_eq_true_eq,
    Bool.not_eq_true', Bool.or_eq_false_iff, Bool.not_eq_false', List.isEmpty_iff] at left
  rcases left with (⟨profile, rfl⟩ | ⟨⟨contests, choices⟩, rfl | rfl⟩) | ⟨⟨offices, candidates⟩, rfl | rfl⟩
  · simp [ElectionRegistryPayload.dict, Dict.get, lookup, none profile]
  · simp [ElectionRegistryPayload.dict, Dict.get, lookup, contests]
  · simp [ElectionRegistryPayload.dict, Dict.get, lookup, choices]
  · simp [ElectionRegistryPayload.dict, Dict.get, lookup, offices]
  · simp [ElectionRegistryPayload.dict, Dict.get, lookup, candidates]

/-- A key that both schemas have is never absent. -/
theorem dropped_known (payload other : ElectionRegistryPayload) (key : String)
    (left : payload.dropped key = true) : (other.dict.get key).isSome = true := by
  simp only [ElectionRegistryPayload.dropped, Bool.or_eq_true, Bool.and_eq_true,
    decide_eq_true_eq] at left
  rcases left with (⟨-, rfl⟩ | ⟨-, rfl | rfl⟩) | ⟨-, rfl | rfl⟩ <;>
    simp [ElectionRegistryPayload.dict, Dict.get, lookup]

/-- The document that is hashed determines the payload, in either schema. -/
theorem hashDocument_injective : Function.Injective ElectionRegistryPayload.hashDocument := by
  intro payload other same
  apply payloadDict_injective
  apply Dict.ext_get
  intro key
  have keys := get_hashDocument payload key
  rw [same, get_hashDocument other key] at keys
  cases left : payload.dropped key <;> cases right : other.dropped key
  · simpa [left, right] using keys.symm
  · have known := dropped_known other payload key right
    simp only [left, right, Bool.false_eq_true, if_true, if_false] at keys
    simp [← keys] at known
  · have known := dropped_known payload other key left
    simp only [left, right, Bool.false_eq_true, if_true, if_false] at keys
    simp [keys] at known
  · rw [dropped_default payload key left, dropped_default other key right]

end BallotProof
