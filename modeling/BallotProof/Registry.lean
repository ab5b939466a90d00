import BallotProof.Collation
import BallotProof.SemanticInvariance

/-! Election registry payloads: the legacy office schema and the contest schema that
replaced it, their validator, and what the semantic view makes of the order of their
lists. Timestamps and URLs are the texts that JSON mode writes. -/
namespace BallotProof
open Python

structure RegistrySource where
  provider : String
  sourceUrl : Option String
  retrievedAt : String
  sourceSha256 : Option Digest

structure RegistryOffice where
  officeId : String
  name : String
  level : String

structure RegistryCandidate where
  candidateId : String
  officeId : String
  name : String
  partyId : String
  ballotLabel : Option String

structure RegistryContest where
  contestId : String
  name : String
  scope : String
  contestType : String
  choiceKind : String

structure RegistryChoice where
  choiceId : String
  contestId : String
  name : String
  affiliationId : Option String
  ballotLabel : Option String

structure RegistryUnit where
  unitId : String
  unitType : String
  name : Option String
  parentId : Option String

structure RegistryTopologyEdge where
  parentId : String
  childId : String

structure RegistryProfileBinding where
  profileId : String
  profileVersion : Nat
  profileHash : Digest
  fits : intFits profileVersion = true

structure ElectionRegistryPayload where
  electionId : String
  electionName : String
  countryCode : String
  electionDate : String
  source : RegistrySource
  offices : List RegistryOffice
  candidates : List RegistryCandidate
  contests : List RegistryContest
  choices : List RegistryChoice
  units : List RegistryUnit
  topology : List RegistryTopologyEdge
  jurisdictionProfile : Option RegistryProfileBinding

/-- `len(xs) == len(set(xs))` -/
def requireUnique (ids : List String) (field : String) : Result Unit :=
  require ids.Nodup ("Value error, " ++ field ++ " values must be unique")

namespace ElectionRegistryPayload
variable (payload : ElectionRegistryPayload)

def officeIds : List String := payload.offices.map (·.officeId)

def contestIds : List String := payload.contests.map (·.contestId)

def unitIds : List String := payload.units.map (·.unitId)

/-- The validator `validate_references`; the texts that name unknown ids are cut before them. -/
def validateReferences : Result Unit := do
  let legacySchema := !payload.offices.isEmpty || !payload.candidates.isEmpty
  let neutralSchema := !payload.contests.isEmpty || !payload.choices.isEmpty
  require (¬(legacySchema ∧ neutralSchema))
    "Value error, Registry cannot mix legacy office/candidate and contest/choice schemas"
  require (legacySchema ∨ neutralSchema)
    "Value error, Registry must declare at least one office or contest"
  require (payload.candidates.isEmpty ∨ ¬payload.offices.isEmpty)
    "Value error, Candidates require legacy offices"
  require (payload.choices.isEmpty ∨ ¬payload.contests.isEmpty) "Value error, Choices require contests"
  requireUnique payload.officeIds "office_id"
  requireUnique payload.contestIds "contest_id"
  requireUnique payload.unitIds "unit_id"
  requireUnique (payload.candidates.map (·.candidateId)) "candidate_id"
  requireUnique (payload.choices.map (·.choiceId)) "choice_id"
  require (∀ candidate ∈ payload.candidates, candidate.officeId ∈ payload.officeIds)
    "Value error, Candidates reference unknown offices"
  require (∀ choice ∈ payload.choices, choice.contestId ∈ payload.contestIds)
    "Value error, Choices reference unknown contests"
  require (∀ unit ∈ payload.units, ∀ parent ∈ unit.parentId, parent ∈ payload.unitIds)
    "Value error, Unit references unknown parent"
  payload.topology.forM fun edge => do
    require (edge.parentId ∈ payload.unitIds ∧ edge.childId ∈ payload.unitIds)
      "Value error, Topology edges must reference known units"
    require (edge.parentId ≠ edge.childId) "Value error, Topology edge cannot self-reference"

/-- Text fields with their largest lengths; all but the optional ones have at least one character. -/
def texts : List (String × Nat) :=
  [(payload.electionId, 128), (payload.electionName, 256), (payload.source.provider, 128)] ++
  payload.offices.flatMap (fun o => [(o.officeId, 128), (o.name, 256), (o.level, 128)]) ++
  payload.candidates.flatMap (fun c => [(c.candidateId, 128), (c.officeId, 128), (c.name, 256),
    (c.partyId, 128)]) ++
  payload.contests.flatMap (fun c => [(c.contestId, 128), (c.name, 256), (c.scope, 128),
    (c.contestType, 128), (c.choiceKind, 128)]) ++
  payload.choices.flatMap (fun c => [(c.choiceId, 128), (c.contestId, 128), (c.name, 256)] ++
    c.affiliationId.toList.map fun id => (id, 128)) ++
  payload.units.flatMap (fun u => [(u.unitId, 128), (u.unitType, 128)]) ++
  payload.topology.flatMap (fun e => [(e.parentId, 128), (e.childId, 128)]) ++
  payload.jurisdictionProfile.toList.map fun p => (p.profileId, 128)

/-- Optional fields that may be empty. -/
def optionalTexts : List (String × Nat) :=
  payload.candidates.flatMap (fun c => c.ballotLabel.toList.map fun text => (text, 256)) ++
  payload.choices.flatMap (fun c => c.ballotLabel.toList.map fun text => (text, 256)) ++
  payload.units.flatMap fun u =>
    u.name.toList.map (fun text => (text, 256)) ++ u.parentId.toList.map fun text => (text, 128)

/-- The field constraints, then the validator. -/
def validate : Result Unit := do
  require (∀ text ∈ payload.texts, 1 ≤ text.1.length ∧ text.1.length ≤ text.2) "String length"
  require (∀ text ∈ payload.optionalTexts, text.1.length ≤ text.2) "String length"
  require (2 ≤ payload.countryCode.length ∧ payload.countryCode.length ≤ 3) "String length"
  require (∀ profile ∈ payload.jurisdictionProfile, 1 ≤ profile.profileVersion)
    "Input should be greater than or equal to 1"
  require (¬payload.units.isEmpty) "List should have at least 1 item after validation, not 0"
  payload.validateReferences

end ElectionRegistryPayload

def RegistryOffice.modelDump (o : RegistryOffice) : Json :=
  .obj [("level", .str o.level), ("name", .str o.name), ("office_id", .str o.officeId)]

def RegistryCandidate.modelDump (c : RegistryCandidate) : Json :=
  .obj [("ballot_label", optionalText c.ballotLabel), ("candidate_id", .str c.candidateId),
    ("name", .str c.name), ("office_id", .str c.officeId), ("party_id", .str c.partyId)]

def RegistryContest.modelDump (c : RegistryContest) : Json :=
  .obj [("choice_kind", .str c.choiceKind), ("contest_id", .str c.contestId),
    ("contest_type", .str c.contestType), ("name", .str c.name), ("scope", .str c.scope)]

def RegistryChoice.modelDump (c : RegistryChoice) : Json :=
  .obj [("affiliation_id", optionalText c.affiliationId), ("ballot_label", optionalText c.ballotLabel),
    ("choice_id", .str c.choiceId), ("contest_id", .str c.contestId), ("name", .str c.name)]

def RegistryUnit.modelDump (u : RegistryUnit) : Json :=
  .obj [("name", optionalText u.name), ("parent_id", optionalText u.parentId),
    ("unit_id", .str u.unitId), ("unit_type", .str u.unitType)]

def RegistryTopologyEdge.modelDump (e : RegistryTopologyEdge) : Json :=
  .obj [("child_id", .str e.childId), ("parent_id", .str e.parentId)]

def RegistryProfileBinding.modelDump (p : RegistryProfileBinding) : Json :=
  .obj [("profile_hash", .str p.profileHash.hex), ("profile_id", .str p.profileId),
    ("profile_version", .int p.profileVersion)]

def RegistrySource.dict (s : RegistrySource) : Dict where
  entries := [("provider", .str s.provider), ("retrieved_at", .str s.retrievedAt),
    ("source_sha256", optionalHash s.sourceSha256), ("source_url", optionalText s.sourceUrl)]
  wellFormed := by
    simp only [Json.wellFormed, wellFormedEntries, optionalHash, optionalText_wellFormed, keysAscend,
      Bool.and_true]
    decide

theorem registryItems_wellFormed :
    (∀ o : RegistryOffice, o.modelDump.wellFormed = true) ∧
    (∀ c : RegistryCandidate, c.modelDump.wellFormed = true) ∧
    (∀ c : RegistryContest, c.modelDump.wellFormed = true) ∧
    (∀ c : RegistryChoice, c.modelDump.wellFormed = true) ∧
    (∀ u : RegistryUnit, u.modelDump.wellFormed = true) ∧
    (∀ e : RegistryTopologyEdge, e.modelDump.wellFormed = true) ∧
    ∀ p : RegistryProfileBinding, p.modelDump.wellFormed = true := by
  refine ⟨fun o => ?_, fun c => ?_, fun c => ?_, fun c => ?_, fun u => ?_, fun e => ?_, fun p => ?_⟩
  · simp only [RegistryOffice.modelDump, Json.wellFormed, wellFormedEntries, keysAscend, Bool.and_true]
    decide
  · simp only [RegistryCandidate.modelDump, Json.wellFormed, wellFormedEntries, keysAscend,
      optionalText_wellFormed, Bool.and_true]
    decide
  · simp only [RegistryContest.modelDump, Json.wellFormed, wellFormedEntries, keysAscend, Bool.and_true]
    decide
  · simp only [RegistryChoice.modelDump, Json.wellFormed, wellFormedEntries, keysAscend,
      optionalText_wellFormed, Bool.and_true]
    decide
  · simp only [RegistryUnit.modelDump, Json.wellFormed, wellFormedEntries, keysAscend,
      optionalText_wellFormed, Bool.and_true]
    decide
  · simp only [RegistryTopologyEdge.modelDump, Json.wellFormed, wellFormedEntries, keysAscend,
      Bool.and_true]
    decide
  · simp only [RegistryProfileBinding.modelDump, Json.wellFormed, wellFormedEntries, keysAscend, p.fits,
      Bool.and_true]
    decide

namespace ElectionRegistryPayload

/-- `json.loads(payload.model_dump_json())` -/
def dict (payload : ElectionRegistryPayload) : Dict where
  entries := [
    ("candidates", .arr (payload.candidates.map (·.modelDump))),
    ("choices", .arr (payload.choices.map (·.modelDump))),
    ("contests", .arr (payload.contests.map (·.modelDump))),
    ("country_code", .str payload.countryCode),
    ("election_date", .str payload.electionDate),
    ("election_id", .str payload.electionId),
    ("election_name", .str payload.electionName),
    ("jurisdiction_profile", (payload.jurisdictionProfile.map (·.modelDump)).getD .null),
    ("offices", .arr (payload.offices.map (·.modelDump))),
    ("source", payload.source.dict.toJson),
    ("topology", .arr (payload.topology.map (·.modelDump))),
    ("units", .arr (payload.units.map (·.modelDump)))]
  wellFormed := by
    obtain ⟨offices, candidates, contests, choices, units, topology, profile⟩ := registryItems_wellFormed
    have binding : ((payload.jurisdictionProfile.map RegistryProfileBinding.modelDump).getD Json.null).wellFormed = true := by
      cases payload.jurisdictionProfile with
      | none => exact null_wellFormed
      | some p => exact profile p
    simp only [Json.wellFormed, Bool.and_eq_true]
    refine ⟨by simp only [keysAscend]; decide, wellFormedEntries_iff.mpr ?_⟩
    simp only [List.mem_cons, List.not_mem_nil, or_false, forall_eq_or_imp, forall_eq]
    exact ⟨arr_map_wellFormed candidates, arr_map_wellFormed choices, arr_map_wellFormed contests,
      str_wellFormed _, str_wellFormed _, str_wellFormed _, str_wellFormed _, binding,
      arr_map_wellFormed offices, Dict.toJson_wellFormed _, arr_map_wellFormed topology,
      arr_map_wellFormed units⟩

end ElectionRegistryPayload

/-! ## The order of the lists -/

/-- The release record of a registry snapshot; `row` holds the other columns. -/
def registryRecord (key : String) (row : Dict) (payload : ElectionRegistryPayload) : ReleaseRecord :=
  ⟨.registrySnapshot, key, row.set "payload" payload.dict.toJson payload.dict.toJson_wellFormed⟩

/-- The same payload with the offices and the units in another order. -/
structure OfficesAndUnitsReordered (payload other : ElectionRegistryPayload) : Prop where
  offices : payload.offices.Perm other.offices
  units : payload.units.Perm other.units
  rest : other = { payload with offices := other.offices, units := other.units }

/-- The same payload with each of its lists in another order. -/
structure Reordered (payload other : ElectionRegistryPayload) : Prop where
  offices : payload.offices.Perm other.offices
  candidates : payload.candidates.Perm other.candidates
  contests : payload.contests.Perm other.contests
  choices : payload.choices.Perm other.choices
  units : payload.units.Perm other.units
  topology : payload.topology.Perm other.topology
  rest : other = { payload with
    offices := other.offices, candidates := other.candidates, contests := other.contests,
    choices := other.choices, units := other.units, topology := other.topology }

/-- The same record, or a registry snapshot whose valid payload is related to the other one's. -/
inductive SameButRegistry (related : ElectionRegistryPayload → ElectionRegistryPayload → Prop) :
    ReleaseRecord → ReleaseRecord → Prop where
  | same (r : ReleaseRecord) : SameButRegistry related r r
  | registry (key : String) (row : Dict) (payload other : ElectionRegistryPayload) :
      payload.validate = .ok () → related payload other →
      SameButRegistry related (registryRecord key row payload) (registryRecord key row other)

variable {sha256 : Bytes → Digest} {repr : Json → String}

theorem get_source (payload : ElectionRegistryPayload) :
    payload.dict.get "source" = some payload.source.dict.toJson := by
  simp [ElectionRegistryPayload.dict, Dict.get, lookup]

theorem get_offices (payload : ElectionRegistryPayload) :
    payload.dict.get "offices" = some (.arr (payload.offices.map (·.modelDump))) := by
  simp [ElectionRegistryPayload.dict, Dict.get, lookup]

theorem get_units (payload : ElectionRegistryPayload) :
    payload.dict.get "units" = some (.arr (payload.units.map (·.modelDump))) := by
  simp [ElectionRegistryPayload.dict, Dict.get, lookup]

theorem dict_reordered (h : OfficesAndUnitsReordered payload other) :
    SameRegistry payload.dict other.dict := by
  obtain ⟨offices, units, rest⟩ := h
  have same {β : Type} (field : ElectionRegistryPayload → β) : field other =
      field { payload with offices := other.offices, units := other.units } := congrArg field rest
  refine ⟨fun key outside => ?_, .inl ?_, .inr ⟨_, _, get_offices payload, get_offices other, offices.map _⟩,
    .inr ⟨_, _, get_units payload, get_units other, units.map _⟩⟩
  · simp only [List.mem_cons, List.not_mem_nil, or_false, not_or] at outside
    simp only [Dict.get, ElectionRegistryPayload.dict, same (·.candidates), same (·.choices),
      same (·.contests), same (·.countryCode), same (·.electionDate), same (·.electionId),
      same (·.electionName), same (·.jurisdictionProfile), same (·.source), same (·.topology)]
    iterate 8 apply lookup_cons_congr
    refine lookup_cons_other ?_ outside.2.1 _ _
    iterate 2 apply lookup_cons_congr
    exact lookup_cons_other rfl outside.2.2 _ _
  · rw [get_source, get_source, same (·.source)]

theorem get_registryRecord (key : String) (row : Dict) (payload : ElectionRegistryPayload) :
    (registryRecord key row payload).payload.get "payload" = some payload.dict.toJson :=
  Dict.get_set_same row payload.dict.toJson_wellFormed

theorem registryPayload_registryRecord (key : String) (row : Dict) (payload : ElectionRegistryPayload) :
    ∃ normal, registryPayload (registryRecord key row payload) = .ok normal := by
  refine ⟨_, bind_eq_ok.mpr ⟨payload.dict, ?_, bind_eq_ok.mpr ⟨_,
    dropRetrievedAt_dict (get_source payload), rfl⟩⟩⟩
  rw [get_registryRecord, Option.getD_some, requireDict_toJson]

theorem registryPayload_reordered (key : String) (row : Dict)
    (h : OfficesAndUnitsReordered payload other) :
    registryPayload (registryRecord key row other) = registryPayload (registryRecord key row payload) := by
  obtain ⟨normal, built⟩ := registryPayload_registryRecord key row payload
  rw [built]
  exact registryPayload_restates (get_registryRecord key row payload) (get_registryRecord key row other)
    (dict_reordered h) built

theorem normalizedRecords_reordered
    (h : List.Forall₂ (SameButRegistry OfficesAndUnitsReordered) records reordered) :
    normalizedRecords sha256 repr reordered = normalizedRecords sha256 repr records := by
  have indexed (start : SemanticIndex) := @foldlM_forall₂ _ _ (indexRecord sha256 repr) _ _ _ h
    (fun s a b same => by
      cases same with
      | same => rfl
      | registry key row payload other _ related =>
        have type (p : ElectionRegistryPayload) :
            (registryRecord key row p).recordType = .registrySnapshot := rfl
        simp only [indexRecord, type, registryPayload_reordered key row related]) start
  have stated (index : SemanticIndex) (start : ExtractionCache × List NormalRecord) :=
    @foldlM_forall₂ _ _ (addStatement sha256 repr index) _ _ _ h (fun s a b same => by
      cases same with
      | same => rfl
      | registry => rfl) start
  simp only [normalizedRecords, indexed, stated]

/-- The order of offices and units is not semantic. -/
theorem semanticMerkleRoot_reordered
    (h : List.Forall₂ (SameButRegistry OfficesAndUnitsReordered) records reordered) :
    semanticMerkleRoot sha256 repr reordered = semanticMerkleRoot sha256 repr records := by
  simp only [semanticMerkleRoot, semanticRecords, normalizedRecords_reordered h]

def sampleChoice (choiceId : String) : RegistryChoice := ⟨choiceId, "k", "n", none, none⟩

/-- One contest with its choices, and the units in an order. -/
def sampleRegistry (choices units : List String) : ElectionRegistryPayload where
  electionId := "e"
  electionName := "n"
  countryCode := "NG"
  electionDate := "d"
  source := ⟨"p", none, "t", none⟩
  offices := []
  candidates := []
  contests := [⟨"k", "n", "s", "t", "c"⟩]
  choices := choices.map sampleChoice
  units := units.map fun unitId => ⟨unitId, "t", none, none⟩
  topology := []
  jurisdictionProfile := none

theorem semanticMerkleRoot_reordered_example :
    (sampleRegistry ["a", "b"] ["u", "v"]).validate = .ok () ∧
    semanticMerkleRoot checksum noRepr
      [registryRecord "e:1" sampleContent (sampleRegistry ["a", "b"] ["v", "u"])] =
    semanticMerkleRoot checksum noRepr
      [registryRecord "e:1" sampleContent (sampleRegistry ["a", "b"] ["u", "v"])] := by
  have valid : (sampleRegistry ["a", "b"] ["u", "v"]).validate = .ok () := by decide +kernel
  refine ⟨valid, semanticMerkleRoot_reordered (.cons (.registry _ _ _ _ valid ⟨.refl _, ?_, rfl⟩) .nil)⟩
  exact .swap _ _ _

/-- Choices in another order change the semantic root. -/
theorem choices_notReordered :
    ¬∀ records reordered : List ReleaseRecord,
      List.Forall₂ (SameButRegistry Reordered) records reordered →
      semanticMerkleRoot checksum noRepr reordered = semanticMerkleRoot checksum noRepr records := by
  intro claim
  have valid : (sampleRegistry ["a", "b"] ["u"]).validate = .ok () := by decide +kernel
  have same := claim [registryRecord "e:1" sampleContent (sampleRegistry ["a", "b"] ["u"])]
    [registryRecord "e:1" sampleContent (sampleRegistry ["b", "a"] ["u"])]
    (.cons (.registry _ _ _ _ valid
      ⟨.refl _, .refl _, .refl _, .swap _ _ _, .refl _, .refl _, rfl⟩) .nil)
  have differ : (semanticMerkleRoot checksum noRepr
      [registryRecord "e:1" sampleContent (sampleRegistry ["b", "a"] ["u"])]).toOption ≠
    (semanticMerkleRoot checksum noRepr
      [registryRecord "e:1" sampleContent (sampleRegistry ["a", "b"] ["u"])]).toOption := by decide +kernel
  exact differ (congrArg _ same)

end BallotProof
