import BallotProof.CollationPropagation
import BallotProof.EvidenceChain

/-! `replay_from_registry`: an aggregation edge replayed over the units and choices of a stored
registry. What the registry validator accepts is accepted by the replay but for one thing,
a topology edge that is listed twice. -/
namespace BallotProof
open Python HashChain

structure RegistryReplayRequest where
  electionId : String
  registryVersion : Nat
  registrySnapshotHash : Digest
  contestId : Option String
  officeId : Option String
  nodeId : String
  inputs : List CollationInput
  declaredTotals : Option (Table Int)

/-- The field checks and `request_is_well_formed`. -/
def RegistryReplayRequest.validate (request : RegistryReplayRequest) : Result Unit := do
  checkLength 128 request.electionId
  require (1 ≤ request.registryVersion) "Input should be greater than or equal to 1"
  request.contestId.forM (checkLength 128)
  request.officeId.forM (checkLength 128)
  checkLength 256 request.nodeId
  require (request.contestId.isNone ≠ request.officeId.isNone)
    "Exactly one of contest_id or office_id is required"
  require (∀ totals ∈ request.declaredTotals, nonNegative totals)
    "declared totals must be non-negative"

structure RegistryReplayReport where
  electionId : String
  registryVersion : Nat
  registrySnapshotHash : Digest
  jurisdictionProfile : Option RegistryProfileBinding
  contestId : Option String
  officeId : Option String
  expectedChoiceIds : List String
  registrySourceProvider : String
  registrySourceRetrievedAt : String
  replay : CollationReplayReport

/-- `_select_snapshot` -/
def selectSnapshot (conversions : Conversions) (rows : List RegistryRow)
    (request : RegistryReplayRequest) : Result ElectionRegistrySnapshot := do
  let history ← registryHistory conversions rows request.electionId
  match history.find? (·.version = request.registryVersion) with
  | none => .error ⟨.keyError, "Unknown registry snapshot: " ++ request.electionId ++ " v" ++
      toString request.registryVersion⟩
  | some snapshot =>
    if snapshot.snapshotHash ≠ request.registrySnapshotHash then
      .error ⟨.valueError, "registry_snapshot_hash does not match the requested registry version"⟩
    else return snapshot

/-- `_expected_choice_ids` -/
def expectedChoiceIds (payload : ElectionRegistryPayload) (request : RegistryReplayRequest) :
    Result (List String) :=
  match request.contestId, request.officeId with
  | some contestId, _ =>
    let choiceIds := sortedIds ((payload.choices.filter (·.contestId = contestId)).map (·.choiceId))
    if contestId ∉ payload.contestIds then
      .error ⟨.keyError, "Registry snapshot does not contain contest_id: " ++ contestId⟩
    else if choiceIds = [] then .error ⟨.valueError, "Registry contest has no expected choices"⟩
    else .ok choiceIds
  | none, some officeId =>
    let candidateIds :=
      sortedIds ((payload.candidates.filter (·.officeId = officeId)).map (·.candidateId))
    if officeId ∉ payload.officeIds then
      .error ⟨.keyError, "Registry snapshot does not contain office_id: " ++ officeId⟩
    else if candidateIds = [] then .error ⟨.valueError, "Registry office has no expected candidates"⟩
    else .ok candidateIds
  | none, none => .error ⟨.keyError, "Registry snapshot does not contain office_id: None"⟩

/-- The children that the topology lists for a node, edge by edge. -/
def ElectionRegistryPayload.childIds (payload : ElectionRegistryPayload) (nodeId : String) : List String :=
  (payload.topology.filter (·.parentId = nodeId)).map (·.childId)

/-- The replay of a selected snapshot. -/
def replaySnapshot (isoformat : String → String) (snapshot : ElectionRegistrySnapshot)
    (request : RegistryReplayRequest) : Result RegistryReplayReport := do
  let choiceIds ← expectedChoiceIds snapshot.payload request
  let units := Table.ofList (snapshot.payload.units.map fun unit => (unit.unitId, unit))
  match units.get request.nodeId with
  | none => .error ⟨.keyError, "Registry snapshot does not contain node_id: " ++ request.nodeId⟩
  | some node =>
    let childIds := sortedIds (snapshot.payload.childIds request.nodeId)
    if childIds = [] then .error ⟨.valueError, "Registry node has no expected child units"⟩
    else
      let collation : CollationReplayRequest :=
        ⟨node.unitType, request.nodeId, childIds, some choiceIds, request.inputs, request.declaredTotals⟩
      collation.validate
      let replay ← replayCollation collation
      return {
        electionId := request.electionId
        registryVersion := snapshot.version
        registrySnapshotHash := snapshot.snapshotHash
        jurisdictionProfile := snapshot.payload.jurisdictionProfile
        contestId := request.contestId
        officeId := request.officeId
        expectedChoiceIds := choiceIds
        registrySourceProvider := snapshot.payload.source.provider
        registrySourceRetrievedAt := isoformat snapshot.payload.source.retrievedAt
        replay := replay }

/-- `replay_from_registry`; `isoformat` turns the text that JSON mode writes of a datetime into
its `isoformat()`. -/
def replayFromRegistry (conversions : Conversions) (isoformat : String → String)
    (rows : List RegistryRow) (request : RegistryReplayRequest) : Result RegistryReplayReport := do
  let snapshot ← selectSnapshot conversions rows request
  replaySnapshot isoformat snapshot request

/-- A request that names a snapshot, one of its nodes with an edge below it, and one of its
contests or offices with something to choose. -/
structure RegistryReplayRequest.Names (request : RegistryReplayRequest) (snapshot : ElectionRegistrySnapshot) :
    Prop where
  election : request.electionId = snapshot.electionId
  version : request.registryVersion = snapshot.version
  hash : request.registrySnapshotHash = snapshot.snapshotHash
  node : request.nodeId ∈ snapshot.payload.unitIds
  edge : ∃ edge ∈ snapshot.payload.topology, edge.parentId = request.nodeId
  contest : ∀ id ∈ request.contestId, id ∈ snapshot.payload.contestIds ∧
    ∃ choice ∈ snapshot.payload.choices, choice.contestId = id
  office : ∀ id ∈ request.officeId, id ∈ snapshot.payload.officeIds ∧
    ∃ candidate ∈ snapshot.payload.candidates, candidate.officeId = id

/-- What a replay needs of a payload that the validator has accepted. -/
structure PayloadChecked (payload : ElectionRegistryPayload) : Prop where
  units : payload.unitIds.Nodup
  unitTypes : ∀ unit ∈ payload.units, 1 ≤ unit.unitType.length ∧ unit.unitType.length ≤ 128
  candidates : (payload.candidates.map (·.candidateId)).Nodup
  choices : (payload.choices.map (·.choiceId)).Nodup

theorem payload_checked {payload : ElectionRegistryPayload} (valid : payload.validate = .ok ()) :
    PayloadChecked payload := by
  obtain ⟨_, texts, h⟩ := bind_ok valid
  obtain ⟨_, -, h⟩ := bind_ok h
  obtain ⟨_, -, h⟩ := bind_ok h
  obtain ⟨_, -, h⟩ := bind_ok h
  obtain ⟨_, -, references⟩ := bind_ok h
  obtain ⟨_, -, h⟩ := bind_ok references
  obtain ⟨_, -, h⟩ := bind_ok h
  obtain ⟨_, -, h⟩ := bind_ok h
  obtain ⟨_, -, h⟩ := bind_ok h
  obtain ⟨_, -, h⟩ := bind_ok h
  obtain ⟨_, -, h⟩ := bind_ok h
  obtain ⟨_, units, h⟩ := bind_ok h
  obtain ⟨_, candidates, h⟩ := bind_ok h
  obtain ⟨_, choices, -⟩ := bind_ok h
  refine ⟨require_ok.mp units, fun unit member => ?_, require_ok.mp candidates, require_ok.mp choices⟩
  have listed : (unit.unitType, 128) ∈ payload.texts := by
    simp only [ElectionRegistryPayload.texts, List.mem_append, List.mem_flatMap]
    exact .inl (.inl (.inr ⟨unit, member, by simp⟩))
  exact require_ok.mp texts _ listed

theorem sortedIds_nodup {xs : List String} : (sortedIds xs).Nodup ↔ xs.Nodup :=
  (List.perm_insertionSort _ xs).nodup_iff

/-- The ids of what can be chosen are some, each once. -/
theorem sortedIds_filter_map {items : List α} {key id : α → String} {wanted : String}
    (distinct : (items.map id).Nodup) (some : ∃ item ∈ items, key item = wanted) :
    sortedIds ((items.filter (key · = wanted)).map id) ≠ [] ∧
      (sortedIds ((items.filter (key · = wanted)).map id)).Nodup := by
  refine ⟨fun none => ?_, sortedIds_nodup.mpr (distinct.sublist (List.filter_sublist.map _))⟩
  obtain ⟨item, member, named⟩ := some
  have listed : id item ∈ (items.filter (key · = wanted)).map id :=
    List.mem_map_of_mem (List.mem_filter.mpr ⟨member, decide_eq_true named⟩)
  rw [sortedIds_nil.mp none] at listed
  cases listed

/-- A request that names something to choose gets the ids to choose from, each once. -/
theorem expectedChoiceIds_ok {payload : ElectionRegistryPayload} {request : RegistryReplayRequest}
    (checked : PayloadChecked payload) (valid : request.validate = .ok ())
    (contest : ∀ id ∈ request.contestId, id ∈ payload.contestIds ∧
      ∃ choice ∈ payload.choices, choice.contestId = id)
    (office : ∀ id ∈ request.officeId, id ∈ payload.officeIds ∧
      ∃ candidate ∈ payload.candidates, candidate.officeId = id) :
    ∃ ids, expectedChoiceIds payload request = .ok ids ∧ 1 ≤ ids.length ∧ ids.Nodup := by
  obtain ⟨_, -, h⟩ := bind_ok valid
  obtain ⟨_, -, h⟩ := bind_ok h
  obtain ⟨_, -, h⟩ := bind_ok h
  obtain ⟨_, -, h⟩ := bind_ok h
  obtain ⟨_, -, h⟩ := bind_ok h
  obtain ⟨_, one, -⟩ := bind_ok h
  have one := require_ok.mp one
  unfold expectedChoiceIds
  cases hc : request.contestId with
  | some contestId =>
    obtain ⟨known, some⟩ := contest contestId hc
    obtain ⟨nonempty, distinct⟩ := sortedIds_filter_map checked.choices some
    exact ⟨_, by simp only [known, not_true, if_false, if_neg nonempty],
      List.length_pos_iff.mpr nonempty, distinct⟩
  | none =>
    cases ho : request.officeId with
    | some officeId =>
      obtain ⟨known, some⟩ := office officeId ho
      obtain ⟨nonempty, distinct⟩ := sortedIds_filter_map checked.candidates some
      exact ⟨_, by simp only [known, not_true, if_false, if_neg nonempty],
        List.length_pos_iff.mpr nonempty, distinct⟩
    | none => exact absurd (by rw [hc, ho]) one

/-- A named snapshot is replayed exactly where no edge of the node is listed twice. -/
theorem replaySnapshot_iff (isoformat : String → String) {snapshot : ElectionRegistrySnapshot}
    {request : RegistryReplayRequest} (checked : PayloadChecked snapshot.payload)
    (valid : request.validate = .ok ()) (names : request.Names snapshot)
    (inputs : ∀ item ∈ request.inputs, CollationInput.create item.unitId item.candidateTotals = .ok item)
    (distinct : (request.inputs.map (·.unitId)).Nodup) :
    (∃ report, replaySnapshot isoformat snapshot request = .ok report) ↔
      (snapshot.payload.childIds request.nodeId).Nodup := by
  obtain ⟨ids, chosen, nonempty, distinctIds⟩ :=
    expectedChoiceIds_ok checked valid names.contest names.office
  obtain ⟨node, listed, same⟩ := List.mem_map.mp names.node
  have keys : ((snapshot.payload.units.map fun unit => (unit.unitId, unit)).map (·.1)).Nodup := by
    simpa [Function.comp_def, ElectionRegistryPayload.unitIds] using checked.units
  have found : (Table.ofList (snapshot.payload.units.map fun unit => (unit.unitId, unit))).get
      request.nodeId = some node :=
    (Table.get_ofList keys).mpr (List.mem_map.mpr ⟨node, listed, by rw [same]⟩)
  have children : sortedIds (snapshot.payload.childIds request.nodeId) ≠ [] := by
    intro none
    obtain ⟨edge, member, parent⟩ := names.edge
    have child : edge.childId ∈ snapshot.payload.childIds request.nodeId :=
      List.mem_map_of_mem (List.mem_filter.mpr ⟨member, decide_eq_true parent⟩)
    rw [sortedIds_nil.mp none] at child
    cases child
  rw [replaySnapshot, chosen, ok_bind]
  simp only [found, if_neg children]
  constructor
  · rintro ⟨report, replayed⟩
    obtain ⟨_, accepted, -⟩ := bind_ok replayed
    exact sortedIds_nodup.mp (validate_checked.mp accepted).distinctUnits
  · intro once
    obtain ⟨_, -, h⟩ := bind_ok valid
    obtain ⟨_, -, h⟩ := bind_ok h
    obtain ⟨_, -, h⟩ := bind_ok h
    obtain ⟨_, -, h⟩ := bind_ok h
    obtain ⟨_, nodeId, h⟩ := bind_ok h
    obtain ⟨_, -, declared⟩ := bind_ok h
    let collation : CollationReplayRequest := ⟨node.unitType, request.nodeId,
      sortedIds (snapshot.payload.childIds request.nodeId), some ids, request.inputs,
      request.declaredTotals⟩
    have accepted : RequestChecked collation := {
      level := checked.unitTypes node listed
      nodeId := checkLength_ok.mp nodeId
      units := List.length_pos_iff.mpr children
      candidates := by rintro _ ⟨⟩; exact nonempty
      distinctUnits := sortedIds_nodup.mpr once
      distinctCandidates := by rintro _ ⟨⟩; exact distinctIds
      distinctInputs := distinct
      declared := require_ok.mp declared }
    obtain ⟨replay, replayed⟩ := replayCollation_total accepted fun item member =>
      (createInput_ok.mp (inputs item member)).2.1
    exact ⟨_, bind_eq_ok.mpr ⟨(), validate_checked.mpr accepted, bind_eq_ok.mpr ⟨replay, replayed, rfl⟩⟩⟩

section
variable {conversions : Conversions} {snapshots : List ElectionRegistrySnapshot} {rows : List RegistryRow}

/-- A history that is read is the history that was appended. -/
theorem RegistryChains.history_iff (stable : conversions.Stable)
    (chains : RegistryChains sha256 snapshots rows)
    (built : ∀ s ∈ snapshots, s.payload.Built conversions) :
    (∃ history, registryHistory conversions rows electionId = .ok history) ↔
      ∀ s ∈ snapshots, s.electionId = electionId → s.payload.UrlAccepted conversions := by
  constructor
  · rintro ⟨history, reads⟩ s member election
    have reported : verifyRegistryChain sha256 conversions rows electionId =
        .ok (verifyRegistry sha256 electionId history) := by
      rw [verifyRegistryChain, reads]
      rfl
    obtain ⟨read, validated⟩ := chains.verified_reads reported s member election
    exact modelValidate_url validated
  · intro accepted
    exact ⟨_, chains.history fun s member election =>
      (readsBack_iff stable (built s member)).mpr (accepted s member election)⟩

/-- A request that names a snapshot selects it, wherever the history can be read. -/
theorem RegistryChains.selected (stable : conversions.Stable)
    (chains : RegistryChains sha256 snapshots rows)
    (built : ∀ s ∈ snapshots, s.payload.Built conversions) (stored : snapshot ∈ snapshots)
    (names : request.Names snapshot)
    (accepted : ∀ s ∈ snapshots, s.electionId = snapshot.electionId → s.payload.UrlAccepted conversions) :
    selectSnapshot conversions rows request = .ok snapshot := by
  have history : registryHistory conversions rows request.electionId =
      .ok (snapshots.filter (·.electionId = request.electionId)) :=
    chains.history fun s member election =>
      (readsBack_iff stable (built s member)).mpr (accepted s member (election.trans names.election))
  have member : snapshot ∈ snapshots.filter (·.electionId = request.electionId) :=
    List.mem_filter.mpr ⟨stored, decide_eq_true names.election.symm⟩
  have unique := (chains.chains.numbered request.electionId).unique
  have found : (snapshots.filter (·.electionId = request.electionId)).find?
      (·.version = request.registryVersion) = some snapshot := by
    cases first : (snapshots.filter (·.electionId = request.electionId)).find?
        (·.version = request.registryVersion) with
    | none =>
      have apart := List.find?_eq_none.mp first snapshot member
      exact absurd names.version.symm (by simpa using apart)
    | some other =>
      have version : other.version = request.registryVersion := by simpa using List.find?_some first
      have same := List.inj_on_of_nodup_map unique (List.mem_of_find?_eq_some first) member
        (version.trans names.version)
      rw [same]
  rw [selectSnapshot, history, ok_bind]
  simp only [found]
  rw [if_neg (not_not.mpr names.hash.symm)]
  rfl

end

/-- The writers of a run have appended built payloads, one chain an election. -/
theorem run_registry (stable : Conversions.Stable conversions.toConversions)
    (built : ∀ write ∈ writes, write.Built conversions.toConversions) :
    RunChains sha256 conversions.toConversions (fun payload => payload.Built conversions.toConversions)
      (Requests.accepted (serveWrite sha256 conversions) .empty writes)
      (Requests.run (serveWrite sha256 conversions) .empty writes) :=
  run_chains stable built fun write member => by
    cases write with
    | evidence write => trivial
    | registry payload uuid storedAt => exact built _ member

theorem RunChains.replays_iff {conversions : FieldConversions} (stable : conversions.Stable)
    (chains : RunChains sha256 conversions.toConversions
      (fun payload => payload.Built conversions.toConversions) answers stores)
    (isoformat : String → String) (stored : snapshot ∈ answers.filterMap (·.snapshot?))
    (valid : request.validate = .ok ()) (names : request.Names snapshot)
    (inputs : ∀ item ∈ request.inputs, CollationInput.create item.unitId item.candidateTotals = .ok item)
    (distinct : (request.inputs.map (·.unitId)).Nodup) :
    (∃ report, replayFromRegistry conversions.toConversions isoformat stores.registry request = .ok report) ↔
      (∀ s ∈ answers.filterMap (·.snapshot?), s.electionId = snapshot.electionId →
        s.payload.UrlAccepted conversions.toConversions) ∧
      (snapshot.payload.childIds request.nodeId).Nodup := by
  have checked := payload_checked (chains.payloads snapshot stored).valid
  have replayed := replaySnapshot_iff isoformat checked valid names inputs distinct
  constructor
  · rintro ⟨report, h⟩
    obtain ⟨selected, selects, done⟩ := bind_ok h
    obtain ⟨history, reads, -⟩ := bind_ok selects
    have accepted := (chains.registry.history_iff stable chains.payloads).mp ⟨history, reads⟩
    rw [names.election] at accepted
    have same := chains.registry.selected stable chains.payloads stored names accepted
    rw [same] at selects
    cases selects
    exact ⟨accepted, replayed.mp ⟨report, done⟩⟩
  · rintro ⟨accepted, once⟩
    have selects := chains.registry.selected stable chains.payloads stored names accepted
    obtain ⟨report, done⟩ := replayed.mpr once
    exact ⟨report, bind_eq_ok.mpr ⟨snapshot, selects, done⟩⟩

/-- In every run of the writers, a request that names a stored snapshot is replayed exactly
where the history of the election can be read and no edge of the node is listed twice. -/
theorem replayFromRegistry_iff (sha256 : Bytes → Digest) (conversions : FieldConversions)
    (isoformat : String → String) (stable : conversions.Stable) (writes : List WriteRequest)
    (built : ∀ write ∈ writes, write.Built conversions.toConversions)
    (snapshot : ElectionRegistrySnapshot)
    (stored : snapshot ∈
      (Requests.accepted (serveWrite sha256 conversions) .empty writes).filterMap (·.snapshot?))
    (request : RegistryReplayRequest) (valid : request.validate = .ok ())
    (inputs : ∀ item ∈ request.inputs, CollationInput.create item.unitId item.candidateTotals = .ok item)
    (distinct : (request.inputs.map (·.unitId)).Nodup) (names : request.Names snapshot) :
    let stores := Requests.run (serveWrite sha256 conversions) .empty writes
    (∃ report, replayFromRegistry conversions.toConversions isoformat stores.registry request = .ok report) ↔
      (∀ s ∈ (Requests.accepted (serveWrite sha256 conversions) .empty writes).filterMap (·.snapshot?),
        s.electionId = snapshot.electionId → s.payload.UrlAccepted conversions.toConversions) ∧
      (snapshot.payload.childIds request.nodeId).Nodup :=
  (run_registry stable built).replays_iff stable isoformat stored valid names inputs distinct

/-- A registry whose ward lists its polling units. -/
def wardRegistry (children : List String) : ElectionRegistryPayload :=
  { sampleRegistry ["a", "b"] ["w", "u", "v"] with
    topology := children.map fun child => ⟨"w", child⟩ }

def wardWrites (children : List String) : List WriteRequest :=
  [.registry (wardRegistry children) "0" sampleNow]

def wardSnapshot (children : List String) : ElectionRegistrySnapshot where
  snapshotId := "bp_reg_0"
  electionId := "e"
  version := 1
  positive := firstVersion_positive
  column := Sql.one_lt_integerLimit
  payload := wardRegistry children
  storedAt := sampleNow
  previousSnapshotHash := none
  snapshotHash := hashRecord checksum
    (registryHashBody "bp_reg_0" "e" 1 (wardRegistry children) sampleNow none)

def wardReplay (children : List String) : RegistryReplayRequest where
  electionId := "e"
  registryVersion := 1
  registrySnapshotHash := (wardSnapshot children).snapshotHash
  contestId := some "k"
  officeId := none
  nodeId := "w"
  inputs := [⟨"u", Table.ofList [("a", 1), ("b", 2)]⟩]
  declaredTotals := none

theorem wardReplay_names (child : String) (children : List String) :
    (wardReplay (child :: children)).Names (wardSnapshot (child :: children)) where
  election := rfl
  version := rfl
  hash := rfl
  node := by simp [wardReplay, wardSnapshot, wardRegistry, ElectionRegistryPayload.unitIds, sampleRegistry]
  edge := ⟨⟨"w", child⟩, by simp [wardSnapshot, wardRegistry], rfl⟩
  contest := by
    rintro _ ⟨⟩
    exact ⟨List.mem_singleton.mpr rfl, sampleChoice "a", List.mem_cons_self, rfl⟩
  office := by simp [wardReplay]

theorem wardWrites_accepted (children : List String) :
    (Requests.accepted (serveWrite checksum blankConversions) .empty (wardWrites children)).filterMap
      (·.snapshot?) = [wardSnapshot children] := rfl

theorem wardRegistry_built (valid : (wardRegistry children).validate = .ok ()) :
    ∀ write ∈ wardWrites children, write.Built blankConversions.toConversions := by
  intro write member
  rw [wardWrites, List.mem_singleton] at member
  subst member
  exact ⟨valid, ⟨.str "d", rfl⟩, ⟨.str "t", rfl⟩, fun url found => by cases found⟩

theorem wardReplay_valid (children : List String) : (wardReplay children).validate = .ok () := by
  have election : checkLength 128 "e" = .ok () := by decide +kernel
  have contest : (some "k" : Option String).forM (checkLength 128) = (.ok () : Result Unit) := by decide +kernel
  have office : (none : Option String).forM (checkLength 128) = (.ok () : Result Unit) := rfl
  have node : checkLength 256 "w" = .ok () := by decide +kernel
  have one : ((some "k" : Option String).isNone ≠ (none : Option String).isNone) := by decide
  refine bind_eq_ok.mpr ⟨(), election, bind_eq_ok.mpr ⟨(), require_ok.mpr le_rfl, ?_⟩⟩
  refine bind_eq_ok.mpr ⟨(), contest, bind_eq_ok.mpr ⟨(), office, ?_⟩⟩
  refine bind_eq_ok.mpr ⟨(), node, bind_eq_ok.mpr ⟨(), require_ok.mpr one, ?_⟩⟩
  exact require_ok.mpr fun totals given => by cases given

theorem wardReplay_inputs (children : List String) :
    (∀ item ∈ (wardReplay children).inputs,
      CollationInput.create item.unitId item.candidateTotals = .ok item) ∧
    ((wardReplay children).inputs.map (·.unitId)).Nodup := by
  have supplied : CollationInput.create "u" (Table.ofList [("a", 1), ("b", 2)]) =
      .ok ⟨"u", Table.ofList [("a", 1), ("b", 2)]⟩ := by decide +kernel
  refine ⟨fun item member => ?_, List.nodup_singleton _⟩
  rw [List.mem_singleton.mp member]
  exact supplied

/-- A ward with two polling units is replayed. -/
theorem wardReplay_replayed :
    (∃ report, replayFromRegistry blankConversions.toConversions id
      (Requests.run (serveWrite checksum blankConversions) .empty (wardWrites ["u", "v"])).registry
      (wardReplay ["u", "v"]) = .ok report) ↔
    (∀ s ∈ (Requests.accepted (serveWrite checksum blankConversions) .empty
        (wardWrites ["u", "v"])).filterMap (·.snapshot?), s.electionId = "e" →
      s.payload.UrlAccepted blankConversions.toConversions) ∧
    ((wardRegistry ["u", "v"]).childIds "w").Nodup :=
  replayFromRegistry_iff checksum blankConversions id blankConversions_stable (wardWrites ["u", "v"])
    (wardRegistry_built (by decide +kernel)) (wardSnapshot ["u", "v"])
    (by rw [wardWrites_accepted]; exact List.mem_singleton.mpr rfl) (wardReplay ["u", "v"])
    (wardReplay_valid _) (wardReplay_inputs _).1 (wardReplay_inputs _).2 (wardReplay_names _ _)

/-- A registry that lists an edge twice is accepted and stored, and never replayed. -/
theorem repeatedEdge_notReplayed :
    (wardRegistry ["u", "u"]).validate = .ok () ∧
      wardSnapshot ["u", "u"] ∈ (Requests.accepted (serveWrite checksum blankConversions) .empty
        (wardWrites ["u", "u"])).filterMap (·.snapshot?) ∧
      (wardReplay ["u", "u"]).validate = .ok () ∧
      (∀ item ∈ (wardReplay ["u", "u"]).inputs,
        CollationInput.create item.unitId item.candidateTotals = .ok item) ∧
      ((wardReplay ["u", "u"]).inputs.map (·.unitId)).Nodup ∧
      (wardReplay ["u", "u"]).Names (wardSnapshot ["u", "u"]) ∧
      ¬∃ report, replayFromRegistry blankConversions.toConversions id
        (Requests.run (serveWrite checksum blankConversions) .empty (wardWrites ["u", "u"])).registry
        (wardReplay ["u", "u"]) = .ok report := by
  have valid : (wardRegistry ["u", "u"]).validate = .ok () := by decide +kernel
  have stored : wardSnapshot ["u", "u"] ∈ (Requests.accepted (serveWrite checksum blankConversions) .empty
      (wardWrites ["u", "u"])).filterMap (·.snapshot?) := by
    rw [wardWrites_accepted]
    exact List.mem_singleton.mpr rfl
  obtain ⟨inputs, distinct⟩ := wardReplay_inputs ["u", "u"]
  have names := wardReplay_names "u" ["u"]
  refine ⟨valid, stored, wardReplay_valid _, inputs, distinct, names, fun replayed => ?_⟩
  have chains : RunChains checksum blankConversions.toConversions
      (fun payload => payload.Built blankConversions.toConversions) _ _ :=
    run_registry blankConversions_stable (wardRegistry_built valid)
  have once := (chains.replays_iff blankConversions_stable id stored (wardReplay_valid _) names inputs
    distinct).mp replayed
  exact absurd once.2 (by decide +kernel)

end BallotProof
