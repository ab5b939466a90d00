import BallotProof.CollationReplay

/-! What a replayed graph says of a node. The recursive definition replays a node over its
supplied leaves and its verified child nodes; the loop computes it, in whatever order the
request lists its parts, and a verified node has only verified evidence below it. -/
namespace BallotProof
open Python Digraph

/-- What a child supplies: its leaf totals, or the totals of a verified node. -/
def suppliedTotals (request : CollationGraphRequest) (below : String → CollationGraphNodeReport)
    (childId : String) : Option (Table Int) :=
  match request.leafTotals.get childId with
  | some totals => some totals
  | none =>
    if childId ∈ request.nodeIds ∧ (below childId).replay.status = .verified then
      some (below childId).replay.computedTotals
    else none

def suppliedInputs (request : CollationGraphRequest) (below : String → CollationGraphNodeReport)
    (spec : CollationNodeSpec) : List CollationInput :=
  spec.expectedChildIds.filterMap fun childId =>
    (suppliedTotals request below childId).map (CollationInput.mk childId)

/-- The child nodes that are not verified. -/
def unverifiedChildren (request : CollationGraphRequest) (below : String → CollationGraphNodeReport)
    (spec : CollationNodeSpec) : List String :=
  sortedIds <| spec.expectedChildIds.filter fun childId =>
    childId ∈ request.nodeIds ∧ (below childId).replay.status ≠ .verified

/-- The report of a node from the reports of its child nodes, bottom up. -/
inductive Replays (request : CollationGraphRequest) : String → CollationGraphNodeReport → Prop
  | node {below : String → CollationGraphNodeReport} :
    request.spec nodeId = some spec →
    (∀ childId ∈ request.childNodeIds nodeId, Replays request childId (below childId)) →
    replayCollation (nodeRequest request spec (suppliedInputs request below spec)) = .ok replay →
    Replays request nodeId ⟨spec, replay, unverifiedChildren request below spec⟩

section
variable {request : CollationGraphRequest}

/-- Only the reports of the child nodes are looked at. -/
theorem suppliedTotals_congr {below other : String → CollationGraphNodeReport}
    (found : request.spec nodeId = some spec) (member : childId ∈ spec.expectedChildIds)
    (same : ∀ childId ∈ request.childNodeIds nodeId, below childId = other childId) :
    suppliedTotals request below childId = suppliedTotals request other childId := by
  by_cases node : childId ∈ request.nodeIds
  · have step : childId ∈ request.childNodeIds nodeId :=
      mem_childNodeIds.mpr ⟨children_spec found ▸ member, node⟩
    rw [suppliedTotals, suppliedTotals, same childId step]
  · simp [suppliedTotals, node]

theorem suppliedInputs_congr {below other : String → CollationGraphNodeReport}
    (found : request.spec nodeId = some spec)
    (same : ∀ childId ∈ request.childNodeIds nodeId, below childId = other childId) :
    suppliedInputs request below spec = suppliedInputs request other spec := by
  apply List.filterMap_congr
  intro childId member
  rw [suppliedTotals_congr found member same]

theorem unverifiedChildren_congr {below other : String → CollationGraphNodeReport}
    (found : request.spec nodeId = some spec)
    (same : ∀ childId ∈ request.childNodeIds nodeId, below childId = other childId) :
    unverifiedChildren request below spec = unverifiedChildren request other spec := by
  unfold unverifiedChildren
  congr 1
  apply List.filter_congr
  intro childId member
  by_cases node : childId ∈ request.nodeIds
  · have step : childId ∈ request.childNodeIds nodeId :=
      mem_childNodeIds.mpr ⟨children_spec found ▸ member, node⟩
    rw [same childId step]
  · simp [node]

/-- The recursive definition gives a node one report. -/
theorem Replays.unique (first : Replays request nodeId report)
    (second : Replays request nodeId other) : report = other := by
  induction first generalizing other with
  | @node nodeId spec replay belowFirst found _ replayed ih =>
    cases second with
    | @node _ spec' replay' belowSecond again below replayed' =>
      have spec_eq : spec = spec' := Option.some.inj (found.symm.trans again)
      subst spec_eq
      have same : ∀ childId ∈ request.childNodeIds nodeId, belowFirst childId = belowSecond childId :=
        fun childId step => ih childId step (below childId step)
      rw [suppliedInputs_congr found same, replayed'] at replayed
      rw [unverifiedChildren_congr found same, Except.ok.inj replayed]

/-- The node reports that the loop has stored. -/
def storedReports (reports : Reports) (item : CollationGraphNodeReport) (childId : String) :
    CollationGraphNodeReport := (reports.get childId).getD item

theorem childInput_supplied (valid : ReportsOf request P reports)
    (found : request.spec nodeId = some spec) (isReady : ready request reports nodeId = true)
    (member : childId ∈ spec.expectedChildIds) (item : CollationGraphNodeReport) :
    childInput request reports childId =
      suppliedTotals request (storedReports reports item) childId := by
  unfold childInput suppliedTotals storedReports
  cases leaf : request.leafTotals.get childId with
  | some totals => rfl
  | none =>
    cases stored : reports.get childId with
    | none =>
      have outside : childId ∉ request.nodeIds := fun node => by
        have step := mem_childNodeIds.mpr ⟨children_spec found ▸ member, node⟩
        obtain ⟨report, known⟩ := (Table.mem_keys _).mp (ready_iff.mp isReady childId step)
        rw [stored] at known
        cases known
      simp [outside]
    | some report =>
      have below := (valid.stored childId report stored).1
      have inside : childId ∈ request.nodeIds := by
        by_contra outside
        rw [spec_none outside] at below
        cases below
      simp [inside]

theorem incompleteChildren_unverified (apart : ∀ id ∈ request.leafTotals.keys, id ∉ request.nodeIds)
    (valid : ReportsOf request P reports) (found : request.spec nodeId = some spec)
    (isReady : ready request reports nodeId = true) (item : CollationGraphNodeReport) :
    incompleteChildren request reports spec =
      unverifiedChildren request (storedReports reports item) spec := by
  unfold incompleteChildren unverifiedChildren
  congr 1
  apply List.filter_congr
  intro childId member
  rw [childInput_supplied valid found isReady member item]
  by_cases node : childId ∈ request.nodeIds
  · have leaf : request.leafTotals.get childId = none := by
      by_contra some
      obtain ⟨totals, leaf⟩ := Option.ne_none_iff_exists'.mp some
      exact apart childId ((Table.mem_keys _).mpr ⟨totals, leaf⟩) node
    have step := mem_childNodeIds.mpr ⟨children_spec found ▸ member, node⟩
    obtain ⟨report, stored⟩ := (Table.mem_keys _).mp (ready_iff.mp isReady childId step)
    simp [suppliedTotals, storedReports, leaf, node, stored]
  · have unknown : reports.get childId = none := by
      by_contra some
      obtain ⟨report, stored⟩ := Option.ne_none_iff_exists'.mp some
      have below := (valid.stored childId report stored).1
      rw [spec_none node] at below
      cases below
    simp [node, unknown]

/-- The loop computes the recursive definition. -/
theorem propagates_replays (apart : ∀ id ∈ request.leafTotals.keys, id ∉ request.nodeIds) :
    Propagates request (Replays request) := by
  intro reports nodeId spec item valid found isReady h
  obtain ⟨inputs, built, h⟩ := bind_ok h
  obtain ⟨_, -, h⟩ := bind_ok h
  obtain ⟨replay, replayed, h⟩ := bind_ok h
  cases h
  have supplied : inputs = suppliedInputs request
      (storedReports reports ⟨spec, replay, incompleteChildren request reports spec⟩) spec := by
    rw [childInputs_eq built]
    apply List.filterMap_congr
    intro childId member
    rw [childInput_supplied valid found isReady member]
  rw [supplied] at replayed
  rw [incompleteChildren_unverified apart valid found isReady
    ⟨spec, replay, incompleteChildren request reports spec⟩]
  refine .node found (fun childId step => ?_) replayed
  obtain ⟨report, stored⟩ := (Table.mem_keys _).mp (ready_iff.mp isReady childId step)
  have known : Replays request childId report := (valid.stored childId report stored).2
  simpa [storedReports, stored] using known

/-- No unit is named in an empty table of candidate lists. -/
theorem tableOfNonempty_empty {candidates : String → List String}
    (h : (tableOfNonempty units candidates).entries = []) : ∀ unit ∈ units, candidates unit = [] := by
  have none : ((units.map fun unit => (unit, candidates unit)).filter fun entry => entry.2 ≠ []) = [] := by
    unfold tableOfNonempty at h
    generalize (units.map fun unit => (unit, candidates unit)).filter _ = pairs at h
    rcases List.eq_nil_or_concat pairs with empty | ⟨front, ⟨key, value⟩, rfl⟩
    · exact empty
    · have last := Table.get_ofList_append front (key, value) key
      rw [if_pos rfl, ← List.concat_eq_append, Table.get, h] at last
      cases last
  intro unit member
  by_contra named
  have listed := List.filter_eq_nil_iff.mp none (unit, candidates unit)
    (List.mem_map.mpr ⟨unit, member, rfl⟩)
  simp [named] at listed

/-- A verified replay has exactly the expected candidates of every unit. -/
theorem replayCollation_candidates {request : CollationReplayRequest} {report : CollationReplayReport}
    (h : replayCollation request = .ok report) (verified : report.status = .verified) :
    ∃ candidates, request.expectedCandidateIds = some candidates ∧
      ∀ unit ∈ request.expectedUnitIds, ∀ candidate,
        candidate ∈ (request.totalsOf unit).keys ↔ candidate ∈ candidates := by
  have received := replayCollation_verified h verified
  obtain ⟨differences, -, rfl⟩ := map_ok h
  obtain ⟨passes, complete⟩ := status_verified.mp verified
  simp only [CollationReplayRequest.hasFailure, CollationReplayRequest.hasIncompleteEvidence,
    not_or, ne_eq, not_not] at passes complete
  obtain ⟨-, unexpected, -⟩ := passes
  obtain ⟨-, known, missing, -⟩ := complete
  cases ids : request.expectedCandidateIds with
  | none => simp [CollationReplayRequest.expectedCandidates, ids] at known
  | some candidates =>
    refine ⟨candidates, rfl, fun unit member candidate => ?_⟩
    have expected : request.expectedCandidates = some (idSet candidates) := by
      simp [CollationReplayRequest.expectedCandidates, ids]
    have included : unit ∈ request.includedIds :=
      List.mem_filter.mpr ⟨mem_idSet.mpr member, decide_eq_true (received unit member)⟩
    simp only [CollationReplayRequest.missingByUnit, expected] at missing
    simp only [CollationReplayRequest.unexpectedByUnit, expected] at unexpected
    have low := tableOfNonempty_empty missing unit included
    have high := tableOfNonempty_empty unexpected unit included
    simp only [without, List.filter_eq_nil_iff, decide_not, Bool.not_eq_eq_eq_not, Bool.not_true,
      decide_eq_false_iff_not, not_not, mem_idSet] at low high
    exact ⟨high candidate, low candidate⟩

/-- The children of a verified node are verified nodes and complete leaves. -/
theorem Replays.child (distinct : ∀ nodeId, (request.children nodeId).Nodup)
    (replays : Replays request nodeId report) (verified : report.replay.status = .verified)
    (member : childId ∈ request.children nodeId) :
    (childId ∈ request.nodeIds ∧ ∃ below, Replays request childId below ∧
      below.replay.status = .verified) ∨
    ∃ totals candidates, request.leafTotals.get childId = some totals ∧
      request.expectedCandidateIds = some candidates ∧
      ∀ candidate, candidate ∈ totals.keys ↔ candidate ∈ candidates := by
  cases replays with
  | @node _ spec replay below found children replayed =>
    have listed := children_spec found
    have expected : childId ∈ spec.expectedChildIds := listed ▸ member
    have received := replayCollation_verified replayed verified childId expected
    obtain ⟨candidates, ids, exact⟩ := replayCollation_candidates replayed verified
    obtain ⟨input, get⟩ := (Table.mem_keys _).mp received
    have supplied : suppliedTotals request below childId = some input.candidateTotals :=
      byUnit_contributed (listed ▸ distinct nodeId) rfl get
    unfold suppliedTotals at supplied
    split at supplied
    · rename_i totals leaf
      cases supplied
      refine .inr ⟨input.candidateTotals, candidates, leaf, ids, fun candidate => ?_⟩
      simpa [CollationReplayRequest.totalsOf, get] using exact childId expected candidate
    · split at supplied
      · rename_i node
        have step : childId ∈ request.childNodeIds nodeId := mem_childNodeIds.mpr ⟨member, node.1⟩
        exact .inl ⟨node.1, below childId, children childId step, node.2⟩
      · cases supplied

/-- The evidence of a descendant: a verified node, or leaf totals of exactly the expected
candidates. -/
def EvidenceComplete (request : CollationGraphRequest) (id : String) : Prop :=
  if id ∈ request.nodeIds then ∃ report, Replays request id report ∧ report.replay.status = .verified
  else ∃ totals candidates, request.leafTotals.get id = some totals ∧
    request.expectedCandidateIds = some candidates ∧
    ∀ candidate, candidate ∈ totals.keys ↔ candidate ∈ candidates

theorem Replays.descendant {id : String} (admitted : Admitted request) (replays : Replays request nodeId report)
    (verified : report.replay.status = .verified) (below : Below request.children nodeId id) :
    EvidenceComplete request id := by
  have child {parent : String} {item : CollationGraphNodeReport}
      (replays : Replays request parent item) (verified : item.replay.status = .verified)
      {childId : String} (step : childId ∈ request.children parent) :
      EvidenceComplete request childId := by
    unfold EvidenceComplete
    rcases replays.child admitted.children verified step with ⟨node, found⟩ | leaf
    · rwa [if_pos node]
    · obtain ⟨totals, candidates, found, rest⟩ := leaf
      have outside : childId ∉ request.nodeIds :=
        admitted.apart childId ((Table.mem_keys _).mpr ⟨totals, found⟩)
      rw [if_neg outside]
      exact ⟨totals, candidates, found, rest⟩
  induction below with
  | single step => exact child replays verified step
  | @tail parent _ _ step ih =>
    unfold EvidenceComplete at ih
    split at ih
    · obtain ⟨item, replays, verified⟩ := ih
      exact child replays verified step
    · rename_i outside
      have childless : request.children parent = [] := by
        simp [CollationGraphRequest.children, spec_none outside]
      have listed : _ ∈ request.children parent := step
      rw [childless] at listed
      cases listed

end

/-- A replay does not see the order of its units and inputs. -/
theorem replayCollation_perm {request other : CollationReplayRequest}
    (level : other.level = request.level) (nodeId : other.nodeId = request.nodeId)
    (candidates : other.expectedCandidateIds = request.expectedCandidateIds)
    (declared : other.declaredTotals = request.declaredTotals)
    (units : request.expectedUnitIds.Perm other.expectedUnitIds)
    (inputs : request.inputs.Perm other.inputs)
    (distinct : (request.inputs.map (·.unitId)).Nodup) :
    replayCollation other = replayCollation request := by
  have expected : idSet other.expectedUnitIds = idSet request.expectedUnitIds :=
    idSet_congr fun x => units.mem_iff.symm
  have keys : ((request.inputs.map fun item => (item.unitId, item)).map (·.1)).Nodup := by
    simpa [Function.comp_def] using distinct
  have byUnit : other.byUnit = request.byUnit := (Table.ofList_perm keys (inputs.map _)).symm
  have included : other.includedIds = request.includedIds := by
    rw [CollationReplayRequest.includedIds, CollationReplayRequest.includedIds, expected, byUnit]
  have totals (unit : String) : other.totalsOf unit = request.totalsOf unit := by
    rw [CollationReplayRequest.totalsOf, CollationReplayRequest.totalsOf, byUnit]
  have computed : other.computed = request.computed := by
    simp only [CollationReplayRequest.computed, included, totals]
  have ids : other.expectedCandidates = request.expectedCandidates := by
    rw [CollationReplayRequest.expectedCandidates, CollationReplayRequest.expectedCandidates,
      candidates]
  have missing : other.missingByUnit = request.missingByUnit := by
    simp only [CollationReplayRequest.missingByUnit, ids, included, totals]
  have unexpected : other.unexpectedByUnit = request.unexpectedByUnit := by
    simp only [CollationReplayRequest.unexpectedByUnit, ids, included, totals]
  have units : other.expectedUnits = request.expectedUnits := expected
  have missingUnits : other.missingUnits = request.missingUnits := by
    rw [CollationReplayRequest.missingUnits, CollationReplayRequest.missingUnits, units, byUnit]
  have unexpectedUnits : other.unexpectedUnits = request.unexpectedUnits := by
    rw [CollationReplayRequest.unexpectedUnits, CollationReplayRequest.unexpectedUnits, units, byUnit]
  have declaredMissing : other.declaredMissing = request.declaredMissing := by
    simp only [CollationReplayRequest.declaredMissing, declared, ids]
  have declaredUnexpected : other.declaredUnexpected = request.declaredUnexpected := by
    simp only [CollationReplayRequest.declaredUnexpected, declared, ids]
  have differences : other.declaredDifferences = request.declaredDifferences := by
    simp only [CollationReplayRequest.declaredDifferences, CollationReplayRequest.comparable,
      declared, ids, missing, computed]
  have status (deltas : List CandidateDelta) : other.status deltas = request.status deltas := by
    have failure : other.hasFailure deltas ↔ request.hasFailure deltas := by
      simp only [CollationReplayRequest.hasFailure, unexpectedUnits, unexpected, declaredUnexpected]
    have incomplete : other.hasIncompleteEvidence ↔ request.hasIncompleteEvidence := by
      simp only [CollationReplayRequest.hasIncompleteEvidence, missingUnits, ids, missing, declared,
        declaredMissing]
    simp only [CollationReplayRequest.status, failure, incomplete]
  simp only [replayCollation, level, nodeId, candidates, declared, units, included, missingUnits,
    unexpectedUnits, missing, unexpected, computed, declaredMissing, declaredUnexpected, differences,
    status]

/-- The same node, its children listed in some order. -/
structure SameSpec (spec other : CollationNodeSpec) : Prop where
  level : other.level = spec.level
  nodeId : other.nodeId = spec.nodeId
  declaredTotals : other.declaredTotals = spec.declaredTotals
  children : spec.expectedChildIds.Perm other.expectedChildIds

/-- The same graph, its nodes, their children and the leaves listed in some order. -/
structure SameGraph (request other : CollationGraphRequest) : Prop where
  nodes : ∃ listed, List.Forall₂ SameSpec request.nodes listed ∧ listed.Perm other.nodes
  candidates : other.expectedCandidateIds = request.expectedCandidateIds
  leaves : ∃ listed relisted, (listed.map (·.1)).Nodup ∧ listed.Perm relisted ∧
    request.leafTotals = Table.ofList listed ∧ other.leafTotals = Table.ofList relisted

namespace SameGraph
variable {request other : CollationGraphRequest}

theorem leafTotals (same : SameGraph request other) : other.leafTotals = request.leafTotals := by
  obtain ⟨listed, relisted, distinct, perm, first, second⟩ := same.leaves
  rw [first, second, Table.ofList_perm distinct perm]

theorem relisted (same : SameGraph request other) :
    (∀ spec ∈ request.nodes, ∃ again ∈ other.nodes, SameSpec spec again) ∧
      ∀ again ∈ other.nodes, ∃ spec ∈ request.nodes, SameSpec spec again := by
  obtain ⟨listed, pairs, perm⟩ := same.nodes
  have both : (∀ spec ∈ request.nodes, ∃ again ∈ listed, SameSpec spec again) ∧
      ∀ again ∈ listed, ∃ spec ∈ request.nodes, SameSpec spec again := by
    clear perm
    generalize request.nodes = nodes at pairs
    induction pairs with
    | nil => simp
    | cons first _ ih =>
      refine ⟨fun spec member => ?_, fun again member => ?_⟩
      · rcases List.mem_cons.mp member with rfl | member
        · exact ⟨_, List.mem_cons_self, first⟩
        · obtain ⟨again, inside, pair⟩ := ih.1 spec member
          exact ⟨again, List.mem_cons_of_mem _ inside, pair⟩
      · rcases List.mem_cons.mp member with rfl | member
        · exact ⟨_, List.mem_cons_self, first⟩
        · obtain ⟨spec, inside, pair⟩ := ih.2 again member
          exact ⟨spec, List.mem_cons_of_mem _ inside, pair⟩
  refine ⟨fun spec member => ?_, fun again member => both.2 again (perm.mem_iff.mpr member)⟩
  obtain ⟨again, inside, pair⟩ := both.1 spec member
  exact ⟨again, perm.mem_iff.mp inside, pair⟩

theorem nodeIds (same : SameGraph request other) : request.nodeIds.Perm other.nodeIds := by
  obtain ⟨listed, pairs, perm⟩ := same.nodes
  have ids : request.nodes.map (·.nodeId) = listed.map (·.nodeId) := by
    clear perm
    generalize request.nodes = nodes at pairs
    induction pairs with
    | nil => rfl
    | cons first _ ih => rw [List.map_cons, List.map_cons, ih, first.nodeId]
  rw [CollationGraphRequest.nodeIds, ids]
  exact perm.map _

theorem spec {node : CollationNodeSpec} (same : SameGraph request other)
    (distinct : request.nodeIds.Nodup) (found : request.spec nodeId = some node) :
    ∃ again, other.spec nodeId = some again ∧ SameSpec node again := by
  have key : node.nodeId = nodeId := by simpa using List.find?_some found
  obtain ⟨again, inside, pair⟩ := same.relisted.1 node (List.mem_of_find?_eq_some found)
  have known := spec_of_mem (same.nodeIds.nodup_iff.mp distinct) inside
  rw [pair.nodeId, key] at known
  exact ⟨again, known, pair⟩

theorem children (same : SameGraph request other) (distinct : request.nodeIds.Nodup)
    (nodeId : String) : (request.children nodeId).Perm (other.children nodeId) := by
  cases found : request.spec nodeId with
  | some node =>
    obtain ⟨again, found', pair⟩ := same.spec distinct found
    rw [children_spec found, children_spec found']
    exact pair.children
  | none =>
    have outside : nodeId ∉ other.nodeIds := fun inside => by
      obtain ⟨node, -, known, -⟩ := spec_some (same.nodeIds.mem_iff.mpr inside)
      rw [found] at known
      cases known
    simp [CollationGraphRequest.children, found, spec_none outside]

theorem mem_childNodeIds (same : SameGraph request other) (distinct : request.nodeIds.Nodup) :
    childId ∈ request.childNodeIds nodeId ↔ childId ∈ other.childNodeIds nodeId := by
  rw [BallotProof.mem_childNodeIds, BallotProof.mem_childNodeIds,
    (same.children distinct nodeId).mem_iff, same.nodeIds.mem_iff]

/-- What is accepted in one order is accepted in another. -/
theorem accepted (same : SameGraph request other) (accepted : Accepted request) : Accepted other where
  specs again member := by
    obtain ⟨spec, inside, pair⟩ := same.relisted.2 again member
    have checked := spec_checked.mp (accepted.specs spec inside)
    refine spec_checked.mpr ⟨?_, ?_, ?_, ?_, ?_⟩
    · exact pair.level ▸ checked.level
    · exact pair.nodeId ▸ checked.nodeId
    · exact pair.children.length_eq ▸ checked.children
    · exact pair.children.nodup_iff.mp checked.distinct
    · rw [pair.nodeId, ← pair.children.mem_iff]
      exact checked.apart
  nonempty := by
    have ids := same.nodeIds.length_eq
    simp only [CollationGraphRequest.nodeIds, List.length_map] at ids
    exact ids ▸ accepted.nonempty
  candidates := same.candidates ▸ accepted.candidates
  nodeIds := same.nodeIds.nodup_iff.mp accepted.nodeIds
  apart id member := by
    rw [← same.nodeIds.mem_iff]
    exact accepted.apart id (same.leafTotals ▸ member)
  leaves := same.leafTotals ▸ accepted.leaves
  acyclic := by
    refine assertAcyclic_ok.mpr fun nodeId cycle => ?_
    have back : Below request.childNodeIds nodeId nodeId :=
      Relation.TransGen.mono (fun _ _ step => (same.mem_childNodeIds accepted.nodeIds).mpr step)
        _ _ cycle
    exact assertAcyclic_ok.mp accepted.acyclic nodeId back

theorem fits (same : SameGraph request other) (fits : ∀ spec ∈ request.nodes, NodeFits request spec) :
    ∀ again ∈ other.nodes, NodeFits other again := by
  intro again member
  obtain ⟨spec, inside, pair⟩ := same.relisted.2 again member
  refine ⟨pair.declaredTotals ▸ (fits spec inside).declared, fun childId child leaf => ?_⟩
  exact (fits spec inside).leafIds childId (pair.children.mem_iff.mpr child) (same.leafTotals ▸ leaf)

end SameGraph

/-- The reports of a node agree but for the listing of its children. -/
structure SameReport (report other : CollationGraphNodeReport) : Prop where
  node : SameSpec report.node other.node
  replay : other.replay = report.replay
  incomplete : other.incompleteChildNodeIds = report.incompleteChildNodeIds

/-- The recursive definition does not see the order of nodes, children and leaves. -/
theorem Replays.relisted {request other : CollationGraphRequest} (same : SameGraph request other)
    (accepted : Accepted request) (replays : Replays request nodeId report) :
    ∃ again, Replays other nodeId again ∧ SameReport report again := by
  induction replays with
  | @node nodeId spec replay below found _ replayed ih =>
    obtain ⟨again, found', pair⟩ := same.spec accepted.nodeIds found
    have checked := spec_checked.mp (accepted.specs spec (List.mem_of_find?_eq_some found))
    have relisted (childId : String) : ∃ item, childId ∈ request.childNodeIds nodeId →
        Replays other childId item ∧ SameReport (below childId) item := by
      by_cases step : childId ∈ request.childNodeIds nodeId
      · obtain ⟨item, known⟩ := ih childId step
        exact ⟨item, fun _ => known⟩
      · exact ⟨below childId, fun h => absurd h step⟩
    choose below' known using relisted
    have node (childId : String) (member : childId ∈ spec.expectedChildIds)
        (inside : childId ∈ request.nodeIds) : SameReport (below childId) (below' childId) :=
      (known childId (mem_childNodeIds.mpr ⟨children_spec found ▸ member, inside⟩)).2
    have supplied (childId : String) (member : childId ∈ spec.expectedChildIds) :
        suppliedTotals other below' childId = suppliedTotals request below childId := by
      unfold suppliedTotals
      rw [same.leafTotals]
      by_cases inside : childId ∈ request.nodeIds
      · have inside' := same.nodeIds.mem_iff.mp inside
        simp only [inside, inside', (node childId member inside).replay]
      · have outside : childId ∉ other.nodeIds := fun again => inside (same.nodeIds.mem_iff.mpr again)
        simp only [inside, outside, false_and, if_false]
    have inputs : (suppliedInputs request below spec).Perm (suppliedInputs other below' again) := by
      have listed : suppliedInputs other below' again = again.expectedChildIds.filterMap fun childId =>
          (suppliedTotals request below childId).map (CollationInput.mk childId) :=
        List.filterMap_congr fun childId member => by
          rw [supplied childId (pair.children.mem_iff.mpr member)]
      rw [listed]
      exact pair.children.filterMap _
    have incomplete : unverifiedChildren other below' again = unverifiedChildren request below spec := by
      have listed : (again.expectedChildIds.filter fun childId =>
          childId ∈ other.nodeIds ∧ (below' childId).replay.status ≠ .verified) =
          again.expectedChildIds.filter fun childId =>
            childId ∈ request.nodeIds ∧ (below childId).replay.status ≠ .verified := by
        apply List.filter_congr
        intro childId member
        by_cases inside : childId ∈ request.nodeIds
        · have inside' := same.nodeIds.mem_iff.mp inside
          rw [(node childId (pair.children.mem_iff.mpr member) inside).replay]
          simp only [inside, inside']
        · have outside : childId ∉ other.nodeIds := fun again => inside (same.nodeIds.mem_iff.mpr again)
          simp only [inside, outside, false_and]
      rw [unverifiedChildren, listed]
      exact sortedIds_perm (pair.children.symm.filter _)
    have agree : replayCollation (nodeRequest other again (suppliedInputs other below' again)) =
        replayCollation (nodeRequest request spec (suppliedInputs request below spec)) := by
      apply replayCollation_perm
      · exact pair.level
      · exact pair.nodeId
      · exact same.candidates
      · exact pair.declaredTotals
      · exact pair.children
      · exact inputs
      · exact contributed_nodup checked.distinct
    refine ⟨_, .node found' (fun childId step => ?_) (agree.trans replayed), pair, rfl, incomplete⟩
    exact (known childId ((same.mem_childNodeIds accepted.nodeIds).mpr step)).1

/-- The report of a graph, up to the order of its nodes and of their children. -/
structure SameGraphReport (report other : CollationGraphReport) : Prop where
  status : other.status = report.status
  complete : other.complete = report.complete
  roots : other.rootNodeIds = report.rootNodeIds
  leaves : other.unreferencedLeafIds = report.unreferencedLeafIds
  nodes : ∀ item ∈ report.nodeReports, ∃ again ∈ other.nodeReports, SameReport item again
  nodes' : ∀ again ∈ other.nodeReports, ∃ item ∈ report.nodeReports, SameReport item again

section
variable {request other : CollationGraphRequest}

/-- The stored report of every node is the one of the recursive definition. -/
theorem nodeReports_replays (accepted : Accepted request)
    (replayed : replayCollationGraph request = .ok report) :
    ∀ item ∈ report.nodeReports, item.node ∈ request.nodes ∧
      Replays request item.node.nodeId item := by
  intro item member
  obtain ⟨found, replays⟩ :=
    replayCollationGraph_reports (propagates_replays accepted.apart) replayed item member
  exact ⟨List.mem_of_find?_eq_some found, replays⟩

/-- Every node that the definition replays has its report. -/
theorem Replays.listed (accepted : Accepted request)
    (replayed : replayCollationGraph request = .ok report) (replays : Replays request nodeId item) :
    item ∈ report.nodeReports := by
  cases replays with
  | @node _ spec replay below found children done =>
    obtain ⟨stored, member, same⟩ :=
      nodeReports_complete replayed spec (List.mem_of_find?_eq_some found)
    have key : spec.nodeId = nodeId := by simpa using List.find?_some found
    rw [key, found] at same
    have node : stored.node.nodeId = nodeId := Option.some.inj same ▸ key
    have again := (nodeReports_replays accepted replayed stored member).2
    rw [node] at again
    rw [again.unique (.node found children done)] at member
    exact member

/-- The node reports stand in the order of the request. -/
theorem nodeReports_nodes (accepted : Accepted request)
    (replayed : replayCollationGraph request = .ok report) :
    report.nodeReports.map (·.node) = request.nodes := by
  obtain ⟨reports, resolved, h⟩ := bind_ok replayed
  cases h
  have nodes : ReportsOf request (fun _ _ => True) reports :=
    resolve_reports (fun _ _ _ _ _ _ _ _ => trivial) reportsOf_empty resolved
  have stored : ∀ spec ∈ request.nodes, ∃ item, reports.get spec.nodeId = some item ∧
      item.node = spec := by
    intro spec member
    obtain ⟨item, get⟩ := (Table.mem_keys _).mp
      (resolve_covered resolving_start resolved spec.nodeId (List.mem_map_of_mem member))
    have found := (nodes.stored _ _ get).1
    rw [spec_of_mem accepted.nodeIds member] at found
    exact ⟨item, get, (Option.some.inj found).symm⟩
  simp only
  generalize request.nodes = listed at stored
  induction listed with
  | nil => rfl
  | cons spec rest ih =>
    obtain ⟨item, get, same⟩ := stored spec List.mem_cons_self
    rw [List.filterMap_cons]
    simp only [get, List.map_cons, same]
    rw [ih fun spec member => stored spec (List.mem_cons_of_mem _ member)]

theorem nodeReports_relisted (same : SameGraph request other) (accepted : Accepted request)
    (replayed : replayCollationGraph request = .ok report)
    (replayed' : replayCollationGraph other = .ok report') :
    (∀ item ∈ report.nodeReports, ∃ again ∈ report'.nodeReports, SameReport item again) ∧
      ∀ again ∈ report'.nodeReports, ∃ item ∈ report.nodeReports, SameReport item again := by
  have accepted' := same.accepted accepted
  refine ⟨fun item member => ?_, fun again member => ?_⟩
  · obtain ⟨-, replays⟩ := nodeReports_replays accepted replayed item member
    obtain ⟨again, replays', agree⟩ := replays.relisted same accepted
    exact ⟨again, replays'.listed accepted' replayed', agree⟩
  · obtain ⟨inside, replays'⟩ := nodeReports_replays accepted' replayed' again member
    obtain ⟨spec, node, pair⟩ := same.relisted.2 again.node inside
    obtain ⟨item, listed, found⟩ := nodeReports_complete replayed spec node
    rw [spec_of_mem accepted.nodeIds node] at found
    obtain ⟨-, replays⟩ := nodeReports_replays accepted replayed item listed
    obtain ⟨agreed, replays'', agree⟩ := replays.relisted same accepted
    rw [← Option.some.inj found, ← pair.nodeId] at replays''
    exact ⟨item, listed, replays''.unique replays' ▸ agree⟩

theorem replayCollationGraph_relisted (same : SameGraph request other) (accepted : Accepted request)
    (replayed : replayCollationGraph request = .ok report)
    (replayed' : replayCollationGraph other = .ok report') : SameGraphReport report report' := by
  obtain ⟨nodes, nodes'⟩ := nodeReports_relisted same accepted replayed replayed'
  have statuses (status : EvidenceSufficiencyStatus) :
      (∃ item ∈ report'.nodeReports, item.replay.status = status) ↔
        ∃ item ∈ report.nodeReports, item.replay.status = status := by
    constructor
    · rintro ⟨again, member, rfl⟩
      obtain ⟨item, inside, agree⟩ := nodes' again member
      exact ⟨item, inside, by rw [agree.replay]⟩
    · rintro ⟨item, member, rfl⟩
      obtain ⟨again, inside, agree⟩ := nodes item member
      exact ⟨again, inside, by rw [agree.replay]⟩
  have referenced : idSet (other.nodes.flatMap (·.expectedChildIds)) =
      idSet (request.nodes.flatMap (·.expectedChildIds)) := by
    apply idSet_congr
    intro id
    simp only [List.mem_flatMap]
    constructor
    · rintro ⟨again, member, child⟩
      obtain ⟨spec, inside, pair⟩ := same.relisted.2 again member
      exact ⟨spec, inside, pair.children.mem_iff.mpr child⟩
    · rintro ⟨spec, member, child⟩
      obtain ⟨again, inside, pair⟩ := same.relisted.1 spec member
      exact ⟨again, inside, pair.children.mem_iff.mp child⟩
  have ids : idSet other.nodeIds = idSet request.nodeIds :=
    idSet_congr fun _ => same.nodeIds.mem_iff.symm
  have inNodes (xs : List String) : xs.filter (· ∈ other.nodeIds) = xs.filter (· ∈ request.nodeIds) :=
    List.filter_congr fun _ _ => by simp only [same.nodeIds.mem_iff]
  obtain ⟨reports, -, built⟩ := bind_ok replayed
  obtain ⟨reports', -, built'⟩ := bind_ok replayed'
  cases built
  cases built'
  simp only at nodes nodes' statuses
  refine ⟨?_, ?_, ?_, ?_, nodes, nodes'⟩
  · simp only [same.leafTotals, referenced, statuses]
  · simp only [same.leafTotals, referenced, statuses]
  · simp only [referenced, ids, inNodes]
  · simp only [same.leafTotals, referenced]

end

/-- What a report says of its graph: each node report is the one of the recursive
definition, a verified node has only verified nodes and complete leaves below it, and any
other listing of the graph is replayed to the same report, up to the listing. -/
structure Conservative (request : CollationGraphRequest) (report : CollationGraphReport) : Prop where
  nodes : report.nodeReports.map (·.node) = request.nodes
  recursive : ∀ item ∈ report.nodeReports, Replays request item.node.nodeId item ∧
    ∀ other, Replays request item.node.nodeId other → other = item
  verified : ∀ item ∈ report.nodeReports, item.replay.status = .verified →
    ∀ id, Below request.children item.node.nodeId id → EvidenceComplete request id
  relisted : ∀ other, SameGraph request other → other.validate = .ok () ∧
    ∃ again, replayCollationGraph other = .ok again ∧ SameGraphReport report again ∧
      again.nodeReports.map (·.node) = other.nodes

theorem replay_conservative {request : CollationGraphRequest} {report : CollationGraphReport}
    (accepted : request.validate = .ok ()) (replayed : replayCollationGraph request = .ok report) :
    Conservative request report := by
  have checked := validate_accepted.mp accepted
  have replays := nodeReports_replays checked replayed
  refine ⟨nodeReports_nodes checked replayed, fun item member => ?_, fun item member verified id below => ?_,
    fun other same => ?_⟩
  · exact ⟨(replays item member).2, fun other again => again.unique (replays item member).2⟩
  · exact (replays item member).2.descendant (validate_admitted accepted) verified below
  · have valid := validate_accepted.mpr (same.accepted checked)
    have fits := (accepted_replays_iff accepted).mp ⟨report, replayed⟩
    obtain ⟨again, replayed'⟩ := (accepted_replays_iff valid).mpr (same.fits fits)
    exact ⟨valid, again, replayed', replayCollationGraph_relisted same checked replayed replayed',
      nodeReports_nodes (same.accepted checked) replayed'⟩

theorem sharedUnit_conservative : ∃ report, replayCollationGraph sharedUnit = .ok report ∧
    (∃ item ∈ report.nodeReports, item.node.nodeId = "root" ∧ item.replay.status = .verified) ∧
    Conservative sharedUnit report := by
  obtain ⟨report, replayed, item, member, root, verified, -⟩ := sharedUnit_run
  exact ⟨report, replayed, ⟨item, member, root, verified⟩, replay_conservative rfl replayed⟩

end BallotProof
