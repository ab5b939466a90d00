import BallotProof.Collation

/-! Multi-level replay: a graph of collation nodes over leaf totals, resolved from the
leaves upwards. A node may be a child of several nodes, and a leaf may stand under
several of them. -/
namespace BallotProof
open Python

structure CollationNodeSpec where
  level : String
  nodeId : String
  expectedChildIds : List String
  declaredTotals : Option (Table Int)
  deriving DecidableEq

/-- The field checks and `child_ids_are_unique`. -/
def CollationNodeSpec.validate (node : CollationNodeSpec) : Result Unit := do
  checkLength 128 node.level
  checkLength 256 node.nodeId
  require (1 ≤ node.expectedChildIds.length) "List should have at least 1 item after validation"
  require node.expectedChildIds.Nodup "expected_child_ids must be unique within a collation node"
  require (node.nodeId ∉ node.expectedChildIds) "a collation node cannot be its own child"

structure CollationGraphRequest where
  nodes : List CollationNodeSpec
  expectedCandidateIds : Option (List String)
  leafTotals : Table (Table Int)
  deriving DecidableEq

namespace CollationGraphRequest

def nodeIds (request : CollationGraphRequest) : List String := request.nodes.map (·.nodeId)

/-- `specs[node_id]` -/
def spec (request : CollationGraphRequest) (nodeId : String) : Option CollationNodeSpec :=
  request.nodes.find? (·.nodeId = nodeId)

/-- `dependencies[node_id]`, the children that are nodes. -/
def childNodeIds (request : CollationGraphRequest) (nodeId : String) : List String :=
  ((request.spec nodeId).map (·.expectedChildIds)).getD [] |>.filter (· ∈ request.nodeIds)

end CollationGraphRequest

/-- `visit` of `_assert_acyclic`; the nodes being visited lie on one path, so the number
of nodes bounds the depth. The result is the set of visited nodes. -/
def visit (request : CollationGraphRequest) :
    Nat → List String → List String → String → Result (List String)
  | 0, _, _, nodeId => rejected s!"collation graph contains a cycle at {nodeId}"
  | depth + 1, visiting, visited, nodeId =>
    if nodeId ∈ visiting then rejected s!"collation graph contains a cycle at {nodeId}"
    else if nodeId ∈ visited then .ok visited
    else ((request.childNodeIds nodeId).foldlM (visit request depth (nodeId :: visiting)) visited).map
      fun visited => nodeId :: visited

/-- `_assert_acyclic` -/
def assertAcyclic (request : CollationGraphRequest) : Result Unit :=
  ((idSet request.nodeIds).foldlM (visit request (request.nodes.length + 1) []) []).map fun _ => ()

/-- The field checks and `graph_is_well_formed`. -/
def CollationGraphRequest.validate (request : CollationGraphRequest) : Result Unit := do
  request.nodes.forM CollationNodeSpec.validate
  require (1 ≤ request.nodes.length) "List should have at least 1 item after validation"
  require (∀ ids ∈ request.expectedCandidateIds, 1 ≤ ids.length)
    "List should have at least 1 item after validation"
  require request.nodeIds.Nodup "collation node_id values must be unique"
  require (∀ ids ∈ request.expectedCandidateIds, ids.Nodup) "expected_candidate_ids must be unique"
  require (∀ id ∈ request.leafTotals.keys, id ∉ request.nodeIds) "node IDs cannot also be leaf IDs"
  require (∀ entry ∈ request.leafTotals.entries, nonNegative entry.2)
    "leaf totals must be non-negative"
  assertAcyclic request

structure CollationGraphNodeReport where
  node : CollationNodeSpec
  replay : CollationReplayReport
  incompleteChildNodeIds : List String
  deriving DecidableEq

structure CollationGraphReport where
  status : EvidenceSufficiencyStatus
  complete : Bool
  rootNodeIds : List String
  unreferencedLeafIds : List String
  nodeReports : List CollationGraphNodeReport
  deriving DecidableEq

abbrev Reports := Table CollationGraphNodeReport

/-- What a child contributes: leaf totals, the totals of a verified node, or nothing. -/
def childInput (request : CollationGraphRequest) (reports : Reports) (childId : String) :
    Option (Table Int) :=
  match request.leafTotals.get childId with
  | some totals => some totals
  | none =>
    match reports.get childId with
    | some child => if child.replay.status = .verified then some child.replay.computedTotals else none
    | none => none

/-- `CollationInput`s of the children, in the order they are listed. -/
def childInputs (request : CollationGraphRequest) (reports : Reports) :
    List String → Result (List CollationInput)
  | [] => .ok []
  | childId :: rest =>
    match childInput request reports childId with
    | none => childInputs request reports rest
    | some totals => do
      let input ← CollationInput.create childId totals
      let inputs ← childInputs request reports rest
      return input :: inputs

def incompleteChildren (request : CollationGraphRequest) (reports : Reports)
    (spec : CollationNodeSpec) : List String :=
  sortedIds <| spec.expectedChildIds.filter fun childId =>
    (request.leafTotals.get childId).isNone ∧ (reports.get childId).isSome ∧
      (childInput request reports childId).isNone

/-- The replay request built for a node. -/
def nodeRequest (request : CollationGraphRequest) (spec : CollationNodeSpec)
    (inputs : List CollationInput) : CollationReplayRequest where
  level := spec.level
  nodeId := spec.nodeId
  expectedUnitIds := spec.expectedChildIds
  expectedCandidateIds := request.expectedCandidateIds
  inputs := inputs
  declaredTotals := spec.declaredTotals

/-- The report of a node whose child nodes have theirs. -/
def replayNode (request : CollationGraphRequest) (reports : Reports) (spec : CollationNodeSpec) :
    Result CollationGraphNodeReport := do
  let inputs ← childInputs request reports spec.expectedChildIds
  (nodeRequest request spec inputs).validate
  let replay ← replayCollation (nodeRequest request spec inputs)
  return ⟨spec, replay, incompleteChildren request reports spec⟩

/-- All child nodes have a report. -/
def ready (request : CollationGraphRequest) (reports : Reports) (nodeId : String) : Bool :=
  (request.childNodeIds nodeId).all (· ∈ reports.keys)

/-- One `for` loop over the sorted remaining nodes. -/
def resolvePass (request : CollationGraphRequest) :
    List String → Reports → List String → Result (Reports × List String)
  | [], reports, remaining => .ok (reports, remaining)
  | nodeId :: rest, reports, remaining =>
    match request.spec nodeId with
    | none => .error ⟨.keyError, nodeId⟩
    | some spec =>
      if ready request reports nodeId then do
        let report ← replayNode request reports spec
        resolvePass request rest (reports.set nodeId report) (remaining.filter (· ≠ nodeId))
      else resolvePass request rest reports remaining

/-- `while remaining`; a pass that makes progress removes a node. -/
def resolve (request : CollationGraphRequest) : Nat → Reports → List String → Result Reports
  | 0, reports, remaining =>
    if remaining = [] then .ok reports
    else .error ⟨.valueError, "collation graph could not be resolved"⟩
  | fuel + 1, reports, remaining =>
    if remaining = [] then .ok reports
    else do
      let (reports, left) ← resolvePass request (sortedIds remaining) reports remaining
      if left.length = remaining.length then
        .error ⟨.valueError, "collation graph could not be resolved"⟩
      else resolve request fuel reports left

/-- `replay_collation_graph` -/
def replayCollationGraph (request : CollationGraphRequest) : Result CollationGraphReport := do
  let reports ← resolve request request.nodes.length Table.empty (idSet request.nodeIds)
  let referencedChildren := idSet (request.nodes.flatMap (·.expectedChildIds))
  let referencedNodes := referencedChildren.filter (· ∈ request.nodeIds)
  let rootIds := without (idSet request.nodeIds) referencedNodes
  let unreferencedLeaves := without request.leafTotals.keys referencedChildren
  let orderedReports := request.nodes.filterMap fun node => reports.get node.nodeId
  let status :=
    if unreferencedLeaves ≠ [] ∨ ∃ item ∈ orderedReports, item.replay.status = .failed then
      EvidenceSufficiencyStatus.failed
    else if ∃ item ∈ orderedReports, item.replay.status = .incomplete then .incomplete
    else .verified
  return ⟨status, status = .verified, rootIds, unreferencedLeaves, orderedReports⟩

/-- `expected_child_ids` of a node. -/
def CollationGraphRequest.children (request : CollationGraphRequest) (nodeId : String) : List String :=
  ((request.spec nodeId).map (·.expectedChildIds)).getD []

def CollationGraphRequest.leafVotes (request : CollationGraphRequest) (leaf candidate : String) : Int :=
  votes ((request.leafTotals.get leaf).getD Table.empty) candidate

/-- What the checks of the request give the replay. -/
structure Admitted (request : CollationGraphRequest) : Prop where
  children : ∀ nodeId, (request.children nodeId).Nodup
  apart : ∀ id ∈ request.leafTotals.keys, id ∉ request.nodeIds
  nonNegative : ∀ leaf candidate, 0 ≤ request.leafVotes leaf candidate
  nodes : request.nodeIds.Nodup

theorem forM_ok {f : α → Result Unit} {xs : List α} (h : xs.forM f = .ok ()) :
    ∀ x ∈ xs, f x = .ok () := by
  induction xs with
  | nil => simp
  | cons x rest ih =>
    obtain ⟨_, first, others⟩ := bind_ok h
    rintro y (_ | ⟨_, hy⟩)
    · exact first
    · exact ih others y hy

theorem votes_nonNegative (h : nonNegative totals = true) (candidate : String) :
    0 ≤ votes totals candidate := by
  obtain ⟨entries, ascending⟩ := totals
  simp only [nonNegative, List.all_eq_true, decide_eq_true_eq] at h
  simp only [votes, Table.get]
  induction entries with
  | nil => simp [lookup]
  | cons first rest ih =>
    obtain ⟨k, v⟩ := first
    simp only [List.mem_cons, forall_eq_or_imp] at h
    by_cases same : k = candidate
    · simpa [lookup, same] using h.1
    · simpa [lookup, same] using ih (keysAscend_tail ascending) h.2

theorem validate_admitted {request : CollationGraphRequest} (h : request.validate = .ok ()) :
    Admitted request := by
  obtain ⟨_, specs, h⟩ := bind_ok h
  obtain ⟨_, -, h⟩ := bind_ok h
  obtain ⟨_, -, h⟩ := bind_ok h
  obtain ⟨_, nodes, h⟩ := bind_ok h
  obtain ⟨_, -, h⟩ := bind_ok h
  obtain ⟨_, apart, h⟩ := bind_ok h
  obtain ⟨_, votes, -⟩ := bind_ok h
  refine ⟨fun nodeId => ?_, require_ok.mp apart, fun leaf candidate => ?_, require_ok.mp nodes⟩
  · cases found : request.spec nodeId with
    | none => simp [CollationGraphRequest.children, found]
    | some spec =>
      have valid := forM_ok specs spec (List.mem_of_find?_eq_some found)
      obtain ⟨_, -, valid⟩ := bind_ok valid
      obtain ⟨_, -, valid⟩ := bind_ok valid
      obtain ⟨_, -, valid⟩ := bind_ok valid
      obtain ⟨_, unique, -⟩ := bind_ok valid
      simpa [CollationGraphRequest.children, found] using require_ok.mp unique
  · cases found : request.leafTotals.get leaf with
    | none => simp [CollationGraphRequest.leafVotes, found]
    | some totals =>
      have member := request.leafTotals.mem_entries found
      simpa [CollationGraphRequest.leafVotes, found] using
        votes_nonNegative (require_ok.mp votes _ member) candidate

theorem childInputs_eq {request : CollationGraphRequest} {reports : Reports}
    {children : List String} {inputs : List CollationInput}
    (h : childInputs request reports children = .ok inputs) :
    inputs = children.filterMap fun child =>
      (childInput request reports child).map (CollationInput.mk child) := by
  induction children generalizing inputs with
  | nil => cases h; rfl
  | cons child rest ih =>
    rw [childInputs] at h
    split at h
    · rename_i missing
      simp [missing, ih h]
    · rename_i totals found
      obtain ⟨input, created, h⟩ := bind_ok h
      obtain ⟨others, tail, h⟩ := bind_ok h
      obtain ⟨-, -, created⟩ := bind_ok created
      obtain ⟨-, -, created⟩ := bind_ok created
      cases h
      cases created
      simp [found, ih tail]

/-- What the loop has established of the reports it has stored. -/
structure ReportsOf (request : CollationGraphRequest) (P : String → CollationGraphNodeReport → Prop)
    (reports : Reports) : Prop where
  stored : ∀ nodeId report, reports.get nodeId = some report →
    request.spec nodeId = some report.node ∧ P nodeId report

/-- A property that each replayed node has, given its children's reports. -/
def Propagates (request : CollationGraphRequest)
    (P : String → CollationGraphNodeReport → Prop) : Prop :=
  ∀ reports nodeId spec report, ReportsOf request P reports → request.spec nodeId = some spec →
    ready request reports nodeId = true → replayNode request reports spec = .ok report →
    P nodeId report

section
variable {request : CollationGraphRequest} {P : String → CollationGraphNodeReport → Prop}

theorem replayNode_node (h : replayNode request reports spec = .ok report) : report.node = spec := by
  obtain ⟨_, -, h⟩ := bind_ok h
  obtain ⟨_, -, h⟩ := bind_ok h
  obtain ⟨_, -, h⟩ := bind_ok h
  cases h
  rfl

theorem ReportsOf.set (valid : ReportsOf request P reports)
    (found : request.spec nodeId = some report.node) (holds : P nodeId report) :
    ReportsOf request P (reports.set nodeId report) := by
  constructor
  intro other stored get
  rw [Table.get_set] at get
  split at get
  · rename_i same
    cases get
    subst same
    exact ⟨found, holds⟩
  · exact valid.stored other stored get

theorem resolvePass_reports (propagates : Propagates request P) :
    ∀ {pending reports remaining reports' remaining'}, ReportsOf request P reports →
      resolvePass request pending reports remaining = .ok (reports', remaining') →
      ReportsOf request P reports'
  | [], _, _, _, _, valid, h => by cases h; exact valid
  | nodeId :: rest, reports, remaining, reports', remaining', valid, h => by
    rw [resolvePass] at h
    split at h
    · cases h
    · rename_i spec found
      split at h
      · rename_i isReady
        obtain ⟨report, replayed, h⟩ := bind_ok h
        have node := replayNode_node replayed
        exact resolvePass_reports propagates (valid.set (node ▸ found)
          (propagates reports nodeId spec report valid found isReady replayed)) h
      · exact resolvePass_reports propagates valid h

theorem resolve_reports (propagates : Propagates request P) :
    ∀ {fuel reports remaining final}, ReportsOf request P reports →
      resolve request fuel reports remaining = .ok final → ReportsOf request P final
  | 0, _, _, _, valid, h => by
    rw [resolve] at h
    split at h
    · cases h; exact valid
    · cases h
  | fuel + 1, _, _, _, valid, h => by
    rw [resolve] at h
    split at h
    · cases h; exact valid
    · obtain ⟨⟨reports', left⟩, pass, h⟩ := bind_ok h
      simp only at h
      split at h
      · cases h
      · exact resolve_reports propagates (resolvePass_reports propagates valid pass) h

/-- What propagates from the children to a node holds of every node report. -/
theorem replayCollationGraph_reports (propagates : Propagates request P)
    (h : replayCollationGraph request = .ok report) :
    ∀ item ∈ report.nodeReports, request.spec item.node.nodeId = some item.node ∧
      P item.node.nodeId item := by
  obtain ⟨reports, resolved, h⟩ := bind_ok h
  have initial : ReportsOf request P Table.empty := ⟨fun _ _ none => by cases none⟩
  have valid := resolve_reports propagates initial resolved
  cases h
  intro item member
  obtain ⟨node, hnode, get⟩ := List.mem_filterMap.mp member
  obtain ⟨found, holds⟩ := valid.stored _ _ get
  have key : item.node.nodeId = node.nodeId := by simpa using List.find?_some found
  rw [key]
  exact ⟨found, holds⟩

end

end BallotProof
