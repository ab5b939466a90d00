import BallotProof.CollationPaths
import BallotProof.Digraph
import BallotProof.Loop

/-! Which accepted graphs are replayed. The cycle check is exact and every pass resolves a
node, so only the models built for a single node can stop the replay: they refuse negative
declared totals and leaf ids of a length that the graph request does not look at. -/
namespace BallotProof
open Python Digraph

/-- No way down through the nodes comes back. -/
def CollationGraphRequest.Acyclic (request : CollationGraphRequest) : Prop :=
  Digraph.Acyclic request.childNodeIds

theorem mem_childNodeIds {request : CollationGraphRequest} :
    child ∈ request.childNodeIds nodeId ↔ child ∈ request.children nodeId ∧ child ∈ request.nodeIds := by
  simp [CollationGraphRequest.childNodeIds, CollationGraphRequest.children]

theorem spec_some {request : CollationGraphRequest} (h : nodeId ∈ request.nodeIds) :
    ∃ spec ∈ request.nodes, request.spec nodeId = some spec ∧ spec.nodeId = nodeId := by
  obtain ⟨node, member, same⟩ := List.mem_map.mp h
  cases found : request.spec nodeId with
  | none =>
    have apart := List.find?_eq_none.mp found node member
    exact absurd same (by simpa using apart)
  | some spec =>
    exact ⟨spec, List.mem_of_find?_eq_some found, rfl, by simpa using List.find?_some found⟩

theorem spec_of_mem {request : CollationGraphRequest} (distinct : request.nodeIds.Nodup)
    (member : node ∈ request.nodes) : request.spec node.nodeId = some node := by
  have known : node.nodeId ∈ request.nodeIds := List.mem_map_of_mem member
  obtain ⟨spec, inside, found, same⟩ := spec_some known
  rw [found, List.inj_on_of_nodup_map distinct inside member same]

theorem spec_none {request : CollationGraphRequest} (h : nodeId ∉ request.nodeIds) :
    request.spec nodeId = none := by
  refine List.find?_eq_none.mpr fun node member => ?_
  have apart : node.nodeId ≠ nodeId := fun same => h (same ▸ List.mem_map_of_mem member)
  simpa using apart

/-- A stage of a loop over nodes: those done are visited, what was visited stays so, and no
visited node leads to a cycle. -/
structure Explored (request : CollationGraphRequest) (before done reached : List String) : Prop where
  kept : before ⊆ reached
  done : ∀ node ∈ done, node ∈ reached
  grounded : ∀ node ∈ reached, Grounded request.childNodeIds node

section
variable {request : CollationGraphRequest}

theorem Explored.snoc (stage : Explored request before front reached)
    (next : Explored request reached [node] reached') :
    Explored request before (front ++ [node]) reached' := by
  refine ⟨fun v member => next.kept (stage.kept member), fun v member => ?_, next.grounded⟩
  rcases List.mem_append.mp member with member | member
  · exact next.kept (stage.done v member)
  · exact next.done v member

/-- The visited nodes lead to no cycle, and visiting only adds to them. -/
theorem visit_explored (h : visit request depth visiting visited nodeId = .ok visited')
    (grounded : ∀ v ∈ visited, Grounded request.childNodeIds v) :
    Explored request visited [nodeId] visited' := by
  induction depth generalizing visiting visited nodeId visited' with
  | zero => cases h
  | succ depth ih =>
    rw [visit] at h
    split at h
    · cases h
    · split at h
      · rename_i seen
        cases h
        exact ⟨List.Subset.refl _, by simpa using seen, grounded⟩
      · obtain ⟨below, children, rfl⟩ := map_ok h
        have stage : Explored request visited (request.childNodeIds nodeId) below :=
          foldlM_invariant ⟨List.Subset.refl _, by simp, grounded⟩
            (fun _ _ _ _ _ _ stage step => stage.snoc (ih step stage.grounded)) children
        refine ⟨fun v member => List.mem_cons_of_mem _ (stage.kept member), by simp, ?_⟩
        rintro v (_ | ⟨_, member⟩)
        · exact grounded_of_children fun child step => stage.grounded child (stage.done child step)
        · exact stage.grounded v member

theorem assertAcyclic_grounded (h : assertAcyclic request = .ok ()) (nodeId : String) :
    Grounded request.childNodeIds nodeId := by
  obtain ⟨visited, visits, -⟩ := map_ok h
  have stage : Explored request [] (idSet request.nodeIds) visited :=
    foldlM_invariant ⟨List.Subset.refl _, by simp, by simp⟩
      (fun _ _ _ _ _ _ stage step => stage.snoc (visit_explored step stage.grounded)) visits
  by_cases member : nodeId ∈ request.nodeIds
  · exact stage.grounded nodeId (stage.done nodeId (mem_idSet.mpr member))
  · apply grounded_of_children
    simp [CollationGraphRequest.childNodeIds, spec_none member]

/-- Below the nodes being visited, a visit of an acyclic graph ends before its depth. -/
theorem visit_total (acyclic : request.Acyclic) (member : nodeId ∈ request.nodeIds)
    (above : ∀ v ∈ visiting, Below request.childNodeIds v nodeId)
    (distinct : visiting.Nodup) (inside : visiting ⊆ request.nodeIds)
    (enough : request.nodes.length < depth + visiting.length) :
    ∃ visited', visit request depth visiting visited nodeId = .ok visited' := by
  induction depth generalizing visiting visited nodeId with
  | zero =>
    have short := (List.subperm_of_subset distinct inside).length_le
    rw [CollationGraphRequest.nodeIds, List.length_map] at short
    omega
  | succ depth ih =>
    have fresh : nodeId ∉ visiting := fun again => acyclic nodeId (above nodeId again)
    rw [visit, if_neg fresh]
    by_cases seen : nodeId ∈ visited
    · exact ⟨visited, if_pos seen⟩
    · have children : ∃ below, (request.childNodeIds nodeId).foldlM
          (visit request depth (nodeId :: visiting)) visited = .ok below := by
        apply foldlM_runs
        intro child step reached
        apply ih (mem_childNodeIds.mp step).2 _ (List.nodup_cons.mpr ⟨fresh, distinct⟩)
          (List.cons_subset.mpr ⟨member, inside⟩)
        · rw [List.length_cons]
          omega
        · intro v up
          rcases List.mem_cons.mp up with rfl | up
          · exact below_of_child step
          · exact (above v up).trans (below_of_child step)
      obtain ⟨below, children⟩ := children
      exact ⟨nodeId :: below, by rw [if_neg seen, children]; rfl⟩

/-- `_assert_acyclic` accepts the graphs without a directed cycle. -/
theorem assertAcyclic_ok : assertAcyclic request = .ok () ↔ request.Acyclic := by
  constructor
  · intro h nodeId
    exact (assertAcyclic_grounded h nodeId).not_below
  · intro acyclic
    have visits : ∃ visited, (idSet request.nodeIds).foldlM
        (visit request (request.nodes.length + 1) []) [] = .ok visited := by
      apply foldlM_runs
      intro node member reached
      apply visit_total acyclic (mem_idSet.mp member) (by simp) List.nodup_nil (List.nil_subset _)
      simp
    obtain ⟨visited, visits⟩ := visits
    rw [assertAcyclic, visits]
    rfl

end

theorem createInput_ok : CollationInput.create unit totals = .ok input ↔
    (1 ≤ unit.length ∧ unit.length ≤ 256) ∧ nonNegative totals = true ∧ input = ⟨unit, totals⟩ := by
  rw [CollationInput.create, bind_eq_ok]
  constructor
  · rintro ⟨_, length, created⟩
    obtain ⟨_, votes, created⟩ := bind_ok created
    cases created
    exact ⟨checkLength_ok.mp length, require_ok.mp votes, rfl⟩
  · rintro ⟨length, votes, rfl⟩
    exact ⟨(), checkLength_ok.mpr length, bind_eq_ok.mpr ⟨(), require_ok.mpr votes, rfl⟩⟩

theorem nonNegative_iff {totals : Table Int} :
    nonNegative totals = true ↔ ∀ candidate, 0 ≤ votes totals candidate := by
  refine ⟨votes_nonNegative, fun counts => ?_⟩
  rw [nonNegative, List.all_eq_true]
  rintro ⟨candidate, count⟩ member
  have counted := counts candidate
  rw [votes, totals.get_of_mem member] at counted
  simpa using counted

/-- The totals of an accepted request are sums of votes. -/
theorem computed_nonNegative {request : CollationReplayRequest}
    (distinct : (request.inputs.map (·.unitId)).Nodup)
    (inputs : ∀ item ∈ request.inputs, nonNegative item.candidateTotals = true) :
    nonNegative request.computed = true := by
  rw [nonNegative_iff]
  intro candidate
  rw [votes_computed]
  apply List.sum_nonneg
  intro count member
  obtain ⟨unit, -, rfl⟩ := List.mem_map.mp member
  unfold CollationReplayRequest.totalsOf
  cases found : request.byUnit.get unit with
  | none => simp
  | some item =>
    have keys : ((request.inputs.map fun item => (item.unitId, item)).map (·.1)).Nodup := by
      simpa [Function.comp_def] using distinct
    obtain ⟨same, inside, eq⟩ := List.mem_map.mp ((Table.get_ofList keys).mp found)
    cases eq
    exact votes_nonNegative (inputs item inside) candidate

theorem compareDeclared_total (computed : nonNegative sums = true)
    (declared : nonNegative totals = true) (candidates : List String) :
    ∃ deltas, compareDeclared sums totals candidates = .ok deltas := by
  induction candidates with
  | nil => exact ⟨[], rfl⟩
  | cons candidate rest ih =>
    obtain ⟨deltas, tail⟩ := ih
    rw [compareDeclared]
    split
    · rename_i sum total hasSum hasTotal
      split
      · have low := nonNegative_iff.mp computed candidate
        have low' := nonNegative_iff.mp declared candidate
        simp only [votes, hasSum, hasTotal, Option.getD_some] at low low'
        have created : CandidateDelta.create candidate sum total =
            .ok ⟨candidate, sum, total, total - sum⟩ :=
          bind_eq_ok.mpr ⟨(), require_ok.mpr low, bind_eq_ok.mpr ⟨(), require_ok.mpr low', rfl⟩⟩
        exact ⟨_, bind_eq_ok.mpr ⟨_, created, bind_eq_ok.mpr ⟨deltas, tail, rfl⟩⟩⟩
      · exact ⟨deltas, tail⟩
    · exact ⟨deltas, tail⟩

/-- The checks of a replay request. -/
structure RequestChecked (request : CollationReplayRequest) : Prop where
  level : 1 ≤ request.level.length ∧ request.level.length ≤ 128
  nodeId : 1 ≤ request.nodeId.length ∧ request.nodeId.length ≤ 256
  units : 1 ≤ request.expectedUnitIds.length
  candidates : ∀ ids ∈ request.expectedCandidateIds, 1 ≤ ids.length
  distinctUnits : request.expectedUnitIds.Nodup
  distinctCandidates : ∀ ids ∈ request.expectedCandidateIds, ids.Nodup
  distinctInputs : (request.inputs.map (·.unitId)).Nodup
  declared : ∀ totals ∈ request.declaredTotals, nonNegative totals = true

theorem validate_checked {request : CollationReplayRequest} :
    request.validate = .ok () ↔ RequestChecked request := by
  constructor
  · intro h
    obtain ⟨_, level, h⟩ := bind_ok h
    obtain ⟨_, nodeId, h⟩ := bind_ok h
    obtain ⟨_, units, h⟩ := bind_ok h
    obtain ⟨_, candidates, h⟩ := bind_ok h
    obtain ⟨_, distinctUnits, h⟩ := bind_ok h
    obtain ⟨_, distinctCandidates, h⟩ := bind_ok h
    obtain ⟨_, distinctInputs, declared⟩ := bind_ok h
    exact ⟨checkLength_ok.mp level, checkLength_ok.mp nodeId, require_ok.mp units,
      require_ok.mp candidates, require_ok.mp distinctUnits, require_ok.mp distinctCandidates,
      require_ok.mp distinctInputs, require_ok.mp declared⟩
  · intro checked
    refine bind_eq_ok.mpr ⟨(), checkLength_ok.mpr checked.level, ?_⟩
    refine bind_eq_ok.mpr ⟨(), checkLength_ok.mpr checked.nodeId, ?_⟩
    refine bind_eq_ok.mpr ⟨(), require_ok.mpr checked.units, ?_⟩
    refine bind_eq_ok.mpr ⟨(), require_ok.mpr checked.candidates, ?_⟩
    refine bind_eq_ok.mpr ⟨(), require_ok.mpr checked.distinctUnits, ?_⟩
    refine bind_eq_ok.mpr ⟨(), require_ok.mpr checked.distinctCandidates, ?_⟩
    refine bind_eq_ok.mpr ⟨(), require_ok.mpr checked.distinctInputs, ?_⟩
    exact require_ok.mpr checked.declared

/-- What the model accepts is replayed. -/
theorem replayCollation_total {request : CollationReplayRequest} (checked : RequestChecked request)
    (inputs : ∀ item ∈ request.inputs, nonNegative item.candidateTotals = true) :
    ∃ report, replayCollation request = .ok report := by
  have computed := computed_nonNegative checked.distinctInputs inputs
  have differences : ∃ deltas, request.declaredDifferences = .ok deltas := by
    unfold CollationReplayRequest.declaredDifferences
    cases totals : request.declaredTotals with
    | none => exact ⟨[], rfl⟩
    | some totals =>
      exact compareDeclared_total computed (checked.declared _ (by simp [totals])) _
  obtain ⟨deltas, differences⟩ := differences
  exact ⟨_, by rw [replayCollation, differences]; rfl⟩

/-- The models built for a node refuse by `ValidationError`. -/
def Rejected (e : Error) : Prop := e.kind = .validationError

theorem require_raises {condition : Prop} [Decidable condition] (message : String) :
    RaisesOnly Rejected (require condition message) := by
  unfold require rejected
  split
  · exact .ok ()
  · exact .error rfl

theorem checkLength_raises (high : Nat) (text : String) : RaisesOnly Rejected (checkLength high text) :=
  .bind (require_raises _) fun _ _ => require_raises _

theorem childInputs_raises (request : CollationGraphRequest) (reports : Reports)
    (children : List String) : RaisesOnly Rejected (childInputs request reports children) := by
  induction children with
  | nil => exact .ok []
  | cons child rest ih =>
    rw [childInputs]
    split
    · exact ih
    · apply RaisesOnly.bind
      · exact .bind (checkLength_raises _ _) fun _ _ => .bind (require_raises _) fun _ _ => .ok _
      · exact fun input _ => .bind ih fun inputs _ => .ok _

theorem CollationReplayRequest.validate_raises (request : CollationReplayRequest) :
    RaisesOnly Rejected request.validate := by
  refine .bind (checkLength_raises _ _) fun _ _ => .bind (checkLength_raises _ _) fun _ _ => ?_
  refine .bind (require_raises _) fun _ _ => .bind (require_raises _) fun _ _ => ?_
  refine .bind (require_raises _) fun _ _ => .bind (require_raises _) fun _ _ => ?_
  exact .bind (require_raises _) fun _ _ => require_raises _

theorem childInputs_created (h : childInputs request reports children = .ok inputs) :
    ∀ child ∈ children, ∀ totals, childInput request reports child = some totals →
      (1 ≤ child.length ∧ child.length ≤ 256) ∧ nonNegative totals = true := by
  induction children generalizing inputs with
  | nil => simp
  | cons first rest ih =>
    rw [childInputs] at h
    intro child member totals found
    rcases List.mem_cons.mp member with rfl | member
    · simp only [found] at h
      obtain ⟨input, created, -⟩ := bind_ok h
      obtain ⟨length, votes, -⟩ := createInput_ok.mp created
      exact ⟨length, votes⟩
    · split at h
      · exact ih h child member totals found
      · obtain ⟨_, -, h⟩ := bind_ok h
        obtain ⟨others, tail, -⟩ := bind_ok h
        exact ih tail child member totals found

theorem childInputs_total (fits : ∀ child ∈ children, ∀ totals,
      childInput request reports child = some totals →
        (1 ≤ child.length ∧ child.length ≤ 256) ∧ nonNegative totals = true) :
    ∃ inputs, childInputs request reports children = .ok inputs := by
  induction children with
  | nil => exact ⟨[], rfl⟩
  | cons child rest ih =>
    obtain ⟨inputs, tail⟩ := ih fun x member => fits x (List.mem_cons_of_mem _ member)
    cases found : childInput request reports child with
    | none => exact ⟨inputs, by simp [childInputs, found, tail]⟩
    | some totals =>
      obtain ⟨length, votes⟩ := fits child List.mem_cons_self totals found
      have created := createInput_ok.mpr ⟨length, votes, rfl⟩
      rw [childInputs, found]
      exact ⟨_, bind_eq_ok.mpr ⟨_, created, bind_eq_ok.mpr ⟨inputs, tail, rfl⟩⟩⟩

theorem childInputs_nonNegative (h : childInputs request reports children = .ok inputs) :
    ∀ item ∈ inputs, nonNegative item.candidateTotals = true := by
  intro item member
  rw [childInputs_eq h] at member
  obtain ⟨child, inside, eq⟩ := List.mem_filterMap.mp member
  obtain ⟨totals, found, rfl⟩ := Option.map_eq_some_iff.mp eq
  exact (childInputs_created h child inside totals found).2

/-- A node that the models of one replay take: its declared totals are not negative, and
its children with leaf totals have ids that stand in a `CollationInput`. -/
structure NodeFits (request : CollationGraphRequest) (spec : CollationNodeSpec) : Prop where
  declared : ∀ totals ∈ spec.declaredTotals, nonNegative totals = true
  leafIds : ∀ child ∈ spec.expectedChildIds, child ∈ request.leafTotals.keys →
    1 ≤ child.length ∧ child.length ≤ 256

theorem forM_eq_ok {f : α → Result Unit} {xs : List α} (h : ∀ x ∈ xs, f x = .ok ()) :
    xs.forM f = .ok () := by
  induction xs with
  | nil => rfl
  | cons x rest ih =>
    exact bind_eq_ok.mpr ⟨(), h x List.mem_cons_self, ih fun y member => h y (List.mem_cons_of_mem _ member)⟩

/-- The checks of an accepted request. -/
structure Accepted (request : CollationGraphRequest) : Prop where
  specs : ∀ spec ∈ request.nodes, spec.validate = .ok ()
  nonempty : 1 ≤ request.nodes.length
  candidates : ∀ ids ∈ request.expectedCandidateIds, 1 ≤ ids.length ∧ ids.Nodup
  nodeIds : request.nodeIds.Nodup
  apart : ∀ id ∈ request.leafTotals.keys, id ∉ request.nodeIds
  leaves : ∀ leaf totals, request.leafTotals.get leaf = some totals → nonNegative totals = true
  acyclic : assertAcyclic request = .ok ()

theorem validate_accepted {request : CollationGraphRequest} :
    request.validate = .ok () ↔ Accepted request := by
  constructor
  · intro h
    obtain ⟨_, specs, h⟩ := bind_ok h
    obtain ⟨_, nonempty, h⟩ := bind_ok h
    obtain ⟨_, candidates, h⟩ := bind_ok h
    obtain ⟨_, nodeIds, h⟩ := bind_ok h
    obtain ⟨_, distinct, h⟩ := bind_ok h
    obtain ⟨_, apart, h⟩ := bind_ok h
    obtain ⟨_, leaves, acyclic⟩ := bind_ok h
    exact ⟨forM_ok specs, require_ok.mp nonempty,
      fun ids member => ⟨require_ok.mp candidates ids member, require_ok.mp distinct ids member⟩,
      require_ok.mp nodeIds, require_ok.mp apart,
      fun leaf totals found => require_ok.mp leaves _ (request.leafTotals.mem_entries found), acyclic⟩
  · intro accepted
    refine bind_eq_ok.mpr ⟨(), forM_eq_ok accepted.specs, ?_⟩
    refine bind_eq_ok.mpr ⟨(), require_ok.mpr accepted.nonempty, ?_⟩
    refine bind_eq_ok.mpr ⟨(), require_ok.mpr fun ids member => (accepted.candidates ids member).1, ?_⟩
    refine bind_eq_ok.mpr ⟨(), require_ok.mpr accepted.nodeIds, ?_⟩
    refine bind_eq_ok.mpr ⟨(), require_ok.mpr fun ids member => (accepted.candidates ids member).2, ?_⟩
    refine bind_eq_ok.mpr ⟨(), require_ok.mpr accepted.apart, ?_⟩
    refine bind_eq_ok.mpr ⟨(), require_ok.mpr fun entry member => ?_, accepted.acyclic⟩
    exact accepted.leaves entry.1 entry.2 (request.leafTotals.get_of_mem member)

/-- The checks of a node. -/
structure SpecChecked (spec : CollationNodeSpec) : Prop where
  level : 1 ≤ spec.level.length ∧ spec.level.length ≤ 128
  nodeId : 1 ≤ spec.nodeId.length ∧ spec.nodeId.length ≤ 256
  children : 1 ≤ spec.expectedChildIds.length
  distinct : spec.expectedChildIds.Nodup
  apart : spec.nodeId ∉ spec.expectedChildIds

theorem spec_checked {spec : CollationNodeSpec} : spec.validate = .ok () ↔ SpecChecked spec := by
  constructor
  · intro h
    obtain ⟨_, level, h⟩ := bind_ok h
    obtain ⟨_, nodeId, h⟩ := bind_ok h
    obtain ⟨_, children, h⟩ := bind_ok h
    obtain ⟨_, distinct, apart⟩ := bind_ok h
    exact ⟨checkLength_ok.mp level, checkLength_ok.mp nodeId, require_ok.mp children,
      require_ok.mp distinct, require_ok.mp apart⟩
  · intro checked
    refine bind_eq_ok.mpr ⟨(), checkLength_ok.mpr checked.level, ?_⟩
    refine bind_eq_ok.mpr ⟨(), checkLength_ok.mpr checked.nodeId, ?_⟩
    refine bind_eq_ok.mpr ⟨(), require_ok.mpr checked.children, ?_⟩
    exact bind_eq_ok.mpr ⟨(), require_ok.mpr checked.distinct, require_ok.mpr checked.apart⟩

section
variable {request : CollationGraphRequest}

/-- Every stored report has totals that a parent takes. -/
abbrev SumsVotes (_nodeId : String) (report : CollationGraphNodeReport) : Prop :=
  nonNegative report.replay.computedTotals = true

theorem inputIds_nodup {spec : CollationNodeSpec} (distinct : spec.expectedChildIds.Nodup)
    (built : childInputs request reports spec.expectedChildIds = .ok inputs) :
    (inputs.map (·.unitId)).Nodup := by
  rw [childInputs_eq built]
  exact contributed_nodup distinct

/-- What `identifiers_are_unique` looks at again. -/
theorem nodeRequest_checked (accepted : Accepted request) (checked : SpecChecked spec)
    (fits : NodeFits request spec)
    (built : childInputs request reports spec.expectedChildIds = .ok inputs) :
    RequestChecked (nodeRequest request spec inputs) where
  level := checked.level
  nodeId := checked.nodeId
  units := checked.children
  candidates ids member := (accepted.candidates ids member).1
  distinctUnits := checked.distinct
  distinctCandidates ids member := (accepted.candidates ids member).2
  distinctInputs := inputIds_nodup checked.distinct built
  declared := fits.declared

/-- A child that contributes is a leaf, or a node with a report. -/
theorem childInput_cases (h : childInput request reports child = some totals) :
    request.leafTotals.get child = some totals ∨
      ∃ report, reports.get child = some report ∧ report.replay.status = .verified ∧
        report.replay.computedTotals = totals := by
  unfold childInput at h
  split at h
  · rename_i leaf
    exact .inl (leaf.trans h)
  · split at h
    · rename_i report stored
      split at h
      · rename_i verified
        exact .inr ⟨report, stored, verified, Option.some.inj h⟩
      · cases h
    · cases h

theorem replayNode_total (accepted : Accepted request) (valid : ReportsOf request SumsVotes reports)
    (found : request.spec nodeId = some spec) (fits : NodeFits request spec) :
    ∃ report, replayNode request reports spec = .ok report := by
  have checked := spec_checked.mp (accepted.specs spec (List.mem_of_find?_eq_some found))
  have inputs : ∃ inputs, childInputs request reports spec.expectedChildIds = .ok inputs := by
    apply childInputs_total
    intro child member totals contributes
    rcases childInput_cases contributes with leaf | ⟨report, stored, -, rfl⟩
    · have key : child ∈ request.leafTotals.keys := (Table.mem_keys _).mpr ⟨totals, leaf⟩
      exact ⟨fits.leafIds child member key, accepted.leaves child totals leaf⟩
    · obtain ⟨below, sums⟩ := valid.stored child report stored
      have key : report.node.nodeId = child := by simpa using List.find?_some below
      have node := spec_checked.mp (accepted.specs _ (List.mem_of_find?_eq_some below))
      exact ⟨key ▸ node.nodeId, sums⟩
  obtain ⟨inputs, built⟩ := inputs
  have checked := nodeRequest_checked accepted checked fits built
  obtain ⟨replay, replayed⟩ := replayCollation_total checked (childInputs_nonNegative built)
  exact ⟨_, bind_eq_ok.mpr ⟨_, built, bind_eq_ok.mpr ⟨_, validate_checked.mpr checked,
    bind_eq_ok.mpr ⟨_, replayed, rfl⟩⟩⟩⟩

/-- A node that is replayed fits. -/
theorem replayNode_fits (h : replayNode request reports spec = .ok report) :
    NodeFits request spec := by
  obtain ⟨inputs, built, h⟩ := bind_ok h
  obtain ⟨_, valid, -⟩ := bind_ok h
  refine ⟨(validate_checked.mp valid).declared, fun child member key => ?_⟩
  obtain ⟨totals, leaf⟩ := (Table.mem_keys _).mp key
  exact (childInputs_created built child member totals (by simp [childInput, leaf])).1

theorem replayNode_raises (reports : Reports) (spec : CollationNodeSpec) :
    RaisesOnly Rejected (replayNode request reports spec) := by
  refine .bind (childInputs_raises _ _ _) fun inputs built => ?_
  refine .bind (CollationReplayRequest.validate_raises _) fun _ valid => ?_
  refine .bind (raisesOnly_of_ok ?_) fun _ _ => .ok _
  exact replayCollation_total (validate_checked.mp valid) (childInputs_nonNegative built)

theorem propagates_sums : Propagates request SumsVotes := by
  intro reports nodeId spec report _ _ _ h
  obtain ⟨inputs, built, h⟩ := bind_ok h
  obtain ⟨_, valid, h⟩ := bind_ok h
  obtain ⟨replay, replayed, h⟩ := bind_ok h
  cases h
  have checked := validate_checked.mp valid
  have computed : replay.computedTotals = _ := replayCollation_computed replayed
  rw [SumsVotes, computed]
  exact computed_nonNegative checked.distinctInputs (childInputs_nonNegative built)

/-- A stage of the loop: the nodes that do not remain have a report. -/
structure Resolving (request : CollationGraphRequest) (reports : Reports) (remaining : List String) :
    Prop where
  inside : remaining ⊆ request.nodeIds
  covered : ∀ id ∈ request.nodeIds, id ∉ remaining → id ∈ reports.keys

theorem ready_iff : ready request reports nodeId = true ↔
    ∀ child ∈ request.childNodeIds nodeId, child ∈ reports.keys := by
  simp [ready, List.all_eq_true]

theorem ready_set {id : String} (h : ready request reports id = true)
    (report : CollationGraphNodeReport) :
    ready request (reports.set nodeId report) id = true :=
  ready_iff.mpr fun child step =>
    (Table.mem_keys_set reports report).mpr (.inr (ready_iff.mp h child step))

theorem Resolving.resolved (stage : Resolving request reports remaining)
    (report : CollationGraphNodeReport) :
    Resolving request (reports.set nodeId report) (remaining.filter (· ≠ nodeId)) := by
  refine ⟨fun id member => stage.inside (List.mem_filter.mp member).1, fun id node gone => ?_⟩
  rw [Table.mem_keys_set]
  by_cases same : id = nodeId
  · exact .inl same
  · refine .inr (stage.covered id node fun member => gone ?_)
    exact List.mem_filter.mpr ⟨member, by simpa using same⟩

/-- After a pass, a node that was ready no longer remains. -/
theorem resolvePass_stage (stage : Resolving request reports remaining)
    (h : resolvePass request pending reports remaining = .ok (reports', left)) :
    Resolving request reports' left ∧ left.Sublist remaining ∧
      ∀ id ∈ pending, ready request reports id = true → id ∉ left := by
  induction pending generalizing reports remaining with
  | nil =>
    cases h
    exact ⟨stage, List.Sublist.refl _, by simp⟩
  | cons nodeId rest ih =>
    rw [resolvePass] at h
    split at h
    · cases h
    · by_cases isReady : ready request reports nodeId = true
      · rw [if_pos isReady] at h
        obtain ⟨report, -, h⟩ := bind_ok h
        obtain ⟨stage', fewer, gone⟩ := ih (stage.resolved report) h
        refine ⟨stage', fewer.trans List.filter_sublist, fun id member was => ?_⟩
        rcases List.mem_cons.mp member with rfl | member
        · exact fun again => by simpa using (List.mem_filter.mp (fewer.subset again)).2
        · exact gone id member (ready_set was report)
      · rw [if_neg isReady] at h
        obtain ⟨stage', fewer, gone⟩ := ih stage h
        refine ⟨stage', fewer, fun id member was => ?_⟩
        rcases List.mem_cons.mp member with rfl | member
        · exact absurd was isReady
        · exact gone id member was

/-- While a node of an acyclic graph remains, a pass resolves one. -/
theorem resolvePass_progress (grounded : ∀ id, Grounded request.childNodeIds id)
    (stage : Resolving request reports remaining) (nonempty : remaining ≠ [])
    (h : resolvePass request (sortedIds remaining) reports remaining = .ok (reports', left)) :
    left.length < remaining.length := by
  obtain ⟨-, fewer, gone⟩ := resolvePass_stage stage h
  obtain ⟨lowest, member, low⟩ := exists_lowest (fun id _ => grounded id) nonempty
  have isReady : ready request reports lowest = true := by
    apply ready_iff.mpr
    intro child step
    exact stage.covered child (mem_childNodeIds.mp step).2 (low child step)
  have resolved : lowest ∉ left :=
    gone lowest ((List.perm_insertionSort _ _).mem_iff.mpr member) isReady
  refine lt_of_le_of_ne fewer.length_le fun same => resolved ?_
  rw [fewer.eq_of_length same]
  exact member

variable {E : Error → Prop}

theorem resolvePass_raises (nodes : ∀ reports nodeId spec, ReportsOf request SumsVotes reports →
      request.spec nodeId = some spec → RaisesOnly E (replayNode request reports spec))
    (inside : pending ⊆ request.nodeIds) (valid : ReportsOf request SumsVotes reports) :
    RaisesOnly E (resolvePass request pending reports remaining) := by
  induction pending generalizing reports remaining with
  | nil => exact .ok _
  | cons nodeId rest ih =>
    have within := List.cons_subset.mp inside
    obtain ⟨spec, -, found, -⟩ := spec_some within.1
    simp only [resolvePass, found]
    by_cases isReady : ready request reports nodeId = true
    · rw [if_pos isReady]
      refine .bind (nodes reports nodeId spec valid found) fun report replayed => ?_
      have node := replayNode_node replayed
      exact ih within.2 (valid.set (node ▸ found)
        (propagates_sums reports nodeId spec report valid found isReady replayed))
    · rw [if_neg isReady]
      exact ih within.2 valid

/-- The loop raises only what the replay of a node raises. -/
theorem resolve_raises (nodes : ∀ reports nodeId spec, ReportsOf request SumsVotes reports →
      request.spec nodeId = some spec → RaisesOnly E (replayNode request reports spec))
    (grounded : ∀ id, Grounded request.childNodeIds id)
    (stage : Resolving request reports remaining) (valid : ReportsOf request SumsVotes reports)
    (enough : remaining.length ≤ fuel) :
    RaisesOnly E (resolve request fuel reports remaining) := by
  induction fuel generalizing reports remaining with
  | zero =>
    have done : remaining = [] := List.eq_nil_of_length_eq_zero (by omega)
    rw [resolve, if_pos done]
    exact .ok _
  | succ fuel ih =>
    rw [resolve]
    by_cases done : remaining = []
    · rw [if_pos done]
      exact .ok _
    · rw [if_neg done]
      have pending : sortedIds remaining ⊆ request.nodeIds := fun id member =>
        stage.inside ((List.perm_insertionSort _ _).mem_iff.mp member)
      refine .bind (resolvePass_raises nodes pending valid) fun passed pass => ?_
      obtain ⟨reports', left⟩ := passed
      have fewer := resolvePass_progress grounded stage done pass
      simp only [if_neg fewer.ne]
      exact ih (resolvePass_stage stage pass).1 (resolvePass_reports propagates_sums valid pass)
        (by omega)

/-- The loop ends with a report for every node. -/
theorem resolve_covered (stage : Resolving request reports remaining)
    (h : resolve request fuel reports remaining = .ok final) :
    ∀ id ∈ request.nodeIds, id ∈ final.keys := by
  induction fuel generalizing reports remaining with
  | zero =>
    rw [resolve] at h
    split at h
    · rename_i done
      cases h
      exact fun id node => stage.covered id node (by simp [done])
    · cases h
  | succ fuel ih =>
    rw [resolve] at h
    split at h
    · rename_i done
      cases h
      exact fun id node => stage.covered id node (by simp [done])
    · obtain ⟨⟨reports', left⟩, pass, h⟩ := bind_ok h
      simp only at h
      split at h
      · cases h
      · exact ih (resolvePass_stage stage pass).1 h

theorem resolving_start : Resolving request Table.empty (idSet request.nodeIds) :=
  ⟨fun _ member => mem_idSet.mp member, fun _ node gone => absurd (mem_idSet.mpr node) gone⟩

theorem reportsOf_empty : ReportsOf request P Table.empty := ⟨fun _ _ none => by cases none⟩

theorem start_enough : (idSet request.nodeIds).length ≤ request.nodes.length := by
  have short := (List.subperm_of_subset (idSet_nodup request.nodeIds)
    (fun id member => mem_idSet.mp member)).length_le
  simpa [CollationGraphRequest.nodeIds] using short

/-- Every node has its report in the order of the request. -/
theorem nodeReports_complete (h : replayCollationGraph request = .ok report) :
    ∀ spec ∈ request.nodes, ∃ item ∈ report.nodeReports,
      request.spec spec.nodeId = some item.node := by
  obtain ⟨reports, resolved, h⟩ := bind_ok h
  cases h
  intro spec member
  obtain ⟨item, stored⟩ := (Table.mem_keys _).mp
    (resolve_covered resolving_start resolved spec.nodeId (List.mem_map_of_mem member))
  have nodes : ReportsOf request (fun _ _ => True) reports :=
    resolve_reports (fun _ _ _ _ _ _ _ _ => trivial) reportsOf_empty resolved
  exact ⟨item, List.mem_filterMap.mpr ⟨spec, member, stored⟩, (nodes.stored _ _ stored).1⟩

/-- An accepted graph is replayed exactly where every node fits the models that its replay builds. -/
theorem accepted_replays_iff (valid : request.validate = .ok ()) :
    (∃ report, replayCollationGraph request = .ok report) ↔ ∀ spec ∈ request.nodes, NodeFits request spec := by
  have accepted := validate_accepted.mp valid
  have grounded := assertAcyclic_grounded accepted.acyclic
  constructor
  · rintro ⟨report, replayed⟩ spec member
    have propagates : Propagates request fun _ item => NodeFits request item.node := by
      intro _ _ spec item _ _ _ done
      rw [replayNode_node done]
      exact replayNode_fits done
    obtain ⟨item, inside, found⟩ := nodeReports_complete replayed spec member
    have same := found.symm.trans (spec_of_mem accepted.nodeIds member)
    exact Option.some.inj same ▸ (replayCollationGraph_reports propagates replayed item inside).2
  · intro fits
    have resolved := returns_of_raisesOnly (resolve_raises (fun reports nodeId spec valid found =>
      raisesOnly_of_ok (replayNode_total accepted valid found
        (fits spec (List.mem_of_find?_eq_some found)))) grounded resolving_start reportsOf_empty start_enough)
    obtain ⟨reports, resolved⟩ := resolved
    exact ⟨_, bind_eq_ok.mpr ⟨reports, resolved, rfl⟩⟩

/-- The cycle check accepts the graphs without a directed cycle. An accepted graph is
replayed exactly where every node fits the models that its replay builds; otherwise one of
these refuses, and the loop never stops short of a node. -/
theorem replayed_iff (request : CollationGraphRequest) :
    (assertAcyclic request = .ok () ↔ request.Acyclic) ∧
      (request.validate = .ok () →
        ((∃ report, replayCollationGraph request = .ok report) ↔
          ∀ spec ∈ request.nodes, NodeFits request spec) ∧
        ∀ e, replayCollationGraph request = .error e → e.kind = .validationError) := by
  refine ⟨assertAcyclic_ok, fun valid => ⟨accepted_replays_iff valid, ?_⟩⟩
  have grounded := assertAcyclic_grounded (validate_accepted.mp valid).acyclic
  have raises : RaisesOnly Rejected (replayCollationGraph request) :=
    .bind (resolve_raises (fun reports _ spec _ _ => replayNode_raises reports spec) grounded
      resolving_start reportsOf_empty start_enough) fun _ _ => .ok _
  exact raises

end

/-- A ward that declares a negative count over a supplied polling unit. -/
def negativeDeclared : CollationGraphRequest where
  nodes := [⟨"ward", "ward-a", ["unit"], some (Table.ofList [("c", -1)])⟩]
  expectedCandidateIds := some ["c"]
  leafTotals := Table.ofList [("unit", Table.ofList [("c", 1)])]

/-- A ward over a polling unit without an id. -/
def namelessUnit : CollationGraphRequest where
  nodes := [⟨"ward", "ward-a", [""], none⟩]
  expectedCandidateIds := some ["c"]
  leafTotals := Table.ofList [("", Table.ofList [("c", 1)])]

/-- Both are accepted, and stop the replay in the middle. -/
theorem accepted_notReplayed :
    (negativeDeclared.validate = .ok () ∧
      replayCollationGraph negativeDeclared = rejected "declared totals must be non-negative") ∧
    (namelessUnit.validate = .ok () ∧
      replayCollationGraph namelessUnit = rejected "String should have at least 1 character") := by
  decide +kernel

theorem negativeDeclared_replayed :
    ((∃ report, replayCollationGraph negativeDeclared = .ok report) ↔
      ∀ spec ∈ negativeDeclared.nodes, NodeFits negativeDeclared spec) ∧
    ∀ e, replayCollationGraph negativeDeclared = .error e → e.kind = .validationError :=
  (replayed_iff negativeDeclared).2 rfl

end BallotProof
