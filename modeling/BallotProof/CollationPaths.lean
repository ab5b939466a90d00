import BallotProof.CollationGraph

/-! How often a leaf counts. A verified node has the votes of each leaf once for every path
that leads down to it, so leaves count once exactly where no two paths share one. -/
namespace BallotProof
open Python

/-- The ids below a node on a way down to a leaf, the leaf last. -/
inductive LeafPath (request : CollationGraphRequest) : String → List String → Prop
  | leaf : child ∈ request.children nodeId → child ∈ request.leafTotals.keys →
    LeafPath request nodeId [child]
  | node : child ∈ request.children nodeId → child ∈ request.nodeIds →
    LeafPath request child path → LeafPath request nodeId (child :: path)

def leafOf (path : List String) : String := path.getLast?.getD ""

/-- A leaf at the end of some path. -/
def ReachableLeaf (request : CollationGraphRequest) (nodeId leaf : String) : Prop :=
  ∃ path, LeafPath request nodeId path ∧ leafOf path = leaf

theorem LeafPath.ne_nil (h : LeafPath request nodeId path) : path ≠ [] := by
  cases h <;> simp

theorem leafOf_cons (nonempty : path ≠ []) : leafOf (child :: path) = leafOf path := by
  cases path with
  | nil => exact absurd rfl nonempty
  | cons first rest => simp [leafOf, List.getLast?_cons_cons]

/-- The totals add up the votes of the leaf at the end of every path. -/
structure CountsPaths (request : CollationGraphRequest) (nodeId : String) (totals : Table Int)
    (paths : Finset (List String)) : Prop where
  complete : ∀ path, path ∈ paths ↔ LeafPath request nodeId path
  total : ∀ candidate, votes totals candidate =
    ∑ path ∈ paths, request.leafVotes (leafOf path) candidate

/-- The paths through one child, with the totals that child contributes. -/
structure CountsThrough (request : CollationGraphRequest) (child : String) (totals : Table Int)
    (paths : Finset (List String)) : Prop where
  complete : ∀ path, path ∈ paths ↔ ∃ rest, path = child :: rest ∧
    (rest = [] ∧ child ∈ request.leafTotals.keys ∨
      child ∈ request.nodeIds ∧ LeafPath request child rest)
  total : ∀ candidate, votes totals candidate =
    ∑ path ∈ paths, request.leafVotes (leafOf path) candidate

theorem countsThrough_leaf (admitted : Admitted request)
    (leaf : request.leafTotals.get child = some totals) :
    CountsThrough request child totals {[child]} := by
  have key : child ∈ request.leafTotals.keys := (Table.mem_keys _).mpr ⟨totals, leaf⟩
  have apart : child ∉ request.nodeIds := admitted.apart child key
  refine ⟨fun path => ?_, fun candidate => ?_⟩
  · simp [key, apart]
  · simp [leafOf, CollationGraphRequest.leafVotes, leaf]

theorem countsThrough_node (counts : CountsPaths request child totals paths)
    (leaf : request.leafTotals.get child = none) (node : child ∈ request.nodeIds) :
    CountsThrough request child totals (paths.image (child :: ·)) := by
  have key : child ∉ request.leafTotals.keys := by simp [Table.mem_keys, leaf]
  refine ⟨fun path => ?_, fun candidate => ?_⟩
  · simp only [Finset.mem_image, counts.complete, key, and_false, node, true_and, false_or]
    constructor
    · rintro ⟨rest, below, rfl⟩; exact ⟨rest, rfl, below⟩
    · rintro ⟨rest, rfl, below⟩; exact ⟨rest, below, rfl⟩
  · rw [counts.total, Finset.sum_image (by simp)]
    refine Finset.sum_congr rfl fun path member => ?_
    rw [leafOf_cons (LeafPath.ne_nil ((counts.complete path).mp member))]

/-- A child that contributes totals contributes its own paths. -/
theorem childInput_counts (admitted : Admitted request)
    (valid : ReportsOf request (fun nodeId report => report.replay.status = .verified →
      ∃ paths, CountsPaths request nodeId report.replay.computedTotals paths) reports)
    (h : childInput request reports child = some totals) :
    ∃ paths, CountsThrough request child totals paths := by
  unfold childInput at h
  split at h
  · rename_i leaf
    cases h
    exact ⟨_, countsThrough_leaf admitted leaf⟩
  · rename_i leaf
    split at h
    · rename_i report stored
      split at h
      · rename_i verified
        cases h
        obtain ⟨found, counts⟩ := valid.stored child report stored
        obtain ⟨paths, counts⟩ := counts verified
        refine ⟨_, countsThrough_node counts leaf ?_⟩
        have key : report.node.nodeId = child := by simpa using List.find?_some found
        exact key ▸ List.mem_map_of_mem (List.mem_of_find?_eq_some found)
      · cases h
    · cases h

/-- The unit ids of inputs that distinct children contribute are distinct. -/
theorem contributed_nodup {contribution : String → Option (Table Int)} {children : List String}
    (distinct : children.Nodup) :
    ((children.filterMap fun child =>
      (contribution child).map (CollationInput.mk child)).map (·.unitId)).Nodup := by
  rw [List.map_filterMap]
  refine distinct.filterMap fun a b key ha hb => ?_
  simp only [Option.mem_def, Option.map_map, Option.map_eq_some_iff, Function.comp_apply] at ha hb
  obtain ⟨-, -, rfl⟩ := ha
  obtain ⟨-, -, rfl⟩ := hb
  rfl

/-- The unit table holds what the children contribute. -/
theorem byUnit_contributed {request : CollationReplayRequest}
    {contribution : String → Option (Table Int)} {children : List String} (distinct : children.Nodup)
    (inputs : request.inputs = children.filterMap fun child =>
      (contribution child).map (CollationInput.mk child))
    (h : request.byUnit.get child = some input) :
    contribution child = some input.candidateTotals := by
  have keys : ((request.inputs.map fun item => (item.unitId, item)).map (·.1)).Nodup := by
    rw [List.map_map]
    exact inputs ▸ contributed_nodup distinct
  obtain ⟨item, member, eq⟩ := List.mem_map.mp ((Table.get_ofList keys).mp h)
  cases eq
  rw [inputs] at member
  obtain ⟨other, -, eq⟩ := List.mem_filterMap.mp member
  obtain ⟨totals, found, rfl⟩ := Option.map_eq_some_iff.mp eq
  exact found

/-- The unit table of a node request holds the contributions of the children. -/
theorem byUnit_get {request : CollationGraphRequest} {reports : Reports} {spec : CollationNodeSpec}
    {inputs : List CollationInput} (children : spec.expectedChildIds.Nodup)
    (built : childInputs request reports spec.expectedChildIds = .ok inputs)
    (h : (nodeRequest request spec inputs).byUnit.get child = some input) :
    childInput request reports child = some input.candidateTotals :=
  byUnit_contributed children (childInputs_eq built) h

/-- What a verified node sums: each expected child, with the totals it contributes. -/
theorem verified_votes {request : CollationGraphRequest} {reports : Reports}
    {spec : CollationNodeSpec} {item : CollationGraphNodeReport}
    (children : spec.expectedChildIds.Nodup)
    (h : replayNode request reports spec = .ok item) (verified : item.replay.status = .verified) :
    ∃ contribution : String → Table Int,
      (∀ child ∈ spec.expectedChildIds,
        childInput request reports child = some (contribution child)) ∧
      ∀ candidate, votes item.replay.computedTotals candidate =
        ∑ child ∈ spec.expectedChildIds.toFinset, votes (contribution child) candidate := by
  obtain ⟨inputs, built, h⟩ := bind_ok h
  obtain ⟨_, -, h⟩ := bind_ok h
  obtain ⟨replay, replayed, h⟩ := bind_ok h
  cases h
  have received := replayCollation_verified replayed verified
  refine ⟨(nodeRequest request spec inputs).totalsOf, fun child member => ?_, fun candidate => ?_⟩
  · obtain ⟨input, get⟩ := (Table.mem_keys _).mp (received child member)
    rw [byUnit_get children built get]
    simp [CollationReplayRequest.totalsOf, get]
  · have included : (nodeRequest request spec inputs).includedIds = idSet spec.expectedChildIds :=
      List.filter_eq_self.mpr fun child member =>
        decide_eq_true (received child (mem_idSet.mp member))
    have same : spec.expectedChildIds.toFinset = (idSet spec.expectedChildIds).toFinset := by
      ext child
      simp [mem_idSet]
    rw [replayCollation_computed replayed, votes_computed, included, same,
      List.sum_toFinset _ (idSet_nodup _)]

theorem children_spec (found : request.spec nodeId = some spec) :
    CollationGraphRequest.children request nodeId = spec.expectedChildIds := by
  simp [CollationGraphRequest.children, found]

/-- From the children to the node: the paths through distinct children are distinct. -/
theorem propagates_paths (admitted : Admitted request) :
    Propagates request fun nodeId report => report.replay.status = .verified →
      ∃ paths, CountsPaths request nodeId report.replay.computedTotals paths := by
  intro reports nodeId spec item valid found isReady replayed verified
  have children := children_spec found
  have nodup : spec.expectedChildIds.Nodup := children ▸ admitted.children nodeId
  obtain ⟨contribution, contributed, total⟩ := verified_votes nodup replayed verified
  have through (child : String) : ∃ paths, child ∈ spec.expectedChildIds →
      CountsThrough request child (contribution child) paths := by
    by_cases member : child ∈ spec.expectedChildIds
    · obtain ⟨paths, counts⟩ := childInput_counts admitted valid (contributed child member)
      exact ⟨paths, fun _ => counts⟩
    · exact ⟨∅, fun h => absurd h member⟩
  choose paths counts using through
  refine ⟨spec.expectedChildIds.toFinset.biUnion paths, fun path => ?_, fun candidate => ?_⟩
  · simp only [Finset.mem_biUnion, List.mem_toFinset]
    constructor
    · rintro ⟨child, member, inPaths⟩
      obtain ⟨rest, rfl, below⟩ := ((counts child member).complete path).mp inPaths
      have child_mem : child ∈ request.children nodeId := children ▸ member
      rcases below with ⟨rfl, leaf⟩ | ⟨node, below⟩
      · exact .leaf child_mem leaf
      · exact .node child_mem node below
    · intro below
      cases below with
      | leaf member leaf =>
        have member := children ▸ member
        exact ⟨_, member, ((counts _ member).complete _).mpr ⟨[], rfl, .inl ⟨rfl, leaf⟩⟩⟩
      | node member node below =>
        have member := children ▸ member
        exact ⟨_, member, ((counts _ member).complete _).mpr ⟨_, rfl, .inr ⟨node, below⟩⟩⟩
  · rw [total, Finset.sum_biUnion]
    · refine Finset.sum_congr rfl fun child member => ?_
      exact (counts child (List.mem_toFinset.mp member)).total candidate
    · intro a ha b hb apart
      refine Finset.disjoint_left.mpr fun path inA inB => apart ?_
      obtain ⟨_, rfl, -⟩ := ((counts a (List.mem_toFinset.mp ha)).complete path).mp inA
      obtain ⟨_, eq, -⟩ := ((counts b (List.mem_toFinset.mp hb)).complete _).mp inB
      exact (List.cons.inj eq).1

/-- Counting by source or by target agrees only where nothing that counts is hit twice. -/
theorem sum_image_eq_iff [DecidableEq β] {s : Finset α} {g : α → β} {f : β → Int}
    (nonNegative : ∀ b, 0 ≤ f b) :
    ∑ a ∈ s, f (g a) = ∑ b ∈ s.image g, f b ↔
      ∀ a ∈ s, ∀ a' ∈ s, g a = g a' → f (g a) ≠ 0 → a = a' := by
  have fiber (a : α) (ha : a ∈ s) : 1 ≤ (s.filter fun a' => g a' = g a).card :=
    Finset.card_pos.mpr ⟨a, by simp [ha]⟩
  have below : ∀ b ∈ s.image g, f b ≤ (s.filter fun a => g a = b).card • f b := by
    intro b hb
    obtain ⟨a, ha, rfl⟩ := Finset.mem_image.mp hb
    have one := fiber a ha
    rw [nsmul_eq_mul]
    exact le_mul_of_one_le_left (nonNegative _) (by exact_mod_cast one)
  rw [Finset.sum_comp, eq_comm, Finset.sum_eq_sum_iff_of_le below, Finset.forall_mem_image]
  refine forall₂_congr fun a ha => ?_
  constructor
  · intro once a' ha' same counts
    have card : (s.filter fun a' => g a' = g a).card = 1 := by
      rw [nsmul_eq_mul] at once
      have : ((s.filter fun a' => g a' = g a).card : Int) = 1 :=
        mul_right_cancel₀ counts (by rw [← once, one_mul])
      exact_mod_cast this
    exact Finset.card_le_one.mp card.le a (by simp [ha]) a' (by simp [ha', same])
  · intro unique
    by_cases counts : f (g a) = 0
    · simp [counts]
    · have card : (s.filter fun a' => g a' = g a).card ≤ 1 :=
        Finset.card_le_one.mpr fun x hx y hy => by
          simp only [Finset.mem_filter] at hx hy
          rw [← unique x hx.1 hx.2.symm counts, ← unique y hy.1 hy.2.symm counts]
      rw [le_antisymm card (fiber a ha), one_nsmul]

/-- In an accepted request a verified node counts every leaf once for each path down to it;
its totals are the sums over the set of leaves below it exactly for the candidates that
have no votes in a leaf reached twice. -/
theorem verified_totals {request : CollationGraphRequest} {report : CollationGraphReport}
    (accepted : request.validate = .ok ()) (replayed : replayCollationGraph request = .ok report) :
    ∀ item ∈ report.nodeReports, item.replay.status = .verified →
      ∃ paths : Finset (List String),
        (∀ path, path ∈ paths ↔ LeafPath request item.node.nodeId path) ∧
        ∀ candidate,
          votes item.replay.computedTotals candidate =
            ∑ path ∈ paths, request.leafVotes (leafOf path) candidate ∧
          (votes item.replay.computedTotals candidate =
              ∑ leaf ∈ paths.image leafOf, request.leafVotes leaf candidate ↔
            ∀ path ∈ paths, ∀ other ∈ paths, leafOf path = leafOf other →
              request.leafVotes (leafOf path) candidate ≠ 0 → path = other) := by
  intro item member verified
  have admitted := validate_admitted accepted
  obtain ⟨-, counts⟩ := replayCollationGraph_reports (propagates_paths admitted) replayed item member
  obtain ⟨paths, counts⟩ := counts verified
  refine ⟨paths, counts.complete, fun candidate => ⟨counts.total candidate, ?_⟩⟩
  rw [counts.total]
  exact sum_image_eq_iff fun leaf => admitted.nonNegative leaf candidate

/-- The totals of verified nodes count each reachable leaf once. -/
def CountsLeavesOnce (request : CollationGraphRequest) : Prop :=
  ∀ report, replayCollationGraph request = .ok report → ∀ item ∈ report.nodeReports,
    item.replay.status = .verified → ∀ leaves : Finset String,
      (∀ leaf, leaf ∈ leaves ↔ ReachableLeaf request item.node.nodeId leaf) →
      ∀ candidate, votes item.replay.computedTotals candidate =
        ∑ leaf ∈ leaves, request.leafVotes leaf candidate

/-- Two wards that share a polling unit, under one root. -/
def sharedUnit : CollationGraphRequest where
  nodes := [
    ⟨"state", "root", ["ward-a", "ward-b"], none⟩,
    ⟨"ward", "ward-a", ["unit"], none⟩,
    ⟨"ward", "ward-b", ["unit"], none⟩]
  expectedCandidateIds := some ["c"]
  leafTotals := Table.ofList [("unit", Table.ofList [("c", 1)])]

theorem sharedUnit_leaf (h : LeafPath sharedUnit nodeId path) : leafOf path = "unit" := by
  induction h with
  | leaf child leaf =>
    have keys : sharedUnit.leafTotals.keys = ["unit"] := by decide
    rw [keys, List.mem_singleton] at leaf
    rw [leaf]
    rfl
  | node child node path ih => rw [leafOf_cons path.ne_nil, ih]

theorem sharedUnit_reachable (leaf : String) :
    leaf ∈ ({"unit"} : Finset String) ↔ ReachableLeaf sharedUnit "root" leaf := by
  rw [Finset.mem_singleton]
  constructor
  · rintro rfl
    exact ⟨["ward-a", "unit"], .node (by decide) (by decide) (.leaf (by decide) (by decide)), rfl⟩
  · rintro ⟨path, below, rfl⟩
    exact sharedUnit_leaf below

theorem sharedUnit_run : ∃ report, replayCollationGraph sharedUnit = .ok report ∧
    ∃ item ∈ report.nodeReports, item.node.nodeId = "root" ∧ item.replay.status = .verified ∧
      votes item.replay.computedTotals "c" = 2 := by
  have run : (match replayCollationGraph sharedUnit with
      | .ok report => report.nodeReports.any fun item => item.node.nodeId = "root" ∧
          item.replay.status = .verified ∧ votes item.replay.computedTotals "c" = 2
      | .error _ => false) = true := by decide +kernel
  split at run
  · rename_i report replayed
    exact ⟨report, replayed, by simpa [List.any_eq_true] using run⟩
  · cases run

theorem sharedUnit_paths : ∃ report, replayCollationGraph sharedUnit = .ok report ∧
    ∃ item ∈ report.nodeReports, item.replay.status = .verified ∧
      ∃ paths : Finset (List String),
        (∀ path, path ∈ paths ↔ LeafPath sharedUnit item.node.nodeId path) ∧
        ∑ path ∈ paths, sharedUnit.leafVotes (leafOf path) "c" = 2 := by
  obtain ⟨report, replayed, item, member, -, verified, two⟩ := sharedUnit_run
  obtain ⟨paths, complete, total⟩ := verified_totals rfl replayed item member verified
  exact ⟨report, replayed, item, member, verified, paths, complete, by rw [← (total "c").1, two]⟩

/-- The shared unit counts twice at the root. -/
theorem sharedUnit_countedTwice :
    sharedUnit.validate = .ok () ∧ ¬CountsLeavesOnce sharedUnit := by
  refine ⟨rfl, fun once => ?_⟩
  obtain ⟨report, replayed, item, member, root, verified, two⟩ := sharedUnit_run
  have counted := once report replayed item member verified {"unit"}
    (root ▸ sharedUnit_reachable) "c"
  rw [two, Finset.sum_singleton] at counted
  exact absurd counted (by decide)

end BallotProof
