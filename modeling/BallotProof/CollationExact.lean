import BallotProof.CollationItems

/-! What a collation report says, for every valid request: when it is verified, which totals
it computes, and that no order of the request shows in it. -/
namespace BallotProof
open Python

/-- The counted inputs: those of an expected unit. -/
def CollationReplayRequest.counted (request : CollationReplayRequest) : List CollationInput :=
  request.inputs.filter (·.unitId ∈ request.expectedUnitIds)

section
variable {request : CollationReplayRequest}

theorem get_byUnit_iff (distinct : (request.inputs.map (·.unitId)).Nodup) :
    request.byUnit.get unit = some item ↔ item ∈ request.inputs ∧ item.unitId = unit := by
  have keys : ((request.inputs.map fun item => (item.unitId, item)).map (·.1)).Nodup := by
    simpa [Function.comp_def] using distinct
  rw [CollationReplayRequest.byUnit, Table.get_ofList keys, List.mem_map]
  constructor
  · rintro ⟨other, member, eq⟩
    cases eq
    exact ⟨member, rfl⟩
  · rintro ⟨member, rfl⟩
    exact ⟨item, member, rfl⟩

theorem mem_byUnit_keys (distinct : (request.inputs.map (·.unitId)).Nodup) :
    unit ∈ request.byUnit.keys ↔ unit ∈ request.inputs.map (·.unitId) := by
  rw [Table.mem_keys, List.mem_map]
  simp only [get_byUnit_iff distinct]

theorem totalsOf_input (distinct : (request.inputs.map (·.unitId)).Nodup)
    (member : item ∈ request.inputs) : request.totalsOf item.unitId = item.candidateTotals := by
  rw [CollationReplayRequest.totalsOf, (get_byUnit_iff distinct).mpr ⟨member, rfl⟩]
  rfl

/-- The included units are the units of the counted inputs. -/
theorem includedIds_perm (distinct : (request.inputs.map (·.unitId)).Nodup) :
    request.includedIds.Perm (request.counted.map (·.unitId)) := by
  have sublist : (request.counted.map (·.unitId)).Sublist (request.inputs.map (·.unitId)) :=
    List.filter_sublist.map _
  refine (List.perm_ext_iff_of_nodup ((idSet_nodup _).filter _) (distinct.sublist sublist)).mpr fun unit => ?_
  rw [List.mem_filter, mem_idSet, decide_eq_true_eq, mem_byUnit_keys distinct, List.mem_map, List.mem_map]
  constructor
  · rintro ⟨expected, item, member, rfl⟩
    exact ⟨item, List.mem_filter.mpr ⟨member, decide_eq_true expected⟩, rfl⟩
  · rintro ⟨item, member, rfl⟩
    obtain ⟨member, expected⟩ := List.mem_filter.mp member
    exact ⟨of_decide_eq_true expected, item, member, rfl⟩

/-- The sum of a candidate over the counted inputs. -/
theorem votes_counted (distinct : (request.inputs.map (·.unitId)).Nodup) (candidate : String) :
    votes request.computed candidate =
      (request.counted.map fun item => votes item.candidateTotals candidate).sum := by
  rw [votes_computed, ((includedIds_perm distinct).map _).sum_eq, List.map_map]
  congr 1
  apply List.map_congr_left
  intro item member
  rw [Function.comp_apply, totalsOf_input distinct (List.mem_filter.mp member).1]

theorem mem_addTotals (sum totals : Table Int) :
    candidate ∈ (addTotals sum totals).keys ↔ candidate ∈ sum.keys ∨ candidate ∈ totals.keys := by
  have added := get_addEntries totals.keys_nodup sum candidate
  rw [Table.mem_keys, Table.mem_keys, Table.mem_keys, addTotals, added, Table.get, Table.get]
  cases lookup candidate totals.entries <;> simp

/-- A candidate is summed where a counted input names it. -/
theorem mem_computed (distinct : (request.inputs.map (·.unitId)).Nodup) :
    candidate ∈ request.computed.keys ↔
      ∃ item ∈ request.counted, candidate ∈ item.candidateTotals.keys := by
  have summed (units : List String) (sum : Table Int) :
      candidate ∈ (units.foldl (fun sum unit => addTotals sum (request.totalsOf unit)) sum).keys ↔
        candidate ∈ sum.keys ∨ ∃ unit ∈ units, candidate ∈ (request.totalsOf unit).keys := by
    induction units generalizing sum with
    | nil => simp
    | cons unit rest ih =>
      rw [List.foldl_cons, ih, mem_addTotals, or_assoc]
      simp only [List.mem_cons, exists_eq_or_imp]
  rw [CollationReplayRequest.computed, summed]
  have none : candidate ∉ (Table.empty : Table Int).keys := by simp [Table.keys, Table.empty]
  simp only [none, false_or, (includedIds_perm distinct).mem_iff, List.mem_map]
  constructor
  · rintro ⟨_, ⟨item, member, rfl⟩, named⟩
    rw [totalsOf_input distinct (List.mem_filter.mp member).1] at named
    exact ⟨item, member, named⟩
  · rintro ⟨item, member, named⟩
    refine ⟨_, ⟨item, member, rfl⟩, ?_⟩
    rwa [totalsOf_input distinct (List.mem_filter.mp member).1]

theorem without_nil {xs ys : List String} : without xs ys = [] ↔ ∀ x ∈ xs, x ∈ ys := by
  simp [without]

theorem tableOfNonempty_nil {candidates : String → List String} :
    (tableOfNonempty units candidates).entries = [] ↔ ∀ unit ∈ units, candidates unit = [] := by
  refine ⟨tableOfNonempty_empty, fun empty => ?_⟩
  have none : ((units.map fun unit => (unit, candidates unit)).filter fun entry => entry.2 ≠ []) = [] := by
    rw [List.filter_eq_nil_iff]
    intro entry member
    obtain ⟨unit, listed, rfl⟩ := List.mem_map.mp member
    simpa using empty unit listed
  rw [tableOfNonempty, none]
  rfl

/-- What the declared totals of an exact replay say. -/
theorem compareDeclared_nil {computed declared : Table Int} {candidates : List String}
    (known : ∀ candidate ∈ candidates, candidate ∈ computed.keys ∧ candidate ∈ declared.keys) :
    compareDeclared computed declared candidates = .ok [] ↔
      ∀ candidate ∈ candidates, declared.get candidate = computed.get candidate := by
  induction candidates with
  | nil => simp [compareDeclared]
  | cons candidate rest ih =>
    rw [List.forall_mem_cons] at known
    obtain ⟨⟨inSums, inDeclared⟩, known⟩ := known
    obtain ⟨sum, hasSum⟩ := (Table.mem_keys _).mp inSums
    obtain ⟨total, hasTotal⟩ := (Table.mem_keys _).mp inDeclared
    rw [compareDeclared, List.forall_mem_cons, ← ih known, hasSum, hasTotal]
    by_cases differ : sum ≠ total
    · simp only [if_pos differ]
      constructor
      · intro compared
        obtain ⟨delta, -, compared⟩ := bind_ok compared
        obtain ⟨deltas, -, compared⟩ := bind_ok compared
        cases compared
      · rintro ⟨same, -⟩
        exact absurd (Option.some.inj same).symm differ
    · simp only [if_neg differ]
      rw [ne_eq, not_not] at differ
      simp [differ]

/-- The request as a whole: every expected unit and no other reports exactly the candidates
of a given list, and the declared totals, when given, are the sums over it. -/
structure Reconciled (request : CollationReplayRequest) : Prop where
  units : ∀ unit, unit ∈ request.inputs.map (·.unitId) ↔ unit ∈ request.expectedUnitIds
  candidates : ∃ roster, request.expectedCandidateIds = some roster ∧
    (∀ item ∈ request.inputs, ∀ candidate, candidate ∈ item.candidateTotals.keys ↔ candidate ∈ roster) ∧
    ∀ declared ∈ request.declaredTotals, (∀ candidate, candidate ∈ declared.keys ↔ candidate ∈ roster) ∧
      ∀ candidate ∈ roster, votes declared candidate =
        (request.inputs.map fun item => votes item.candidateTotals candidate).sum

/-- What no failure and no gap mean, finding by finding. -/
structure Clean (request : CollationReplayRequest) (roster : List String) : Prop where
  missingUnits : ∀ unit ∈ request.expectedUnitIds, unit ∈ request.inputs.map (·.unitId)
  unexpectedUnits : ∀ unit ∈ request.inputs.map (·.unitId), unit ∈ request.expectedUnitIds
  missing : ∀ unit ∈ request.includedIds, ∀ candidate ∈ roster, candidate ∈ (request.totalsOf unit).keys
  unexpected : ∀ unit ∈ request.includedIds, ∀ candidate ∈ (request.totalsOf unit).keys, candidate ∈ roster
  declared : ∀ totals ∈ request.declaredTotals, ∀ candidate, candidate ∈ totals.keys ↔ candidate ∈ roster

theorem clean_iff (distinct : (request.inputs.map (·.unitId)).Nodup)
    (given : request.expectedCandidateIds = some roster) :
    ¬request.hasFailure differences ∧ ¬request.hasIncompleteEvidence ↔
      Clean request roster ∧ differences = [] := by
  have expected : request.expectedCandidates = some (idSet roster) := by
    rw [CollationReplayRequest.expectedCandidates, given, Option.map_some]
  rw [CollationReplayRequest.hasFailure, CollationReplayRequest.hasIncompleteEvidence]
  simp only [not_or, ne_eq, not_not]
  have declaredMissing : ¬(request.declaredTotals.isSome ∧ ¬request.declaredMissing = []) ↔
      ∀ totals ∈ request.declaredTotals, ∀ candidate ∈ roster, candidate ∈ totals.keys := by
    unfold CollationReplayRequest.declaredMissing
    cases request.declaredTotals <;> simp [expected, without_nil, mem_idSet]
  have declaredUnexpected : request.declaredUnexpected = [] ↔
      ∀ totals ∈ request.declaredTotals, ∀ candidate ∈ totals.keys, candidate ∈ roster := by
    unfold CollationReplayRequest.declaredUnexpected
    cases request.declaredTotals <;> simp [expected, without_nil, mem_idSet]
  have missingUnits : request.missingUnits = [] ↔
      ∀ unit ∈ request.expectedUnitIds, unit ∈ request.inputs.map (·.unitId) := by
    simp only [CollationReplayRequest.missingUnits, CollationReplayRequest.expectedUnits, without_nil,
      mem_idSet, mem_byUnit_keys distinct]
  have unexpectedUnits : request.unexpectedUnits = [] ↔
      ∀ unit ∈ request.inputs.map (·.unitId), unit ∈ request.expectedUnitIds := by
    simp only [CollationReplayRequest.unexpectedUnits, CollationReplayRequest.expectedUnits, without_nil,
      mem_idSet, mem_byUnit_keys distinct]
  have missing : request.missingByUnit.entries = [] ↔
      ∀ unit ∈ request.includedIds, ∀ candidate ∈ roster, candidate ∈ (request.totalsOf unit).keys := by
    simp only [CollationReplayRequest.missingByUnit, expected, tableOfNonempty_nil, without_nil, mem_idSet]
  have unexpected : request.unexpectedByUnit.entries = [] ↔
      ∀ unit ∈ request.includedIds, ∀ candidate ∈ (request.totalsOf unit).keys, candidate ∈ roster := by
    simp only [CollationReplayRequest.unexpectedByUnit, expected, tableOfNonempty_nil, without_nil, mem_idSet]
  rw [missingUnits, unexpectedUnits, missing, unexpected, declaredMissing, declaredUnexpected]
  constructor
  · rintro ⟨⟨extraUnits, extra, extraDeclared, none⟩, gaps, -, gap, gapDeclared⟩
    exact ⟨⟨gaps, extraUnits, gap, extra, fun totals given candidate =>
      ⟨extraDeclared totals given candidate, gapDeclared totals given candidate⟩⟩, none⟩
  · rintro ⟨clean, none⟩
    exact ⟨⟨clean.unexpectedUnits, clean.unexpected,
      fun totals given candidate => (clean.declared totals given candidate).mp, none⟩,
      clean.missingUnits, by simp [expected], clean.missing,
      fun totals given candidate => (clean.declared totals given candidate).mpr⟩

/-- In a clean request every input is counted, and names exactly the listed candidates. -/
theorem Clean.counted (clean : Clean request roster) : request.counted = request.inputs :=
  List.filter_eq_self.mpr fun _ member =>
    decide_eq_true (clean.unexpectedUnits _ (List.mem_map_of_mem member))

theorem Clean.included (clean : Clean request roster) (distinct : (request.inputs.map (·.unitId)).Nodup)
    (member : item ∈ request.inputs) : item.unitId ∈ request.includedIds := by
  have counted : item.unitId ∈ request.counted.map (·.unitId) :=
    List.mem_map_of_mem (clean.counted ▸ member)
  exact (includedIds_perm distinct).mem_iff.mpr counted

theorem Clean.keys (clean : Clean request roster) (distinct : (request.inputs.map (·.unitId)).Nodup)
    (member : item ∈ request.inputs) (candidate : String) :
    candidate ∈ item.candidateTotals.keys ↔ candidate ∈ roster := by
  have inside := clean.included distinct member
  have missing := clean.missing _ inside candidate
  have unexpected := clean.unexpected _ inside candidate
  rw [totalsOf_input distinct member] at missing unexpected
  exact ⟨unexpected, missing⟩

theorem Reconciled.clean (distinct : (request.inputs.map (·.unitId)).Nodup)
    (reconciled : Reconciled request) (given : request.expectedCandidateIds = some roster) :
    Clean request roster := by
  obtain ⟨same, eq, named, declared⟩ := reconciled.candidates
  cases given.symm.trans eq
  have input : ∀ unit ∈ request.includedIds, ∃ item ∈ request.inputs,
      request.totalsOf unit = item.candidateTotals := by
    intro unit member
    obtain ⟨item, counted, rfl⟩ := List.mem_map.mp ((includedIds_perm distinct).mem_iff.mp member)
    have inside := (List.mem_filter.mp counted).1
    exact ⟨item, inside, totalsOf_input distinct inside⟩
  refine ⟨fun unit => (reconciled.units unit).mpr, fun unit => (reconciled.units unit).mp, ?_, ?_,
    fun totals given => (declared totals given).1⟩
  · intro unit member candidate listed
    obtain ⟨item, inside, same⟩ := input unit member
    rw [same]
    exact (named item inside candidate).mpr listed
  · intro unit member candidate listed
    obtain ⟨item, inside, same⟩ := input unit member
    rw [same] at listed
    exact (named item inside candidate).mp listed

/-- With every candidate comparable, no difference means equal sums. -/
theorem Clean.differences_nil (clean : Clean request roster) (checked : RequestChecked request)
    (given : request.expectedCandidateIds = some roster) :
    request.declaredDifferences = .ok [] ↔ ∀ declared ∈ request.declaredTotals,
      ∀ candidate ∈ roster, votes declared candidate =
        (request.inputs.map fun item => votes item.candidateTotals candidate).sum := by
  have distinct := checked.distinctInputs
  have expected : request.expectedCandidates = some (idSet roster) := by
    rw [CollationReplayRequest.expectedCandidates, given, Option.map_some]
  unfold CollationReplayRequest.declaredDifferences
  cases totals : request.declaredTotals with
  | none => simp
  | some declared =>
    have exact : ∀ candidate, candidate ∈ declared.keys ↔ candidate ∈ roster :=
      clean.declared declared (by simp [totals])
    have noGap : request.missingByUnit.entries = [] := by
      simp only [CollationReplayRequest.missingByUnit, expected, tableOfNonempty_nil, without_nil, mem_idSet]
      exact clean.missing
    have comparable (candidate : String) :
        candidate ∈ request.comparable declared ↔ candidate ∈ roster := by
      simp [CollationReplayRequest.comparable, expected, noGap, mem_idSet, exact]
    -- some unit is expected, so every listed candidate is summed
    have summed : ∀ candidate ∈ roster, candidate ∈ request.computed.keys := by
      intro candidate member
      have nonempty := List.ne_nil_of_length_pos checked.units
      obtain ⟨unit, listed⟩ := List.exists_mem_of_ne_nil _ nonempty
      obtain ⟨item, inside, -⟩ := List.mem_map.mp (clean.missingUnits unit listed)
      refine (mem_computed distinct).mpr ⟨item, clean.counted.symm ▸ inside, ?_⟩
      exact (clean.keys distinct inside candidate).mpr member
    simp only [Option.mem_def, Option.some.injEq, forall_eq']
    rw [compareDeclared_nil fun candidate member =>
      ⟨summed candidate ((comparable candidate).mp member),
        (exact candidate).mpr ((comparable candidate).mp member)⟩]
    simp only [comparable]
    refine forall_congr' fun candidate => imp_congr_right fun member => ?_
    obtain ⟨sum, hasSum⟩ := (Table.mem_keys _).mp (summed candidate member)
    obtain ⟨total, hasTotal⟩ := (Table.mem_keys _).mp ((exact candidate).mpr member)
    rw [← clean.counted, ← votes_counted distinct]
    simp [votes, hasSum, hasTotal]

/-- The status of a valid request. -/
theorem verified_iff (checked : RequestChecked request) (h : replayCollation request = .ok report) :
    report.status = .verified ↔ Reconciled request := by
  have distinct := checked.distinctInputs
  obtain ⟨differences, compared, rfl⟩ := map_ok h
  rw [status_verified]
  cases given : request.expectedCandidateIds with
  | none =>
    constructor
    · rintro ⟨-, complete⟩
      have unknown : request.expectedCandidates = none := by
        rw [CollationReplayRequest.expectedCandidates, given, Option.map_none]
      exact absurd (.inr (.inl unknown)) complete
    · rintro ⟨-, roster, none, -⟩
      rw [given] at none
      cases none
  | some roster =>
    rw [clean_iff distinct given]
    constructor
    · rintro ⟨clean, rfl⟩
      have sums := (clean.differences_nil checked given).mp compared
      exact ⟨fun unit => ⟨clean.unexpectedUnits unit, clean.missingUnits unit⟩, roster, given,
        fun item member => clean.keys distinct member,
        fun declared member => ⟨clean.declared declared member, sums declared member⟩⟩
    · intro reconciled
      have clean := reconciled.clean distinct given
      refine ⟨clean, ?_⟩
      obtain ⟨same, eq, -, declared⟩ := reconciled.candidates
      cases given.symm.trans eq
      have none := (clean.differences_nil checked given).mpr fun totals member =>
        (declared totals member).2
      exact Except.ok.inj (compared.symm.trans none)

end

/-- The expected candidates are looked at as a set, and copied into the report. -/
theorem replayCollation_candidatesListed (request : CollationReplayRequest) {ids : Option (List String)}
    (same : ids.map idSet = request.expectedCandidateIds.map idSet) :
    replayCollation { request with expectedCandidateIds := ids } =
      (replayCollation request).map fun report => { report with expectedCandidateIds := ids } := by
  have expected : ({ request with expectedCandidateIds := ids } : CollationReplayRequest).expectedCandidates =
      request.expectedCandidates := same
  generalize copy : ({ request with expectedCandidateIds := ids } : CollationReplayRequest) = other at expected
  have missing : other.missingByUnit = request.missingByUnit := by
    rw [CollationReplayRequest.missingByUnit, expected, ← copy]
    rfl
  have unexpected : other.unexpectedByUnit = request.unexpectedByUnit := by
    rw [CollationReplayRequest.unexpectedByUnit, expected, ← copy]
    rfl
  have declaredMissing : other.declaredMissing = request.declaredMissing := by
    rw [CollationReplayRequest.declaredMissing, expected, ← copy]
    rfl
  have declaredUnexpected : other.declaredUnexpected = request.declaredUnexpected := by
    rw [CollationReplayRequest.declaredUnexpected, expected, ← copy]
    rfl
  have comparable (declared : Table Int) : other.comparable declared = request.comparable declared := by
    rw [CollationReplayRequest.comparable, expected, missing, ← copy]
    rfl
  have computed : other.computed = request.computed := by
    rw [← copy]
    rfl
  have declared : other.declaredTotals = request.declaredTotals := by rw [← copy]
  have differences : other.declaredDifferences = request.declaredDifferences := by
    simp only [CollationReplayRequest.declaredDifferences, declared, computed, comparable]
  have units : other.missingUnits = request.missingUnits ∧ other.unexpectedUnits = request.unexpectedUnits ∧
      other.includedIds = request.includedIds ∧ other.expectedUnits = request.expectedUnits := by
    rw [← copy]
    exact ⟨rfl, rfl, rfl, rfl⟩
  obtain ⟨missingUnits, unexpectedUnits, included, expectedUnits⟩ := units
  have fields : other.level = request.level ∧ other.nodeId = request.nodeId ∧
      other.expectedCandidateIds = ids := by
    rw [← copy]
    exact ⟨rfl, rfl, rfl⟩
  obtain ⟨level, nodeId, given⟩ := fields
  have status (deltas : List CandidateDelta) : other.status deltas = request.status deltas := by
    have failure : other.hasFailure deltas ↔ request.hasFailure deltas := by
      rw [CollationReplayRequest.hasFailure, unexpectedUnits, unexpected, declaredUnexpected]
      rfl
    have incomplete : other.hasIncompleteEvidence ↔ request.hasIncompleteEvidence := by
      rw [CollationReplayRequest.hasIncompleteEvidence, missingUnits, expected, missing, declared,
        declaredMissing]
      rfl
    simp only [CollationReplayRequest.status, failure, incomplete]
  rw [replayCollation, replayCollation, differences]
  cases request.declaredDifferences with
  | error e => rfl
  | ok deltas =>
    simp only [Except.map, status, missing, unexpected, declaredMissing, declaredUnexpected, computed,
      declared, missingUnits, unexpectedUnits, included, expectedUnits, level, nodeId, given]

/-- The same unit, its totals listed in some order. -/
structure SameInput (item other : ListedInput) : Prop where
  unitId : other.unitId = item.unitId
  totals : item.candidateTotals.entries.Perm other.candidateTotals.entries

/-- The same request, its lists and dicts listed in some order. -/
structure Relisted (request other : ListedRequest) : Prop where
  level : other.level = request.level
  nodeId : other.nodeId = request.nodeId
  units : request.expectedUnitIds.Perm other.expectedUnitIds
  candidates : Option.Rel List.Perm request.expectedCandidateIds other.expectedCandidateIds
  inputs : ∃ listed, List.Forall₂ SameInput request.inputs listed ∧ listed.Perm other.inputs
  declared : Option.Rel (fun totals again => totals.entries.Perm again.entries)
    request.declaredTotals other.declaredTotals

namespace Relisted
variable {request other : ListedRequest}

theorem inputs_perm (relisted : Relisted request other) :
    request.tables.inputs.Perm other.tables.inputs := by
  obtain ⟨listed, pairs, perm⟩ := relisted.inputs
  have same : request.inputs.map ListedInput.table = listed.map ListedInput.table := by
    clear perm
    generalize request.inputs = inputs at pairs
    induction pairs with
    | nil => rfl
    | cons first _ ih =>
      rw [List.map_cons, List.map_cons, ih, ListedInput.table, ListedInput.table, first.unitId,
        Items.perm_toTable first.totals]
  rw [ListedRequest.tables, ListedRequest.tables, same]
  exact perm.map _

theorem declared_eq (relisted : Relisted request other) :
    other.tables.declaredTotals = request.tables.declaredTotals := by
  have rel := relisted.declared
  simp only [ListedRequest.tables]
  generalize request.declaredTotals = declared, other.declaredTotals = again at rel
  cases rel with
  | none => rfl
  | some perm => exact congrArg some (Items.perm_toTable perm).symm

theorem candidates_eq (relisted : Relisted request other) :
    other.expectedCandidateIds.map idSet = request.expectedCandidateIds.map idSet := by
  have rel := relisted.candidates
  generalize request.expectedCandidateIds = ids, other.expectedCandidateIds = again at rel
  cases rel with
  | none => rfl
  | some perm => exact congrArg some (idSet_congr fun x => perm.mem_iff.symm)

/-- Only the copied fields of the report show the order of the request. -/
theorem replay (relisted : Relisted request other)
    (distinct : (request.inputs.map (·.unitId)).Nodup) :
    replayListed other = (replayListed request).map fun report =>
      { report with
        expectedCandidateIds := other.expectedCandidateIds
        declaredTotals := other.declaredTotals } := by
  have ids : (request.tables.inputs.map (·.unitId)).Nodup := by
    simpa [ListedRequest.tables, ListedInput.table, Function.comp_def] using distinct
  have listed := replayCollation_candidatesListed request.tables relisted.candidates_eq
  have ordered : replayCollation other.tables =
      replayCollation { request.tables with expectedCandidateIds := other.expectedCandidateIds } :=
    replayCollation_perm relisted.level relisted.nodeId rfl relisted.declared_eq relisted.units
      relisted.inputs_perm ids
  rw [replayListed_eq, replayListed_eq, ordered, listed]
  cases replayCollation request.tables <;> rfl

end Relisted

/-- What the models of a listed request check is what the models of the tables check. -/
theorem listed_checked {request : ListedRequest} (valid : request.validate = .ok ()) :
    RequestChecked request.tables := by
  obtain ⟨_, level, h⟩ := bind_ok valid
  obtain ⟨_, nodeId, h⟩ := bind_ok h
  obtain ⟨_, units, h⟩ := bind_ok h
  obtain ⟨_, candidates, h⟩ := bind_ok h
  obtain ⟨_, distinctUnits, h⟩ := bind_ok h
  obtain ⟨_, distinctCandidates, h⟩ := bind_ok h
  obtain ⟨_, distinctInputs, declared⟩ := bind_ok h
  refine ⟨checkLength_ok.mp level, checkLength_ok.mp nodeId, require_ok.mp units,
    require_ok.mp candidates, require_ok.mp distinctUnits, require_ok.mp distinctCandidates, ?_, ?_⟩
  · simpa [ListedRequest.tables, ListedInput.table, Function.comp_def] using require_ok.mp distinctInputs
  · intro totals given
    obtain ⟨listed, member, rfl⟩ := Option.map_eq_some_iff.mp given
    exact listedNonNegative_iff.mp (require_ok.mp declared listed member)

theorem listedInput_nonNegative {item : ListedInput} (valid : item.validate = .ok ()) :
    nonNegative item.table.candidateTotals = true := by
  obtain ⟨_, -, votes⟩ := bind_ok valid
  exact listedNonNegative_iff.mp (require_ok.mp votes)

/-- The inputs that are counted: those of an expected unit. -/
def ListedRequest.counted (request : ListedRequest) : List ListedInput :=
  request.inputs.filter (·.unitId ∈ request.expectedUnitIds)

/-- The votes of a candidate over some inputs. -/
def tally (inputs : List ListedInput) (candidate : String) : Int :=
  (inputs.map fun item => (item.candidateTotals.get candidate).getD 0).sum

/-- The provided units are the expected units, each names exactly the given candidates, and
declared totals are exactly the sums over them. -/
structure ListedRequest.Exact (request : ListedRequest) : Prop where
  units : ∀ unit, unit ∈ request.inputs.map (·.unitId) ↔ unit ∈ request.expectedUnitIds
  candidates : ∃ roster, request.expectedCandidateIds = some roster ∧
    (∀ item ∈ request.inputs, ∀ candidate, candidate ∈ item.candidateTotals.keys ↔ candidate ∈ roster) ∧
    ∀ declared ∈ request.declaredTotals, (∀ candidate, candidate ∈ declared.keys ↔ candidate ∈ roster) ∧
      ∀ candidate ∈ roster, declared.get candidate = some (tally request.inputs candidate)

theorem tally_tables (inputs : List ListedInput) (candidate : String) :
    ((inputs.map ListedInput.table).map fun item => votes item.candidateTotals candidate).sum =
      tally inputs candidate := by
  rw [tally, List.map_map]
  congr 1
  apply List.map_congr_left
  intro item _
  rw [Function.comp_apply, votes, ListedInput.table, Items.get_toTable]

theorem counted_tables (request : ListedRequest) :
    request.tables.counted = request.counted.map ListedInput.table := by
  rw [CollationReplayRequest.counted, ListedRequest.counted, ListedRequest.tables, List.filter_map]
  rfl

theorem exact_tables {request : ListedRequest} : Reconciled request.tables ↔ request.Exact := by
  have units : request.tables.inputs.map (·.unitId) = request.inputs.map (·.unitId) := by
    simp [ListedRequest.tables, ListedInput.table, Function.comp_def]
  have inputs (roster : List String) :
      (∀ item ∈ request.tables.inputs, ∀ candidate,
        candidate ∈ item.candidateTotals.keys ↔ candidate ∈ roster) ↔
      ∀ item ∈ request.inputs, ∀ candidate,
        candidate ∈ item.candidateTotals.keys ↔ candidate ∈ roster := by
    simp [ListedRequest.tables, ListedInput.table]
  have declared (roster : List String) :
      (∀ totals ∈ request.tables.declaredTotals, (∀ candidate, candidate ∈ totals.keys ↔ candidate ∈ roster) ∧
        ∀ candidate ∈ roster, votes totals candidate =
          (request.tables.inputs.map fun item => votes item.candidateTotals candidate).sum) ↔
      ∀ totals ∈ request.declaredTotals, (∀ candidate, candidate ∈ totals.keys ↔ candidate ∈ roster) ∧
        ∀ candidate ∈ roster, totals.get candidate = some (tally request.inputs candidate) := by
    have pulled : request.tables.declaredTotals = request.declaredTotals.map Items.toTable := rfl
    have sums : request.tables.inputs = request.inputs.map ListedInput.table := rfl
    simp only [pulled, sums, tally_tables, Option.mem_map, forall_exists_index, and_imp,
      forall_apply_eq_imp_iff₂, Items.mem_keys_toTable]
    refine forall_congr' fun totals => imp_congr_right fun _ => and_congr_right fun exact => ?_
    refine forall_congr' fun candidate => imp_congr_right fun member => ?_
    obtain ⟨total, found⟩ := (Table.mem_keys _).mp (Items.mem_keys_toTable.mpr ((exact candidate).mpr member))
    rw [Items.get_toTable] at found
    simp [votes, found]
  constructor
  · rintro ⟨sameUnits, roster, given, named, sums⟩
    exact ⟨fun unit => units ▸ sameUnits unit, roster, given, (inputs roster).mp named,
      (declared roster).mp sums⟩
  · rintro ⟨sameUnits, roster, given, named, sums⟩
    exact ⟨fun unit => units ▸ sameUnits unit, roster, given, (inputs roster).mpr named,
      (declared roster).mpr sums⟩

/-- A valid request is replayed. It is verified exactly where the evidence is exact; a
candidate's total is its sum over the expected units that were provided, and only the fields
copied from the request show in which order it lists anything. -/
theorem replayListed_characterised (request : ListedRequest) (valid : request.validate = .ok ())
    (inputs : ∀ item ∈ request.inputs, item.validate = .ok ()) :
    ∃ report, replayListed request = .ok report ∧
      (report.status = .verified ↔ request.Exact) ∧
      (∀ candidate, report.computedTotals.get candidate =
        if ∃ item ∈ request.counted, candidate ∈ item.candidateTotals.keys then
          some (tally request.counted candidate)
        else none) ∧
      ∀ other, Relisted request other →
        replayListed other = .ok { report with
          expectedCandidateIds := other.expectedCandidateIds
          declaredTotals := other.declaredTotals } := by
  have checked := listed_checked valid
  have counts : ∀ item ∈ request.tables.inputs, nonNegative item.candidateTotals = true := by
    intro item member
    obtain ⟨listed, inside, rfl⟩ := List.mem_map.mp member
    exact listedInput_nonNegative (inputs listed inside)
  obtain ⟨report, replayed⟩ := replayCollation_total checked counts
  have listed : replayListed request = .ok (report.listed request.declaredTotals) := by
    rw [replayListed_eq, replayed]
    rfl
  refine ⟨report.listed request.declaredTotals, listed, ?_, fun candidate => ?_, fun other relisted => ?_⟩
  · exact (verified_iff checked replayed).trans exact_tables
  · have computed : (report.listed request.declaredTotals).computedTotals.get candidate =
        request.tables.computed.get candidate := by
      rw [← replayCollation_computed replayed]
      rfl
    have named : candidate ∈ request.tables.computed.keys ↔
        ∃ item ∈ request.counted, candidate ∈ item.candidateTotals.keys := by
      rw [mem_computed checked.distinctInputs, counted_tables]
      simp [ListedInput.table]
    have sum := votes_counted checked.distinctInputs candidate
    rw [counted_tables, tally_tables, votes] at sum
    rw [computed, ← sum]
    by_cases member : candidate ∈ request.tables.computed.keys
    · obtain ⟨total, found⟩ := (Table.mem_keys _).mp member
      rw [if_pos (named.mp member), found]
      rfl
    · rw [if_neg fun some => member (named.mpr some)]
      cases found : request.tables.computed.get candidate with
      | none => rfl
      | some total => exact absurd ((Table.mem_keys _).mpr ⟨total, found⟩) member
  · have distinct : (request.inputs.map (·.unitId)).Nodup := by
      simpa [ListedRequest.tables, ListedInput.table, Function.comp_def] using checked.distinctInputs
    rw [relisted.replay distinct, listed]
    rfl

/-- A ward with its two units and another one, their totals in either order. -/
def partialWard : ListedRequest where
  level := "ward"
  nodeId := "w"
  expectedUnitIds := ["u", "v"]
  expectedCandidateIds := some ["b", "a"]
  inputs := [
    ⟨"u", ⟨[("b", 2), ("a", 1)], by decide⟩⟩,
    ⟨"x", ⟨[("a", 7)], by decide⟩⟩,
    ⟨"v", ⟨[("a", 3), ("b", 4)], by decide⟩⟩]
  declaredTotals := some ⟨[("b", 6), ("a", 4)], by decide⟩

theorem partialWard_replayed : ∃ report, replayListed partialWard = .ok report ∧
    (report.status = .verified ↔ partialWard.Exact) ∧
    (∀ candidate, report.computedTotals.get candidate =
      if ∃ item ∈ partialWard.counted, candidate ∈ item.candidateTotals.keys then
        some (tally partialWard.counted candidate)
      else none) ∧
    ∀ other, Relisted partialWard other →
      replayListed other = .ok { report with
        expectedCandidateIds := other.expectedCandidateIds
        declaredTotals := other.declaredTotals } :=
  replayListed_characterised partialWard (by decide +kernel) (by decide +kernel)

end BallotProof
