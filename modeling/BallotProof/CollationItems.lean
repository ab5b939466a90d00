import BallotProof.CollationPropagation
import BallotProof.Items

/-! `replay_collation` on dicts with their order of insertion. It computes what the replay on
tables computes, so only the fields copied from the request show an order. -/
namespace BallotProof
open Python

/-- A `CollationInput` with its totals in the order they were given. -/
structure ListedInput where
  unitId : String
  candidateTotals : Items Int
  deriving DecidableEq

/-- A `CollationReplayRequest` with its dicts in the order they were given. -/
structure ListedRequest where
  level : String
  nodeId : String
  expectedUnitIds : List String
  expectedCandidateIds : Option (List String)
  inputs : List ListedInput
  declaredTotals : Option (Items Int)
  deriving DecidableEq

/-- A `CollationReplayReport` with its dicts in order. -/
structure ListedReport where
  level : String
  nodeId : String
  status : EvidenceSufficiencyStatus
  expectedUnits : Nat
  receivedExpectedUnits : Nat
  coverageFraction : Binary64
  complete : Bool
  missingUnitIds : List String
  unexpectedUnitIds : List String
  expectedCandidateIds : Option (List String)
  missingCandidateIdsByUnit : Items (List String)
  unexpectedCandidateIdsByUnit : Items (List String)
  computedTotals : Items Int
  declaredTotals : Option (Items Int)
  declaredMissingCandidateIds : List String
  declaredUnexpectedCandidateIds : List String
  declaredMatch : Option Bool
  declaredDifferences : List CandidateDelta
  deriving DecidableEq

def listedNonNegative (totals : Items Int) : Bool := totals.entries.all fun entry => 0 ≤ entry.2

/-- The checks of `CollationInput`. -/
def ListedInput.validate (item : ListedInput) : Result Unit := do
  checkLength 256 item.unitId
  require (listedNonNegative item.candidateTotals) "candidate totals must be non-negative"

/-- The field checks and `identifiers_are_unique`. -/
def ListedRequest.validate (request : ListedRequest) : Result Unit := do
  checkLength 128 request.level
  checkLength 256 request.nodeId
  require (1 ≤ request.expectedUnitIds.length) "List should have at least 1 item after validation"
  require (∀ ids ∈ request.expectedCandidateIds, 1 ≤ ids.length)
    "List should have at least 1 item after validation"
  require request.expectedUnitIds.Nodup "expected_unit_ids must be unique"
  require (∀ ids ∈ request.expectedCandidateIds, ids.Nodup) "expected_candidate_ids must be unique"
  require (request.inputs.map (·.unitId)).Nodup "collation input unit_id values must be unique"
  require (∀ totals ∈ request.declaredTotals, listedNonNegative totals)
    "declared totals must be non-negative"

/-- `if candidates: by_unit[unit_id] = candidates`, unit by unit. -/
def listNonempty (units : List String) (candidates : String → List String) : Items (List String) :=
  units.foldl (fun byUnit unit =>
    if candidates unit ≠ [] then byUnit.set unit (candidates unit) else byUnit) Items.empty

/-- The loop over `by_unit[unit_id].candidate_totals.items()`. -/
def addListed (computed totals : Items Int) : Items Int :=
  totals.entries.foldl (fun sum entry => sum.set entry.1 ((sum.get entry.1).getD 0 + entry.2)) computed

/-- The loop over the comparable candidates. -/
def compareListed (computed declared : Items Int) : List String → Result (List CandidateDelta)
  | [] => .ok []
  | candidate :: rest =>
    match computed.get candidate, declared.get candidate with
    | some computedVotes, some declaredVotes =>
      if computedVotes ≠ declaredVotes then do
        let delta ← CandidateDelta.create candidate computedVotes declaredVotes
        let deltas ← compareListed computed declared rest
        return delta :: deltas
      else compareListed computed declared rest
    | _, _ => compareListed computed declared rest

namespace ListedRequest
variable (request : ListedRequest)

def byUnit : Items ListedInput := Items.ofList (request.inputs.map fun item => (item.unitId, item))

def expectedUnits : List String := idSet request.expectedUnitIds

def expectedCandidates : Option (List String) := request.expectedCandidateIds.map idSet

def missingUnits : List String := without request.expectedUnits request.byUnit.keys

def unexpectedUnits : List String := sortedIds (without request.byUnit.keys request.expectedUnits)

def includedIds : List String := request.expectedUnits.filter (· ∈ request.byUnit.keys)

def totalsOf (unitId : String) : Items Int :=
  ((request.byUnit.get unitId).map (·.candidateTotals)).getD Items.empty

def missingByUnit : Items (List String) :=
  match request.expectedCandidates with
  | none => Items.empty
  | some candidates => listNonempty request.includedIds fun unit =>
    without candidates (request.totalsOf unit).keys

def unexpectedByUnit : Items (List String) :=
  match request.expectedCandidates with
  | none => Items.empty
  | some candidates => listNonempty request.includedIds fun unit =>
    sortedIds (without (request.totalsOf unit).keys candidates)

def computed : Items Int :=
  request.includedIds.foldl (fun sum unit => addListed sum (request.totalsOf unit)) Items.empty

def declaredMissing : List String :=
  match request.declaredTotals, request.expectedCandidates with
  | some declared, some candidates => without candidates declared.keys
  | _, _ => []

def declaredUnexpected : List String :=
  match request.declaredTotals, request.expectedCandidates with
  | some declared, some candidates => sortedIds (without declared.keys candidates)
  | _, _ => []

/-- `sorted(comparable_ids)` -/
def comparable (declared : Items Int) : List String :=
  match request.expectedCandidates with
  | some candidates => (candidates.filter (· ∈ declared.keys)).filter fun candidate =>
    ∀ entry ∈ request.missingByUnit.entries, candidate ∉ entry.2
  | none => sortedIds (request.computed.keys.filter (· ∈ declared.keys))

def declaredDifferences : Result (List CandidateDelta) :=
  match request.declaredTotals with
  | none => .ok []
  | some declared => compareListed request.computed declared (request.comparable declared)

def hasFailure (differences : List CandidateDelta) : Prop :=
  request.unexpectedUnits ≠ [] ∨ request.unexpectedByUnit.entries ≠ [] ∨
    request.declaredUnexpected ≠ [] ∨ differences ≠ []

def hasIncompleteEvidence : Prop :=
  request.missingUnits ≠ [] ∨ request.expectedCandidates = none ∨
    request.missingByUnit.entries ≠ [] ∨
    (request.declaredTotals.isSome ∧ request.declaredMissing ≠ [])

instance (differences : List CandidateDelta) : Decidable (request.hasFailure differences) :=
  inferInstanceAs (Decidable (_ ∨ _))

instance : Decidable request.hasIncompleteEvidence := inferInstanceAs (Decidable (_ ∨ _))

def status (differences : List CandidateDelta) : EvidenceSufficiencyStatus :=
  if request.hasFailure differences then .failed
  else if request.hasIncompleteEvidence then .incomplete
  else .verified

end ListedRequest

/-- `replay_collation` -/
def replayListed (request : ListedRequest) : Result ListedReport :=
  request.declaredDifferences.map fun differences => {
    level := request.level
    nodeId := request.nodeId
    status := request.status differences
    expectedUnits := request.expectedUnits.length
    receivedExpectedUnits := request.includedIds.length
    coverageFraction :=
      ofRatio false (request.includedIds.length * unitsPerOne) request.expectedUnits.length
    complete := request.status differences = .verified
    missingUnitIds := request.missingUnits
    unexpectedUnitIds := request.unexpectedUnits
    expectedCandidateIds := request.expectedCandidateIds
    missingCandidateIdsByUnit := request.missingByUnit
    unexpectedCandidateIdsByUnit := request.unexpectedByUnit
    computedTotals := request.computed.sorted
    declaredTotals := request.declaredTotals
    declaredMissingCandidateIds := request.declaredMissing
    declaredUnexpectedCandidateIds := request.declaredUnexpected
    declaredMatch := request.declaredTotals.map fun _ => request.status differences = .verified
    declaredDifferences := differences }

/-- The input without the order of its totals. -/
def ListedInput.table (item : ListedInput) : CollationInput :=
  ⟨item.unitId, item.candidateTotals.toTable⟩

/-- The request without the order of its dicts. -/
def ListedRequest.tables (request : ListedRequest) : CollationReplayRequest where
  level := request.level
  nodeId := request.nodeId
  expectedUnitIds := request.expectedUnitIds
  expectedCandidateIds := request.expectedCandidateIds
  inputs := request.inputs.map ListedInput.table
  declaredTotals := request.declaredTotals.map Items.toTable

/-- A report with its dicts in key order, the declared totals as they were given. -/
def CollationReplayReport.listed (report : CollationReplayReport) (declared : Option (Items Int)) :
    ListedReport where
  level := report.level
  nodeId := report.nodeId
  status := report.status
  expectedUnits := report.expectedUnits
  receivedExpectedUnits := report.receivedExpectedUnits
  coverageFraction := report.coverageFraction
  complete := report.complete
  missingUnitIds := report.missingUnitIds
  unexpectedUnitIds := report.unexpectedUnitIds
  expectedCandidateIds := report.expectedCandidateIds
  missingCandidateIdsByUnit := report.missingCandidateIdsByUnit.items
  unexpectedCandidateIdsByUnit := report.unexpectedCandidateIdsByUnit.items
  computedTotals := report.computedTotals.items
  declaredTotals := declared
  declaredMissingCandidateIds := report.declaredMissingCandidateIds
  declaredUnexpectedCandidateIds := report.declaredUnexpectedCandidateIds
  declaredMatch := report.declaredMatch
  declaredDifferences := report.declaredDifferences

theorem sortedIds_sorted {xs : List String} (ordered : xs.Pairwise (· < ·)) : sortedIds xs = xs :=
  List.Perm.eq_of_pairwise' (List.pairwise_insertionSort _ _)
    (ordered.imp fun low => le_of_lt low) (List.perm_insertionSort _ _)

theorem idSet_ordered (xs : List String) : (idSet xs).Pairwise (· < ·) := by
  have weak : (idSet xs).Pairwise (· ≤ ·) := List.pairwise_insertionSort _ _
  exact weak.imp₂ (fun _ _ low apart => lt_of_le_of_ne low apart) (idSet_nodup xs)

/-- A set of keys is sorted from the dict as it is from the table. -/
theorem sortedIds_filter {xs : List String} {t : Table α} (distinct : xs.Nodup)
    (same : ∀ key, key ∈ xs ↔ key ∈ t.keys) (p : String → Bool) :
    sortedIds (xs.filter p) = t.keys.filter p := by
  have perm : xs.Perm t.keys := (List.perm_ext_iff_of_nodup distinct t.keys_nodup).mpr same
  rw [sortedIds_perm (perm.filter p)]
  exact sortedIds_sorted (t.keys_ordered.filter p)

theorem sortedIds_keys (d : Items α) (p : String → Bool) :
    sortedIds (d.keys.filter p) = d.toTable.keys.filter p :=
  sortedIds_filter d.distinct (fun _ => Items.mem_keys_toTable.symm) p

theorem without_keys (d : Items α) (xs : List String) :
    without xs d.keys = without xs d.toTable.keys := by
  simp only [without, Items.mem_keys_toTable]

theorem foldl_listNonempty {units : List String} {candidates : String → List String}
    {byUnit : Items (List String)} (distinct : units.Nodup) (fresh : ∀ unit ∈ units, unit ∉ byUnit.keys) :
    (units.foldl (fun byUnit unit =>
      if candidates unit ≠ [] then byUnit.set unit (candidates unit) else byUnit) byUnit).entries =
      byUnit.entries ++
        (units.map fun unit => (unit, candidates unit)).filter fun entry => entry.2 ≠ [] := by
  induction units generalizing byUnit with
  | nil => simp
  | cons unit rest ih =>
    rw [List.nodup_cons] at distinct
    rw [List.foldl_cons]
    by_cases empty : candidates unit = []
    · rw [if_neg (by simpa using empty), ih distinct.2 fun x member => fresh x (List.mem_cons_of_mem _ member)]
      simp [empty]
    · have added : (byUnit.set unit (candidates unit)).entries = byUnit.entries ++ [(unit, candidates unit)] :=
        put_fresh (fresh unit List.mem_cons_self)
      rw [if_pos (by simpa using empty), ih distinct.2, added]
      · simp [empty]
      · intro x member again
        rcases mem_keys_put.mp again with rfl | again
        · exact distinct.1 member
        · exact fresh x (List.mem_cons_of_mem _ member) again

/-- The dict by unit is built in the order of its keys. -/
theorem listNonempty_items {units : List String} {candidates : String → List String}
    (ordered : units.Pairwise (· < ·)) :
    listNonempty units candidates = (tableOfNonempty units candidates).items := by
  apply Items.ext
  have listed : (listNonempty units candidates).entries =
      (units.map fun unit => (unit, candidates unit)).filter fun entry => entry.2 ≠ [] := by
    rw [listNonempty, foldl_listNonempty (ordered.imp fun low => ne_of_lt low) (by simp [Items.keys, Items.empty])]
    rfl
  have pairs : (units.map fun unit => (unit, candidates unit)).Pairwise fun a b => a.1 < b.1 :=
    List.pairwise_map.mpr ordered
  have keys := pairs.filter fun entry => entry.2 ≠ []
  rw [listed]
  exact (dictOf_sorted (keysAscend_of_pairwise (List.pairwise_map.mpr keys))).symm

/-- Adding the items of a dict, in any order, adds to each key what the dict holds for it. -/
theorem get_addEntries {entries : List (String × Int)} (distinct : (entries.map (·.1)).Nodup)
    (sum : Table Int) (key : String) :
    (entries.foldl (fun sum entry => sum.set entry.1 ((sum.get entry.1).getD 0 + entry.2)) sum).get key =
      match lookup key entries with
      | some count => some ((sum.get key).getD 0 + count)
      | none => sum.get key := by
  induction entries generalizing sum with
  | nil => rfl
  | cons first rest ih =>
    obtain ⟨k, v⟩ := first
    rw [List.map_cons, List.nodup_cons] at distinct
    rw [List.foldl_cons, ih distinct.2]
    by_cases same : k = key
    · subst same
      have fresh : lookup k rest = none :=
        lookup_none fun entry member eq => distinct.1 (List.mem_map.mpr ⟨entry, member, eq⟩)
      simp [lookup, fresh]
    · simp [lookup, same, Table.get_set_other sum (Ne.symm same)]

theorem toTable_addListed (computed totals : Items Int) :
    (addListed computed totals).toTable = addTotals computed.toTable totals.toTable := by
  have pushed (entries : List (String × Int)) (sum : Items Int) :
      (entries.foldl (fun sum entry => sum.set entry.1 ((sum.get entry.1).getD 0 + entry.2)) sum).toTable =
        entries.foldl (fun sum entry => sum.set entry.1 ((sum.get entry.1).getD 0 + entry.2)) sum.toTable := by
    induction entries generalizing sum with
    | nil => rfl
    | cons first rest ih =>
      rw [List.foldl_cons, ih, List.foldl_cons, Items.toTable_set, Items.get_toTable]
  apply Table.ext
  intro key
  have listed : lookup key totals.toTable.entries = lookup key totals.entries := totals.get_toTable key
  rw [addListed, pushed, addTotals, get_addEntries totals.distinct,
    get_addEntries totals.toTable.keys_nodup, listed]

theorem compareListed_eq (computed declared : Items Int) (candidates : List String) :
    compareListed computed declared candidates =
      compareDeclared computed.toTable declared.toTable candidates := by
  induction candidates with
  | nil => rfl
  | cons candidate rest ih =>
    cases left : computed.get candidate <;> cases right : declared.get candidate <;>
      simp only [compareListed, compareDeclared, Items.get_toTable, left, right, ih]

theorem listedNonNegative_iff {totals : Items Int} :
    listedNonNegative totals = true ↔ nonNegative totals.toTable = true := by
  rw [listedNonNegative, nonNegative, List.all_eq_true, List.all_eq_true]
  have same (entry : String × Int) : entry ∈ totals.toTable.entries ↔ entry ∈ totals.entries := by
    rw [← lookup_eq_some totals.distinct, ← lookup_eq_some totals.toTable.keys_nodup]
    exact Eq.to_iff (congrArg (· = some entry.2) (totals.get_toTable entry.1))
  exact forall_congr' fun entry => by rw [same]

namespace ListedRequest
variable (request : ListedRequest)

theorem byUnit_tables : request.tables.byUnit =
    Table.ofList (request.inputs.map fun item => (item.unitId, item.table)) := by
  simp [CollationReplayRequest.byUnit, tables, ListedInput.table, Function.comp_def]

theorem get_byUnit (unit : String) :
    request.tables.byUnit.get unit = (request.byUnit.get unit).map ListedInput.table := by
  have mapped (pairs : List (String × ListedInput)) :
      (Table.ofList (pairs.map fun pair => (pair.1, pair.2.table))).get unit =
        ((Table.ofList pairs).get unit).map ListedInput.table := by
    induction pairs using List.reverseRecOn with
    | nil => rfl
    | append_singleton pairs pair ih =>
      rw [List.map_append, List.map_singleton, Table.get_ofList_append, Table.get_ofList_append, ih]
      split_ifs <;> rfl
  have listed := mapped (request.inputs.map fun item => (item.unitId, item))
  rw [List.map_map] at listed
  rw [byUnit_tables, byUnit, ← Items.get_toTable, Items.toTable_ofList]
  exact listed

theorem mem_byUnit {unit : String} : unit ∈ request.byUnit.keys ↔ unit ∈ request.tables.byUnit.keys := by
  rw [← Items.mem_keys_toTable, Table.mem_keys, Table.mem_keys]
  simp only [get_byUnit, Items.get_toTable, Option.map_eq_some_iff]
  exact ⟨fun ⟨item, found⟩ => ⟨_, item, found, rfl⟩, fun ⟨_, item, found, _⟩ => ⟨item, found⟩⟩

theorem expectedUnits_tables : request.tables.expectedUnits = request.expectedUnits := rfl

theorem expectedCandidates_tables : request.tables.expectedCandidates = request.expectedCandidates := rfl

theorem includedIds_tables : request.includedIds = request.tables.includedIds := by
  apply List.filter_congr
  intro unit _
  simp only [mem_byUnit]

theorem includedIds_ordered : request.includedIds.Pairwise (· < ·) := (idSet_ordered _).filter _

theorem missingUnits_tables : request.missingUnits = request.tables.missingUnits := by
  apply List.filter_congr
  intro unit _
  simp only [mem_byUnit]

theorem unexpectedUnits_tables : request.unexpectedUnits = request.tables.unexpectedUnits :=
  sortedIds_filter request.byUnit.distinct (fun _ => request.mem_byUnit) _

theorem totalsOf_tables (unit : String) :
    (request.totalsOf unit).toTable = request.tables.totalsOf unit := by
  rw [totalsOf, CollationReplayRequest.totalsOf, get_byUnit]
  cases request.byUnit.get unit <;> rfl

theorem missingByUnit_tables : request.missingByUnit = request.tables.missingByUnit.items := by
  unfold missingByUnit CollationReplayRequest.missingByUnit
  rw [expectedCandidates_tables]
  cases request.expectedCandidates with
  | none => rfl
  | some candidates =>
    simp only
    rw [listNonempty_items request.includedIds_ordered, includedIds_tables]
    simp only [without_keys, totalsOf_tables]

theorem unexpectedByUnit_tables :
    request.unexpectedByUnit = request.tables.unexpectedByUnit.items := by
  unfold unexpectedByUnit CollationReplayRequest.unexpectedByUnit
  rw [expectedCandidates_tables]
  cases request.expectedCandidates with
  | none => rfl
  | some candidates =>
    simp only
    rw [listNonempty_items request.includedIds_ordered, includedIds_tables]
    simp only [without, sortedIds_keys, totalsOf_tables]

theorem computed_tables : request.computed.toTable = request.tables.computed := by
  have summed (units : List String) (sum : Items Int) :
      (units.foldl (fun sum unit => addListed sum (request.totalsOf unit)) sum).toTable =
        units.foldl (fun sum unit => addTotals sum (request.tables.totalsOf unit)) sum.toTable := by
    induction units generalizing sum with
    | nil => rfl
    | cons unit rest ih => rw [List.foldl_cons, ih, List.foldl_cons, toTable_addListed, totalsOf_tables]
  rw [computed, summed, includedIds_tables]
  rfl

theorem declaredMissing_tables : request.declaredMissing = request.tables.declaredMissing := by
  unfold declaredMissing CollationReplayRequest.declaredMissing
  rw [expectedCandidates_tables, tables]
  cases request.declaredTotals <;> cases request.expectedCandidates <;>
    simp only [Option.map_some, Option.map_none, without_keys]

theorem declaredUnexpected_tables :
    request.declaredUnexpected = request.tables.declaredUnexpected := by
  unfold declaredUnexpected CollationReplayRequest.declaredUnexpected
  rw [expectedCandidates_tables, tables]
  cases request.declaredTotals <;> cases request.expectedCandidates <;>
    simp only [Option.map_some, Option.map_none, without, sortedIds_keys]

theorem comparable_tables (declared : Items Int) :
    request.comparable declared = request.tables.comparable declared.toTable := by
  unfold comparable CollationReplayRequest.comparable
  rw [expectedCandidates_tables]
  cases request.expectedCandidates with
  | none =>
    simp only [← Items.mem_keys_toTable]
    rw [sortedIds_keys, computed_tables]
  | some candidates =>
    simp only [← Items.mem_keys_toTable, missingByUnit_tables]
    rfl

theorem declaredDifferences_tables :
    request.declaredDifferences = request.tables.declaredDifferences := by
  unfold declaredDifferences CollationReplayRequest.declaredDifferences
  cases found : request.declaredTotals with
  | none => simp [tables, found]
  | some declared =>
    have declaredTable : request.tables.declaredTotals = some declared.toTable := by simp [tables, found]
    simp only [declaredTable]
    rw [compareListed_eq, computed_tables, comparable_tables]

theorem status_tables (differences : List CandidateDelta) :
    request.status differences = request.tables.status differences := by
  have failure : request.hasFailure differences ↔ request.tables.hasFailure differences := by
    rw [hasFailure, CollationReplayRequest.hasFailure, unexpectedUnits_tables, unexpectedByUnit_tables,
      declaredUnexpected_tables]
    rfl
  have incomplete : request.hasIncompleteEvidence ↔ request.tables.hasIncompleteEvidence := by
    have given : request.tables.declaredTotals.isSome = request.declaredTotals.isSome := by simp [tables]
    rw [hasIncompleteEvidence, CollationReplayRequest.hasIncompleteEvidence, missingUnits_tables,
      missingByUnit_tables, declaredMissing_tables, given]
    rfl
  rw [status, CollationReplayRequest.status]
  simp only [failure, incomplete]

end ListedRequest

/-- The replay of listed dicts is the replay of the tables. -/
theorem replayListed_eq (request : ListedRequest) :
    replayListed request =
      (replayCollation request.tables).map fun report => report.listed request.declaredTotals := by
  have given : request.tables.declaredTotals = request.declaredTotals.map Items.toTable := rfl
  rw [replayListed, replayCollation, request.declaredDifferences_tables]
  cases request.tables.declaredDifferences with
  | error e => rfl
  | ok differences =>
    simp only [Except.map, CollationReplayReport.listed, request.status_tables,
      request.includedIds_tables, request.missingUnits_tables, request.unexpectedUnits_tables,
      request.missingByUnit_tables, request.unexpectedByUnit_tables, Items.sorted_eq,
      request.computed_tables, request.declaredMissing_tables, request.declaredUnexpected_tables,
      request.expectedUnits_tables, given, Option.map_map]
    rfl

end BallotProof
