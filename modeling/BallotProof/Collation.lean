import BallotProof.Table
import BallotProof.Binary64
import BallotProof.Bytes

/-! One aggregation edge: the totals of a node from the units below it, with the evidence
that is missing or unexpected. -/
namespace BallotProof
open Python

inductive EvidenceSufficiencyStatus where
  | verified | incomplete | failed
  deriving DecidableEq, Repr

/-- A rejected pydantic model. -/
def rejected (message : String) : Result α := .error ⟨.validationError, message⟩

def require (condition : Prop) [Decidable condition] (message : String) : Result Unit :=
  if condition then .ok () else rejected message

theorem require_ok {condition : Prop} [Decidable condition] :
    require condition message = .ok () ↔ condition := by
  unfold require rejected
  split <;> simp [*]

/-- `Field(min_length=1, max_length=high)` of a string. -/
def checkLength (high : Nat) (text : String) : Result Unit := do
  require (1 ≤ text.length) "String should have at least 1 character"
  require (text.length ≤ high) s!"String should have at most {high} characters"

theorem checkLength_ok : checkLength high text = .ok () ↔ 1 ≤ text.length ∧ text.length ≤ high := by
  rw [checkLength, bind_eq_ok]
  constructor
  · rintro ⟨_, low, high⟩
    exact ⟨require_ok.mp low, require_ok.mp high⟩
  · rintro ⟨low, high⟩
    exact ⟨(), require_ok.mpr low, require_ok.mpr high⟩

/-- `sorted(xs)` on strings. -/
def sortedIds (xs : List String) : List String := xs.insertionSort (· ≤ ·)

/-- `sorted(set(xs))` -/
def idSet (xs : List String) : List String := sortedIds xs.dedup

theorem mem_idSet : x ∈ idSet xs ↔ x ∈ xs := by
  simp [idSet, sortedIds, List.mem_insertionSort]

theorem idSet_nodup (xs : List String) : (idSet xs).Nodup :=
  (List.perm_insertionSort _ _).nodup_iff.mpr xs.nodup_dedup

theorem sortedIds_perm {xs ys : List String} (perm : xs.Perm ys) : sortedIds xs = sortedIds ys :=
  List.Perm.eq_of_pairwise' (List.pairwise_insertionSort _ _) (List.pairwise_insertionSort _ _)
    (((List.perm_insertionSort _ xs).trans perm).trans (List.perm_insertionSort _ ys).symm)

theorem sortedIds_nil {xs : List String} : sortedIds xs = [] ↔ xs = [] := by
  rw [← List.length_eq_zero_iff, sortedIds, (List.perm_insertionSort _ xs).length_eq,
    List.length_eq_zero_iff]

theorem idSet_congr {xs ys : List String} (same : ∀ x, x ∈ xs ↔ x ∈ ys) : idSet xs = idSet ys := by
  have perm : (idSet xs).Perm (idSet ys) :=
    (List.perm_ext_iff_of_nodup (idSet_nodup xs) (idSet_nodup ys)).mpr fun x => by
      rw [mem_idSet, mem_idSet, same]
  exact List.Perm.eq_of_pairwise' (List.pairwise_insertionSort _ _)
    (List.pairwise_insertionSort _ _) perm

def nonNegative (totals : Table Int) : Bool := totals.entries.all fun entry => 0 ≤ entry.2

structure CollationInput where
  unitId : String
  candidateTotals : Table Int
  deriving DecidableEq

/-- `CollationInput(unit_id=..., candidate_totals=...)` -/
def CollationInput.create (unitId : String) (candidateTotals : Table Int) :
    Result CollationInput := do
  checkLength 256 unitId
  require (nonNegative candidateTotals) "candidate totals must be non-negative"
  return ⟨unitId, candidateTotals⟩

structure CandidateDelta where
  candidateId : String
  computedVotes : Int
  declaredVotes : Int
  delta : Int
  deriving DecidableEq

def CandidateDelta.create (candidateId : String) (computedVotes declaredVotes : Int) :
    Result CandidateDelta := do
  require (0 ≤ computedVotes) "Input should be greater than or equal to 0"
  require (0 ≤ declaredVotes) "Input should be greater than or equal to 0"
  return ⟨candidateId, computedVotes, declaredVotes, declaredVotes - computedVotes⟩

structure CollationReplayRequest where
  level : String
  nodeId : String
  expectedUnitIds : List String
  expectedCandidateIds : Option (List String)
  inputs : List CollationInput
  declaredTotals : Option (Table Int)
  deriving DecidableEq

/-- The field checks and `identifiers_are_unique`. -/
def CollationReplayRequest.validate (request : CollationReplayRequest) : Result Unit := do
  checkLength 128 request.level
  checkLength 256 request.nodeId
  require (1 ≤ request.expectedUnitIds.length) "List should have at least 1 item after validation"
  require (∀ ids ∈ request.expectedCandidateIds, 1 ≤ ids.length)
    "List should have at least 1 item after validation"
  require request.expectedUnitIds.Nodup "expected_unit_ids must be unique"
  require (∀ ids ∈ request.expectedCandidateIds, ids.Nodup) "expected_candidate_ids must be unique"
  require (request.inputs.map (·.unitId)).Nodup "collation input unit_id values must be unique"
  require (∀ totals ∈ request.declaredTotals, nonNegative totals)
    "declared totals must be non-negative"

structure CollationReplayReport where
  level : String
  nodeId : String
  status : EvidenceSufficiencyStatus
  expectedUnits : Nat
  receivedExpectedUnits : Nat
  coverageFraction : Binary64
  complete : Bool
  missingUnitIds : List String
  unexpectedUnitIds : List String
  expectedCandidateIds : Option (List String)
  missingCandidateIdsByUnit : Table (List String)
  unexpectedCandidateIdsByUnit : Table (List String)
  computedTotals : Table Int
  declaredTotals : Option (Table Int)
  declaredMissingCandidateIds : List String
  declaredUnexpectedCandidateIds : List String
  declaredMatch : Option Bool
  declaredDifferences : List CandidateDelta
  deriving DecidableEq

/-- `xs - ys` on sorted sets. -/
def without (xs ys : List String) : List String := xs.filter (· ∉ ys)

def CollationReplayRequest.byUnit (request : CollationReplayRequest) : Table CollationInput :=
  Table.ofList (request.inputs.map fun item => (item.unitId, item))

/-- `sorted(expected_units & provided_units)` -/
def CollationReplayRequest.includedIds (request : CollationReplayRequest) : List String :=
  (idSet request.expectedUnitIds).filter (· ∈ request.byUnit.keys)

def CollationReplayRequest.totalsOf (request : CollationReplayRequest) (unitId : String) :
    Table Int := ((request.byUnit.get unitId).map (·.candidateTotals)).getD Table.empty

/-- The entries that name a candidate list, where it is not empty. -/
def tableOfNonempty (units : List String) (candidates : String → List String) :
    Table (List String) :=
  Table.ofList ((units.map fun unit => (unit, candidates unit)).filter fun entry => entry.2 ≠ [])

/-- One turn of the loop that sums a unit into `computed`. -/
def addTotals (computed totals : Table Int) : Table Int :=
  totals.entries.foldl (fun sum entry => sum.set entry.1 ((sum.get entry.1).getD 0 + entry.2))
    computed

def CollationReplayRequest.computed (request : CollationReplayRequest) : Table Int :=
  request.includedIds.foldl (fun sum unit => addTotals sum (request.totalsOf unit)) Table.empty

/-- The loop over the comparable candidates. -/
def compareDeclared (computed declared : Table Int) : List String → Result (List CandidateDelta)
  | [] => .ok []
  | candidate :: rest =>
    match computed.get candidate, declared.get candidate with
    | some computedVotes, some declaredVotes =>
      if computedVotes ≠ declaredVotes then do
        let delta ← CandidateDelta.create candidate computedVotes declaredVotes
        let deltas ← compareDeclared computed declared rest
        return delta :: deltas
      else compareDeclared computed declared rest
    | _, _ => compareDeclared computed declared rest

namespace CollationReplayRequest
variable (request : CollationReplayRequest)

def expectedUnits : List String := idSet request.expectedUnitIds

def expectedCandidates : Option (List String) := request.expectedCandidateIds.map idSet

def missingUnits : List String := without request.expectedUnits request.byUnit.keys

def unexpectedUnits : List String := without request.byUnit.keys request.expectedUnits

def missingByUnit : Table (List String) :=
  match request.expectedCandidates with
  | none => Table.empty
  | some candidates => tableOfNonempty request.includedIds fun unit =>
    without candidates (request.totalsOf unit).keys

def unexpectedByUnit : Table (List String) :=
  match request.expectedCandidates with
  | none => Table.empty
  | some candidates => tableOfNonempty request.includedIds fun unit =>
    without (request.totalsOf unit).keys candidates

def declaredMissing : List String :=
  match request.declaredTotals, request.expectedCandidates with
  | some declared, some candidates => without candidates declared.keys
  | _, _ => []

def declaredUnexpected : List String :=
  match request.declaredTotals, request.expectedCandidates with
  | some declared, some candidates => without declared.keys candidates
  | _, _ => []

/-- `sorted(comparable_ids)` -/
def comparable (declared : Table Int) : List String :=
  match request.expectedCandidates with
  | some candidates => (candidates.filter (· ∈ declared.keys)).filter fun candidate =>
    ∀ entry ∈ request.missingByUnit.entries, candidate ∉ entry.2
  | none => request.computed.keys.filter (· ∈ declared.keys)

def declaredDifferences : Result (List CandidateDelta) :=
  match request.declaredTotals with
  | none => .ok []
  | some declared => compareDeclared request.computed declared (request.comparable declared)

def hasFailure (differences : List CandidateDelta) : Prop :=
  request.unexpectedUnits ≠ [] ∨ request.unexpectedByUnit.entries ≠ [] ∨
    request.declaredUnexpected ≠ [] ∨ differences ≠ []

def hasIncompleteEvidence : Prop :=
  request.missingUnits ≠ [] ∨ request.expectedCandidates = none ∨
    request.missingByUnit.entries ≠ [] ∨
    (request.declaredTotals.isSome ∧ request.declaredMissing ≠ [])

instance (differences : List CandidateDelta) : Decidable (request.hasFailure differences) :=
  inferInstanceAs (Decidable (_ ∨ _))

instance : Decidable request.hasIncompleteEvidence := inferInstanceAs (Decidable (_ ∨ _))

def status (differences : List CandidateDelta) : EvidenceSufficiencyStatus :=
  if request.hasFailure differences then .failed
  else if request.hasIncompleteEvidence then .incomplete
  else .verified

end CollationReplayRequest

/-- `replay_collation` -/
def replayCollation (request : CollationReplayRequest) : Result CollationReplayReport :=
  request.declaredDifferences.map fun differences => {
    level := request.level
    nodeId := request.nodeId
    status := request.status differences
    expectedUnits := request.expectedUnits.length
    receivedExpectedUnits := request.includedIds.length
    coverageFraction :=
      ofRatio false (request.includedIds.length * unitsPerOne) request.expectedUnits.length
    complete := request.status differences = .verified
    missingUnitIds := request.missingUnits
    unexpectedUnitIds := request.unexpectedUnits
    expectedCandidateIds := request.expectedCandidateIds
    missingCandidateIdsByUnit := request.missingByUnit
    unexpectedCandidateIdsByUnit := request.unexpectedByUnit
    computedTotals := request.computed
    declaredTotals := request.declaredTotals
    declaredMissingCandidateIds := request.declaredMissing
    declaredUnexpectedCandidateIds := request.declaredUnexpected
    declaredMatch := request.declaredTotals.map fun _ => request.status differences = .verified
    declaredDifferences := differences }

/-- Votes of a candidate in a table of totals. -/
def votes (totals : Table Int) (candidate : String) : Int := (totals.get candidate).getD 0

@[simp] theorem votes_empty (candidate : String) : votes Table.empty candidate = 0 := rfl

theorem votes_add (computed totals : Table Int) (candidate : String) :
    votes (addTotals computed totals) candidate = votes computed candidate + votes totals candidate := by
  obtain ⟨entries, ascending⟩ := totals
  simp only [addTotals, votes, Table.get]
  induction entries generalizing computed with
  | nil => simp [lookup]
  | cons first rest ih =>
    obtain ⟨k, v⟩ := first
    have tail := ih (computed.set k ((computed.get k).getD 0 + v)) (keysAscend_tail ascending)
    rw [List.foldl_cons]
    simp only [Table.get] at tail ⊢
    rw [tail]
    have fresh : lookup k rest = none :=
      lookup_none fun entry he => (keysAscend_lt ascending entry he).ne'
    by_cases same : k = candidate
    · subst same
      simp [Table.set, lookup, fresh]
    · simp [Table.set, lookup_insert_other (Ne.symm same), lookup, same]

/-- `computed_totals` is the sum over the units that are expected and provided. -/
theorem votes_computed (request : CollationReplayRequest) (candidate : String) :
    votes request.computed candidate =
      (request.includedIds.map fun unit => votes (request.totalsOf unit) candidate).sum := by
  have fold (units : List String) (sum : Table Int) :
      votes (units.foldl (fun sum unit => addTotals sum (request.totalsOf unit)) sum) candidate =
        votes sum candidate +
          (units.map fun unit => votes (request.totalsOf unit) candidate).sum := by
    induction units generalizing sum with
    | nil => simp
    | cons unit rest ih =>
      rw [List.foldl_cons, ih, votes_add, List.map_cons, List.sum_cons, add_assoc]
  rw [CollationReplayRequest.computed, fold, votes_empty, zero_add]

theorem replayCollation_computed (h : replayCollation request = .ok report) :
    report.computedTotals = request.computed := by
  obtain ⟨differences, -, rfl⟩ := map_ok h
  rfl

/-- What a verified status excludes. -/
theorem status_verified {request : CollationReplayRequest} {differences : List CandidateDelta} :
    request.status differences = .verified ↔
      ¬request.hasFailure differences ∧ ¬request.hasIncompleteEvidence := by
  unfold CollationReplayRequest.status
  split_ifs <;> simp_all

/-- A verified replay has received every expected unit. -/
theorem replayCollation_verified {request : CollationReplayRequest} {report : CollationReplayReport}
    (h : replayCollation request = .ok report) (verified : report.status = .verified) :
    ∀ unit ∈ request.expectedUnitIds, unit ∈ request.byUnit.keys := by
  obtain ⟨differences, -, rfl⟩ := map_ok h
  have complete := (status_verified.mp verified).2
  simp only [CollationReplayRequest.hasIncompleteEvidence, not_or, ne_eq, not_not] at complete
  intro unit expected
  have included : ∀ x ∈ request.expectedUnits, x ∈ request.byUnit.keys := by
    simpa [CollationReplayRequest.missingUnits, without] using complete.1
  exact included unit (mem_idSet.mpr expected)

end BallotProof
