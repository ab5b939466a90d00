import BallotProof.Collation

/-! Reconciliation of the totals of two sources: the candidates that one of them lacks or that
are not expected, and the differences where both have a count. -/
namespace BallotProof
open Python

/-- The fields keep `candidate_universe_is_unique` and the checks of the labels. -/
structure ReconciliationRequest where
  sourceLabel : String
  comparisonLabel : String
  expectedCandidateIds : Option (List String)
  sourceTotals : Table Nat
  comparisonTotals : Table Nat
  source_label : 1 ≤ sourceLabel.length ∧ sourceLabel.length ≤ 128
  comparison_label : 1 ≤ comparisonLabel.length ∧ comparisonLabel.length ≤ 128
  expected_unique : ∀ ids ∈ expectedCandidateIds, ids ≠ [] ∧ ids.Nodup

structure CandidateDifference where
  candidateId : String
  sourceVotes : Nat
  comparisonVotes : Nat
  delta : Int
  deriving DecidableEq

structure ReconciliationReport where
  sourceLabel : String
  comparisonLabel : String
  status : EvidenceSufficiencyStatus
  matched : Bool
  expectedCandidateIds : Option (List String)
  missingSourceCandidateIds : List String
  missingComparisonCandidateIds : List String
  unexpectedSourceCandidateIds : List String
  unexpectedComparisonCandidateIds : List String
  differences : List CandidateDifference
  deriving DecidableEq

/-- `totals[candidate_id]` -/
def readTotal (totals : Table Nat) (candidateId : String) : Result Nat :=
  match totals.get candidateId with
  | some votes => .ok votes
  | none => .error ⟨.keyError, "'" ++ candidateId ++ "'"⟩

namespace ReconciliationRequest
variable (request : ReconciliationRequest)

/-- `sorted(expected_ids - ids)`, and none without a universe. -/
def missing (totals : Table Nat) : List String :=
  match request.expectedCandidateIds with
  | none => []
  | some expected => without (idSet expected) totals.keys

/-- `sorted(ids - expected_ids)`, and none without a universe. -/
def unexpected (totals : Table Nat) : List String :=
  match request.expectedCandidateIds with
  | none => []
  | some expected => sortedIds (without totals.keys expected)

/-- `sorted(comparable_ids)` -/
def comparableIds : List String :=
  let both := request.sourceTotals.keys.filter (· ∈ request.comparisonTotals.keys)
  match request.expectedCandidateIds with
  | none => sortedIds both
  | some expected => sortedIds (both.filter (· ∈ expected))

/-- The loop over the comparable candidates. -/
def findDifferences : List String → Result (List CandidateDifference)
  | [] => .ok []
  | candidateId :: rest => do
    let sourceVotes ← readTotal request.sourceTotals candidateId
    let comparisonVotes ← readTotal request.comparisonTotals candidateId
    let others ← findDifferences rest
    if sourceVotes = comparisonVotes then return others
    else return ⟨candidateId, sourceVotes, comparisonVotes, comparisonVotes - sourceVotes⟩ :: others

def status (differences : List CandidateDifference) : EvidenceSufficiencyStatus :=
  if differences ≠ [] ∨ request.unexpected request.sourceTotals ≠ [] ∨
      request.unexpected request.comparisonTotals ≠ [] then .failed
  else if request.expectedCandidateIds = none ∨ request.missing request.sourceTotals ≠ [] ∨
      request.missing request.comparisonTotals ≠ [] then .incomplete
  else .verified

/-- The report over the differences that the loop found. -/
def report (differences : List CandidateDifference) : ReconciliationReport where
  sourceLabel := request.sourceLabel
  comparisonLabel := request.comparisonLabel
  status := request.status differences
  matched := request.status differences = .verified
  expectedCandidateIds := request.expectedCandidateIds
  missingSourceCandidateIds := request.missing request.sourceTotals
  missingComparisonCandidateIds := request.missing request.comparisonTotals
  unexpectedSourceCandidateIds := request.unexpected request.sourceTotals
  unexpectedComparisonCandidateIds := request.unexpected request.comparisonTotals
  differences := differences

end ReconciliationRequest

/-- `reconcile_totals` -/
def reconcileTotals (request : ReconciliationRequest) : Result ReconciliationReport :=
  (request.findDifferences request.comparableIds).map request.report

/-! ## What the report says -/

namespace ReconciliationRequest

/-- The request with the two sides exchanged. -/
def swap (request : ReconciliationRequest) : ReconciliationRequest where
  sourceLabel := request.comparisonLabel
  comparisonLabel := request.sourceLabel
  expectedCandidateIds := request.expectedCandidateIds
  sourceTotals := request.comparisonTotals
  comparisonTotals := request.sourceTotals
  source_label := request.comparison_label
  comparison_label := request.source_label
  expected_unique := request.expected_unique

/-- The request with other totals. -/
def withTotals (request : ReconciliationRequest) (sourceTotals comparisonTotals : Table Nat) :
    ReconciliationRequest :=
  { request with sourceTotals, comparisonTotals }

/-- Everything is expected when there is no universe. -/
def Expected (request : ReconciliationRequest) (candidateId : String) : Prop :=
  ∀ expected ∈ request.expectedCandidateIds, candidateId ∈ expected

/-- A candidate with two different counts, or one with a count that is not expected. -/
structure Contradiction (request : ReconciliationRequest) (candidateId : String) : Prop where
  counted : candidateId ∈ request.sourceTotals.keys ∨ candidateId ∈ request.comparisonTotals.keys
  apart : request.Expected candidateId → ∃ sourceVotes comparisonVotes,
    request.sourceTotals.get candidateId = some sourceVotes ∧
    request.comparisonTotals.get candidateId = some comparisonVotes ∧ sourceVotes ≠ comparisonVotes

/-- What the loop finds for one candidate. -/
def difference (request : ReconciliationRequest) (candidateId : String) : Option CandidateDifference := do
  let sourceVotes ← request.sourceTotals.get candidateId
  let comparisonVotes ← request.comparisonTotals.get candidateId
  if sourceVotes = comparisonVotes then none
  else some ⟨candidateId, sourceVotes, comparisonVotes, comparisonVotes - sourceVotes⟩

variable {request : ReconciliationRequest}

theorem mem_missing {totals : Table Nat} : candidateId ∈ request.missing totals ↔
    ∃ expected ∈ request.expectedCandidateIds, candidateId ∈ expected ∧ candidateId ∉ totals.keys := by
  unfold missing
  cases request.expectedCandidateIds <;> simp [without, mem_idSet]

theorem mem_unexpected {totals : Table Nat} : candidateId ∈ request.unexpected totals ↔
    candidateId ∈ totals.keys ∧ ¬request.Expected candidateId := by
  unfold unexpected Expected
  cases request.expectedCandidateIds <;> simp [without, sortedIds, List.mem_insertionSort]

theorem mem_comparableIds : candidateId ∈ request.comparableIds ↔
    candidateId ∈ request.sourceTotals.keys ∧ candidateId ∈ request.comparisonTotals.keys ∧
      request.Expected candidateId := by
  unfold comparableIds Expected
  cases request.expectedCandidateIds with
  | none => simp [sortedIds, List.mem_insertionSort]
  | some expected => simp [sortedIds, List.mem_insertionSort, @and_comm (candidateId ∈ expected)]

theorem difference_none : request.difference candidateId = none ↔
    ∀ sourceVotes comparisonVotes, request.sourceTotals.get candidateId = some sourceVotes →
      request.comparisonTotals.get candidateId = some comparisonVotes → sourceVotes = comparisonVotes := by
  unfold difference
  cases request.sourceTotals.get candidateId with
  | none => simp
  | some sourceVotes =>
    cases request.comparisonTotals.get candidateId with
    | none => simp
    | some comparisonVotes => simp

/-- The loop finds the differences of its candidates when both sides count them. -/
theorem findDifferences_ok (both : ∀ candidateId ∈ ids, candidateId ∈ request.sourceTotals.keys ∧
    candidateId ∈ request.comparisonTotals.keys) :
    request.findDifferences ids = .ok (ids.filterMap request.difference) := by
  induction ids with
  | nil => rfl
  | cons candidateId rest ih =>
    obtain ⟨source, comparison⟩ := both candidateId List.mem_cons_self
    obtain ⟨sourceVotes, counted⟩ := (Table.mem_keys _).mp source
    obtain ⟨comparisonVotes, compared⟩ := (Table.mem_keys _).mp comparison
    have others := ih fun other member => both other (List.mem_cons_of_mem _ member)
    have first : readTotal request.sourceTotals candidateId = .ok sourceVotes := by
      rw [readTotal, counted]
    have second : readTotal request.comparisonTotals candidateId = .ok comparisonVotes := by
      rw [readTotal, compared]
    rw [findDifferences, first, ok_bind, second, ok_bind, others, ok_bind, List.filterMap_cons,
      difference, counted, compared]
    by_cases same : sourceVotes = comparisonVotes
    · simp [same, pure, Except.pure]
    · simp [same, pure, Except.pure]

/-- The differences of the comparable candidates, in order. -/
def differences (request : ReconciliationRequest) : List CandidateDifference :=
  request.comparableIds.filterMap request.difference

theorem mem_differences : request.differences = [] ↔
    ∀ candidateId ∈ request.comparableIds, request.difference candidateId = none :=
  List.filterMap_eq_nil_iff

end ReconciliationRequest

open ReconciliationRequest

/-- No total that the loop looks up is missing. -/
theorem reconcileTotals_returns (request : ReconciliationRequest) :
    reconcileTotals request = .ok (request.report request.differences) := by
  have both : ∀ candidateId ∈ request.comparableIds, candidateId ∈ request.sourceTotals.keys ∧
      candidateId ∈ request.comparisonTotals.keys := fun candidateId member =>
    ⟨(mem_comparableIds.mp member).1, (mem_comparableIds.mp member).2.1⟩
  rw [reconcileTotals, findDifferences_ok both]
  rfl

theorem ReconciliationRequest.status_failed {request : ReconciliationRequest} :
    request.status request.differences = .failed ↔ ∃ candidateId, request.Contradiction candidateId := by
  have found : request.status request.differences = .failed ↔
      request.differences ≠ [] ∨ request.unexpected request.sourceTotals ≠ [] ∨
        request.unexpected request.comparisonTotals ≠ [] := by
    unfold ReconciliationRequest.status
    split_ifs <;> simp_all
  rw [found]
  constructor
  · rintro (differ | source | comparison)
    · rw [ne_eq, mem_differences] at differ
      push Not at differ
      obtain ⟨candidateId, member, differ⟩ := differ
      obtain ⟨source, -, -⟩ := mem_comparableIds.mp member
      rw [ne_eq, difference_none] at differ
      push Not at differ
      exact ⟨candidateId, .inl source, fun _ => differ⟩
    · obtain ⟨candidateId, member⟩ := List.exists_mem_of_ne_nil _ source
      obtain ⟨counted, foreign⟩ := mem_unexpected.mp member
      exact ⟨candidateId, .inl counted, fun expected => absurd expected foreign⟩
    · obtain ⟨candidateId, member⟩ := List.exists_mem_of_ne_nil _ comparison
      obtain ⟨counted, foreign⟩ := mem_unexpected.mp member
      exact ⟨candidateId, .inr counted, fun expected => absurd expected foreign⟩
  · rintro ⟨candidateId, counted, apart⟩
    by_cases expected : request.Expected candidateId
    · left
      obtain ⟨sourceVotes, comparisonVotes, source, comparison, differ⟩ := apart expected
      intro none
      have member : candidateId ∈ request.comparableIds := mem_comparableIds.mpr
        ⟨(Table.mem_keys _).mpr ⟨_, source⟩, (Table.mem_keys _).mpr ⟨_, comparison⟩, expected⟩
      exact differ (difference_none.mp (mem_differences.mp none _ member) _ _ source comparison)
    · rcases counted with source | comparison
      · exact .inr (.inl (List.ne_nil_of_mem (mem_unexpected.mpr ⟨source, expected⟩)))
      · exact .inr (.inr (List.ne_nil_of_mem (mem_unexpected.mpr ⟨comparison, expected⟩)))

/-- A universe is given, and both sides count exactly its candidates, the same for each. -/
def ReconciliationRequest.Complete (request : ReconciliationRequest) : Prop :=
  ∃ expected, request.expectedCandidateIds = some expected ∧
    (∀ candidateId, candidateId ∈ request.sourceTotals.keys ↔ candidateId ∈ expected) ∧
    (∀ candidateId, candidateId ∈ request.comparisonTotals.keys ↔ candidateId ∈ expected) ∧
    request.sourceTotals = request.comparisonTotals

theorem ReconciliationRequest.status_verified {request : ReconciliationRequest} :
    request.status request.differences = .verified ↔ request.Complete := by
  have passes : request.status request.differences = .verified ↔
      request.status request.differences ≠ .failed ∧ request.expectedCandidateIds ≠ none ∧
        request.missing request.sourceTotals = [] ∧ request.missing request.comparisonTotals = [] := by
    unfold ReconciliationRequest.status
    split_ifs with fails lacks
    · simp
    · simp only [reduceCtorEq, false_iff, ne_eq, not_false_eq_true, true_and]
      tauto
    · simp only [not_or, not_not] at lacks
      simp [lacks]
  rw [passes, ne_eq, status_failed]
  push Not
  constructor
  · rintro ⟨consistent, given, source, comparison⟩
    obtain ⟨expected, given⟩ := Option.ne_none_iff_exists'.mp given
    have known {candidateId : String} : request.Expected candidateId ↔ candidateId ∈ expected := by
      simp [ReconciliationRequest.Expected, given]
    have present {totals : Table Nat} (none : request.missing totals = []) {candidateId : String}
        (inside : candidateId ∈ expected) : candidateId ∈ totals.keys := by
      by_contra absent
      have member := mem_missing.mpr ⟨expected, given, inside, absent⟩
      rw [none] at member
      cases member
    have counted {candidateId : String} (member : candidateId ∈ request.sourceTotals.keys ∨
        candidateId ∈ request.comparisonTotals.keys) : candidateId ∈ expected := by
      by_contra foreign
      exact consistent candidateId ⟨member, fun inside => absurd (known.mp inside) foreign⟩
    refine ⟨expected, given, fun candidateId => ⟨fun member => counted (.inl member), present source⟩,
      fun candidateId => ⟨fun member => counted (.inr member), present comparison⟩, ?_⟩
    apply Table.ext
    intro candidateId
    by_cases inside : candidateId ∈ expected
    · obtain ⟨sourceVotes, counts⟩ := (Table.mem_keys _).mp (present source inside)
      obtain ⟨comparisonVotes, compares⟩ := (Table.mem_keys _).mp (present comparison inside)
      have same : sourceVotes = comparisonVotes := by
        by_contra differ
        exact consistent candidateId ⟨.inl (present source inside), fun _ =>
          ⟨sourceVotes, comparisonVotes, counts, compares, differ⟩⟩
      rw [counts, compares, same]
    · have absent {totals : Table Nat} (within : candidateId ∈ totals.keys → candidateId ∈ expected) :
          totals.get candidateId = none := by
        by_contra found
        exact inside (within ((Table.mem_keys _).mpr (Option.ne_none_iff_exists'.mp found)))
      rw [absent fun member => counted (.inl member), absent fun member => counted (.inr member)]
  · rintro ⟨expected, given, source, comparison, same⟩
    have covered {totals : Table Nat} (keys : ∀ candidateId, candidateId ∈ totals.keys ↔ candidateId ∈ expected) :
        request.missing totals = [] := by
      refine List.eq_nil_iff_forall_not_mem.mpr fun candidateId member => ?_
      obtain ⟨others, listed, inside, absent⟩ := mem_missing.mp member
      rw [given] at listed
      cases listed
      exact absent ((keys candidateId).mpr inside)
    refine ⟨fun candidateId contradiction => ?_, by simp [given], covered source, covered comparison⟩
    have inside : candidateId ∈ expected :=
      contradiction.counted.elim (source candidateId).mp (comparison candidateId).mp
    have known : request.Expected candidateId := by simpa [ReconciliationRequest.Expected, given] using inside
    obtain ⟨sourceVotes, comparisonVotes, counts, compares, differ⟩ := contradiction.apart known
    rw [same, compares] at counts
    exact differ (Option.some.inj counts).symm

/-! ## The two sides exchanged -/

def CandidateDifference.swap (d : CandidateDifference) : CandidateDifference :=
  ⟨d.candidateId, d.comparisonVotes, d.sourceVotes, -d.delta⟩

def ReconciliationReport.swap (report : ReconciliationReport) : ReconciliationReport where
  sourceLabel := report.comparisonLabel
  comparisonLabel := report.sourceLabel
  status := report.status
  matched := report.matched
  expectedCandidateIds := report.expectedCandidateIds
  missingSourceCandidateIds := report.missingComparisonCandidateIds
  missingComparisonCandidateIds := report.missingSourceCandidateIds
  unexpectedSourceCandidateIds := report.unexpectedComparisonCandidateIds
  unexpectedComparisonCandidateIds := report.unexpectedSourceCandidateIds
  differences := report.differences.map CandidateDifference.swap

section
variable (request : ReconciliationRequest)

theorem comparableIds_swap : request.swap.comparableIds = request.comparableIds := by
  have perm : (request.comparisonTotals.keys.filter (· ∈ request.sourceTotals.keys)).Perm
      (request.sourceTotals.keys.filter (· ∈ request.comparisonTotals.keys)) := by
    refine (List.perm_ext_iff_of_nodup ((Table.keys_nodup _).filter _) ((Table.keys_nodup _).filter _)).mpr ?_
    intro candidateId
    simp [and_comm]
  unfold comparableIds
  dsimp only [ReconciliationRequest.swap]
  cases request.expectedCandidateIds with
  | none => exact sortedIds_perm perm
  | some expected => exact sortedIds_perm (perm.filter _)

theorem difference_swap (candidateId : String) :
    request.swap.difference candidateId = (request.difference candidateId).map CandidateDifference.swap := by
  unfold difference
  dsimp only [ReconciliationRequest.swap]
  cases request.sourceTotals.get candidateId with
  | none => cases request.comparisonTotals.get candidateId <;> rfl
  | some sourceVotes =>
    cases request.comparisonTotals.get candidateId with
    | none => rfl
    | some comparisonVotes =>
      by_cases same : sourceVotes = comparisonVotes
      · simp [same]
      · simp [same, Ne.symm same, CandidateDifference.swap]

theorem differences_swap : request.swap.differences = request.differences.map CandidateDifference.swap := by
  rw [differences, differences, comparableIds_swap, List.map_filterMap]
  exact List.filterMap_congr fun candidateId _ => difference_swap request candidateId

theorem status_swap : request.swap.status request.swap.differences = request.status request.differences := by
  have none : request.swap.differences ≠ [] ↔ request.differences ≠ [] := by
    rw [differences_swap, ne_eq, List.map_eq_nil_iff]
  have failed : (request.swap.unexpected request.swap.sourceTotals ≠ [] ∨
      request.swap.unexpected request.swap.comparisonTotals ≠ []) ↔
      (request.unexpected request.sourceTotals ≠ [] ∨ request.unexpected request.comparisonTotals ≠ []) :=
    or_comm
  have incomplete : (request.swap.missing request.swap.sourceTotals ≠ [] ∨
      request.swap.missing request.swap.comparisonTotals ≠ []) ↔
      (request.missing request.sourceTotals ≠ [] ∨ request.missing request.comparisonTotals ≠ []) :=
    or_comm
  simp only [ReconciliationRequest.status, none, failed, incomplete]
  rfl

/-- Exchanging the sides exchanges the lists, negates the deltas and keeps the status. -/
theorem report_swap :
    request.swap.report request.swap.differences = (request.report request.differences).swap := by
  unfold report ReconciliationReport.swap
  rw [status_swap, differences_swap]
  rfl

end

/-- Every entry of a table is in the other. -/
def SubTotals (fewer totals : Table Nat) : Prop :=
  ∀ candidateId votes, fewer.get candidateId = some votes → totals.get candidateId = some votes

/-- Fewer entries contradict no more. -/
theorem Contradiction.mono {request : ReconciliationRequest} {source comparison : Table Nat}
    (fewerSource : SubTotals source request.sourceTotals)
    (fewerComparison : SubTotals comparison request.comparisonTotals)
    (contradiction : (request.withTotals source comparison).Contradiction candidateId) :
    request.Contradiction candidateId := by
  refine ⟨?_, fun expected => ?_⟩
  · refine contradiction.counted.imp (fun member => ?_) fun member => ?_
    · obtain ⟨votes, counted⟩ := (Table.mem_keys _).mp member
      exact (Table.mem_keys _).mpr ⟨votes, fewerSource _ _ counted⟩
    · obtain ⟨votes, counted⟩ := (Table.mem_keys _).mp member
      exact (Table.mem_keys _).mpr ⟨votes, fewerComparison _ _ counted⟩
  · obtain ⟨sourceVotes, comparisonVotes, counts, compares, differ⟩ := contradiction.apart expected
    exact ⟨sourceVotes, comparisonVotes, fewerSource _ _ counts, fewerComparison _ _ compares, differ⟩

/-- `reconcile_totals` always reports, verifies exactly complete requests, treats the two sides
alike, and does not fail a request for entries that are taken away. -/
theorem reconcileTotals_laws (request : ReconciliationRequest) :
    ∃ report, reconcileTotals request = .ok report ∧
      (report.status = .verified ↔ request.Complete) ∧
      reconcileTotals request.swap = .ok report.swap ∧
      ∀ source comparison, SubTotals source request.sourceTotals →
        SubTotals comparison request.comparisonTotals → report.status ≠ .failed →
        ∃ fewer, reconcileTotals (request.withTotals source comparison) = .ok fewer ∧ fewer.status ≠ .failed := by
  refine ⟨request.report request.differences, reconcileTotals_returns request,
    ReconciliationRequest.status_verified, ?_, ?_⟩
  · rw [reconcileTotals_returns, report_swap]
  · intro source comparison fewerSource fewerComparison passes
    refine ⟨_, reconcileTotals_returns _, fun failed => passes ?_⟩
    obtain ⟨candidateId, contradiction⟩ := status_failed.mp failed
    exact status_failed.mpr ⟨candidateId, Contradiction.mono fewerSource fewerComparison contradiction⟩

end BallotProof
