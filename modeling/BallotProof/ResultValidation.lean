import BallotProof.Collation

/-! The two validators of result evidence, the one over the historical result sheet and the one
over the neutral record, and the translation between their inputs. -/
namespace BallotProof
open Python

inductive Severity where
  | info | warning | error
  deriving DecidableEq, Repr

def Severity.text : Severity → String
  | .info => "info"
  | .warning => "warning"
  | .error => "error"

/-- A value of type `int | str`. -/
inductive FindingValue where
  | int (value : Nat)
  | str (value : String)
  deriving DecidableEq

/-- `", ".join(ids)` -/
def joinIds (ids : List String) : FindingValue := .str (", ".intercalate ids)

/-- `f"<= {bound}"` -/
def atMost (bound : Nat) : FindingValue := .str ("<= " ++ toString bound)

/-! ## The result sheet -/

inductive DocumentType where
  | ec8a | other
  deriving DecidableEq, Repr

def DocumentType.text : DocumentType → String
  | .ec8a => "EC8A"
  | .other => "OTHER"

structure CandidateVote where
  candidateId : String
  candidateName : Option String
  votes : Nat
  id_length : 1 ≤ candidateId.length ∧ candidateId.length ≤ 128
  name_length : ∀ name ∈ candidateName, name.length ≤ 256

structure ResultSheet where
  pollingUnitCode : String
  documentType : DocumentType
  registeredVoters : Option Nat
  accreditedVoters : Option Nat
  validVotes : Option Nat
  rejectedVotes : Option Nat
  votesCast : Option Nat
  expectedCandidateIds : Option (List String)
  candidateVotes : List CandidateVote
  code_length : 1 ≤ pollingUnitCode.length ∧ pollingUnitCode.length ≤ 128
  expected_unique : ∀ ids ∈ expectedCandidateIds, 1 ≤ ids.length ∧ ids.Nodup
  candidates_unique : (candidateVotes.map (·.candidateId)).Nodup

structure ValidationFinding where
  code : String
  severity : Severity
  message : String
  observed : Option FindingValue
  expected : Option FindingValue
  deriving DecidableEq

structure ValidationReport where
  pollingUnitCode : String
  status : EvidenceSufficiencyStatus
  passed : Bool
  candidateVoteSum : Nat
  findings : List ValidationFinding
  deriving DecidableEq

namespace ResultSheet
variable (sheet : ResultSheet)

def candidateVoteSum : Nat := (sheet.candidateVotes.map (·.votes)).sum

def observedCandidateIds : List String := sheet.candidateVotes.map (·.candidateId)

def emptyFindings : List ValidationFinding :=
  if sheet.candidateVotes = [] then
    [⟨"NO_CANDIDATE_VOTES", .warning, "No candidate vote entries were supplied.", none, none⟩]
  else []

/-- The findings about `expected_candidate_ids`. -/
def universeFindings : List ValidationFinding :=
  match sheet.expectedCandidateIds with
  | none => [⟨"CANDIDATE_UNIVERSE_NOT_PROVIDED", .warning,
      "Expected candidate IDs were not supplied, so candidate coverage cannot be verified.", none, none⟩]
  | some expected =>
    let missing := without (idSet expected) sheet.observedCandidateIds
    let unexpected := without (idSet sheet.observedCandidateIds) expected
    (if missing ≠ [] then
      [⟨"CANDIDATE_TOTALS_INCOMPLETE", .warning, "Expected candidate vote entries are missing.",
        some (joinIds missing), some (.str "all expected candidate IDs")⟩] else []) ++
    (if unexpected ≠ [] then
      [⟨"UNEXPECTED_CANDIDATE_IDS", .error,
        "Candidate vote entries fall outside the expected candidate universe.",
        some (joinIds unexpected), some (joinIds expected)⟩] else [])

def totalFindings : List ValidationFinding :=
  match sheet.validVotes with
  | none => [⟨"VALID_VOTES_NOT_PROVIDED", .warning,
      "Valid-vote total is missing, so candidate totals cannot be reconciled.", none, none⟩]
  | some validVotes =>
    if sheet.candidateVoteSum ≠ validVotes then
      [⟨"CANDIDATE_TOTAL_MISMATCH", .error,
        "Sum of candidate votes does not equal the stated valid-vote total.",
        some (.int sheet.candidateVoteSum), some (.int validVotes)⟩] else []

def accreditationFindings : List ValidationFinding :=
  match sheet.registeredVoters, sheet.accreditedVoters with
  | some registered, some accredited =>
    if registered < accredited then
      [⟨"ACCREDITED_EXCEEDS_REGISTERED", .error, "Accredited voters exceed registered voters.",
        some (.int accredited), some (atMost registered)⟩] else []
  | _, _ => []

def ballotFindings : List ValidationFinding :=
  match sheet.accreditedVoters, sheet.validVotes, sheet.rejectedVotes with
  | some accredited, some validVotes, some rejectedVotes =>
    let ballotTotal := validVotes + rejectedVotes
    if accredited < ballotTotal then
      [⟨"BALLOT_TOTAL_EXCEEDS_ACCREDITED", .error, "Valid plus rejected ballots exceed accredited voters.",
        some (.int ballotTotal), some (atMost accredited)⟩] else []
  | _, _, _ => []

def votesCastFindings : List ValidationFinding :=
  match sheet.votesCast, sheet.validVotes, sheet.rejectedVotes with
  | some votesCast, some validVotes, some rejectedVotes =>
    let expectedVotesCast := validVotes + rejectedVotes
    if votesCast ≠ expectedVotesCast then
      [⟨"VOTES_CAST_MISMATCH", .error, "Votes cast do not equal valid plus rejected ballots.",
        some (.int votesCast), some (.int expectedVotesCast)⟩] else []
  | _, _, _ => []

def findings : List ValidationFinding :=
  sheet.emptyFindings ++ sheet.universeFindings ++ sheet.totalFindings ++
    sheet.accreditationFindings ++ sheet.ballotFindings ++ sheet.votesCastFindings

def status : EvidenceSufficiencyStatus :=
  if ∃ finding ∈ sheet.findings, finding.severity = .error then .failed
  else if ∃ finding ∈ sheet.findings, finding.severity = .warning then .incomplete
  else .verified

end ResultSheet

/-- `validate_result_sheet` -/
def validateResultSheet (sheet : ResultSheet) : ValidationReport where
  pollingUnitCode := sheet.pollingUnitCode
  status := sheet.status
  passed := sheet.status = .verified
  candidateVoteSum := sheet.candidateVoteSum
  findings := sheet.findings

/-! ## The neutral record -/

structure ChoiceTotal where
  choiceId : String
  choiceName : Option String
  votes : Nat
  deriving DecidableEq

/-- `ChoiceTotal(...)` -/
def ChoiceTotal.create (choiceId : String) (choiceName : Option String) (votes : Nat) :
    Result ChoiceTotal := do
  checkLength 128 choiceId
  require (∀ name ∈ choiceName, name.length ≤ 256) "String should have at most 256 characters"
  return ⟨choiceId, choiceName, votes⟩

structure ResultRecord where
  resultUnitId : String
  contestId : String
  evidenceType : String
  registeredElectors : Option Nat
  participatingElectors : Option Nat
  validVotes : Option Nat
  rejectedVotes : Option Nat
  ballotsCast : Option Nat
  expectedChoiceIds : Option (List String)
  choiceTotals : List ChoiceTotal
  deriving DecidableEq

/-- The field checks and `choices_are_unique`. -/
def ResultRecord.validate (record : ResultRecord) : Result Unit := do
  checkLength 256 record.resultUnitId
  checkLength 128 record.contestId
  checkLength 128 record.evidenceType
  require (∀ ids ∈ record.expectedChoiceIds, 1 ≤ ids.length)
    "List should have at least 1 item after validation"
  require (record.choiceTotals.map (·.choiceId)).Nodup
    "choice_id values must be unique within a result record"
  require (∀ ids ∈ record.expectedChoiceIds, ids.Nodup) "expected_choice_ids must be unique"

structure ResultValidationFinding where
  code : String
  severity : String
  message : String
  observed : Option FindingValue
  expected : Option FindingValue
  deriving DecidableEq

structure ResultValidationReport where
  resultUnitId : String
  contestId : String
  status : EvidenceSufficiencyStatus
  passed : Bool
  choiceVoteSum : Nat
  findings : List ResultValidationFinding
  deriving DecidableEq

namespace ResultRecord
variable (record : ResultRecord)

def choiceVoteSum : Nat := (record.choiceTotals.map (·.votes)).sum

def observedChoiceIds : List String := record.choiceTotals.map (·.choiceId)

def emptyFindings : List ResultValidationFinding :=
  if record.choiceTotals = [] then
    [⟨"NO_CHOICE_TOTALS", "warning", "No choice totals were supplied.", none, none⟩]
  else []

/-- The findings about `expected_choice_ids`. -/
def universeFindings : List ResultValidationFinding :=
  match record.expectedChoiceIds with
  | none => [⟨"CHOICE_UNIVERSE_NOT_PROVIDED", "warning",
      "Expected choice IDs were not supplied, so result coverage cannot be verified.", none, none⟩]
  | some expected =>
    let missing := without (idSet expected) record.observedChoiceIds
    let unexpected := without (idSet record.observedChoiceIds) expected
    (if missing ≠ [] then
      [⟨"CHOICE_TOTALS_INCOMPLETE", "warning", "Expected choice totals are missing.",
        some (joinIds missing), some (.str "all expected choice IDs")⟩] else []) ++
    (if unexpected ≠ [] then
      [⟨"UNEXPECTED_CHOICE_IDS", "error", "Choice totals fall outside the expected choice universe.",
        some (joinIds unexpected), some (joinIds expected)⟩] else [])

def totalFindings : List ResultValidationFinding :=
  match record.validVotes with
  | none => [⟨"VALID_VOTES_NOT_PROVIDED", "warning",
      "Valid-vote total is missing, so choice totals cannot be reconciled.", none, none⟩]
  | some validVotes =>
    if record.choiceVoteSum ≠ validVotes then
      [⟨"CHOICE_TOTAL_MISMATCH", "error",
        "Sum of choice totals does not equal the stated valid-vote total.",
        some (.int record.choiceVoteSum), some (.int validVotes)⟩] else []

def participationFindings : List ResultValidationFinding :=
  match record.registeredElectors, record.participatingElectors with
  | some registered, some participating =>
    if registered < participating then
      [⟨"PARTICIPATING_EXCEEDS_REGISTERED", "error", "Participating electors exceed registered electors.",
        some (.int participating), some (atMost registered)⟩] else []
  | _, _ => []

def ballotFindings : List ResultValidationFinding :=
  match record.participatingElectors, record.validVotes, record.rejectedVotes with
  | some participating, some validVotes, some rejectedVotes =>
    let ballotTotal := validVotes + rejectedVotes
    if participating < ballotTotal then
      [⟨"BALLOT_TOTAL_EXCEEDS_PARTICIPATING", "error",
        "Valid plus rejected ballots exceed participating electors.",
        some (.int ballotTotal), some (atMost participating)⟩] else []
  | _, _, _ => []

def ballotsCastFindings : List ResultValidationFinding :=
  match record.ballotsCast, record.validVotes, record.rejectedVotes with
  | some ballotsCast, some validVotes, some rejectedVotes =>
    let expectedBallotsCast := validVotes + rejectedVotes
    if ballotsCast ≠ expectedBallotsCast then
      [⟨"BALLOTS_CAST_MISMATCH", "error", "Ballots cast do not equal valid plus rejected ballots.",
        some (.int ballotsCast), some (.int expectedBallotsCast)⟩] else []
  | _, _, _ => []

def findings : List ResultValidationFinding :=
  record.emptyFindings ++ record.universeFindings ++ record.totalFindings ++
    record.participationFindings ++ record.ballotFindings ++ record.ballotsCastFindings

def status : EvidenceSufficiencyStatus :=
  let severities := record.findings.map (·.severity)
  if "error" ∈ severities then .failed
  else if "warning" ∈ severities then .incomplete
  else .verified

end ResultRecord

/-- `validate_result_record` -/
def validateResultRecord (record : ResultRecord) : ResultValidationReport where
  resultUnitId := record.resultUnitId
  contestId := record.contestId
  status := record.status
  passed := record.status = .verified
  choiceVoteSum := record.choiceVoteSum
  findings := record.findings

/-! ## The translation -/

/-- `result_record_from_legacy_sheet` -/
def resultRecordFromLegacySheet (sheet : ResultSheet) (contestId : String) : Result ResultRecord := do
  let choiceTotals ← sheet.candidateVotes.mapM fun entry =>
    ChoiceTotal.create entry.candidateId entry.candidateName entry.votes
  let record : ResultRecord := {
    resultUnitId := sheet.pollingUnitCode
    contestId
    evidenceType := sheet.documentType.text
    registeredElectors := sheet.registeredVoters
    participatingElectors := sheet.accreditedVoters
    validVotes := sheet.validVotes
    rejectedVotes := sheet.rejectedVotes
    ballotsCast := sheet.votesCast
    expectedChoiceIds := sheet.expectedCandidateIds
    choiceTotals }
  record.validate
  return record

/-- The neutral code for a code of the sheet validator. -/
def neutralCode : String → String
  | "NO_CANDIDATE_VOTES" => "NO_CHOICE_TOTALS"
  | "CANDIDATE_UNIVERSE_NOT_PROVIDED" => "CHOICE_UNIVERSE_NOT_PROVIDED"
  | "CANDIDATE_TOTALS_INCOMPLETE" => "CHOICE_TOTALS_INCOMPLETE"
  | "UNEXPECTED_CANDIDATE_IDS" => "UNEXPECTED_CHOICE_IDS"
  | "CANDIDATE_TOTAL_MISMATCH" => "CHOICE_TOTAL_MISMATCH"
  | "ACCREDITED_EXCEEDS_REGISTERED" => "PARTICIPATING_EXCEEDS_REGISTERED"
  | "BALLOT_TOTAL_EXCEEDS_ACCREDITED" => "BALLOT_TOTAL_EXCEEDS_PARTICIPATING"
  | "VOTES_CAST_MISMATCH" => "BALLOTS_CAST_MISMATCH"
  | code => code

/-- One finding told twice. Only the text that stands in for a list of ids may differ. -/
structure SameFinding (legacy : ValidationFinding) (neutral : ResultValidationFinding) : Prop where
  code : neutral.code = neutralCode legacy.code
  severity : neutral.severity = legacy.severity.text
  observed : neutral.observed = legacy.observed
  expected : neutral.expected = legacy.expected ∨ legacy.code = "CANDIDATE_TOTALS_INCOMPLETE" ∧
    legacy.expected = some (.str "all expected candidate IDs") ∧
    neutral.expected = some (.str "all expected choice IDs")

def ResultSheet.choiceTotals (sheet : ResultSheet) : List ChoiceTotal :=
  sheet.candidateVotes.map fun entry => ⟨entry.candidateId, entry.candidateName, entry.votes⟩

/-- The record that a sheet is translated to. -/
def ResultSheet.record (sheet : ResultSheet) (contestId : String) : ResultRecord where
  resultUnitId := sheet.pollingUnitCode
  contestId := contestId
  evidenceType := sheet.documentType.text
  registeredElectors := sheet.registeredVoters
  participatingElectors := sheet.accreditedVoters
  validVotes := sheet.validVotes
  rejectedVotes := sheet.rejectedVotes
  ballotsCast := sheet.votesCast
  expectedChoiceIds := sheet.expectedCandidateIds
  choiceTotals := sheet.choiceTotals

theorem choiceTotal_create (entry : CandidateVote) :
    ChoiceTotal.create entry.candidateId entry.candidateName entry.votes =
      .ok ⟨entry.candidateId, entry.candidateName, entry.votes⟩ := by
  rw [ChoiceTotal.create, checkLength_ok.mpr entry.id_length, ok_bind, require_ok.mpr entry.name_length]
  rfl

theorem observedChoiceIds_record (sheet : ResultSheet) (contestId : String) :
    (sheet.record contestId).observedChoiceIds = sheet.observedCandidateIds := by
  simp [ResultRecord.observedChoiceIds, ResultSheet.record, ResultSheet.choiceTotals,
    ResultSheet.observedCandidateIds, Function.comp_def]

theorem choiceVoteSum_record (sheet : ResultSheet) (contestId : String) :
    (sheet.record contestId).choiceVoteSum = sheet.candidateVoteSum := by
  simp [ResultRecord.choiceVoteSum, ResultSheet.record, ResultSheet.choiceTotals,
    ResultSheet.candidateVoteSum, Function.comp_def]

theorem record_valid (sheet : ResultSheet) (contest : 1 ≤ contestId.length ∧ contestId.length ≤ 128) :
    (sheet.record contestId).validate = .ok () := by
  have unit : 1 ≤ (sheet.record contestId).resultUnitId.length ∧
      (sheet.record contestId).resultUnitId.length ≤ 256 :=
    ⟨sheet.code_length.1, sheet.code_length.2.trans (by norm_num)⟩
  have contest : 1 ≤ (sheet.record contestId).contestId.length ∧
      (sheet.record contestId).contestId.length ≤ 128 := contest
  have evidence : 1 ≤ (sheet.record contestId).evidenceType.length ∧
      (sheet.record contestId).evidenceType.length ≤ 128 := by
    dsimp only [ResultSheet.record]
    cases sheet.documentType <;> decide
  have distinct : ((sheet.record contestId).choiceTotals.map (·.choiceId)).Nodup := by
    have same := observedChoiceIds_record sheet contestId
    unfold ResultRecord.observedChoiceIds at same
    rw [same]
    exact sheet.candidates_unique
  have some : ∀ ids ∈ (sheet.record contestId).expectedChoiceIds, 1 ≤ ids.length :=
    fun ids given => (sheet.expected_unique ids given).1
  have once : ∀ ids ∈ (sheet.record contestId).expectedChoiceIds, ids.Nodup :=
    fun ids given => (sheet.expected_unique ids given).2
  rw [ResultRecord.validate, checkLength_ok.mpr unit, ok_bind, checkLength_ok.mpr contest, ok_bind,
    checkLength_ok.mpr evidence, ok_bind, require_ok.mpr some, ok_bind, require_ok.mpr distinct, ok_bind,
    require_ok.mpr once]

/-- Every sheet is translated, whatever its totals. -/
theorem resultRecordFromLegacySheet_accepts (sheet : ResultSheet)
    (contest : 1 ≤ contestId.length ∧ contestId.length ≤ 128) :
    resultRecordFromLegacySheet sheet contestId = .ok (sheet.record contestId) := by
  have totals : sheet.candidateVotes.mapM (fun entry =>
      ChoiceTotal.create entry.candidateId entry.candidateName entry.votes) = .ok sheet.choiceTotals :=
    mapM_ok fun entry _ => choiceTotal_create entry
  rw [resultRecordFromLegacySheet, totals, ok_bind]
  change ((sheet.record contestId).validate >>= fun _ => pure (sheet.record contestId)) = _
  rw [record_valid sheet contest]
  rfl

/-! ## The two reports -/

section
variable (sheet : ResultSheet) (contestId : String)

theorem emptyFindings_same :
    List.Forall₂ SameFinding sheet.emptyFindings (sheet.record contestId).emptyFindings := by
  have empty : (sheet.record contestId).choiceTotals = [] ↔ sheet.candidateVotes = [] := List.map_eq_nil_iff
  unfold ResultSheet.emptyFindings ResultRecord.emptyFindings
  by_cases none : sheet.candidateVotes = []
  · rw [if_pos none, if_pos (empty.mpr none)]
    exact .cons ⟨rfl, rfl, rfl, .inl rfl⟩ .nil
  · rw [if_neg none, if_neg (mt empty.mp none)]
    exact .nil

theorem universeFindings_same :
    List.Forall₂ SameFinding sheet.universeFindings (sheet.record contestId).universeFindings := by
  unfold ResultSheet.universeFindings ResultRecord.universeFindings
  rw [observedChoiceIds_record, ResultSheet.record]
  dsimp only
  cases sheet.expectedCandidateIds with
  | none => exact .cons ⟨rfl, rfl, rfl, .inl rfl⟩ .nil
  | some expected =>
    apply List.rel_append
    · split
      · exact .cons ⟨rfl, rfl, rfl, .inr ⟨rfl, rfl, rfl⟩⟩ .nil
      · exact .nil
    · split
      · exact .cons ⟨rfl, rfl, rfl, .inl rfl⟩ .nil
      · exact .nil

theorem totalFindings_same :
    List.Forall₂ SameFinding sheet.totalFindings (sheet.record contestId).totalFindings := by
  unfold ResultSheet.totalFindings ResultRecord.totalFindings
  rw [choiceVoteSum_record, ResultSheet.record]
  dsimp only
  cases sheet.validVotes with
  | none => exact .cons ⟨rfl, rfl, rfl, .inl rfl⟩ .nil
  | some validVotes =>
    dsimp only
    split
    · exact .cons ⟨rfl, rfl, rfl, .inl rfl⟩ .nil
    · exact .nil

theorem accreditationFindings_same :
    List.Forall₂ SameFinding sheet.accreditationFindings (sheet.record contestId).participationFindings := by
  unfold ResultSheet.accreditationFindings ResultRecord.participationFindings
  rw [ResultSheet.record]
  dsimp only
  split
  · split
    · exact .cons ⟨rfl, rfl, rfl, .inl rfl⟩ .nil
    · exact .nil
  · exact .nil

theorem ballotFindings_same :
    List.Forall₂ SameFinding sheet.ballotFindings (sheet.record contestId).ballotFindings := by
  unfold ResultSheet.ballotFindings ResultRecord.ballotFindings
  rw [ResultSheet.record]
  dsimp only
  split
  · split
    · exact .cons ⟨rfl, rfl, rfl, .inl rfl⟩ .nil
    · exact .nil
  · exact .nil

theorem votesCastFindings_same :
    List.Forall₂ SameFinding sheet.votesCastFindings (sheet.record contestId).ballotsCastFindings := by
  unfold ResultSheet.votesCastFindings ResultRecord.ballotsCastFindings
  rw [ResultSheet.record]
  dsimp only
  split
  · split
    · exact .cons ⟨rfl, rfl, rfl, .inl rfl⟩ .nil
    · exact .nil
  · exact .nil

theorem findings_same : List.Forall₂ SameFinding sheet.findings (sheet.record contestId).findings := by
  have front := List.rel_append (emptyFindings_same sheet contestId) (universeFindings_same sheet contestId)
  have totals := List.rel_append front (totalFindings_same sheet contestId)
  have voters := List.rel_append totals (accreditationFindings_same sheet contestId)
  have ballots := List.rel_append voters (ballotFindings_same sheet contestId)
  exact List.rel_append ballots (votesCastFindings_same sheet contestId)

end

/-- Findings told twice have the same severities. -/
theorem severities_same {legacy : List ValidationFinding} {neutral : List ResultValidationFinding}
    (same : List.Forall₂ SameFinding legacy neutral) :
    neutral.map (·.severity) = legacy.map (·.severity.text) := by
  induction same with
  | nil => rfl
  | cons first _ ih => rw [List.map_cons, List.map_cons, first.severity, ih]

theorem text_mem_severities {findings : List ValidationFinding} (severity : Severity) :
    severity.text ∈ findings.map (·.severity.text) ↔ ∃ finding ∈ findings, finding.severity = severity := by
  have texts : Function.Injective Severity.text := by
    intro a b
    cases a <;> cases b <;> decide
  simp only [List.mem_map, texts.eq_iff]

theorem status_same (sheet : ResultSheet) (contestId : String) :
    (sheet.record contestId).status = sheet.status := by
  have error : "error" ∈ sheet.findings.map (·.severity.text) ↔
      ∃ finding ∈ sheet.findings, finding.severity = .error := text_mem_severities .error
  have warning : "warning" ∈ sheet.findings.map (·.severity.text) ↔
      ∃ finding ∈ sheet.findings, finding.severity = .warning := text_mem_severities .warning
  unfold ResultRecord.status ResultSheet.status
  rw [severities_same (findings_same sheet contestId)]
  simp only [error, warning]

/-- The two validators agree on every sheet and the record it is translated to. -/
theorem validators_agree (sheet : ResultSheet) (contestId : String)
    (contest : 1 ≤ contestId.length ∧ contestId.length ≤ 128) :
    ∃ record, resultRecordFromLegacySheet sheet contestId = .ok record ∧
      (validateResultRecord record).status = (validateResultSheet sheet).status ∧
      (validateResultRecord record).passed = (validateResultSheet sheet).passed ∧
      (validateResultRecord record).choiceVoteSum = (validateResultSheet sheet).candidateVoteSum ∧
      List.Forall₂ SameFinding (validateResultSheet sheet).findings (validateResultRecord record).findings := by
  have status := status_same sheet contestId
  refine ⟨sheet.record contestId, resultRecordFromLegacySheet_accepts sheet contest, status, ?_,
    choiceVoteSum_record sheet contestId, findings_same sheet contestId⟩
  simp only [validateResultRecord, validateResultSheet, status]

/-- A sheet with a candidate that is not expected and one that is missing. -/
def sampleSheet : ResultSheet where
  pollingUnitCode := "01-02-03"
  documentType := .ec8a
  registeredVoters := some 10
  accreditedVoters := some 12
  validVotes := some 5
  rejectedVotes := none
  votesCast := none
  expectedCandidateIds := some ["a", "b"]
  candidateVotes := [⟨"a", none, 4, by decide, by simp⟩, ⟨"c", some "C", 2, by decide, by decide⟩]
  code_length := by decide
  expected_unique := by decide
  candidates_unique := by decide

theorem sampleSheet_agrees : (1 ≤ "president".length ∧ "president".length ≤ 128) ∧
    ∃ record, resultRecordFromLegacySheet sampleSheet "president" = .ok record ∧
      (validateResultRecord record).status = .failed ∧
      (validateResultRecord record).findings.length = 4 := by
  have contest : 1 ≤ "president".length ∧ "president".length ≤ 128 := by decide
  obtain ⟨record, translated, status, -, -, findings⟩ := validators_agree sampleSheet "president" contest
  have failed : (validateResultSheet sampleSheet).status = .failed := by decide +kernel
  have four : (validateResultSheet sampleSheet).findings.length = 4 := by decide +kernel
  exact ⟨contest, record, translated, status.trans failed, findings.length_eq.symm.trans four⟩

end BallotProof
