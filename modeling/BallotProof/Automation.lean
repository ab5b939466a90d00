import BallotProof.Approvals
import BallotProof.Transport

/-! Automatic acquisition: plans, the run ledger, and workers whose `run_due` cycles reserve,
execute and record one plan after the other. Every store transaction is a step of its own,
so a cycle may stop between any two, and cycles of any number of workers interleave. -/
namespace BallotProof
open Python

structure SourceAutomationPlan where
  planId : String
  sourceId : String
  policyVersion : Nat
  policySnapshotHash : Digest
  requestUrl : String
  requestMethod : String
  intervalSeconds : Nat
  nextRunAt : Datetime
  enabled : Bool
  createdAt : Datetime
  updatedAt : Datetime
  deriving DecidableEq

structure SourceAutomationPlanRequest where
  sourceId : String
  policyVersion : Nat
  policySnapshotHash : Digest
  requestUrl : String
  requestMethod : String
  intervalSeconds : Nat
  startAt : Option Datetime
  deriving DecidableEq

inductive AutomationRunStatus where
  | completed | deferred | failed | policyBlocked | noTransport | ambiguousExecution
  deriving DecidableEq, Repr

structure SourceAutomationRun where
  runId : String
  planId : String
  sourceId : String
  scheduledFor : Datetime
  status : AutomationRunStatus
  startedAt : Datetime
  completedAt : Datetime
  reservationId : Option String
  receiptId : Option String
  blockReason : Option ReservationBlockReason
  errorCode : Option String
  deriving DecidableEq

/-- `create_plan` up to its INSERT; a plan id is `bp_auto_` and the hex digits of a UUID. -/
def createPlan (snapshot : SourcePolicySnapshot) (request : SourceAutomationPlanRequest)
    (token : String) (now : Datetime) : Result SourceAutomationPlan := do
  raiseIf (request.intervalSeconds < 60 ∨ 604800 < request.intervalSeconds)
    ⟨.validationError, "interval_seconds"⟩
  raiseIf (request.requestMethod.toUpper ≠ "GET")
    ⟨.validationError, "automatic acquisition currently supports GET only"⟩
  raiseIf (snapshot.sourceId ≠ request.sourceId)
    ⟨.valueError, "automation source_id does not match policy snapshot"⟩
  raiseIf (snapshot.version ≠ request.policyVersion)
    ⟨.valueError, "automation policy version does not match policy snapshot"⟩
  raiseIf (snapshot.snapshotHash ≠ request.policySnapshotHash)
    ⟨.valueError, "automation policy hash does not match policy snapshot"⟩
  raiseIf (snapshot.policy.accessStatus ≠ .approved)
    ⟨.permissionError, "automatic acquisition requires an approved source policy"⟩
  return {
    planId := "bp_auto_" ++ token
    sourceId := request.sourceId
    policyVersion := request.policyVersion
    policySnapshotHash := request.policySnapshotHash
    requestUrl := request.requestUrl
    requestMethod := request.requestMethod.toUpper
    intervalSeconds := request.intervalSeconds
    nextRunAt := request.startAt.getD now
    enabled := true
    createdAt := now
    updatedAt := now }

/-- The rows in the order of `next_run_at, plan_id`. -/
def dueBefore (a b : SourceAutomationPlan) : Bool :=
  a.nextRunAt.isoformat < b.nextRunAt.isoformat ∨
    a.nextRunAt.isoformat = b.nextRunAt.isoformat ∧ a.planId ≤ b.planId

/-- `due_plans`, where the column `next_run_at` compares as text; a negative limit is none. -/
def duePlans (rows : List SourceAutomationPlan) (evaluatedAt : Datetime) (limit : Int) :
    List SourceAutomationPlan :=
  let due := (rows.filter fun plan => plan.enabled ∧
    plan.nextRunAt.isoformat ≤ evaluatedAt.isoformat).insertionSort fun a b => dueBefore a b
  if limit < 0 then due else due.take limit.toNat

/-- `defer` -/
def deferPlan (rows : List SourceAutomationPlan) (planId : String) (nextRunAt now : Datetime) :
    List SourceAutomationPlan :=
  Sql.updateRow (·.planId) planId
    (fun plan => { plan with nextRunAt, updatedAt := now }) rows

/-- `set_enabled` -/
def setEnabled (rows : List SourceAutomationPlan) (planId : String) (enabled : Bool)
    (now : Datetime) : List SourceAutomationPlan :=
  Sql.updateRow (·.planId) planId (fun plan => { plan with enabled, updatedAt := now }) rows

/-- `while next_run <= evaluated_at: next_run += interval` -/
def catchUp (interval : Int) (evaluatedAt : Datetime) : Nat → Datetime → Result Datetime
  | 0, nextRun => .ok nextRun
  | steps + 1, nextRun =>
    if nextRun.instant ≤ evaluatedAt.instant then do
      catchUp interval evaluatedAt steps (← nextRun.add interval)
    else .ok nextRun

/-- The new `next_run_at` of `advance`; the loop makes at most this many steps. -/
def advanced (plan : SourceAutomationPlan) (evaluatedAt : Datetime) : Result Datetime :=
  let interval := timedelta plan.intervalSeconds
  let steps := ((evaluatedAt.instant - plan.nextRunAt.instant) / interval + 1).toNat
  catchUp interval evaluatedAt steps plan.nextRunAt

/-- `f"{plan.plan_id}:{scheduled_for.isoformat()}"` -/
def SourceAutomationPlan.requestKey (plan : SourceAutomationPlan) : String :=
  plan.planId ++ ":" ++ plan.nextRunAt.isoformat

/-- `_existing_reservation` -/
def existingReservation (rows : List SourceRequestReservation) (sourceId requestKey : String) :
    Option SourceRequestReservation :=
  rows.find? fun row => row.sourceId = sourceId ∧ row.requestKey = requestKey ∧ row.attempt = 1

/-- What a path of `_run_plan` hands to `_new_run`. -/
structure RunDraft where
  status : AutomationRunStatus
  reservationId : Option String
  receiptId : Option String
  blockReason : Option ReservationBlockReason
  errorCode : Option String
  deriving DecidableEq

/-- A write of `_run_plan` to the automation store. -/
inductive StoreOp where
  | advance
  | defer (nextRunAt : Datetime)
  | disable
  | addRun (draft : RunDraft)
  deriving DecidableEq

/-- Where a cycle is in `_run_plan`. The first two phases belong to the override of
`ApprovalEnforcingAcquisitionWorker`. -/
inductive Phase where
  | gate
  | authorizing (latest : SourcePolicySnapshot)
  | start
  | lookup (latest : SourcePolicySnapshot) (transport : TransportIdentity)
  | reserving (latest : SourcePolicySnapshot) (transport : TransportIdentity)
  | examining (latest : SourcePolicySnapshot) (transport : TransportIdentity)
      (reservation : SourceRequestReservation)
  | validating (latest : SourcePolicySnapshot) (transport : TransportIdentity)
      (reservation : SourceRequestReservation)
  | executing (reservation : SourceRequestReservation)
  | storing (ops : List StoreOp)
  deriving DecidableEq

/-- A `run_due` call; the head of the queue is the plan it is at. -/
structure Cycle where
  enforcing : Bool
  trusted : Option (List Digest)
  transports : List (String × TransportIdentity)
  evaluatedAt : Datetime
  queue : List SourceAutomationPlan
  startedAt : Datetime
  phase : Phase
  deriving DecidableEq

/-- A call of `transport.send` for a plan at a stored `next_run_at`. -/
structure SlotSend where
  planId : String
  slot : String
  reservationId : String
  deriving DecidableEq

/-- What an enforcing cycle could have read at the moment of its claim. -/
structure ClaimView where
  plan : SourceAutomationPlan
  trusted : Option (List Digest)
  policies : List SourcePolicySnapshot
  approvals : List SourceApprovalRow
  deriving DecidableEq

/-- The stores, the calls in flight, and history: `slotSends` and `claims` are what happened,
`returned` says that no cycle has stopped since a `run_due` last returned. -/
structure AutomationState where
  transport : TransportState
  reservations : List SourceRequestReservation
  approvals : List SourceApprovalRow
  approving : Nat → Option SignedSourceApproval
  plans : List SourceAutomationPlan
  runs : List SourceAutomationRun
  cycles : Nat → Option Cycle
  slotSends : List SlotSend
  claims : List ClaimView
  returned : Bool

inductive ExecutorStep where
  | claim
  | send (responds : Bool)
  | capture (receiptId : Option String)
  | finish (completedAt : Datetime)
  deriving DecidableEq

/-- A step of the `execute` call that belongs to a cycle. -/
def ExecutorStep.action (step : ExecutorStep) (cycle : Nat) : TransportAction :=
  match step with
  | .claim => .claim cycle
  | .send responds => .send cycle responds
  | .capture receiptId => .capture cycle receiptId
  | .finish completedAt => .finish cycle completedAt

inductive AutomationAction where
  | appendPolicy (policy : SourcePolicy) (snapshotId : String) (storedAt : Datetime)
  | approve (call : Nat) (trusted : Option (List Digest)) (event : SignedSourceApproval)
  | approveCommit (call : Nat) (storedAt : Datetime)
  | createPlan (snapshot : SourcePolicySnapshot) (request : SourceAutomationPlanRequest)
      (token : String) (now : Datetime)
  | setEnabled (planId : String) (enabled : Bool) (now : Datetime)
  | runDue (cycle : Nat) (enforcing : Bool) (trusted : Option (List Digest))
      (transports : List (String × TransportIdentity)) (evaluatedAt : Datetime) (limit : Int)
  | gate (cycle : Nat)
  | authorize (cycle : Nat) (now : Datetime)
  | start (cycle : Nat) (now : Datetime)
  | lookup (cycle : Nat)
  | reserve (cycle : Nat) (receipts : List ProvenanceReceipt) (reservationId : String)
  | examine (cycle : Nat)
  | execute (cycle : Nat) (startedAt : Datetime)
  | executor (cycle : Nat) (step : ExecutorStep)
  | collect (cycle : Nat)
  | store (cycle : Nat) (runId : String) (now : Datetime)
  | next (cycle : Nat)
  | finish (cycle : Nat)
  | abort (cycle : Nat)

namespace AutomationState

def initial : AutomationState :=
  ⟨.initial, [], [], fun _ => none, [], [], fun _ => none, [], [], true⟩

def setCycle (s : AutomationState) (cycle : Nat) (next : Option Cycle) : AutomationState :=
  { s with cycles := Function.update s.cycles cycle next }

/-- The cycle and the plan it is at. -/
def current (s : AutomationState) (cycle : Nat) : Option (Cycle × SourceAutomationPlan) :=
  match s.cycles cycle with
  | some c => c.queue.head?.map fun plan => (c, plan)
  | none => none

def setPhase (s : AutomationState) (cycle : Nat) (c : Cycle) (phase : Phase) : AutomationState :=
  s.setCycle cycle (some { c with phase })

end AutomationState

/-- `_blocked_plan` -/
def blockedPlan (status : AutomationRunStatus) (reservationId : Option String) (errorCode : String) :
    Phase := .storing [.disable, .addRun ⟨status, reservationId, none, none, some errorCode⟩]

/-- The plan is bound to the latest snapshot of its source, and that is approved. -/
def SourceAutomationPlan.bound (plan : SourceAutomationPlan) (latest : SourcePolicySnapshot) : Bool :=
  latest.version = plan.policyVersion ∧ latest.snapshotHash = plan.policySnapshotHash ∧
    latest.policy.accessStatus = .approved

def firstPhase (enforcing : Bool) : Phase := if enforcing then .gate else .start

/-- `_run_plan` from its start to `_existing_reservation`. -/
def startPhase (policies : List SourcePolicySnapshot) (transports : List (String × TransportIdentity))
    (plan : SourceAutomationPlan) : Phase :=
  match latestPolicy policies plan.sourceId with
  | .error _ => blockedPlan .policyBlocked none "policy_missing"
  | .ok latest =>
    if plan.bound latest then
      match transports.find? fun entry => entry.1 = plan.sourceId with
      | none => blockedPlan .noTransport none "transport_not_registered"
      | some (_, transport) => .lookup latest transport
    else blockedPlan .policyBlocked none "policy_changed_or_unapproved"

/-- The request that `_run_plan` reserves. -/
def SourceAutomationPlan.reservationRequest (plan : SourceAutomationPlan)
    (latest : SourcePolicySnapshot) : SourceReservationRequest where
  policyVersion := latest.version
  policySnapshotHash := latest.snapshotHash
  requestKey := plan.requestKey
  requestUrl := plan.requestUrl
  requestMethod := plan.requestMethod
  attempt := 1

/-- `_run_plan` on a decision that grants nothing. -/
def deferredPlan (decision : ReservationDecision) : Phase :=
  let run := StoreOp.addRun ⟨.deferred, none, none, decision.reason, none⟩
  match decision.nextAllowedAt with
  | some nextAllowed => .storing [.defer nextAllowed, run]
  | none => .storing [.advance, run]

/-- `_run_plan` on an execution that is already there. -/
def recordedPlan (execution : TransportExecutionRecord) : Phase :=
  match execution.status with
  | .completed =>
    .storing [.advance, .addRun ⟨.completed, some execution.reservationId, execution.receiptId, none, none⟩]
  | .claimed => blockedPlan .ambiguousExecution (some execution.reservationId) "reservation_already_claimed"
  | status => .storing [.advance, .addRun ⟨.failed, some execution.reservationId, none, none,
      some (execution.errorCode.getD status.text)⟩]

/-- `_new_run` -/
def newRun (c : Cycle) (plan : SourceAutomationPlan) (draft : RunDraft) (runId : String)
    (now : Datetime) : SourceAutomationRun where
  runId := runId
  planId := plan.planId
  sourceId := plan.sourceId
  scheduledFor := plan.nextRunAt
  status := draft.status
  startedAt := c.startedAt
  completedAt := now
  reservationId := draft.reservationId
  receiptId := draft.receiptId
  blockReason := draft.blockReason
  errorCode := draft.errorCode

/-- One write to the automation store, or the error that ends the cycle. -/
def applyOp (plans : List SourceAutomationPlan) (runs : List SourceAutomationRun) (c : Cycle)
    (plan : SourceAutomationPlan) (runId : String) (now : Datetime) :
    StoreOp → Result (List SourceAutomationPlan × List SourceAutomationRun)
  | .advance => do return (deferPlan plans plan.planId (← advanced plan c.evaluatedAt) now, runs)
  | .defer nextRunAt => .ok (deferPlan plans plan.planId nextRunAt now, runs)
  | .disable => .ok (setEnabled plans plan.planId false now, runs)
  | .addRun draft =>
    match Sql.insertRow (·.runId) (newRun c plan draft runId now) runs with
    | none => .error ⟨.integrityError, "UNIQUE constraint failed: source_automation_runs.run_id"⟩
    | some runs => .ok (plans, runs)

section
variable {Key : Type} (sha256 : Bytes → Digest) (ed25519 : Ed25519 Key)
variable (validateSourceRequest : SourcePolicy → String → String → Option RequestPolicyViolation)

/-- A process stops, or an error leaves `run_due`. -/
def AutomationState.stop (s : AutomationState) (cycle : Nat) : AutomationState :=
  { s with
    transport := s.transport.setCall cycle none
    cycles := Function.update s.cycles cycle none
    returned := false }

/-- The history that a step of `execute` adds: what it sends. -/
def ExecutorStep.sends (step : ExecutorStep) (plan : SourceAutomationPlan)
    (reservation : SourceRequestReservation) : List SlotSend :=
  match step with
  | .send _ => [⟨plan.planId, plan.nextRunAt.isoformat, reservation.reservationId⟩]
  | _ => []

/-- The history that a step of `execute` adds: what an enforcing cycle claims. -/
def ExecutorStep.claims (step : ExecutorStep) (s : AutomationState) (c : Cycle)
    (plan : SourceAutomationPlan) (transport : TransportState) : List ClaimView :=
  match step with
  | .claim => if c.enforcing ∧ transport.executions ≠ s.transport.executions then
      [⟨plan, c.trusted, s.transport.policies, s.approvals⟩] else []
  | _ => []

/-- A step that reads the stores and moves the cycle on. -/
def readStep (s : AutomationState) (c : Cycle) (plan : SourceAutomationPlan) :
    AutomationAction → Option Cycle
  | .gate _ =>
    match c.phase, latestPolicy s.transport.policies plan.sourceId with
    | .gate, .ok latest =>
      some { c with phase := if plan.bound latest then .authorizing latest else .start }
    | .gate, .error _ => some { c with phase := .start }
    | _, _ => none
  | .authorize _ now =>
    match c.phase with
    | .authorizing latest =>
      let status := authorization sha256 ed25519 s.transport.policies s.approvals c.trusted latest
      some { c with
        startedAt := now
        phase := if status.authorized then .start
          else blockedPlan .policyBlocked none "source_approval_missing_or_revoked" }
    | _ => none
  | .start _ now =>
    match c.phase with
    | .start => some { c with
        startedAt := now
        phase := startPhase s.transport.policies c.transports plan }
    | _ => none
  | .lookup _ =>
    match c.phase with
    | .lookup latest transport => some { c with
        phase := match existingReservation s.reservations plan.sourceId plan.requestKey with
          | some reservation => .examining latest transport reservation
          | none => .reserving latest transport }
    | _ => none
  | .examine _ =>
    match c.phase with
    | .examining latest transport reservation => some { c with
        phase := match Sql.selectRow (·.reservationId) reservation.reservationId
            s.transport.executions with
          | some execution => recordedPlan execution
          | none => .validating latest transport reservation }
    | _ => none
  | .next _ =>
    match c.phase with
    | .storing [] => some { c with queue := c.queue.tail, phase := firstPhase c.enforcing }
    | _ => none
  | _ => none

/-- The `reserve` call of `_run_plan`; an error leaves `run_due`. -/
def reserveStep (s : AutomationState) (cycle : Nat) (c : Cycle) (plan : SourceAutomationPlan)
    (latest : SourcePolicySnapshot) (transport : TransportIdentity)
    (receipts : List ProvenanceReceipt) (reservationId : String) : AutomationState :=
  match reserveChecks validateSourceRequest latest (plan.reservationRequest latest) receipts
      c.evaluatedAt with
  | .error _ => s.stop cycle
  | .ok (.inl decision) => s.setPhase cycle c (deferredPlan decision)
  | .ok (.inr call) =>
    match reserveTransaction .sqlite s.reservations call reservationId with
    | .error _ => s.stop cycle
    | .ok (decision, rows) =>
      { s with reservations := rows }.setPhase cycle c (match decision.reservation with
        | some reservation => .examining latest transport reservation
        | none => deferredPlan decision)

/-- A step of a cycle that is at a plan. -/
def cycleStep (s : AutomationState) (cycle : Nat) (c : Cycle) (plan : SourceAutomationPlan) :
    AutomationAction → Option AutomationState
  | .reserve _ receipts reservationId =>
    match c.phase with
    | .reserving latest transport => some (reserveStep validateSourceRequest s cycle c plan latest
        transport receipts reservationId)
    | _ => none
  | .execute _ startedAt =>
    match c.phase with
    | .validating latest transport reservation =>
      (transportStep sha256 validateSourceRequest .sqlite s.transport
          (.execute cycle latest reservation transport none startedAt)).map fun transport =>
        { s with transport }.setPhase cycle c (.executing reservation)
    | _ => none
  | .executor _ step =>
    match c.phase with
    | .executing reservation =>
      (transportStep sha256 validateSourceRequest .sqlite s.transport (step.action cycle)).map
        fun transport =>
          { s with
            transport
            slotSends := s.slotSends ++ step.sends plan reservation
            claims := s.claims ++ step.claims s c plan transport }
    | _ => none
  | .collect _ =>
    match c.phase, s.transport.calls cycle with
    | .executing reservation, some (.returned receiptId) =>
      let run := RunDraft.mk .completed (some reservation.reservationId) (some receiptId) none none
      some ({ s with transport := s.transport.setCall cycle none }.setPhase cycle c
        (.storing [.advance, .addRun run]))
    | .executing reservation, some .raised =>
      let run := RunDraft.mk .failed (some reservation.reservationId) none none (some "execution_failed")
      some ({ s with transport := s.transport.setCall cycle none }.setPhase cycle c
        (.storing [.advance, .addRun run]))
    | _, _ => none
  | .store _ runId now =>
    match c.phase with
    | .storing (op :: ops) =>
      match applyOp s.plans s.runs c plan runId now op with
      | .ok (plans, runs) => some ({ s with plans, runs }.setPhase cycle c (.storing ops))
      | .error _ => some (s.stop cycle)
    | _ => none
  | a => (readStep sha256 ed25519 s c plan a).map fun moved => s.setCycle cycle (some moved)

/-- The cycle that a step belongs to. -/
def AutomationAction.cycle : AutomationAction → Option Nat
  | .gate cycle | .authorize cycle _ | .start cycle _ | .lookup cycle | .reserve cycle _ _
  | .examine cycle | .execute cycle _ | .executor cycle _ | .collect cycle | .store cycle _ _
  | .next cycle => some cycle
  | _ => none

/-- A step of another process, or the begin or the end of a cycle. -/
def environmentStep (s : AutomationState) : AutomationAction → Option AutomationState
  | .appendPolicy policy snapshotId storedAt =>
    (appendPolicy sha256 s.transport.policies policy snapshotId storedAt).map fun policies =>
      { s with transport := { s.transport with policies } }
  | .approve call trusted event =>
    match s.approving call, approvalChecks sha256 ed25519 s.transport.policies trusted event with
    | none, .ok () => some { s with approving := Function.update s.approving call (some event) }
    | _, _ => none
  | .approveCommit call storedAt =>
    match s.approving call with
    | some event =>
      let approving := Function.update s.approving call none
      match appendApproval s.approvals event storedAt with
      | .ok approvals => some { s with approvals, approving }
      | .error _ => some { s with approving }
    | none => none
  | .createPlan snapshot request token now =>
    match createPlan snapshot request token now with
    | .ok plan =>
      if snapshot ∈ s.transport.policies ∧ ':' ∉ token.toList then
        (Sql.insertRow (·.planId) plan s.plans).map fun plans => { s with plans }
      else none
    | .error _ => none
  | .setEnabled planId enabled now => some { s with plans := setEnabled s.plans planId enabled now }
  | .runDue cycle enforcing trusted transports evaluatedAt limit =>
    match s.cycles cycle with
    | some _ => none
    | none => some (s.setCycle cycle (some {
        enforcing, trusted, transports, evaluatedAt
        queue := duePlans s.plans evaluatedAt limit
        startedAt := evaluatedAt
        phase := firstPhase enforcing }))
  | .finish cycle =>
    match s.cycles cycle with
    | some c => if c.queue = [] then some { s.setCycle cycle none with returned := true } else none
    | none => none
  | .abort cycle => some (s.stop cycle)
  | _ => none

def automationStep (s : AutomationState) (a : AutomationAction) : Option AutomationState :=
  match a.cycle with
  | none => environmentStep sha256 ed25519 s a
  | some cycle =>
    match s.current cycle with
    | some (c, plan) => cycleStep sha256 ed25519 validateSourceRequest s cycle c plan a
    | none => none

end

end BallotProof
