import BallotProof.Automation

/-! What a step of the automation can do, said once for each kind of step, and what no step
does: rows never leave their tables, and a step touches no other cycle. -/
namespace BallotProof
open Python

namespace AutomationState

theorem current_some {s : AutomationState} : s.current cycle = some (c, plan) ↔
    s.cycles cycle = some c ∧ c.queue.head? = some plan := by
  unfold current
  split
  · rename_i other found
    rw [found]
    simp only [Option.map_eq_some_iff, Prod.mk.injEq, Option.some.injEq]
    constructor
    · rintro ⟨_, head, rfl, rfl⟩
      exact ⟨rfl, head⟩
    · rintro ⟨rfl, head⟩
      exact ⟨plan, head, rfl, rfl⟩
  · rename_i idle
    simp [idle]

end AutomationState

section
variable {Key : Type} (sha256 : Bytes → Digest) (ed25519 : Ed25519 Key)
variable (validate : SourcePolicy → String → String → Option RequestPolicyViolation)

/-- The states that a step leads to, one constructor for each thing that a step can do. -/
inductive Effect (s : AutomationState) : AutomationAction → AutomationState → Prop
  | appended (h : appendPolicy sha256 s.transport.policies policy snapshotId storedAt = some policies) :
    Effect s (.appendPolicy policy snapshotId storedAt)
      { s with transport := { s.transport with policies } }
  | approving (checked : approvalChecks sha256 ed25519 s.transport.policies trusted event = .ok ()) :
    Effect s (.approve call trusted event)
      { s with approving := Function.update s.approving call (some event) }
  | approved (found : s.approving call = some event)
      (h : appendApproval s.approvals event storedAt = .ok approvals) :
    Effect s (.approveCommit call storedAt)
      { s with approvals, approving := Function.update s.approving call none }
  | refused (found : s.approving call = some event) : Effect s (.approveCommit call storedAt)
      { s with approving := Function.update s.approving call none }
  | planned (h : createPlan snapshot request token now = .ok plan)
      (stored : snapshot ∈ s.transport.policies) (plain : ':' ∉ token.toList)
      (fresh : plan.planId ∉ s.plans.map (·.planId)) :
    Effect s (.createPlan snapshot request token now) { s with plans := s.plans ++ [plan] }
  | enabled : Effect s (.setEnabled planId enabled now)
      { s with plans := setEnabled s.plans planId enabled now }
  | begun (idle : s.cycles cycle = none) :
    Effect s (.runDue cycle enforcing trusted transports evaluatedAt limit)
      (s.setCycle cycle (some ⟨enforcing, trusted, transports, evaluatedAt,
        duePlans s.plans evaluatedAt limit, evaluatedAt, firstPhase enforcing⟩))
  | ended (found : s.cycles cycle = some c) (done : c.queue = []) :
    Effect s (.finish cycle) { s.setCycle cycle none with returned := true }
  | aborted : Effect s (.abort cycle) (s.stop cycle)
  | read (at_plan : s.current cycle = some (c, plan)) (mine : a.cycle = some cycle)
      (h : readStep sha256 ed25519 s c plan a = some next) :
    Effect s a (s.setCycle cycle (some next))
  | reserveFailed (at_plan : s.current cycle = some (c, plan))
      (phase : c.phase = .reserving latest transport) :
    Effect s (.reserve cycle receipts reservationId) (s.stop cycle)
  | declined (at_plan : s.current cycle = some (c, plan)) (phase : c.phase = .reserving latest transport)
      (later : ∀ time, decision.nextAllowedAt = some time → c.evaluatedAt.instant < time.instant) :
    Effect s (.reserve cycle receipts reservationId) (s.setPhase cycle c (deferredPlan decision))
  | reserved (at_plan : s.current cycle = some (c, plan)) (phase : c.phase = .reserving latest transport)
      (fresh : FreshReservation s.reservations reservation)
      (source : reservation.sourceId = latest.policy.sourceId)
      (key : reservation.requestKey = plan.requestKey) (attempt : reservation.attempt = 1) :
    Effect s (.reserve cycle receipts reservationId)
      ({ s with reservations := s.reservations ++ [reservation] }.setPhase cycle c
        (.examining latest transport reservation))
  | executes (at_plan : s.current cycle = some (c, plan))
      (phase : c.phase = .validating latest identity reservation)
      (h : transportStep sha256 validate .sqlite s.transport
        (.execute cycle latest reservation identity none startedAt) = some transport) :
    Effect s (.execute cycle startedAt) ({ s with transport }.setPhase cycle c (.executing reservation))
  | executor (at_plan : s.current cycle = some (c, plan)) (phase : c.phase = .executing reservation)
      (h : transportStep sha256 validate .sqlite s.transport (step.action cycle) = some transport) :
    Effect s (.executor cycle step) { s with
      transport
      slotSends := s.slotSends ++ step.sends plan reservation
      claims := s.claims ++ step.claims s c plan transport }
  | collected (at_plan : s.current cycle = some (c, plan)) (phase : c.phase = .executing reservation)
      (call : s.transport.calls cycle = some (.returned receiptId)) :
    Effect s (.collect cycle) ({ s with transport := s.transport.setCall cycle none }.setPhase cycle c
      (.storing [.advance,
        .addRun ⟨.completed, some reservation.reservationId, some receiptId, none, none⟩]))
  | failed (at_plan : s.current cycle = some (c, plan)) (phase : c.phase = .executing reservation)
      (call : s.transport.calls cycle = some .raised) :
    Effect s (.collect cycle) ({ s with transport := s.transport.setCall cycle none }.setPhase cycle c
      (.storing [.advance,
        .addRun ⟨.failed, some reservation.reservationId, none, none, some "execution_failed"⟩]))
  | stored (at_plan : s.current cycle = some (c, plan)) (phase : c.phase = .storing (op :: ops))
      (h : applyOp s.plans s.runs c plan runId now op = .ok (plans, runs)) :
    Effect s (.store cycle runId now) ({ s with plans, runs }.setPhase cycle c (.storing ops))
  | storeFailed (at_plan : s.current cycle = some (c, plan)) (phase : c.phase = .storing (op :: ops))
      (h : applyOp s.plans s.runs c plan runId now op = .error error) :
    Effect s (.store cycle runId now) (s.stop cycle)

end

/-- A `reserve` call of a cycle stops it, defers its plan, or gives it a fresh reservation. -/
theorem reserveStep_effect (at_plan : s.current cycle = some (c, plan))
    (phase : c.phase = .reserving latest transport) :
    Effect sha256 ed25519 validate s (.reserve cycle receipts reservationId)
      (reserveStep validate s cycle c plan latest transport receipts reservationId) := by
  unfold reserveStep
  split
  · exact .reserveFailed at_plan phase
  · rename_i decision refused
    refine .declined at_plan phase fun time same => ?_
    rw [reserveChecks_refused refused] at same
    cases same
  · rename_i call checked
    obtain ⟨now, snapshot, request⟩ := reserveChecks_call checked
    split
    · exact .reserveFailed at_plan phase
    · rename_i decision rows done
      rcases reserveTransaction_decision done with ⟨rfl, none, later⟩ | ⟨rfl, granted, fresh⟩
      · rw [none]
        rw [now] at later
        exact .declined at_plan phase later
      · rw [granted]
        refine .reserved at_plan phase fresh ?_ ?_ ?_
        · rw [ReserveCall.reservation, snapshot]
        · rw [ReserveCall.reservation, request]
          rfl
        · rw [ReserveCall.reservation, request]
          rfl

/-- The steps of a cycle at a plan. -/
theorem cycleStep_effect (at_plan : s.current cycle = some (c, plan)) (mine : a.cycle = some cycle)
    (h : cycleStep sha256 ed25519 validate s cycle c plan a = some t) :
    Effect sha256 ed25519 validate s a t := by
  have reads {a} (mine : AutomationAction.cycle a = some cycle)
      (h : (readStep sha256 ed25519 s c plan a).map (fun moved => s.setCycle cycle (some moved)) = some t) :
      Effect sha256 ed25519 validate s a t := by
    obtain ⟨next, moved, rfl⟩ := Option.map_eq_some_iff.mp h
    exact .read at_plan mine moved
  cases a with
  | reserve k receipts reservationId =>
    cases mine
    simp only [cycleStep] at h
    split at h
    · rename_i latest transport phase
      cases h
      exact reserveStep_effect at_plan phase
    · cases h
  | execute k startedAt =>
    cases mine
    simp only [cycleStep] at h
    split at h
    · rename_i latest identity reservation phase
      obtain ⟨transport, stepped, rfl⟩ := Option.map_eq_some_iff.mp h
      exact .executes at_plan phase stepped
    · cases h
  | executor k step =>
    cases mine
    simp only [cycleStep] at h
    split at h
    · rename_i reservation phase
      obtain ⟨transport, stepped, rfl⟩ := Option.map_eq_some_iff.mp h
      exact .executor at_plan phase stepped
    · cases h
  | collect k =>
    cases mine
    simp only [cycleStep] at h
    split at h
    · rename_i reservation receiptId phase call
      cases h
      exact .collected at_plan phase call
    · rename_i reservation phase call
      cases h
      exact .failed at_plan phase call
    · cases h
  | store k runId now =>
    cases mine
    simp only [cycleStep] at h
    split at h
    · rename_i op ops phase
      split at h
      · rename_i plans runs done
        cases h
        exact .stored at_plan phase done
      · rename_i error raised
        cases h
        exact .storeFailed at_plan phase raised
    · cases h
  | gate | authorize | start | lookup | examine | next => exact reads mine h
  | _ => cases mine

/-- The steps of other processes, and the begin and the end of a cycle. -/
theorem environmentStep_effect (h : environmentStep sha256 ed25519 s a = some t) :
    Effect sha256 ed25519 validate s a t := by
  cases a with
  | appendPolicy policy snapshotId storedAt =>
    obtain ⟨policies, appended, rfl⟩ := Option.map_eq_some_iff.mp h
    exact .appended appended
  | approve call trusted event =>
    simp only [environmentStep] at h
    split at h
    · rename_i checked
      cases h
      exact .approving checked
    · cases h
  | approveCommit call storedAt =>
    simp only [environmentStep] at h
    split at h
    · rename_i event found
      split at h
      · rename_i approvals appended
        cases h
        exact .approved found appended
      · cases h
        exact .refused found
    · cases h
  | createPlan snapshot request token now =>
    simp only [environmentStep] at h
    split at h
    · rename_i plan created
      split at h
      · rename_i allowed
        obtain ⟨plans, inserted, rfl⟩ := Option.map_eq_some_iff.mp h
        obtain ⟨fresh, rfl⟩ := Sql.insertRow_some.mp inserted
        exact .planned created allowed.1 allowed.2 fresh
      · cases h
    · cases h
  | setEnabled planId enabled now =>
    cases h
    exact .enabled
  | runDue cycle enforcing trusted transports evaluatedAt limit =>
    simp only [environmentStep] at h
    split at h
    · cases h
    · rename_i idle
      cases h
      exact .begun idle
  | finish cycle =>
    simp only [environmentStep] at h
    split at h
    · rename_i c found
      split at h
      · rename_i done
        cases h
        exact .ended found done
      · cases h
    · cases h
  | abort cycle =>
    cases h
    exact .aborted
  | _ => cases h

theorem automationStep_effect (h : automationStep sha256 ed25519 validate s a = some t) :
    Effect sha256 ed25519 validate s a t := by
  unfold automationStep at h
  split at h
  · exact environmentStep_effect h
  · rename_i cycle mine
    split at h
    · rename_i c plan at_plan
      exact cycleStep_effect at_plan mine h
    · cases h

/-- Only the schedule of a plan ever changes. -/
def SourceAutomationPlan.Rescheduled (plan later : SourceAutomationPlan) : Prop :=
  later = { plan with
    nextRunAt := later.nextRunAt
    enabled := later.enabled
    updatedAt := later.updatedAt }

namespace SourceAutomationPlan.Rescheduled

theorem refl (plan : SourceAutomationPlan) : plan.Rescheduled plan := rfl

theorem trans {a b c : SourceAutomationPlan} (first : a.Rescheduled b) (second : b.Rescheduled c) :
    a.Rescheduled c := by
  unfold Rescheduled at first second ⊢
  rw [first] at second
  exact second

theorem planId {a b : SourceAutomationPlan} (h : a.Rescheduled b) : b.planId = a.planId := by rw [h]

theorem sourceId {a b : SourceAutomationPlan} (h : a.Rescheduled b) : b.sourceId = a.sourceId := by
  rw [h]

end SourceAutomationPlan.Rescheduled

/-- Rows stay in their tables, and plans keep all but their schedule. -/
structure AutomationState.Later (s t : AutomationState) : Prop where
  policies : s.transport.policies <+: t.transport.policies
  approvals : s.approvals <+: t.approvals
  reservations : s.reservations <+: t.reservations
  plans : ∀ row ∈ s.plans, ∃ later ∈ t.plans, row.Rescheduled later

theorem AutomationState.Later.of_eq {s t : AutomationState}
    (policies : t.transport.policies = s.transport.policies) (approvals : t.approvals = s.approvals)
    (reservations : t.reservations = s.reservations) (plans : t.plans = s.plans) : s.Later t := by
  refine ⟨?_, ?_, ?_, fun row member => ⟨row, ?_, .refl row⟩⟩
  · rw [policies]
  · rw [approvals]
  · rw [reservations]
  · rw [plans]
    exact member

theorem rescheduled_updateRow {plans : List SourceAutomationPlan} {row : SourceAutomationPlan}
    {change : SourceAutomationPlan → SourceAutomationPlan}
    (kept : ∀ row : SourceAutomationPlan, row.Rescheduled (change row))
    (member : row ∈ plans) : ∃ later ∈ Sql.updateRow (·.planId) planId change plans, row.Rescheduled later := by
  by_cases same : row.planId = planId
  · exact ⟨change row, List.mem_map.mpr ⟨row, member, if_pos same⟩, kept row⟩
  · exact ⟨row, List.mem_map.mpr ⟨row, member, if_neg same⟩, .refl row⟩

/-- A write to the automation store keeps every plan but its schedule. -/
theorem applyOp_plans {row : SourceAutomationPlan}
    (h : applyOp plans runs c plan runId now op = .ok (after, runs'))
    (member : row ∈ plans) : ∃ later ∈ after, row.Rescheduled later := by
  cases op with
  | advance =>
    obtain ⟨next, -, h⟩ := bind_ok h
    cases h
    exact rescheduled_updateRow (fun _ => rfl) member
  | defer nextRunAt =>
    cases h
    exact rescheduled_updateRow (fun _ => rfl) member
  | disable =>
    cases h
    exact rescheduled_updateRow (fun _ => rfl) member
  | addRun draft =>
    simp only [applyOp] at h
    split at h
    · cases h
    · cases h
      exact ⟨row, member, .refl row⟩

theorem appendPolicy_grown (h : appendPolicy sha256 rows policy snapshotId storedAt = some after) :
    rows <+: after := by
  obtain ⟨snapshot, rfl, -⟩ := appendPolicy_some h
  exact List.prefix_append _ _

theorem appendApproval_row (h : appendApproval rows event storedAt = .ok after) :
    after = rows ++ [nextApprovalRow rows event storedAt] := by
  obtain ⟨_, -, h⟩ := bind_ok h
  obtain ⟨_, -, h⟩ := bind_ok h
  obtain ⟨_, -, h⟩ := bind_ok h
  cases h
  rfl

theorem executor_call (step : ExecutorStep) (cycle : Nat) : (step.action cycle).call = some cycle := by
  cases step <;> rfl

theorem executor_begins (step : ExecutorStep) :
    step.action cycle ≠ .execute k snapshot reservation transport maxBytes startedAt := by
  cases step <;> exact TransportAction.noConfusion

theorem Effect.later (effect : Effect sha256 ed25519 validate s a t) : s.Later t := by
  cases effect with
  | appended h =>
    exact ⟨appendPolicy_grown h, List.prefix_refl _, List.prefix_refl _,
      fun row member => ⟨row, member, .refl row⟩⟩
  | approved found h =>
    rw [appendApproval_row h]
    exact ⟨List.prefix_refl _, List.prefix_append _ _, List.prefix_refl _,
      fun row member => ⟨row, member, .refl row⟩⟩
  | planned =>
    exact ⟨List.prefix_refl _, List.prefix_refl _, List.prefix_refl _,
      fun row member => ⟨row, List.mem_append_left _ member, .refl row⟩⟩
  | enabled =>
    exact ⟨List.prefix_refl _, List.prefix_refl _, List.prefix_refl _,
      fun row member => rescheduled_updateRow (fun _ => rfl) member⟩
  | reserved =>
    exact ⟨List.prefix_refl _, List.prefix_refl _, List.prefix_append _ _,
      fun row member => ⟨row, member, .refl row⟩⟩
  | executes at_plan phase h => exact .of_eq (transportStep_frame rfl h).1 rfl rfl rfl
  | executor at_plan phase h => exact .of_eq (transportStep_frame (executor_call _ _) h).1 rfl rfl rfl
  | stored at_plan phase h =>
    exact ⟨List.prefix_refl _, List.prefix_refl _, List.prefix_refl _,
      fun row member => applyOp_plans h member⟩
  | _ => exact .of_eq rfl rfl rfl rfl

/-- The cycle that a step begins, moves or ends. -/
def AutomationAction.owner : AutomationAction → Option Nat
  | .runDue cycle _ _ _ _ _ | .finish cycle | .abort cycle => some cycle
  | a => a.cycle

theorem AutomationAction.owner_of_cycle {a : AutomationAction} (mine : a.cycle = some own) :
    a.owner = some own := by
  cases a <;> first | exact mine | cases mine

/-- A step touches no cycle but its own. -/
theorem Effect.frame (effect : Effect sha256 ed25519 validate s a t) (other : a.owner ≠ some cycle) :
    t.cycles cycle = s.cycles cycle ∧ t.transport.calls cycle = s.transport.calls cycle := by
  have moved {mine : Nat} (different : some mine ≠ some cycle) {α : Type} (f : Nat → α) (v : α) :
      Function.update f mine v cycle = f cycle :=
    Function.update_of_ne (fun same => different (congrArg some same.symm)) v f
  cases effect with
  | begun => exact ⟨moved other _ _, rfl⟩
  | ended => exact ⟨moved other _ _, rfl⟩
  | aborted => exact ⟨moved other _ _, moved other _ _⟩
  | read at_plan mine h =>
    rw [AutomationAction.owner_of_cycle mine] at other
    exact ⟨moved other _ _, rfl⟩
  | reserveFailed => exact ⟨moved other _ _, moved other _ _⟩
  | declined => exact ⟨moved other _ _, rfl⟩
  | reserved => exact ⟨moved other _ _, rfl⟩
  | executes at_plan phase h =>
    exact ⟨moved other _ _, (transportStep_frame rfl h).2 cycle fun same => other (congrArg some same.symm)⟩
  | executor at_plan phase h =>
    exact ⟨rfl, (transportStep_frame (executor_call _ _) h).2 cycle fun same => other (congrArg some same.symm)⟩
  | collected => exact ⟨moved other _ _, moved other _ _⟩
  | failed => exact ⟨moved other _ _, moved other _ _⟩
  | stored => exact ⟨moved other _ _, rfl⟩
  | storeFailed => exact ⟨moved other _ _, moved other _ _⟩
  | _ => exact ⟨rfl, rfl⟩

end BallotProof
