import BallotProof.AutomationSteps

/-! A schedule slot is sent at most once. A cycle that is about to execute holds the one
reservation with the slot's request key, and a reservation is claimed once. -/
namespace BallotProof
open Python

/-- The reservation is the first attempt for the plan's slot. -/
structure SourceRequestReservation.ForSlot (reservation : SourceRequestReservation)
    (plan : SourceAutomationPlan) : Prop where
  source : reservation.sourceId = plan.sourceId
  key : reservation.requestKey = plan.requestKey
  attempt : reservation.attempt = 1

/-- What a cycle at a plan has found out by its phase. -/
def Phase.Knows (reservations : List SourceRequestReservation) (plan : SourceAutomationPlan) :
    Phase → Prop
  | .lookup latest _ | .reserving latest _ => latest.policy.sourceId = plan.sourceId
  | .examining _ _ reservation | .validating _ _ reservation | .executing reservation =>
    reservation ∈ reservations ∧ reservation.ForSlot plan
  | _ => True

/-- A cycle works on stored plans, and its `execute` call on the reservation of its phase. -/
structure Owned (s : AutomationState) (cycle : Nat) : Prop where
  queued : ∀ c, s.cycles cycle = some c → ∀ plan ∈ c.queue, ∃ row ∈ s.plans, plan.Rescheduled row
  knows : ∀ c plan, s.current cycle = some (c, plan) → c.phase.Knows s.reservations plan
  call : ∀ call, s.transport.calls cycle = some call → ∃ c plan reservation,
    s.current cycle = some (c, plan) ∧ c.phase = .executing reservation ∧ call.serves reservation

/-- The stores keep their constraints, and every cycle its bookkeeping. -/
structure Wired (s : AutomationState) : Prop where
  policies : ∀ row ∈ s.transport.policies, row.policy.sourceId = row.sourceId
  plans : Sql.Unique (·.planId) s.plans
  ids : Sql.Unique (·.reservationId) s.reservations
  keys : Sql.Unique (fun row => (row.sourceId, row.requestKey, row.attempt)) s.reservations
  owned : ∀ cycle, Owned s cycle

theorem Phase.Knows.later {phase : Phase} (knows : phase.Knows rows plan) (grown : rows <+: after) :
    phase.Knows after plan := by
  cases phase with
  | examining | validating | executing => exact ⟨grown.subset knows.1, knows.2⟩
  | lookup | reserving => exact knows
  | _ => trivial

/-- A cycle that a step does not touch keeps its bookkeeping. -/
theorem Owned.frame (owned : Owned s cycle) (later : s.Later t) (same : t.cycles cycle = s.cycles cycle)
    (calls : t.transport.calls cycle = s.transport.calls cycle) : Owned t cycle := by
  have current : t.current cycle = s.current cycle := by
    unfold AutomationState.current
    rw [same]
  refine ⟨fun c found plan queued => ?_, fun c plan at_plan => ?_, fun call found => ?_⟩
  · rw [same] at found
    obtain ⟨row, member, kept⟩ := owned.queued c found plan queued
    obtain ⟨after, stored, kept'⟩ := later.plans row member
    exact ⟨after, stored, kept.trans kept'⟩
  · rw [current] at at_plan
    exact (owned.knows c plan at_plan).later later.reservations
  · rw [calls] at found
    rw [current]
    exact owned.call call found

/-- A cycle that has ended. -/
theorem Owned.idle (idle : s.cycles cycle = none) (calls : s.transport.calls cycle = none) :
    Owned s cycle := by
  refine ⟨fun c found => ?_, fun c plan at_plan => ?_, fun call found => ?_⟩
  · rw [idle] at found
    cases found
  · have found := (AutomationState.current_some.mp at_plan).1
    rw [idle] at found
    cases found
  · rw [calls] at found
    cases found

/-- A cycle that has moved on within its queue, with no call in flight. -/
theorem Owned.moved (later : s.Later t) (owned : Owned s cycle) (before : s.cycles cycle = some c)
    (after : t.cycles cycle = some next) (queue : ∀ plan ∈ next.queue, plan ∈ c.queue)
    (knows : ∀ plan, next.queue.head? = some plan → next.phase.Knows t.reservations plan)
    (calls : t.transport.calls cycle = none) : Owned t cycle := by
  refine ⟨fun found same plan queued => ?_, fun found plan at_plan => ?_, fun call found => ?_⟩
  · rw [after] at same
    cases same
    obtain ⟨row, member, kept⟩ := owned.queued c before plan (queue plan queued)
    obtain ⟨last, stored, kept'⟩ := later.plans row member
    exact ⟨last, stored, kept.trans kept'⟩
  · obtain ⟨same, head⟩ := AutomationState.current_some.mp at_plan
    rw [after] at same
    cases same
    exact knows plan head
  · rw [calls] at found
    cases found

/-- Outside the phase of an execution no call is in flight. -/
theorem Owned.calls_none (owned : Owned s cycle) (at_plan : s.current cycle = some (c, plan))
    (quiet : ∀ reservation, c.phase ≠ .executing reservation) : s.transport.calls cycle = none := by
  cases found : s.transport.calls cycle with
  | none => rfl
  | some call =>
    obtain ⟨_, _, reservation, same, phase, -⟩ := owned.call call found
    rw [at_plan] at same
    cases same
    exact absurd phase (quiet reservation)

theorem existingReservation_some
    (h : existingReservation rows (SourceAutomationPlan.sourceId plan) plan.requestKey = some reservation) :
    reservation ∈ rows ∧ reservation.ForSlot plan := by
  have found := List.find?_some h
  simp only [decide_eq_true_eq] at found
  exact ⟨List.mem_of_find?_eq_some h, found.1, found.2.1, found.2.2⟩

/-- A plan that passes the checks of its start goes on with the latest snapshot. -/
theorem startPhase_cases (policies : List SourcePolicySnapshot)
    (transports : List (String × TransportIdentity)) (plan : SourceAutomationPlan) :
    (∃ status code, startPhase policies transports plan = blockedPlan status none code ∧
      status ≠ .completed) ∨
      ∃ latest transport, startPhase policies transports plan = .lookup latest transport ∧
        latestPolicy policies plan.sourceId = .ok latest ∧ plan.bound latest = true := by
  unfold startPhase
  split
  · exact .inl ⟨_, _, rfl, by simp⟩
  · rename_i latest found
    split
    · rename_i bound
      split
      · exact .inl ⟨_, _, rfl, by simp⟩
      · rename_i source transport registered
        exact .inr ⟨latest, transport, rfl, found, bound⟩
    · exact .inl ⟨_, _, rfl, by simp⟩

theorem recordedPlan_storing (execution : TransportExecutionRecord) :
    ∃ ops, recordedPlan execution = .storing ops := by
  unfold recordedPlan
  split <;> exact ⟨_, rfl⟩

theorem deferredPlan_storing (decision : ReservationDecision) :
    ∃ ops, deferredPlan decision = .storing ops := by
  unfold deferredPlan
  cases decision.nextAllowedAt <;> exact ⟨_, rfl⟩

/-- A read moves a cycle within its queue to a phase that knows what has been read. -/
theorem readStep_knows (policies : ∀ row ∈ s.transport.policies, row.policy.sourceId = row.sourceId)
    (at_plan : s.current cycle = some (c, plan)) (knows : c.phase.Knows s.reservations plan)
    (h : readStep sha256 ed25519 s c plan a = some next) :
    (∀ reservation, c.phase ≠ .executing reservation) ∧ (∀ other ∈ next.queue, other ∈ c.queue) ∧
      ∀ other, next.queue.head? = some other → next.phase.Knows s.reservations other := by
  have head := (AutomationState.current_some.mp at_plan).2
  cases a with
  | gate k =>
    simp only [readStep] at h
    split at h
    · rename_i phase found
      cases h
      refine ⟨by simp [phase], fun _ member => member, fun _ _ => ?_⟩
      simp only
      split <;> trivial
    · rename_i phase found
      cases h
      exact ⟨by simp [phase], fun _ member => member, fun _ _ => trivial⟩
    · cases h
  | authorize k now =>
    simp only [readStep] at h
    split at h
    · rename_i latest phase
      cases h
      refine ⟨by simp [phase], fun _ member => member, fun _ _ => ?_⟩
      simp only
      split <;> trivial
    · cases h
  | start k now =>
    simp only [readStep] at h
    split at h
    · rename_i phase
      cases h
      refine ⟨by simp [phase], fun _ member => member, fun other same => ?_⟩
      rw [head] at same
      cases same
      rcases startPhase_cases s.transport.policies c.transports plan with
        ⟨_, _, blocked, -⟩ | ⟨latest, transport, started, found, -⟩
      · simp only [blocked]
        trivial
      · obtain ⟨member, source⟩ := mem_of_latestPolicy found
        simp only [started]
        exact (policies latest member).trans source
    · cases h
  | lookup k =>
    simp only [readStep] at h
    split at h
    · rename_i latest transport phase
      cases h
      refine ⟨by simp [phase], fun _ member => member, fun other same => ?_⟩
      rw [head] at same
      cases same
      simp only
      split
      · rename_i reservation existing
        exact existingReservation_some existing
      · rw [phase] at knows
        exact knows
    · cases h
  | examine k =>
    simp only [readStep] at h
    split at h
    · rename_i latest transport reservation phase
      cases h
      refine ⟨by simp [phase], fun _ member => member, fun other same => ?_⟩
      rw [head] at same
      cases same
      simp only
      split
      · rename_i execution found
        obtain ⟨ops, recorded⟩ := recordedPlan_storing execution
        rw [recorded]
        trivial
      · rw [phase] at knows
        exact knows
    · cases h
  | next k =>
    simp only [readStep] at h
    split at h
    · rename_i phase
      cases h
      refine ⟨by simp [phase], fun _ member => List.mem_of_mem_tail member, fun _ _ => ?_⟩
      simp only [firstPhase]
      split <;> trivial
    · cases h
  | _ => cases h

theorem mem_duePlans (h : plan ∈ duePlans rows evaluatedAt limit) : plan ∈ rows ∧ plan.enabled = true := by
  have due : plan ∈ (rows.filter fun plan => plan.enabled ∧
      plan.nextRunAt.isoformat ≤ evaluatedAt.isoformat).insertionSort fun a b => dueBefore a b := by
    unfold duePlans at h
    split at h
    · exact h
    · exact List.mem_of_mem_take h
  have kept := List.mem_filter.mp ((List.perm_insertionSort _ _).mem_iff.mp due)
  simp only [decide_eq_true_eq] at kept
  exact ⟨kept.1, kept.2.1⟩

/-- No call belongs to a cycle that is at no plan. -/
theorem Owned.calls_idle (owned : Owned s cycle) (idle : s.current cycle = none) :
    s.transport.calls cycle = none := by
  cases found : s.transport.calls cycle with
  | none => rfl
  | some call =>
    obtain ⟨c, plan, _, at_plan, -⟩ := owned.call call found
    rw [idle] at at_plan
    cases at_plan

/-- A step of the `execute` call of a cycle. -/
theorem Owned.executing {mine : TransportAction} {t : AutomationState} (owned : Owned s cycle)
    (at_plan : s.current cycle = some (c, plan))
    (queue : ∀ found, t.cycles cycle = some found → found.queue = c.queue ∧ found.phase = .executing reservation)
    (stays : ∃ found, t.cycles cycle = some found) (later : s.Later t)
    (knows : reservation ∈ s.reservations ∧ reservation.ForSlot plan)
    (call : mine.call = some cycle)
    (begins : ∀ k snapshot own identity maxBytes startedAt,
      mine = .execute k snapshot own identity maxBytes startedAt → own = reservation)
    (serving : ∀ found, s.transport.calls cycle = some found → found.serves reservation)
    (h : transportStep sha256 validate .sqlite s.transport mine = some t.transport) : Owned t cycle := by
  obtain ⟨before, head⟩ := AutomationState.current_some.mp at_plan
  obtain ⟨found, after⟩ := stays
  obtain ⟨same, phase⟩ := queue found after
  refine ⟨fun other set plan queued => ?_, fun other at_row set => ?_, fun made set => ?_⟩
  · rw [after] at set
    cases set
    rw [same] at queued
    obtain ⟨row, member, kept⟩ := owned.queued c before plan queued
    obtain ⟨last, stored, kept'⟩ := later.plans row member
    exact ⟨last, stored, kept.trans kept'⟩
  · obtain ⟨set, first⟩ := AutomationState.current_some.mp set
    rw [after] at set
    cases set
    rw [same, head] at first
    cases first
    rw [phase]
    exact ⟨later.reservations.subset knows.1, knows.2⟩
  · refine ⟨found, plan, reservation, AutomationState.current_some.mpr ⟨after, same ▸ head⟩, phase, ?_⟩
    exact transportStep_serves call begins serving h made set

/-- Every step keeps the bookkeeping of every cycle. -/
theorem Effect.owned (effect : Effect sha256 ed25519 validate s a t)
    (policies : ∀ row ∈ s.transport.policies, row.policy.sourceId = row.sourceId)
    (owned : ∀ cycle, Owned s cycle) (cycle : Nat) : Owned t cycle := by
  by_cases other : a.owner = some cycle
  · have later := effect.later
    -- a new phase in the same place of the queue
    have stays {c : Cycle} {plan} {next} {t : AutomationState} (at_plan : s.current cycle = some (c, plan))
        (later : s.Later t) (set : t.cycles cycle = some { c with phase := next })
        (knows : next.Knows t.reservations plan) (calls : t.transport.calls cycle = none) :
        Owned t cycle := by
      obtain ⟨found, head⟩ := AutomationState.current_some.mp at_plan
      refine .moved later (owned cycle) found set (fun _ member => member) (fun other same => ?_) calls
      rw [head] at same
      cases same
      exact knows
    have stopped : Owned (s.stop cycle) cycle :=
      .idle (Function.update_self _ _ _) (Function.update_self _ _ _)
    cases effect with
    | begun idle =>
      cases other
      have calls : s.transport.calls cycle = none := (owned cycle).calls_idle (by
        unfold AutomationState.current
        rw [idle])
      have set {α : Type} (f : Nat → α) (v : α) : Function.update f cycle v cycle = v :=
        Function.update_self _ _ _
      refine ⟨fun c found plan queued => ?_, fun c plan at_plan => ?_, fun call found => ?_⟩
      · cases (set _ _).symm.trans found
        exact ⟨plan, (mem_duePlans queued).1, .refl plan⟩
      · cases (set _ _).symm.trans (AutomationState.current_some.mp at_plan).1
        simp only [firstPhase]
        split <;> trivial
      · cases calls.symm.trans found
    | ended found done =>
      cases other
      have idle : s.current cycle = none := by
        unfold AutomationState.current
        simp [found, done]
      exact .idle (Function.update_self _ _ _) ((owned cycle).calls_idle idle)
    | aborted =>
      cases other
      exact stopped
    | reserveFailed =>
      cases other
      exact stopped
    | storeFailed =>
      cases other
      exact stopped
    | read at_plan mine h =>
      cases (AutomationAction.owner_of_cycle mine).symm.trans other
      obtain ⟨found, -⟩ := AutomationState.current_some.mp at_plan
      obtain ⟨quiet, queue, knows⟩ := readStep_knows policies at_plan
        ((owned cycle).knows _ _ at_plan) h
      exact .moved later (owned cycle) found (Function.update_self _ _ _) queue knows
        ((owned cycle).calls_none at_plan quiet)
    | declined at_plan phase =>
      cases other
      rename_i decision _
      obtain ⟨ops, deferred⟩ := deferredPlan_storing decision
      refine stays at_plan later (Function.update_self _ _ _) ?_
        ((owned cycle).calls_none at_plan (by simp [phase]))
      rw [deferred]
      trivial
    | reserved at_plan phase fresh source key attempt =>
      cases other
      have knows := (owned cycle).knows _ _ at_plan
      rw [phase] at knows
      exact stays at_plan later (Function.update_self _ _ _)
        ⟨List.mem_append_right _ (List.mem_singleton_self _), source.trans knows, key, attempt⟩
        ((owned cycle).calls_none at_plan (by simp [phase]))
    | executes at_plan phase h =>
      cases other
      have knows := (owned cycle).knows _ _ at_plan
      rw [phase] at knows
      have calls := (owned cycle).calls_none at_plan (by simp [phase])
      have set {α : Type} (f : Nat → α) (v : α) : Function.update f cycle v cycle = v :=
        Function.update_self _ _ _
      refine (owned cycle).executing at_plan (fun found same => ?_) ⟨_, set _ _⟩ later knows
        rfl ?_ ?_ h
      · cases (set _ _).symm.trans same
        exact ⟨rfl, rfl⟩
      · rintro _ _ _ _ _ _ ⟨⟩
        rfl
      · intro found same
        cases calls.symm.trans same
    | executor at_plan phase h =>
      cases other
      have knows := (owned cycle).knows _ _ at_plan
      rw [phase] at knows
      obtain ⟨before, -⟩ := AutomationState.current_some.mp at_plan
      refine (owned cycle).executing at_plan (fun found same => ?_) ⟨_, before⟩ later knows
        (executor_call _ _) ?_ ?_ h
      · cases before.symm.trans same
        exact ⟨rfl, phase⟩
      · intro _ _ _ _ _ _ same
        exact absurd same (executor_begins _)
      · intro call found
        obtain ⟨_, _, _, same, executing, serves⟩ := (owned cycle).call call found
        cases at_plan.symm.trans same
        cases phase.symm.trans executing
        exact serves
    | collected at_plan phase call =>
      cases other
      exact stays at_plan later (Function.update_self _ _ _) trivial (Function.update_self _ _ _)
    | failed at_plan phase call =>
      cases other
      exact stays at_plan later (Function.update_self _ _ _) trivial (Function.update_self _ _ _)
    | stored at_plan phase h =>
      cases other
      exact stays at_plan later (Function.update_self _ _ _) trivial
        ((owned cycle).calls_none at_plan (by simp [phase]))
    | _ => cases other
  · obtain ⟨cycles, calls⟩ := effect.frame other
    exact (owned cycle).frame effect.later cycles calls

theorem appendPolicy_sources (policies : ∀ row ∈ rows, SourcePolicy.sourceId row.policy = row.sourceId)
    (h : appendPolicy sha256 rows policy snapshotId storedAt = some after) :
    ∀ row ∈ after, row.policy.sourceId = row.sourceId := by
  obtain ⟨snapshot, rfl, content, source, -⟩ := appendPolicy_some h
  intro row member
  rcases List.mem_append.mp member with old | new
  · exact policies row old
  · rw [List.mem_singleton.mp new, content, source]

/-- A write to the automation store keeps the plan ids. -/
theorem applyOp_keys (h : applyOp plans runs c plan runId now op = .ok (after, runs')) :
    after.map (·.planId) = plans.map (·.planId) := by
  cases op with
  | advance =>
    obtain ⟨next, -, h⟩ := bind_ok h
    cases h
    exact Sql.updateRow_keys fun _ => rfl
  | defer nextRunAt =>
    cases h
    exact Sql.updateRow_keys fun _ => rfl
  | disable =>
    cases h
    exact Sql.updateRow_keys fun _ => rfl
  | addRun draft =>
    simp only [applyOp] at h
    split at h <;> cases h
    rfl

theorem initial_wired : Wired .initial where
  policies := by simp [AutomationState.initial, TransportState.initial]
  plans := List.nodup_nil
  ids := List.nodup_nil
  keys := List.nodup_nil
  owned := fun _ => .idle rfl rfl

theorem Effect.wired (effect : Effect sha256 ed25519 validate s a t) (wired : Wired s) : Wired t := by
  have owned := effect.owned wired.policies wired.owned
  have same {t : AutomationState} (owned : ∀ cycle, Owned t cycle)
      (policies : t.transport.policies = s.transport.policies) (plans : t.plans = s.plans)
      (reservations : t.reservations = s.reservations) : Wired t := by
    refine ⟨?_, ?_, ?_, ?_, owned⟩
    · rw [policies]
      exact wired.policies
    · rw [plans]
      exact wired.plans
    · rw [reservations]
      exact wired.ids
    · rw [reservations]
      exact wired.keys
  cases effect with
  | appended h =>
    exact ⟨appendPolicy_sources wired.policies h, wired.plans, wired.ids, wired.keys, owned⟩
  | planned h stored plain fresh =>
    exact ⟨wired.policies, wired.plans.snoc fresh, wired.ids, wired.keys, owned⟩
  | enabled =>
    exact ⟨wired.policies, wired.plans.update fun _ => rfl, wired.ids, wired.keys, owned⟩
  | reserved at_plan phase fresh source key attempt =>
    refine ⟨wired.policies, wired.plans, wired.ids.snoc fresh.id, wired.keys.snoc ?_, owned⟩
    intro taken
    obtain ⟨row, member, equal⟩ := List.mem_map.mp taken
    simp only [Prod.mk.injEq] at equal
    exact fresh.key row member equal
  | executes at_plan phase h => exact same owned (transportStep_frame rfl h).1 rfl rfl
  | executor at_plan phase h => exact same owned (transportStep_frame (executor_call _ _) h).1 rfl rfl
  | stored at_plan phase h =>
    refine ⟨wired.policies, ?_, wired.ids, wired.keys, owned⟩
    unfold Sql.Unique
    rw [AutomationState.setPhase, AutomationState.setCycle, applyOp_keys h]
    exact wired.plans
  | _ => exact same owned rfl rfl rfl

/-- The send of a slot used the first-attempt reservation under the slot's request key. -/
structure SlotSend.Reserved (send : SlotSend) (s : AutomationState) (row : SourceAutomationPlan)
    (reservation : SourceRequestReservation) : Prop where
  stored : row ∈ s.plans
  plan : row.planId = send.planId
  reserved : reservation ∈ s.reservations
  id : reservation.reservationId = send.reservationId
  source : reservation.sourceId = row.sourceId
  key : reservation.requestKey = send.planId ++ ":" ++ send.slot
  attempt : reservation.attempt = 1

structure SlotInvariant (s : AutomationState) : Prop where
  wired : Wired s
  oneShot : OneShot s.transport
  sends : s.slotSends.map (·.reservationId) = s.transport.sends.map (·.reservationId)
  slots : ∀ send ∈ s.slotSends, ∃ row reservation, send.Reserved s row reservation

theorem SlotSend.Reserved.later {send : SlotSend} (reserved : send.Reserved s row reservation)
    (later : s.Later t) : ∃ row, send.Reserved t row reservation := by
  obtain ⟨after, stored, kept⟩ := later.plans row reserved.stored
  exact ⟨after, stored, kept.planId.trans reserved.plan, later.reservations.subset reserved.reserved,
    reserved.id, reserved.source.trans kept.sourceId.symm, reserved.key, reserved.attempt⟩

/-- A step that sends nothing keeps the slots. -/
theorem SlotInvariant.quiet (valid : SlotInvariant s) (wired : Wired t) (later : s.Later t)
    (oneShot : OneShot t.transport) (slotSends : t.slotSends = s.slotSends)
    (sends : t.transport.sends = s.transport.sends) : SlotInvariant t := by
  refine ⟨wired, oneShot, ?_, fun send member => ?_⟩
  · rw [slotSends, sends]
    exact valid.sends
  · rw [slotSends] at member
    obtain ⟨row, reservation, reserved⟩ := valid.slots send member
    obtain ⟨after, kept⟩ := reserved.later later
    exact ⟨after, reservation, kept⟩

/-- The send of a cycle is for the slot that its reservation was made for. -/
theorem SlotInvariant.sent (valid : SlotInvariant s) (wired : Wired t) (later : s.Later t)
    (at_plan : s.current cycle = some (c, plan)) (phase : c.phase = .executing reservation)
    (h : transportStep sha256 validate .sqlite s.transport (.send cycle responds) = some t.transport)
    (slotSends : t.slotSends =
      s.slotSends ++ [⟨plan.planId, plan.nextRunAt.isoformat, reservation.reservationId⟩]) :
    SlotInvariant t := by
  obtain ⟨request, call, sends⟩ := transportStep_sends h
  have owned := wired.owned cycle
  obtain ⟨_, _, own, same, executing, serves⟩ := (valid.wired.owned cycle).call _ call
  cases at_plan.symm.trans same
  cases phase.symm.trans executing
  have serves : request.reservationId = reservation.reservationId := serves
  have knows := (valid.wired.owned cycle).knows c plan at_plan
  rw [phase] at knows
  obtain ⟨member, forSlot⟩ := knows
  obtain ⟨found, head⟩ := AutomationState.current_some.mp at_plan
  obtain ⟨row, stored, kept⟩ := (valid.wired.owned cycle).queued c found plan
    (List.mem_of_mem_head? head)
  obtain ⟨after, stored', kept'⟩ := later.plans row stored
  have renamed := kept.trans kept'
  refine ⟨wired, transportStep_oneShot valid.oneShot h, ?_, fun send member' => ?_⟩
  · rw [slotSends, sends, List.map_append, List.map_append, valid.sends, List.map_singleton,
      List.map_singleton, serves]
  · rw [slotSends] at member'
    rcases List.mem_append.mp member' with old | new
    · obtain ⟨row, reservation, reserved⟩ := valid.slots send old
      obtain ⟨after, kept⟩ := reserved.later later
      exact ⟨after, reservation, kept⟩
    · rw [List.mem_singleton.mp new]
      exact ⟨after, reservation, stored', renamed.planId, later.reservations.subset member, rfl,
        forSlot.source.trans renamed.sourceId.symm, forSlot.key, forSlot.attempt⟩

theorem Effect.slots (effect : Effect sha256 ed25519 validate s a t) (valid : SlotInvariant s) :
    SlotInvariant t := by
  have wired := effect.wired valid.wired
  have later := effect.later
  cases effect with
  | executor at_plan phase h =>
    rename_i step
    cases step with
    | send responds => exact valid.sent wired later at_plan phase h rfl
    | claim | capture | finish =>
      exact valid.quiet wired later (transportStep_oneShot valid.oneShot h)
        (List.append_nil _) (transportStep_sends h)
  | executes at_plan phase h =>
    exact valid.quiet wired later (transportStep_oneShot valid.oneShot h) rfl (transportStep_sends h)
  | appended h =>
    exact valid.quiet wired later ⟨valid.oneShot.claimed, valid.oneShot.pending, valid.oneShot.apart,
      valid.oneShot.once⟩ rfl rfl
  | aborted | reserveFailed | collected | failed | storeFailed =>
    exact valid.quiet wired later (valid.oneShot.setCall (by simp)) rfl rfl
  | _ => exact valid.quiet wired later valid.oneShot rfl rfl

theorem initial_slots : SlotInvariant .initial :=
  ⟨initial_wired, initial_oneShot, rfl, by simp [AutomationState.initial]⟩

/-- Sends of one slot used one reservation. -/
theorem SlotInvariant.same_reservation (valid : SlotInvariant s) (left : send ∈ s.slotSends)
    (right : other ∈ s.slotSends) (plan : send.planId = other.planId) (slot : send.slot = other.slot) :
    send.reservationId = other.reservationId := by
  obtain ⟨row, reservation, reserved⟩ := valid.slots send left
  obtain ⟨row', reservation', reserved'⟩ := valid.slots other right
  have rows : row = row' := valid.wired.plans.eq reserved.stored reserved'.stored
    ((reserved.plan.trans plan).trans reserved'.plan.symm)
  have key : (reservation.sourceId, reservation.requestKey, reservation.attempt) =
      (reservation'.sourceId, reservation'.requestKey, reservation'.attempt) := by
    rw [reserved.source, reserved.key, reserved.attempt, reserved'.source, reserved'.key,
      reserved'.attempt, rows, plan, slot]
  have reservations : reservation = reservation' :=
    valid.wired.keys.eq reserved.reserved reserved'.reserved key
  rw [← reserved.id, ← reserved'.id, reservations]

/-- In every run, `transport.send` is called at most once for each slot of each plan. -/
theorem run_sendsSlotOnce {actions : List AutomationAction} {s : AutomationState}
    (reached : Transition.run (automationStep sha256 ed25519 validate) .initial actions = some s)
    (planId slot : String) :
    (s.slotSends.map fun send => (send.planId, send.slot)).count (planId, slot) ≤ 1 := by
  have valid : SlotInvariant s := Transition.run_preserves
    (fun _ _ _ valid step => (automationStep_effect step).slots valid) initial_slots reached
  have once : s.slotSends.Pairwise fun send other => send.reservationId ≠ other.reservationId := by
    have := valid.oneShot.once
    rw [← valid.sends] at this
    exact List.pairwise_map.mp this
  refine List.nodup_iff_count_le_one.mp (List.pairwise_map.mpr (once.imp_of_mem ?_)) _
  intro send other left right different same
  obtain ⟨plan, slot⟩ := Prod.mk.inj same
  exact different (valid.same_reservation left right plan slot)

/-- A checksum of the first bytes, in which the records of the samples differ. -/
def headChecksum (data : Bytes) : Digest := checksum (data.take 80)

/-- A signature scheme whose signature is the begin of such a checksum. -/
def headEd25519 : Ed25519 Unit :=
  ⟨fun _ => List.replicate 32 7, fun _ message => (headChecksum message).bytes.take 3,
    fun _ signature message => signature = (headChecksum message).bytes.take 3⟩

/-- The first snapshot of the sample policy as the store appends it. -/
def firstSnapshot : SourcePolicySnapshot :=
  nextPolicySnapshot headChecksum [] samplePolicy "bp_pol_1" noon

def samplePlanRequest : SourceAutomationPlanRequest :=
  ⟨"iec", 1, firstSnapshot.snapshotHash, "https://results.example/r", "GET", 60, some noon⟩

def sampleRunDue (cycle : Nat) (enforcing : Bool) (trusted : Option (List Digest))
    (evaluatedAt : Datetime) : AutomationAction :=
  .runDue cycle enforcing trusted [("iec", sampleTransport)] evaluatedAt 20

/-- Two workers reach the claim of one slot; the one that claims it stops after its send. -/
def racingWorkers : List AutomationAction := [
  .appendPolicy samplePolicy "bp_pol_1" noon,
  .createPlan firstSnapshot samplePlanRequest "0" noon,
  sampleRunDue 0 false none noon, .start 0 noon, .lookup 0, .reserve 0 [] "r0",
  sampleRunDue 1 false none noon, .start 1 noon, .lookup 1,
  .examine 0, .examine 1, .execute 0 noon, .execute 1 noon,
  .executor 1 .claim, .executor 0 .claim, .executor 1 (.send true), .abort 1,
  .collect 0, .store 0 "run0" noon, .store 0 "run0" noon, .next 0, .finish 0,
  sampleRunDue 2 false none minuteLater, .start 2 minuteLater, .lookup 2, .reserve 2 [] "r1",
  .examine 2, .execute 2 minuteLater, .executor 2 .claim, .executor 2 (.send true)]

theorem racingWorkers_sendsSlotOnce : ∃ s,
    Transition.run (automationStep headChecksum headEd25519 (fun _ _ _ => none)) .initial
      racingWorkers = some s ∧
    s.slotSends.length = 2 ∧
    (s.slotSends.map fun send => (send.planId, send.slot)).count
      ("bp_auto_0", "2026-01-01T12:00:00+00:00") ≤ 1 := by
  obtain ⟨s, reached, two⟩ := @Transition.run_test _ _
    (automationStep headChecksum headEd25519 (fun _ _ _ => none)) .initial racingWorkers
    (fun s => s.slotSends.length = 2) (by decide +kernel)
  exact ⟨s, reached, by simpa using two, run_sendsSlotOnce reached _ _⟩

end BallotProof
