import BallotProof.AutomationSlots

/-! Authorization at the claim of an enforcing cycle. The approval is read before the
reservation and the binding before the claim, each outside the claiming transaction, so a
policy or an approval event that commits in between is not seen. -/
namespace BallotProof
open Python

section
variable {Key : Type} (sha256 : Bytes → Digest) (ed25519 : Ed25519 Key)

/-- The plan's snapshot is the latest of its source, approved, and authorized. -/
def ClaimView.authorized (view : ClaimView) : Bool :=
  match latestPolicy view.policies view.plan.sourceId with
  | .error _ => false
  | .ok latest => view.plan.bound latest ∧
      (authorization sha256 ed25519 view.policies view.approvals view.trusted latest).authorized = true

/-- `execute` has checked the binding of the cycle's plan and has not claimed. -/
def AutomationState.claiming (s : AutomationState) (cycle : Nat) : Bool :=
  match s.transport.calls cycle with
  | some (.claiming _ _ _ _ _) => true
  | _ => false

/-- The phases between the authorization and the begin of `execute`. -/
def Phase.cleared : Phase → Bool
  | .start | .lookup _ _ | .reserving _ _ | .examining _ _ _ | .validating _ _ _ => true
  | _ => false

/-- No policy of its source commits between a binding check and its claim, and no event that
takes the approval of its snapshot away commits between an authorization and its claim. -/
def ClaimsUndisturbed (s : AutomationState) : AutomationAction → Prop
  | .appendPolicy policy _ _ => ∀ cycle c plan, s.current cycle = some (c, plan) →
    c.enforcing = true → s.claiming cycle = true → plan.sourceId ≠ policy.sourceId
  | .approveCommit call _ => ∀ event, s.approving call = some event → ∀ cycle c plan,
    s.current cycle = some (c, plan) → c.enforcing = true →
    c.phase.cleared = true ∨ s.claiming cycle = true →
    event.payload.about plan.sourceId plan.policyVersion plan.policySnapshotHash = true →
    event.grants c.trusted = true
  | _ => True

/-- A plan is authorized as long as its snapshot is the latest. -/
def Authorized (s : AutomationState) (trusted : Option (List Digest)) (plan : SourceAutomationPlan) :
    Prop :=
  ∀ latest, latestPolicy s.transport.policies plan.sourceId = .ok latest → plan.bound latest = true →
    (authorization sha256 ed25519 s.transport.policies s.approvals trusted latest).authorized = true

/-- What an enforcing cycle has checked by its phase. -/
def Phase.Checked (s : AutomationState) (c : Cycle) (plan : SourceAutomationPlan) : Phase → Prop
  | .authorizing latest =>
    latest ∈ s.transport.policies ∧ latest.sourceId = plan.sourceId ∧ plan.bound latest = true
  | .start => c.enforcing = true → Authorized sha256 ed25519 s c.trusted plan
  | .lookup latest _ | .reserving latest _ | .examining latest _ _ | .validating latest _ _ =>
    plan.bound latest = true ∧ (c.enforcing = true → Authorized sha256 ed25519 s c.trusted plan)
  | _ => True

structure Gated (s : AutomationState) (cycle : Nat) : Prop where
  phase : ∀ c plan, s.current cycle = some (c, plan) → c.phase.Checked sha256 ed25519 s c plan
  claiming : ∀ c plan, s.current cycle = some (c, plan) → c.enforcing = true →
    s.claiming cycle = true → Authorized sha256 ed25519 s c.trusted plan ∧
      ∃ latest, latestPolicy s.transport.policies plan.sourceId = .ok latest ∧ plan.bound latest = true

/-- The snapshot that the plan was created for is stored. -/
def SourceAutomationPlan.Based (policies : List SourcePolicySnapshot) (plan : SourceAutomationPlan) :
    Prop :=
  ∃ snapshot ∈ policies, snapshot.sourceId = plan.sourceId ∧ snapshot.version = plan.policyVersion

structure ApprovalInvariant (s : AutomationState) : Prop where
  wired : Wired s
  versions : Sql.Unique (fun row => (row.sourceId, row.version)) s.transport.policies
  based : ∀ row ∈ s.plans, row.Based s.transport.policies
  checked : ∀ call event, s.approving call = some event →
    verifySourceApproval sha256 ed25519 event = true ∧
      ∃ snapshot, boundSnapshot s.transport.policies event = .ok snapshot
  gated : ∀ cycle, Gated sha256 ed25519 s cycle
  claims : ∀ view ∈ s.claims, view.authorized sha256 ed25519 = true

end

section
variable {Key : Type} {sha256 : Bytes → Digest} {ed25519 : Ed25519 Key}

/-- The ledgers that a step leaves: one of them may have one more row. -/
inductive LedgerStep (s : AutomationState) : AutomationAction → AutomationState → Prop
  | same (policies : t.transport.policies = s.transport.policies) (approvals : t.approvals = s.approvals) :
    LedgerStep s a t
  | policy (h : appendPolicy sha256 s.transport.policies policy snapshotId storedAt =
      some t.transport.policies) (approvals : t.approvals = s.approvals) :
    LedgerStep s (.appendPolicy policy snapshotId storedAt) t
  | approval (found : s.approving call = some event)
      (h : appendApproval s.approvals event storedAt = .ok t.approvals)
      (policies : t.transport.policies = s.transport.policies) :
    LedgerStep s (.approveCommit call storedAt) t

theorem Effect.ledgers (effect : Effect sha256 ed25519 validate s a t) :
    @LedgerStep sha256 s a t := by
  cases effect with
  | appended h => exact .policy h rfl
  | approved found h => exact .approval found h rfl
  | executes at_plan phase h => exact .same (transportStep_frame rfl h).1 rfl
  | executor at_plan phase h => exact .same (transportStep_frame (executor_call _ _) h).1 rfl
  | _ => exact .same rfl rfl

/-- After an append no plan of the source is bound to its latest snapshot. -/
theorem bound_append {plan : SourceAutomationPlan} (based : plan.Based policies)
    (h : appendPolicy sha256 policies policy snapshotId storedAt = some after)
    (found : latestPolicy after plan.sourceId = .ok latest) (bound : plan.bound latest = true) :
    latestPolicy policies plan.sourceId = .ok latest ∧ policy.sourceId ≠ plan.sourceId := by
  obtain ⟨snapshot, rfl, -, source, fresh⟩ := appendPolicy_some h
  rw [latestPolicy_snoc] at found
  by_cases same : snapshot.sourceId = plan.sourceId
  · rw [if_pos same] at found
    cases found
    obtain ⟨row, member, owner, version⟩ := based
    simp only [SourceAutomationPlan.bound, decide_eq_true_eq] at bound
    exact absurd (version.trans bound.1.symm) (fresh row member (owner.trans same.symm))
  · rw [if_neg same] at found
    exact ⟨found, source ▸ same⟩

theorem Authorized.congr (authorized : Authorized sha256 ed25519 s trusted plan)
    (policies : t.transport.policies = s.transport.policies) (approvals : t.approvals = s.approvals) :
    Authorized sha256 ed25519 t trusted plan := by
  unfold Authorized
  rw [policies, approvals]
  exact authorized

/-- A step keeps the authorization of a plan, unless it commits an event that takes it away. -/
theorem Authorized.step {plan : SourceAutomationPlan}
    (authorized : Authorized sha256 ed25519 s trusted plan) (based : plan.Based s.transport.policies)
    (checked : ∀ call event, s.approving call = some event →
      verifySourceApproval sha256 ed25519 event = true ∧
        ∃ snapshot, boundSnapshot s.transport.policies event = .ok snapshot)
    (step : @LedgerStep sha256 s a t)
    (kept : ∀ call storedAt event, a = .approveCommit call storedAt → s.approving call = some event →
      event.payload.about plan.sourceId plan.policyVersion plan.policySnapshotHash = true →
      event.grants trusted = true) : Authorized sha256 ed25519 t trusted plan := by
  intro latest found bound
  cases step with
  | same policies approvals => exact authorized.congr policies approvals latest found bound
  | policy h approvals =>
    rw [approvals]
    obtain ⟨before, -⟩ := bound_append based h found bound
    exact authorization_grown (appendPolicy_grown h) (authorized latest before bound)
  | approval call h policies =>
    rw [policies] at found ⊢
    obtain ⟨signed, snapshot, stored⟩ := checked _ _ call
    refine authorization_append signed stored h (fun about => ?_) (authorized latest found bound)
    have source := (mem_of_latestPolicy found).2
    simp only [SourceAutomationPlan.bound, decide_eq_true_eq] at bound
    rw [source, bound.1, bound.2.1] at about
    exact kept _ _ _ rfl call about

/-- What the phase of a cycle has checked stays so when the plan's authorization does. -/
theorem Phase.Checked.mono {phase : Phase} (checked : phase.Checked sha256 ed25519 s c plan)
    (grown : s.transport.policies <+: t.transport.policies)
    (kept : c.enforcing = true → phase.cleared → Authorized sha256 ed25519 s c.trusted plan →
      Authorized sha256 ed25519 t c.trusted plan) : phase.Checked sha256 ed25519 t c plan := by
  cases phase with
  | authorizing latest => exact ⟨grown.subset checked.1, checked.2⟩
  | start => exact fun enforcing => kept enforcing rfl (checked enforcing)
  | lookup | reserving | examining | validating =>
    exact ⟨checked.1, fun enforcing => kept enforcing rfl (checked.2 enforcing)⟩
  | _ => trivial

theorem current_congr {s t : AutomationState} (same : t.cycles cycle = s.cycles cycle) :
    t.current cycle = s.current cycle := by
  unfold AutomationState.current
  rw [same]

theorem queued_based (wired : Wired s) (based : ∀ row ∈ s.plans, row.Based s.transport.policies)
    (at_plan : s.current cycle = some (c, plan)) : plan.Based s.transport.policies := by
  obtain ⟨found, head⟩ := AutomationState.current_some.mp at_plan
  obtain ⟨row, stored, kept⟩ := (wired.owned cycle).queued c found plan (List.mem_of_mem_head? head)
  obtain ⟨snapshot, member, source, version⟩ := based row stored
  refine ⟨snapshot, member, source.trans kept.sourceId, version.trans ?_⟩
  rw [kept]

/-- A good step keeps the authorization that a cycle at a plan relies on. -/
theorem ApprovalInvariant.kept (valid : ApprovalInvariant sha256 ed25519 s)
    (effect : Effect sha256 ed25519 validate s a t) (good : ClaimsUndisturbed s a)
    (at_plan : s.current cycle = some (c, plan)) (enforcing : c.enforcing = true)
    (relies : c.phase.cleared = true ∨ s.claiming cycle = true)
    (authorized : Authorized sha256 ed25519 s c.trusted plan) :
    Authorized sha256 ed25519 t c.trusted plan := by
  refine authorized.step (queued_based valid.wired valid.based at_plan) valid.checked effect.ledgers ?_
  intro call storedAt event same found about
  subst same
  exact good event found cycle c plan at_plan enforcing relies about

/-- A good step keeps what another cycle has checked. -/
theorem ApprovalInvariant.frame (valid : ApprovalInvariant sha256 ed25519 s)
    (effect : Effect sha256 ed25519 validate s a t) (good : ClaimsUndisturbed s a)
    (other : a.owner ≠ some cycle) : Gated sha256 ed25519 t cycle := by
  obtain ⟨cycles, calls⟩ := effect.frame other
  have gated := valid.gated cycle
  have claiming : t.claiming cycle = s.claiming cycle := by
    unfold AutomationState.claiming
    rw [calls]
  refine ⟨fun c plan at_plan => ?_, fun c plan at_plan enforcing claims => ?_⟩
  · rw [current_congr cycles] at at_plan
    exact (gated.phase c plan at_plan).mono effect.later.policies fun enforcing cleared authorized =>
      valid.kept effect good at_plan enforcing (.inl cleared) authorized
  · rw [current_congr cycles] at at_plan
    rw [claiming] at claims
    obtain ⟨authorized, latest, found, bound⟩ := gated.claiming c plan at_plan enforcing claims
    refine ⟨valid.kept effect good at_plan enforcing (.inr claims) authorized, latest, ?_, bound⟩
    cases effect.ledgers with
    | same policies approvals =>
      rw [policies]
      exact found
    | policy h approvals =>
      obtain ⟨snapshot, grown, -, source, -⟩ := appendPolicy_some h
      have apart := good cycle c plan at_plan enforcing claims
      rw [grown, latestPolicy_snoc, if_neg (source ▸ apart.symm)]
      exact found
    | approval call h policies =>
      rw [policies]
      exact found

/-- A cycle that is not about to claim needs only what its phase has checked. -/
theorem Gated.quiet (after : t.cycles cycle = some next) (calls : t.claiming cycle = false)
    (phase : ∀ plan, next.queue.head? = some plan → next.phase.Checked sha256 ed25519 t next plan) :
    Gated sha256 ed25519 t cycle := by
  refine ⟨fun c plan at_plan => ?_, fun c plan at_plan enforcing claims => ?_⟩
  · obtain ⟨found, head⟩ := AutomationState.current_some.mp at_plan
    cases after.symm.trans found
    exact phase plan head
  · rw [calls] at claims
    cases claims

theorem Gated.idle (after : t.cycles cycle = none) : Gated sha256 ed25519 t cycle := by
  refine ⟨fun c plan at_plan => ?_, fun c plan at_plan _ _ => ?_⟩ <;>
    cases after.symm.trans (AutomationState.current_some.mp at_plan).1

/-- Snapshots of one source that a plan is bound to are one. -/
theorem bound_unique {plan : SourceAutomationPlan}
    (versions : Sql.Unique (fun row => (SourcePolicySnapshot.sourceId row, row.version)) policies)
    (left : first ∈ policies) (right : second ∈ policies) (source : first.sourceId = second.sourceId)
    (bound : plan.bound first = true) (bound' : plan.bound second = true) : first = second := by
  simp only [SourceAutomationPlan.bound, decide_eq_true_eq] at bound bound'
  exact versions.eq left right (by rw [source, bound.1, bound'.1])

/-- A read moves a cycle to a phase whose checks it has made. -/
theorem readStep_checked (valid : ApprovalInvariant sha256 ed25519 s)
    (at_plan : s.current cycle = some (c, plan))
    (h : readStep sha256 ed25519 s c plan a = some next) :
    ∀ other, next.queue.head? = some other → next.phase.Checked sha256 ed25519 s next other := by
  have head := (AutomationState.current_some.mp at_plan).2
  have checked := (valid.gated cycle).phase c plan at_plan
  intro other same
  cases a with
  | gate k =>
    simp only [readStep] at h
    split at h
    · rename_i latest phase found
      cases h
      cases head.symm.trans same
      obtain ⟨member, source⟩ := mem_of_latestPolicy found
      by_cases bound : plan.bound latest = true
      · simp only [bound, if_true]
        exact ⟨member, source, bound⟩
      · simp only [bound]
        intro _ current now
        cases found.symm.trans now
        exact fun now => absurd now bound
    · rename_i missing
      cases h
      cases head.symm.trans same
      intro _ current now
      cases missing.symm.trans now
    · cases h
  | authorize k now =>
    simp only [readStep] at h
    split at h
    · rename_i latest phase
      cases h
      cases head.symm.trans same
      rw [phase] at checked
      obtain ⟨member, source, bound⟩ := checked
      by_cases authorized : (authorization sha256 ed25519 s.transport.policies s.approvals c.trusted
          latest).authorized = true
      · simp only [authorized, if_true]
        intro _ current now bound'
        obtain ⟨member', source'⟩ := mem_of_latestPolicy now
        rw [← bound_unique valid.versions member member' (source.trans source'.symm) bound bound']
        exact authorized
      · simp only [authorized]
        trivial
    · cases h
  | start k now =>
    simp only [readStep] at h
    split at h
    · rename_i phase
      cases h
      cases head.symm.trans same
      rw [phase] at checked
      rcases startPhase_cases s.transport.policies c.transports plan with
        ⟨_, _, blocked, -⟩ | ⟨latest, transport, started, -, bound⟩
      · simp only [blocked]
        trivial
      · simp only [started]
        exact ⟨bound, checked⟩
    · cases h
  | lookup k =>
    simp only [readStep] at h
    split at h
    · rename_i latest transport phase
      cases h
      cases head.symm.trans same
      rw [phase] at checked
      simp only
      split <;> exact checked
    · cases h
  | examine k =>
    simp only [readStep] at h
    split at h
    · rename_i latest transport reservation phase
      cases h
      cases head.symm.trans same
      rw [phase] at checked
      simp only
      split
      · rename_i execution found
        obtain ⟨ops, recorded⟩ := recordedPlan_storing execution
        rw [recorded]
        trivial
      · exact checked
    · cases h
  | next k =>
    simp only [readStep] at h
    split at h
    · cases h
      cases enforcing : c.enforcing
      · intro on
        cases on
      · trivial
    · cases h
  | _ => cases h

theorem claiming_none (calls : s.transport.calls cycle = none) :
    AutomationState.claiming s cycle = false := by
  unfold AutomationState.claiming
  rw [calls]

/-- After a step of `execute` other than its begin, the call is not about to claim. -/
theorem claiming_executor {s : AutomationState} (step : ExecutorStep)
    (h : transportStep sha256 validate .sqlite s.transport (step.action cycle) = some transport) :
    AutomationState.claiming { s with transport } cycle = false := by
  unfold AutomationState.claiming
  split
  · rename_i current own provenance maxBytes startedAt found
    obtain ⟨_, _, same, -⟩ := transportStep_claiming (executor_call _ _) h found
    exact absurd same (executor_begins step)
  · rfl

/-- The begin of `execute` checks the binding that the claim relies on. -/
theorem ApprovalInvariant.executes (valid : ApprovalInvariant sha256 ed25519 s)
    (at_plan : s.current cycle = some (c, plan))
    (phase : c.phase = .validating latest identity reservation)
    (h : transportStep sha256 validate .sqlite s.transport
      (.execute cycle latest reservation identity none startedAt) = some transport) :
    Gated sha256 ed25519 ({ s with transport }.setPhase cycle c (.executing reservation)) cycle := by
  have policies := (transportStep_frame rfl h).1
  have checked := (valid.gated cycle).phase c plan at_plan
  have knows := (valid.wired.owned cycle).knows c plan at_plan
  rw [phase] at checked knows
  obtain ⟨-, head⟩ := AutomationState.current_some.mp at_plan
  refine ⟨fun other row at_row => ?_, fun other row at_row enforcing claims => ?_⟩
  · obtain ⟨found, -⟩ := AutomationState.current_some.mp at_row
    cases (Function.update_self _ _ _).symm.trans found
    trivial
  · obtain ⟨found, first⟩ := AutomationState.current_some.mp at_row
    cases (Function.update_self _ _ _).symm.trans found
    cases head.symm.trans first
    unfold AutomationState.claiming at claims
    split at claims
    · rename_i current own provenance maxBytes started call
      obtain ⟨snapshot, transport, same, binding⟩ := transportStep_claiming rfl h call
      cases same
      obtain ⟨latest', status, version, hash⟩ := validateBinding_ok binding
      rw [knows.2.source] at latest'
      have bound := checked.1
      simp only [SourceAutomationPlan.bound, decide_eq_true_eq] at bound
      have bound' : plan.bound current = true := by
        simp only [SourceAutomationPlan.bound, decide_eq_true_eq]
        exact ⟨version.symm.trans bound.1, hash.symm.trans bound.2.1, status⟩
      refine ⟨(checked.2 enforcing).congr policies rfl, current, ?_, bound'⟩
      rw [← policies] at latest'
      exact latest'
    · cases claims

/-- A step keeps what its own cycle has checked. -/
theorem ApprovalInvariant.own (valid : ApprovalInvariant sha256 ed25519 s)
    (effect : Effect sha256 ed25519 validate s a t) (mine : a.owner = some cycle) :
    Gated sha256 ed25519 t cycle := by
  have self {α : Type} (f : Nat → α) (v : α) : Function.update f cycle v cycle = v :=
    Function.update_self _ _ _
  -- a new phase at the plan that the cycle is at
  have stays {c : Cycle} {plan} {next : Phase} {t : AutomationState}
      (at_plan : s.current cycle = some (c, plan)) (after : t.cycles cycle = some { c with phase := next })
      (calls : t.transport.calls cycle = none)
      (checked : next.Checked sha256 ed25519 t { c with phase := next } plan) :
      Gated sha256 ed25519 t cycle := by
    refine .quiet after (claiming_none calls) fun other same => ?_
    cases (AutomationState.current_some.mp at_plan).2.symm.trans same
    exact checked
  have owned := valid.wired.owned cycle
  cases effect with
  | begun idle =>
    rename_i enforcing _ _ _ _
    cases mine
    have calls := owned.calls_idle (show s.current cycle = none by
      unfold AutomationState.current
      rw [idle])
    refine .quiet (self _ _) (claiming_none calls) fun plan head => ?_
    cases enforcing
    · intro on
      cases on
    · trivial
  | ended | aborted | reserveFailed | storeFailed =>
    cases mine
    exact .idle (self _ _)
  | read at_plan own h =>
    cases (AutomationAction.owner_of_cycle own).symm.trans mine
    obtain ⟨quiet, -⟩ := readStep_knows valid.wired.policies at_plan (owned.knows _ _ at_plan) h
    refine .quiet (self _ _) (claiming_none (owned.calls_none at_plan quiet)) fun plan head => ?_
    exact (readStep_checked valid at_plan h plan head).mono (List.prefix_refl _)
      fun _ _ authorized => authorized.congr rfl rfl
  | declined at_plan phase =>
    rename_i decision _
    cases mine
    obtain ⟨ops, deferred⟩ := deferredPlan_storing decision
    refine stays at_plan (self _ _) (owned.calls_none at_plan (by simp [phase])) ?_
    rw [deferred]
    trivial
  | reserved at_plan phase =>
    cases mine
    have checked := (valid.gated cycle).phase _ _ at_plan
    rw [phase] at checked
    exact stays at_plan (self _ _) (owned.calls_none at_plan (by simp [phase]))
      ⟨checked.1, fun enforcing => (checked.2 enforcing).congr rfl rfl⟩
  | executes at_plan phase h =>
    cases mine
    exact valid.executes at_plan phase h
  | executor at_plan phase h =>
    cases mine
    obtain ⟨found, -⟩ := AutomationState.current_some.mp at_plan
    refine .quiet found (claiming_executor _ h) fun plan head => ?_
    rw [phase]
    trivial
  | collected at_plan | failed at_plan =>
    cases mine
    exact stays at_plan (self _ _) (self _ _) trivial
  | stored at_plan phase h =>
    cases mine
    exact stays at_plan (self _ _) (owned.calls_none at_plan (by simp [phase])) trivial
  | _ => cases mine

theorem createPlan_based (h : createPlan snapshot request token now = .ok plan)
    (stored : snapshot ∈ policies) : plan.Based policies := by
  simp only [createPlan, bind_eq_ok, raiseIf_ok, exists_const, not_not] at h
  obtain ⟨-, -, source, version, -, -, same⟩ := h
  cases same
  exact ⟨snapshot, stored, source, version⟩

theorem applyOp_based (h : applyOp plans runs c plan runId now op = .ok (after, runs'))
    (based : ∀ row ∈ plans, SourceAutomationPlan.Based policies row) :
    ∀ row ∈ after, row.Based policies := by
  have updated {change : SourceAutomationPlan → SourceAutomationPlan}
      (kept : ∀ row : SourceAutomationPlan, row.Rescheduled (change row)) :
      ∀ row ∈ Sql.updateRow (·.planId) plan.planId change plans, row.Based policies := by
    intro row member
    obtain ⟨old, stored, ⟨-, rfl⟩ | ⟨-, rfl⟩⟩ := Sql.mem_updateRow member
    · obtain ⟨snapshot, member, source, version⟩ := based old stored
      refine ⟨snapshot, member, source.trans (kept old).sourceId.symm, version.trans ?_⟩
      rw [kept old]
    · exact based _ stored
  cases op with
  | advance =>
    obtain ⟨next, -, h⟩ := bind_ok h
    cases h
    exact updated fun _ => rfl
  | defer nextRunAt =>
    cases h
    exact updated fun _ => rfl
  | disable =>
    cases h
    exact updated fun _ => rfl
  | addRun draft =>
    simp only [applyOp] at h
    split at h <;> cases h
    exact based

/-- Every plan of the table is one that was there with another schedule, or a new one. -/
theorem Effect.based (effect : Effect sha256 ed25519 validate s a t)
    (based : ∀ row ∈ s.plans, row.Based s.transport.policies) :
    ∀ row ∈ t.plans, row.Based t.transport.policies := by
  have grown := effect.later.policies
  have keeps {row : SourceAutomationPlan} (based : row.Based s.transport.policies) :
      row.Based t.transport.policies := by
    obtain ⟨snapshot, member, source, version⟩ := based
    exact ⟨snapshot, grown.subset member, source, version⟩
  cases effect with
  | planned h stored =>
    intro row member
    rcases List.mem_append.mp member with old | new
    · exact based row old
    · rw [List.mem_singleton.mp new]
      exact createPlan_based h stored
  | enabled =>
    intro row member
    obtain ⟨old, stored, ⟨-, rfl⟩ | ⟨-, rfl⟩⟩ := Sql.mem_updateRow member
    · exact based old stored
    · exact based _ stored
  | stored at_plan phase h => exact applyOp_based h based
  | _ => exact fun row member => keeps (based row member)

/-- A claim of an enforcing cycle finds what its checks have found. -/
theorem ApprovalInvariant.claim (valid : ApprovalInvariant sha256 ed25519 s)
    (at_plan : s.current cycle = some (c, plan)) (enforcing : c.enforcing = true)
    (h : transportStep sha256 validate .sqlite s.transport (.claim cycle) = some transport) :
    ClaimView.authorized sha256 ed25519 ⟨plan, c.trusted, s.transport.policies, s.approvals⟩ = true := by
  obtain ⟨_, _, _, _, _, found, -⟩ := transportStep_claim h
  have claims : s.claiming cycle = true := by
    unfold AutomationState.claiming
    rw [found]
  obtain ⟨authorized, latest, now, bound⟩ := (valid.gated cycle).claiming c plan at_plan enforcing claims
  unfold ClaimView.authorized
  rw [now]
  exact decide_eq_true ⟨bound, authorized latest now bound⟩

/-- An approval that waits for its commit has passed its checks. -/
theorem ApprovalInvariant.approving (valid : ApprovalInvariant sha256 ed25519 s)
    (effect : Effect sha256 ed25519 validate s a t) (found : t.approving call = some event) :
    verifySourceApproval sha256 ed25519 event = true ∧
      ∃ snapshot, boundSnapshot t.transport.policies event = .ok snapshot := by
  have grown := effect.later.policies
  have old {other} (found : s.approving other = some event) :
      verifySourceApproval sha256 ed25519 event = true ∧
        ∃ snapshot, boundSnapshot t.transport.policies event = .ok snapshot := by
    obtain ⟨signed, snapshot, bound⟩ := valid.checked other event found
    exact ⟨signed, snapshot, boundSnapshot_grown bound grown⟩
  have updated {k next} (found : Function.update s.approving k next call = some event) :
      s.approving call = some event ∨ next = some event := by
    by_cases same : call = k
    · subst same
      rw [Function.update_self] at found
      exact .inr found
    · rw [Function.update_of_ne same] at found
      exact .inl found
  cases effect with
  | approving checked =>
    rcases updated found with found | new
    · exact old found
    · cases new
      exact approvalChecks_ok checked
  | approved | refused =>
    rcases updated found with found | new
    · exact old found
    · cases new
  | _ => exact old found

/-- Every claim that a step adds is authorized. -/
theorem ApprovalInvariant.claimed (valid : ApprovalInvariant sha256 ed25519 s)
    (effect : Effect sha256 ed25519 validate s a t) :
    ∀ view ∈ t.claims, view.authorized sha256 ed25519 = true := by
  cases effect with
  | executor at_plan phase h =>
    rename_i step
    intro view member
    rcases List.mem_append.mp member with old | new
    · exact valid.claims view old
    · cases step with
      | claim =>
        simp only [ExecutorStep.claims] at new
        split at new
        · rename_i granted
          rw [List.mem_singleton.mp new]
          exact valid.claim at_plan granted.1 h
        · cases new
      | send | capture | finish => cases new
  | _ => exact valid.claims

theorem Effect.approval (effect : Effect sha256 ed25519 validate s a t)
    (valid : ApprovalInvariant sha256 ed25519 s) (good : ClaimsUndisturbed s a) :
    ApprovalInvariant sha256 ed25519 t := by
  refine ⟨effect.wired valid.wired, ?_, effect.based valid.based, fun call event found => ?_,
    fun cycle => ?_, ?_⟩
  · cases effect.ledgers with
    | same policies | approval _ _ policies =>
      rw [policies]
      exact valid.versions
    | policy h =>
      obtain ⟨snapshot, grown, -, -, fresh⟩ := appendPolicy_some h
      rw [grown]
      refine valid.versions.snoc fun taken => ?_
      obtain ⟨row, member, same⟩ := List.mem_map.mp taken
      obtain ⟨source, version⟩ := Prod.mk.inj same
      exact fresh row member source version
  · exact valid.approving effect found
  · by_cases mine : a.owner = some cycle
    · exact valid.own effect mine
    · exact valid.frame effect good mine
  · exact valid.claimed effect

theorem initial_approval : ApprovalInvariant sha256 ed25519 .initial where
  wired := initial_wired
  versions := List.nodup_nil
  based := by simp [AutomationState.initial]
  checked := by simp [AutomationState.initial]
  gated := fun _ => .idle rfl
  claims := by simp [AutomationState.initial]

/-- In every run without a commit between a check and its claim, each claim of an enforcing
cycle is for the latest snapshot of its source, and that is approved and authorized. -/
theorem run_claimsAuthorized {actions : List AutomationAction} {s : AutomationState}
    (undisturbed : Transition.Meets (automationStep sha256 ed25519 validate) ClaimsUndisturbed .initial
      actions)
    (reached : Transition.run (automationStep sha256 ed25519 validate) .initial actions = some s) :
    ∀ view ∈ s.claims, view.authorized sha256 ed25519 = true := by
  have valid : ApprovalInvariant sha256 ed25519 s := Transition.run_invariant
    (fun _ _ _ valid good step => (automationStep_effect step).approval valid good) initial_approval
    undisturbed reached
  exact valid.claims

end

/-- While no cycle runs, no commit comes between a check and a claim. -/
theorem undisturbed_idle {s : AutomationState} (idle : ∀ cycle, s.cycles cycle = none)
    (outside : ∀ a ∈ actions, AutomationAction.owner a = none) :
    Transition.Meets (automationStep sha256 ed25519 validate) ClaimsUndisturbed s actions := by
  induction actions generalizing s with
  | nil => trivial
  | cons a rest ih =>
    have absent : ∀ cycle c plan, s.current cycle ≠ some (c, plan) := by
      intro cycle c plan at_plan
      cases (idle cycle).symm.trans (AutomationState.current_some.mp at_plan).1
    refine ⟨?_, fun t stepped => ih (fun cycle => ?_) fun b member => outside b (List.mem_cons_of_mem a member)⟩
    · cases a with
      | appendPolicy => exact fun cycle c plan at_plan => absurd at_plan (absent cycle c plan)
      | approveCommit => exact fun _ _ cycle c plan at_plan => absurd at_plan (absent cycle c plan)
      | _ => trivial
    · have other : a.owner ≠ some cycle := by
        simp [outside a List.mem_cons_self]
      rw [((automationStep_effect (Option.mem_def.mp stepped)).frame other).1]
      exact idle cycle

def sampleApproval (decision : SourceApprovalDecision) (eventId : String) (previous : Option Digest) :
    SignedSourceApproval :=
  let payload : SourceApprovalPayload := ⟨eventId, "iec", 1, firstSnapshot.snapshotHash, decision,
    "reviewer", [⟨"terms", checksum [1], none⟩], "reviewed", "2026-01-01T00:00:00Z", previous⟩
  let publicKey := headEd25519.publicKey ()
  let signature := headEd25519.sign () (canonicalJsonBytes payload.modelDump)
  let event : SignedSourceApproval := ⟨payload, String.ofList (b64encode publicKey), headChecksum publicKey,
    String.ofList (b64encode signature), checksum [], none⟩
  { event with eventHash := hashRecord headChecksum event.hashBody }

def grantedApproval : SignedSourceApproval := sampleApproval .approve "e1" none

def revokedApproval : SignedSourceApproval :=
  sampleApproval .revoke "e2" (some grantedApproval.eventHash)

/-- An approved policy, and a plan for it. -/
def approvedPlan : List AutomationAction := [
  .appendPolicy samplePolicy "bp_pol_1" noon, .approve 0 none grantedApproval, .approveCommit 0 noon,
  .createPlan firstSnapshot samplePlanRequest "0" noon]

/-- An enforcing cycle up to its claim. -/
def enforcingCycle : List AutomationAction := [
  sampleRunDue 0 true none noon, .gate 0, .authorize 0 noon, .start 0 noon, .lookup 0,
  .reserve 0 [] "r0", .examine 0, .execute 0 noon]

theorem approvedPlan_claimsAuthorized : ∃ s,
    Transition.run (automationStep headChecksum headEd25519 (fun _ _ _ => none)) .initial
      (approvedPlan ++ (enforcingCycle ++ [.executor 0 .claim])) = some s ∧
    s.claims.length = 1 ∧ ∀ view ∈ s.claims, view.authorized headChecksum headEd25519 = true := by
  obtain ⟨s, reached, one⟩ := @Transition.run_test _ _
    (automationStep headChecksum headEd25519 (fun _ _ _ => none)) .initial
    (approvedPlan ++ (enforcingCycle ++ [.executor 0 .claim]))
    (fun s => s.claims.length = 1) (by decide +kernel)
  refine ⟨s, reached, by simpa using one, run_claimsAuthorized (.append ?_ fun _ _ => ?_) reached⟩
  · exact undisturbed_idle (fun _ => rfl) (by simp [approvedPlan, AutomationAction.owner, AutomationAction.cycle])
  · exact .of_forall (by simp [enforcingCycle, sampleRunDue, ClaimsUndisturbed])

/-- A revocation, or a policy that prohibits access, commits before the claim. -/
def revokedBeforeClaim : List AutomationAction :=
  approvedPlan ++ enforcingCycle ++
    [.approve 1 none revokedApproval, .approveCommit 1 noon, .executor 0 .claim]

def supersededBeforeClaim : List AutomationAction :=
  approvedPlan ++ enforcingCycle ++
    [.appendPolicy { samplePolicy with accessStatus := .prohibited } "bp_pol_2" noon, .executor 0 .claim]

theorem disturbed_unauthorized :
    (∃ s, Transition.run (automationStep headChecksum headEd25519 (fun _ _ _ => none)) .initial
        revokedBeforeClaim = some s ∧
      ∃ view ∈ s.claims, view.authorized headChecksum headEd25519 = false) ∧
    ∃ s, Transition.run (automationStep headChecksum headEd25519 (fun _ _ _ => none)) .initial
        supersededBeforeClaim = some s ∧
      ∃ view ∈ s.claims, view.authorized headChecksum headEd25519 = false := by
  obtain ⟨s, reached, bad⟩ := @Transition.run_test _ _
    (automationStep headChecksum headEd25519 (fun _ _ _ => none)) .initial revokedBeforeClaim
    (fun s => s.claims.any fun view => !view.authorized headChecksum headEd25519) (by decide +kernel)
  obtain ⟨t, reached', bad'⟩ := @Transition.run_test _ _
    (automationStep headChecksum headEd25519 (fun _ _ _ => none)) .initial supersededBeforeClaim
    (fun s => s.claims.any fun view => !view.authorized headChecksum headEd25519) (by decide +kernel)
  exact ⟨⟨s, reached, by simpa using bad⟩, ⟨t, reached', by simpa using bad'⟩⟩

end BallotProof
