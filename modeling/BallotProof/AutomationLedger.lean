import BallotProof.AutomationBook

/-! The run ledger of one worker that may stop between any two store transactions. A
completed execution is recorded exactly once, unless the worker stops between the move of
the plan and its COMPLETED run, or a later cycle passes over the slot, or visits a slot
that is not due. -/
namespace BallotProof
open Python

/-- `_existing_reservation` finds a reservation for the plan's slot, and that has COMPLETED. -/
def AutomationState.completedSlot (s : AutomationState) (plan : SourceAutomationPlan) : Bool :=
  match existingReservation s.reservations plan.sourceId plan.requestKey with
  | none => false
  | some reservation =>
    match Sql.selectRow (·.reservationId) reservation.reservationId s.transport.executions with
    | none => false
    | some row => row.status = .completed

/-- The plan has been moved on and its COMPLETED run is about to be added. -/
def Phase.recording : Phase → Bool
  | .storing [.addRun draft] => draft.status = .completed
  | _ => false

def Phase.proceeds : Phase → Bool
  | .lookup _ _ => true
  | _ => false

/-- A cycle lists due plans only, and with them every plan at a completed slot, whose start
goes on to the reservation; a worker does not stop, nor draw a used run id, when it is about
to add a COMPLETED run. -/
def LedgerKept (s : AutomationState) : AutomationAction → Prop
  | .runDue _ _ _ _ evaluatedAt limit =>
    (∀ plan ∈ duePlans s.plans evaluatedAt limit, plan.nextRunAt.instant ≤ evaluatedAt.instant) ∧
    ∀ plan ∈ s.plans, s.completedSlot plan = true → plan ∈ duePlans s.plans evaluatedAt limit
  | .start cycle _ => ∀ found ∈ s.current cycle, s.completedSlot found.2 = true →
    (startPhase s.transport.policies found.1.transports found.2).proceeds = true
  | .abort cycle => ∀ c ∈ s.cycles cycle, c.phase.recording = false
  | .store cycle runId _ => ∀ c ∈ s.cycles cycle, c.phase.recording = true →
    runId ∉ s.runs.map (·.runId)
  | _ => True

instance (s : AutomationState) (a : AutomationAction) : Decidable (LedgerKept s a) := by
  cases a <;> simp only [LedgerKept] <;> infer_instance

/-- The steps in a history of one worker, whose cycle is number 0. -/
def Solo : AutomationAction → Prop
  | .runDue cycle enforcing _ _ _ _ => cycle = 0 ∧ enforcing = false
  | a => ∀ cycle, a.owner = some cycle → cycle = 0

theorem Solo.owner (solo : Solo a) (mine : a.owner = some cycle) : cycle = 0 := by
  cases a with
  | runDue own enforcing trusted transports evaluatedAt limit =>
    cases mine
    exact solo.1
  | _ => exact solo cycle mine

def AutomationState.book (s : AutomationState) : Book :=
  ⟨s.plans.map (·.slot), s.reservations, s.transport.executions, s.runs⟩

/-- No plan with the id stands at a completed slot. -/
def Clear (b : Book) (plan : SourceAutomationPlan) : Prop :=
  ∀ slot ∈ b.slots, slot.planId = plan.planId → ¬b.Open slot

/-- The writes that end `_run_plan`, by what they leave to be done. -/
inductive OpsOk (b : Book) (evaluatedAt : Datetime) (plan : SourceAutomationPlan) :
    List StoreOp → Prop
  | record (stands : plan.slot ∈ b.slots) (member : reservation ∈ b.reservations)
      (forSlot : reservation.For plan.slot) (done : b.Completed reservation.reservationId)
      (status : draft.status = .completed)
      (id : draft.reservationId = some reservation.reservationId) :
    OpsOk b evaluatedAt plan [.advance, .addRun draft]
  | recording (clear : Clear b plan) (done : b.Completed reservationId)
      (status : draft.status = .completed) (id : draft.reservationId = some reservationId) :
    OpsOk b evaluatedAt plan [.addRun draft]
  | move (stands : plan.slot ∈ b.slots) (shut : ¬b.Open plan.slot) (status : draft.status ≠ .completed)
      (moves : op = .advance ∨ ∃ time, op = .defer time ∧ evaluatedAt.instant < time.instant) :
    OpsOk b evaluatedAt plan [op, .addRun draft]
  | settle (clear : Clear b plan) (plain : ∀ op ∈ ops, op = .disable ∨
      ∃ draft, op = .addRun draft ∧ draft.status ≠ .completed) : OpsOk b evaluatedAt plan ops

/-- The execution row of the reservation while its call is between two steps. -/
def CallOk (b : Book) (reservation : SourceRequestReservation) : ExecuteCall → Prop
  | .claiming _ _ _ _ _ => reservation.reservationId ∉ b.executions.map (·.reservationId)
  | .sending _ | .capturing _ => ∃ row ∈ b.executions,
    row.reservationId = reservation.reservationId ∧ row.status ≠ .completed
  | .finishing _ status receiptId _ => (∃ row ∈ b.executions,
    row.reservationId = reservation.reservationId ∧ row.status ≠ .completed) ∧
      (status = .completed ↔ receiptId.isSome)
  | .returned _ => b.Completed reservation.reservationId
  | .raised => ¬b.Completed reservation.reservationId

def PhaseOk (b : Book) (call : Option ExecuteCall) (evaluatedAt : Datetime)
    (plan : SourceAutomationPlan) : Phase → Prop
  | .start | .lookup _ _ | .examining _ _ _ => plan.slot ∈ b.slots
  | .reserving _ _ => plan.slot ∈ b.slots ∧ ∀ reservation ∈ b.reservations, ¬reservation.For plan.slot
  | .validating _ _ reservation => plan.slot ∈ b.slots ∧
    reservation.reservationId ∉ b.executions.map (·.reservationId)
  | .executing reservation => plan.slot ∈ b.slots ∧ ∀ found ∈ call, CallOk b reservation found
  | .storing ops => OpsOk b evaluatedAt plan ops
  | .gate | .authorizing _ => False

structure CycleOk (b : Book) (call : Option ExecuteCall) (c : Cycle) : Prop where
  plain : c.enforcing = false
  apart : (c.queue.map (·.planId)).Nodup
  due : ∀ plan ∈ c.queue, plan.nextRunAt.instant ≤ c.evaluatedAt.instant
  interval : ∀ plan ∈ c.queue, 60 ≤ plan.intervalSeconds
  tail : ∀ plan ∈ c.queue.tail, plan.slot ∈ b.slots
  phase : ∀ plan, c.queue.head? = some plan → PhaseOk b call c.evaluatedAt plan c.phase

/-- The reservation whose COMPLETED run is about to be added. -/
def Phase.recordingId : Phase → Option String
  | .storing [.addRun draft] => if draft.status = .completed then draft.reservationId else none
  | _ => none

def AutomationState.recordingId (s : AutomationState) : Option String :=
  match s.current 0 with
  | some (c, _) => c.phase.recordingId
  | none => none

/-- A completed slot waits for a cycle, or the cycle has its plan before it. -/
def Waits (cycle : Option Cycle) (returned : Bool) (slot : Slot) : Prop :=
  match cycle with
  | none => returned = false
  | some c => ∃ plan ∈ c.queue, plan.planId = slot.planId

structure BooksInvariant (s : AutomationState) : Prop where
  wired : Wired s
  solo : ∀ cycle, cycle ≠ 0 → s.cycles cycle = none
  intervals : ∀ row ∈ s.plans, 60 ≤ row.intervalSeconds
  book : s.book.Valid
  accounts : s.book.Accounts s.recordingId
  waits : ∀ slot ∈ s.book.slots, s.book.Open slot → Waits (s.cycles 0) s.returned slot
  cycle : ∀ c, s.cycles 0 = some c → CycleOk s.book (s.transport.calls 0) c

/-- The loop of `advance` ends after the time of evaluation. -/
theorem catchUp_after {interval : Int} {steps : Nat}
    (near : evaluatedAt.instant < nextRun.instant + steps * interval)
    (h : catchUp interval evaluatedAt steps nextRun = .ok last) :
    evaluatedAt.instant < last.instant := by
  induction steps generalizing nextRun with
  | zero =>
    cases h
    simpa using near
  | succ steps ih =>
    simp only [catchUp] at h
    split at h
    · obtain ⟨next, added, h⟩ := bind_ok h
      refine ih ?_ h
      rw [(Datetime.add_ok added).1]
      rw [Nat.cast_add, Nat.cast_one, add_mul, one_mul] at near
      linarith
    · rename_i later
      cases h
      omega

theorem advanced_after (interval : 60 ≤ plan.intervalSeconds)
    (h : advanced plan evaluatedAt = .ok next) : evaluatedAt.instant < next.instant := by
  have positive : 0 < timedelta plan.intervalSeconds := by
    unfold timedelta
    omega
  refine catchUp_after ?_ h
  have enough := Int.lt_ediv_add_one_mul_self (evaluatedAt.instant - plan.nextRunAt.instant) positive
  have rounds : ((evaluatedAt.instant - plan.nextRunAt.instant) / timedelta plan.intervalSeconds + 1) *
      timedelta plan.intervalSeconds ≤
      (((evaluatedAt.instant - plan.nextRunAt.instant) / timedelta plan.intervalSeconds + 1).toNat : Int) *
        timedelta plan.intervalSeconds :=
    mul_le_mul_of_nonneg_right (Int.self_le_toNat _) positive.le
  linarith

theorem setEnabled_slots (plans : List SourceAutomationPlan) (planId : String) (enabled : Bool)
    (now : Datetime) : (setEnabled plans planId enabled now).map (·.slot) = plans.map (·.slot) :=
  Sql.updateRow_map fun _ => rfl

theorem deferPlan_slots (plans : List SourceAutomationPlan) (planId : String) (time now : Datetime) :
    (deferPlan plans planId time now).map (·.slot) =
      Sql.updateRow (·.planId) planId (fun slot => { slot with time }) (plans.map (·.slot)) :=
  Sql.map_updateRow (fun _ => rfl) fun _ => rfl

/-- An update of the schedule keeps the intervals. -/
theorem intervals_updateRow {change : SourceAutomationPlan → SourceAutomationPlan}
    (kept : ∀ row : SourceAutomationPlan, row.Rescheduled (change row))
    (intervals : ∀ row ∈ plans, 60 ≤ SourceAutomationPlan.intervalSeconds row) :
    ∀ row ∈ Sql.updateRow (·.planId) planId change plans, 60 ≤ row.intervalSeconds := by
  intro row member
  obtain ⟨old, stored, ⟨-, rfl⟩ | ⟨-, rfl⟩⟩ := Sql.mem_updateRow member
  · rw [kept old]
    exact intervals old stored
  · exact intervals _ stored

theorem duePlans_apart (unique : Sql.Unique (·.planId) plans) :
    ((duePlans plans evaluatedAt limit).map (·.planId)).Nodup := by
  have due : (((plans.filter fun plan => plan.enabled ∧
      plan.nextRunAt.isoformat ≤ evaluatedAt.isoformat).insertionSort
        fun a b => dueBefore a b).map (·.planId)).Nodup :=
    ((List.perm_insertionSort _ _).map _).nodup_iff.mpr (unique.sublist (List.filter_sublist.map _))
  unfold duePlans
  split
  · exact due
  · exact due.sublist ((List.take_sublist _ _).map _)

/-- A slot with a completed execution is one that the worker finds so. -/
theorem completedSlot_of_open {plan : SourceAutomationPlan} (valid : s.book.Valid)
    (isOpen : s.book.Open plan.slot) : AutomationState.completedSlot s plan = true := by
  obtain ⟨reservation, member, forSlot, row, stored, same, completed⟩ := isOpen
  cases found : existingReservation s.reservations plan.sourceId plan.requestKey with
  | none =>
    have absent := List.find?_eq_none.mp found reservation member
    simp only [decide_eq_true_eq] at absent
    exact absurd forSlot absent
  | some other =>
    obtain ⟨kept, forPlan⟩ := existingReservation_some found
    have forOther : other.For plan.slot := ⟨forPlan.source, forPlan.key, forPlan.attempt⟩
    have other_eq : other = reservation := valid.reservation_eq kept member forOther forSlot
    have selected := valid.executions.select stored
    rw [same] at selected
    unfold AutomationState.completedSlot
    rw [found, other_eq]
    simp only
    rw [show Sql.selectRow (·.reservationId) reservation.reservationId s.transport.executions = some row
      from selected]
    exact decide_eq_true completed

theorem Book.Valid.clear {b : Book} {plan : SourceAutomationPlan} (valid : b.Valid)
    (stands : plan.slot ∈ b.slots) (shut : ¬b.Open plan.slot) : Clear b plan := by
  intro slot member same
  rw [valid.slots.eq member stands same]
  exact shut

/-- The only reservation of a slot decides whether it is open. -/
theorem Book.Valid.shut {b : Book} (valid : b.Valid) (member : reservation ∈ b.reservations)
    (forSlot : reservation.For slot) (never : ¬b.Completed reservation.reservationId) :
    ¬b.Open slot := by
  rintro ⟨other, stored, forOther, completed⟩
  rw [valid.reservation_eq stored member forOther forSlot] at completed
  exact never completed

theorem recordingId_at (at_plan : s.current 0 = some (c, plan)) :
    AutomationState.recordingId s = c.phase.recordingId := by
  unfold AutomationState.recordingId
  rw [at_plan]

theorem recordingId_none (idle : s.current 0 = none) : AutomationState.recordingId s = none := by
  unfold AutomationState.recordingId
  rw [idle]

theorem current_none (idle : s.cycles cycle = none) : AutomationState.current s cycle = none := by
  unfold AutomationState.current
  rw [idle]

/-- A step of the cycle that stays at its plan. -/
theorem BooksInvariant.moved (valid : BooksInvariant s) (wired : Wired t)
    (at_plan : s.current 0 = some (c, plan))
    (found : t.cycles 0 = some { c with startedAt, phase := next })
    (others : ∀ cycle, cycle ≠ 0 → t.cycles cycle = s.cycles cycle)
    (intervals : ∀ row ∈ t.plans, 60 ≤ row.intervalSeconds) (book : t.book.Valid)
    (accounts : t.book.Accounts next.recordingId)
    (waits : ∀ slot ∈ t.book.slots, t.book.Open slot →
      slot ∈ s.book.slots ∧ s.book.Open slot ∨ slot.planId = plan.planId)
    (tail : ∀ other : SourceAutomationPlan, other.planId ≠ plan.planId → other.slot ∈ s.book.slots →
      other.slot ∈ t.book.slots)
    (phase : PhaseOk t.book (t.transport.calls 0) c.evaluatedAt plan next) : BooksInvariant t := by
  obtain ⟨before, head⟩ := AutomationState.current_some.mp at_plan
  have ok := valid.cycle c before
  have after : t.current 0 = some ({ c with startedAt, phase := next }, plan) :=
    AutomationState.current_some.mpr ⟨found, head⟩
  refine ⟨wired, fun cycle other => (others cycle other).trans (valid.solo cycle other), intervals, book,
    recordingId_at after ▸ accounts, fun slot stands isOpen => ?_, fun now same => ?_⟩
  · rw [found]
    rcases waits slot stands isOpen with ⟨stood, wasOpen⟩ | mine
    · have waiting := valid.waits slot stood wasOpen
      rw [before] at waiting
      exact waiting
    · exact ⟨plan, List.mem_of_mem_head? head, mine.symm⟩
  · cases found.symm.trans same
    refine ⟨ok.plain, ok.apart, ok.due, ok.interval, fun other member => ?_, fun first same => ?_⟩
    · refine tail other (fun equal => ?_) (ok.tail other member)
      obtain ⟨rest, queue⟩ := List.head?_eq_some_iff.mp head
      have apart := ok.apart
      rw [queue, List.map_cons] at apart
      rw [queue, List.tail_cons] at member
      exact (List.nodup_cons.mp apart).1 (equal ▸ List.mem_map_of_mem member)
    · cases head.symm.trans same
      exact phase

/-- A step that touches neither the books nor a cycle. -/
theorem BooksInvariant.same (valid : BooksInvariant s) (wired : Wired t) (book : t.book = s.book)
    (intervals : ∀ row ∈ t.plans, 60 ≤ row.intervalSeconds) (cycles : t.cycles = s.cycles)
    (calls : t.transport.calls 0 = s.transport.calls 0) (returned : t.returned = s.returned) :
    BooksInvariant t := by
  have recording : t.recordingId = s.recordingId := by
    unfold AutomationState.recordingId AutomationState.current
    rw [cycles]
  refine ⟨wired, ?_, intervals, ?_, ?_, ?_, ?_⟩
  · rw [cycles]
    exact valid.solo
  · rw [book]
    exact valid.book
  · rw [book, recording]
    exact valid.accounts
  · rw [book, cycles, returned]
    exact valid.waits
  · rw [book, cycles, calls]
    exact valid.cycle

theorem OpsOk.planned {b : Book} (ok : OpsOk b evaluatedAt plan ops) (valid : b.Valid)
    (fresh : slot.planId ∉ b.slots.map (·.planId)) (plain : ':' ∉ slot.planId.toList) :
    OpsOk (b.plan slot) evaluatedAt plan ops := by
  have clear (before : Clear b plan) : Clear (b.plan slot) plan := by
    intro other stands same isOpen
    obtain ⟨stood, wasOpen⟩ := valid.plan_open fresh plain stands isOpen
    exact before other stood same wasOpen
  cases ok with
  | record stands member forSlot done status id =>
    exact .record (List.mem_append_left _ stands) member forSlot done status id
  | recording before done status id => exact .recording (clear before) done status id
  | move stands shut status moves =>
    exact .move (List.mem_append_left _ stands) shut status moves
  | settle before ends => exact .settle (clear before) ends

theorem PhaseOk.planned {b : Book} (ok : PhaseOk b call evaluatedAt plan phase) (valid : b.Valid)
    (fresh : slot.planId ∉ b.slots.map (·.planId)) (plain : ':' ∉ slot.planId.toList) :
    PhaseOk (b.plan slot) call evaluatedAt plan phase := by
  cases phase with
  | start | lookup | examining => exact List.mem_append_left _ ok
  | reserving | validating | executing => exact ⟨List.mem_append_left _ ok.1, ok.2⟩
  | storing ops => exact OpsOk.planned ok valid fresh plain
  | _ => exact ok

theorem createPlan_ok (h : createPlan snapshot request token now = .ok plan) :
    plan.planId = "bp_auto_" ++ token ∧ 60 ≤ plan.intervalSeconds := by
  simp only [createPlan, bind_eq_ok, raiseIf_ok, exists_const, not_or, not_lt] at h
  obtain ⟨interval, -, -, -, -, -, same⟩ := h
  cases same
  exact ⟨rfl, interval.1⟩

/-- A new plan changes no account. -/
theorem BooksInvariant.planned (valid : BooksInvariant s)
    (wired : Wired { s with plans := s.plans ++ [plan] })
    (h : createPlan snapshot request token now = .ok plan) (token_plain : ':' ∉ token.toList)
    (unused : plan.planId ∉ s.plans.map (·.planId)) :
    BooksInvariant { s with plans := s.plans ++ [plan] } := by
  obtain ⟨id, interval⟩ := createPlan_ok h
  have plain : ':' ∉ plan.slot.planId.toList := by
    simp only [SourceAutomationPlan.slot, id, String.toList_append, List.mem_append]
    exact fun member => member.elim (by decide) token_plain
  have fresh : plan.slot.planId ∉ s.book.slots.map (·.planId) := by
    simpa [AutomationState.book, SourceAutomationPlan.slot] using unused
  have book : { s with plans := s.plans ++ [plan] }.book = s.book.plan plan.slot := by
    simp [AutomationState.book, Book.plan]
  refine ⟨wired, valid.solo, fun row member => ?_, ?_, ?_, fun slot stands isOpen => ?_, fun c found => ?_⟩
  · rcases List.mem_append.mp member with old | new
    · exact valid.intervals row old
    · rw [List.mem_singleton.mp new]
      exact interval
  · rw [book]
    exact valid.book.plan fresh plain
  · rw [book]
    exact valid.accounts.plan valid.book fresh plain
  · rw [book] at stands isOpen
    obtain ⟨stood, wasOpen⟩ := valid.book.plan_open fresh plain stands isOpen
    exact valid.waits slot stood wasOpen
  · have ok := valid.cycle c found
    rw [book]
    exact ⟨ok.plain, ok.apart, ok.due, ok.interval,
      fun other member => List.mem_append_left _ (ok.tail other member),
      fun first head => (ok.phase first head).planned valid.book fresh plain⟩

/-- A worker that stops while it records nothing leaves the slots waiting. -/
theorem BooksInvariant.stop (valid : BooksInvariant s) (wired : Wired (s.stop 0))
    (quiet : s.recordingId = none) : BooksInvariant (s.stop 0) := by
  have idle : (s.stop 0).cycles 0 = none := by simp [AutomationState.stop]
  have accounts := valid.accounts
  rw [quiet] at accounts
  refine ⟨wired, fun cycle other => ?_, valid.intervals, valid.book, ?_, fun slot _ _ => ?_, fun c found => ?_⟩
  · exact (Function.update_of_ne other _ _).trans (valid.solo cycle other)
  · rw [recordingId_none (current_none idle)]
    exact accounts
  · rw [idle]
    rfl
  · rw [idle] at found
    cases found

/-- `run_due` returns: no slot waits any more. -/
theorem BooksInvariant.ended (valid : BooksInvariant s)
    (wired : Wired { s.setCycle 0 none with returned := true }) (found : s.cycles 0 = some c)
    (done : c.queue = []) : BooksInvariant { s.setCycle 0 none with returned := true } := by
  have idle : { s.setCycle 0 none with returned := true }.cycles 0 = none := by
    simp [AutomationState.setCycle]
  have before : s.recordingId = none := recordingId_none (by
    unfold AutomationState.current
    simp [found, done])
  have accounts := valid.accounts
  rw [before] at accounts
  refine ⟨wired, fun cycle other => ?_, valid.intervals, valid.book, ?_, fun slot stands isOpen => ?_,
    fun c found => ?_⟩
  · exact (Function.update_of_ne other _ _).trans (valid.solo cycle other)
  · rw [recordingId_none (current_none idle)]
    exact accounts
  · have waiting := valid.waits slot stands isOpen
    rw [found] at waiting
    obtain ⟨plan, member, -⟩ := waiting
    rw [done] at member
    cases member
  · rw [idle] at found
    cases found

/-- A cycle of the worker begins with every waiting slot in its queue. -/
theorem BooksInvariant.begun (valid : BooksInvariant s) (idle : s.cycles 0 = none)
    (wired : Wired (s.setCycle 0 (some ⟨false, trusted, transports, evaluatedAt,
      duePlans s.plans evaluatedAt limit, evaluatedAt, firstPhase false⟩)))
    (due : ∀ plan ∈ duePlans s.plans evaluatedAt limit, plan.nextRunAt.instant ≤ evaluatedAt.instant)
    (listed : ∀ plan ∈ s.plans, s.completedSlot plan = true → plan ∈ duePlans s.plans evaluatedAt limit) :
    BooksInvariant (s.setCycle 0 (some ⟨false, trusted, transports, evaluatedAt,
      duePlans s.plans evaluatedAt limit, evaluatedAt, firstPhase false⟩)) := by
  have set {c : Cycle} : (s.setCycle 0 (some c)).cycles 0 = some c := by simp [AutomationState.setCycle]
  have stands {plan} (member : plan ∈ duePlans s.plans evaluatedAt limit) : plan.slot ∈ s.book.slots :=
    List.mem_map_of_mem (mem_duePlans member).1
  have accounts := valid.accounts
  rw [recordingId_none (current_none idle)] at accounts
  refine ⟨wired, fun cycle other => ?_, valid.intervals, valid.book, ?_, fun slot member isOpen => ?_,
    fun c found => ?_⟩
  · exact (Function.update_of_ne other _ _).trans (valid.solo cycle other)
  · have quiet : (s.setCycle 0 (some ⟨false, trusted, transports, evaluatedAt,
        duePlans s.plans evaluatedAt limit, evaluatedAt, firstPhase false⟩)).recordingId = none := by
      unfold AutomationState.recordingId AutomationState.current
      rw [set]
      cases head : (duePlans s.plans evaluatedAt limit).head? with
      | none => simp [head]
      | some plan => simp [head, firstPhase, Phase.recordingId]
    rw [quiet]
    exact accounts
  · rw [set]
    obtain ⟨plan, stored, rfl⟩ := List.mem_map.mp member
    exact ⟨plan, listed plan stored (completedSlot_of_open valid.book isOpen), rfl⟩
  · cases set.symm.trans found
    refine ⟨rfl, duePlans_apart valid.wired.plans, due, fun plan member => ?_, fun plan member => ?_,
      fun plan head => ?_⟩
    · exact valid.intervals plan (mem_duePlans member).1
    · exact stands (List.mem_of_mem_tail member)
    · exact stands (List.mem_of_mem_head? head)

/-- A cycle that goes to another phase while the books stay as they are. -/
theorem BooksInvariant.turned (valid : BooksInvariant s) (at_plan : s.current 0 = some (c, plan))
    (wired : Wired (s.setCycle 0 (some { c with startedAt, phase := next })))
    (before : c.phase.recordingId = none) (after : next.recordingId = none)
    (phase : PhaseOk s.book (s.transport.calls 0) c.evaluatedAt plan next) :
    BooksInvariant (s.setCycle 0 (some { c with startedAt, phase := next })) := by
  have accounts := valid.accounts
  rw [recordingId_at at_plan, before, ← after] at accounts
  have found : (s.setCycle 0 (some { c with startedAt, phase := next })).cycles 0 =
      some { c with startedAt, phase := next } := by simp [AutomationState.setCycle]
  exact valid.moved wired at_plan found
    (fun cycle other => Function.update_of_ne other _ _) valid.intervals valid.book accounts
    (fun slot stands isOpen => .inl ⟨stands, isOpen⟩) (fun _ _ stands => stands) phase

/-- The plans that a cycle has not reached are unaffected when it is done with one. -/
theorem BooksInvariant.done (valid : BooksInvariant s) (at_plan : s.current 0 = some (c, plan))
    (phase : c.phase = .storing [])
    (wired : Wired (s.setCycle 0 (some { c with queue := c.queue.tail, phase := firstPhase c.enforcing }))) :
    BooksInvariant (s.setCycle 0 (some
      { c with queue := c.queue.tail, phase := firstPhase c.enforcing })) := by
  obtain ⟨before, head⟩ := AutomationState.current_some.mp at_plan
  obtain ⟨rest, queue⟩ := List.head?_eq_some_iff.mp head
  have ok := valid.cycle c before
  have clear : Clear s.book plan := by
    have ops := ok.phase plan head
    rw [phase] at ops
    cases ops with
    | settle clear => exact clear
  have set {c : Cycle} : (s.setCycle 0 (some c)).cycles 0 = some c := by simp [AutomationState.setCycle]
  have accounts := valid.accounts
  rw [recordingId_at at_plan, phase] at accounts
  refine ⟨wired, fun cycle other => ?_, valid.intervals, valid.book, ?_, fun slot stands isOpen => ?_,
    fun now found => ?_⟩
  · exact (Function.update_of_ne other _ _).trans (valid.solo cycle other)
  · have quiet : (s.setCycle 0 (some
        { c with queue := c.queue.tail, phase := firstPhase c.enforcing })).recordingId = none := by
      unfold AutomationState.recordingId AutomationState.current
      rw [set]
      cases first : c.queue.tail.head? with
      | none => simp [first]
      | some plan => simp [first, ok.plain, firstPhase, Phase.recordingId]
    rw [quiet]
    exact accounts
  · have waiting := valid.waits slot stands isOpen
    rw [before] at waiting
    rw [set]
    obtain ⟨other, member, same⟩ := waiting
    rw [queue] at member
    rcases List.mem_cons.mp member with rfl | later
    · exact absurd isOpen (clear slot stands same.symm)
    · refine ⟨other, ?_, same⟩
      simp only [queue, List.tail_cons]
      exact later
  · cases set.symm.trans found
    have member {other} (member : other ∈ c.queue.tail) : other ∈ c.queue := List.mem_of_mem_tail member
    refine ⟨ok.plain, ?_, fun other queued => ok.due other (member queued),
      fun other queued => ok.interval other (member queued),
      fun other queued => ok.tail other (List.mem_of_mem_tail queued), fun other first => ?_⟩
    · exact ok.apart.sublist ((List.tail_sublist _).map _)
    · simp only [firstPhase, ok.plain]
      exact ok.tail other (List.mem_of_mem_head? first)

/-- A plan that is blocked keeps its slot, which has no completed execution. -/
theorem blockedPlan_ok {b : Book} {plan : SourceAutomationPlan} (valid : b.Valid)
    (stands : plan.slot ∈ b.slots) (shut : ¬b.Open plan.slot) (other : status ≠ .completed) :
    PhaseOk b call evaluatedAt plan (blockedPlan status reservationId code) := by
  refine .settle (valid.clear stands shut) fun op member => ?_
  rcases List.mem_cons.mp member with rfl | member
  · exact .inl rfl
  · rw [List.mem_singleton.mp member]
    exact .inr ⟨_, rfl, other⟩

/-- An execution that is there is recorded as it ended. -/
theorem recordedPlan_ok {b : Book} {plan : SourceAutomationPlan} (valid : b.Valid)
    (stands : plan.slot ∈ b.slots) (member : reservation ∈ b.reservations)
    (forSlot : reservation.For plan.slot) (stored : execution ∈ b.executions)
    (same : execution.reservationId = reservation.reservationId) :
    PhaseOk b call evaluatedAt plan (recordedPlan execution) ∧
      (recordedPlan execution).recordingId = none := by
  have shut (status : execution.status ≠ .completed) : ¬b.Open plan.slot :=
    valid.shut member forSlot (same ▸ valid.not_completed stored status)
  cases status : execution.status with
  | completed =>
    simp only [recordedPlan, status]
    exact ⟨.record stands member forSlot ⟨execution, stored, same, status⟩ rfl (congrArg some same), rfl⟩
  | claimed =>
    simp only [recordedPlan, status]
    exact ⟨blockedPlan_ok valid stands (shut (by simp [status])) (by simp), rfl⟩
  | transportError | captureError =>
    simp only [recordedPlan, status]
    exact ⟨.move stands (shut (by simp [status])) (by simp) (.inl rfl), rfl⟩

/-- A read moves the cycle to a phase that the books agree with. -/
theorem BooksInvariant.read (valid : BooksInvariant s) (at_plan : s.current 0 = some (c, plan))
    (mine : a.cycle = some 0) (good : LedgerKept s a)
    (h : readStep sha256 ed25519 s c plan a = some next)
    (wired : Wired (s.setCycle 0 (some next))) : BooksInvariant (s.setCycle 0 (some next)) := by
  obtain ⟨before, head⟩ := AutomationState.current_some.mp at_plan
  have ok := (valid.cycle c before).phase plan head
  cases a with
  | gate k =>
    simp only [readStep] at h
    split at h
    · rename_i latest phase _
      rw [phase] at ok
      cases ok
    · rename_i phase _
      rw [phase] at ok
      cases ok
    · cases h
  | authorize k now =>
    simp only [readStep] at h
    split at h
    · rename_i latest phase
      rw [phase] at ok
      cases ok
    · cases h
  | start k now =>
    cases mine
    simp only [readStep] at h
    split at h
    · rename_i phase
      cases h
      rw [phase] at ok
      have proceeds := good (c, plan) at_plan
      rcases startPhase_cases s.transport.policies c.transports plan with
        ⟨status, code, blocked, other⟩ | ⟨latest, transport, started, -⟩
      · rw [blocked] at wired proceeds ⊢
        have shut : ¬s.book.Open plan.slot := fun isOpen =>
          Bool.noConfusion (proceeds (completedSlot_of_open valid.book isOpen))
        exact valid.turned at_plan wired (by rw [phase]; rfl) rfl (blockedPlan_ok valid.book ok shut other)
      · rw [started] at wired ⊢
        exact valid.turned at_plan wired (by rw [phase]; rfl) rfl ok
    · cases h
  | lookup k =>
    cases mine
    simp only [readStep] at h
    split at h
    · rename_i latest transport phase
      cases h
      rw [phase] at ok
      cases found : existingReservation s.reservations plan.sourceId plan.requestKey with
      | some reservation =>
        simp only [found] at wired ⊢
        exact valid.turned at_plan wired (by rw [phase]; rfl) rfl ok
      | none =>
        simp only [found] at wired ⊢
        refine valid.turned at_plan wired (by rw [phase]; rfl) rfl ⟨ok, fun reservation member forSlot => ?_⟩
        have absent := List.find?_eq_none.mp found reservation member
        simp only [decide_eq_true_eq] at absent
        exact absent forSlot
    · cases h
  | examine k =>
    cases mine
    simp only [readStep] at h
    split at h
    · rename_i latest transport reservation phase
      cases h
      rw [phase] at ok
      have knows := (valid.wired.owned 0).knows c plan at_plan
      rw [phase] at knows
      cases found : Sql.selectRow (·.reservationId) reservation.reservationId s.transport.executions with
      | some execution =>
        simp only [found] at wired ⊢
        obtain ⟨stored, same⟩ := Sql.selectRow_mem found
        have forSlot : reservation.For plan.slot := ⟨knows.2.source, knows.2.key, knows.2.attempt⟩
        obtain ⟨recorded, quiet⟩ := recordedPlan_ok valid.book ok knows.1 forSlot stored same
        exact valid.turned at_plan wired (by rw [phase]; rfl) quiet recorded
      | none =>
        simp only [found] at wired ⊢
        exact valid.turned at_plan wired (by rw [phase]; rfl) rfl ⟨ok, Sql.selectRow_none.mp found⟩
    · cases h
  | next k =>
    cases mine
    simp only [readStep] at h
    split at h
    · rename_i phase
      cases h
      exact valid.done at_plan phase wired
    · cases h
  | _ => cases h

/-- A plan whose reservation is declined moves past the time of evaluation. -/
theorem deferredPlan_ok {b : Book} {plan : SourceAutomationPlan} (stands : plan.slot ∈ b.slots)
    (shut : ¬b.Open plan.slot) (later : ∀ time, decision.nextAllowedAt = some time →
      evaluatedAt.instant < time.instant) :
    PhaseOk b call evaluatedAt plan (deferredPlan decision) ∧
      (deferredPlan decision).recordingId = none := by
  unfold deferredPlan
  cases next : decision.nextAllowedAt with
  | none => exact ⟨.move stands shut (by simp) (.inl rfl), rfl⟩
  | some time => exact ⟨.move stands shut (by simp) (.inr ⟨time, rfl, later time next⟩), rfl⟩

theorem BooksInvariant.declined (valid : BooksInvariant s) (at_plan : s.current 0 = some (c, plan))
    (phase : c.phase = .reserving latest transport)
    (later : ∀ time, decision.nextAllowedAt = some time → c.evaluatedAt.instant < time.instant)
    (wired : Wired (s.setPhase 0 c (deferredPlan decision))) :
    BooksInvariant (s.setPhase 0 c (deferredPlan decision)) := by
  obtain ⟨before, head⟩ := AutomationState.current_some.mp at_plan
  have ok := (valid.cycle c before).phase plan head
  rw [phase] at ok
  have shut : ¬s.book.Open plan.slot := by
    rintro ⟨reservation, member, forSlot, -⟩
    exact ok.2 reservation member forSlot
  obtain ⟨deferred, quiet⟩ := deferredPlan_ok ok.1 shut later
  exact valid.turned at_plan wired (by rw [phase]; rfl) quiet deferred

theorem BooksInvariant.reserved (valid : BooksInvariant s) (at_plan : s.current 0 = some (c, plan))
    (phase : c.phase = .reserving latest transport)
    (fresh : FreshReservation s.reservations reservation)
    (source : reservation.sourceId = latest.policy.sourceId)
    (key : reservation.requestKey = plan.requestKey) (attempt : reservation.attempt = 1)
    (wired : Wired ({ s with reservations := s.reservations ++ [reservation] }.setPhase 0 c
      (.examining latest transport reservation))) :
    BooksInvariant ({ s with reservations := s.reservations ++ [reservation] }.setPhase 0 c
      (.examining latest transport reservation)) := by
  obtain ⟨before, head⟩ := AutomationState.current_some.mp at_plan
  have ok := (valid.cycle c before).phase plan head
  have knows := (valid.wired.owned 0).knows c plan at_plan
  rw [phase] at ok knows
  have forSlot : reservation.For plan.slot := ⟨source.trans knows, key, attempt⟩
  have accounts := valid.accounts
  rw [recordingId_at at_plan, phase] at accounts
  have found : ({ s with reservations := s.reservations ++ [reservation] }.setPhase 0 c
      (.examining latest transport reservation)).cycles 0 =
        some { c with startedAt := c.startedAt, phase := .examining latest transport reservation } := by
    simp [AutomationState.setPhase, AutomationState.setCycle]
  exact valid.moved wired at_plan found (fun cycle other => Function.update_of_ne other _ _)
    valid.intervals (valid.book.reserve fresh ok.1 forSlot) (accounts.reserve valid.book fresh)
    (fun slot stands isOpen => .inl ⟨stands, valid.book.reserve_open fresh isOpen⟩)
    (fun _ _ stands => stands) ok.1

/-- The begin of `execute` finds the reservation unclaimed. -/
theorem BooksInvariant.executes (valid : BooksInvariant s) (at_plan : s.current 0 = some (c, plan))
    (phase : c.phase = .validating latest identity reservation)
    (h : transportStep sha256 validate .sqlite s.transport
      (.execute 0 latest reservation identity none startedAt) = some transport)
    (wired : Wired ({ s with transport }.setPhase 0 c (.executing reservation))) :
    BooksInvariant ({ s with transport }.setPhase 0 c (.executing reservation)) := by
  obtain ⟨before, head⟩ := AutomationState.current_some.mp at_plan
  have ok := (valid.cycle c before).phase plan head
  rw [phase] at ok
  obtain ⟨executions, calls⟩ := transportStep_execute h
  have book : ({ s with transport }.setPhase 0 c (.executing reservation)).book = s.book := by
    simp only [AutomationState.book, AutomationState.setPhase, AutomationState.setCycle, executions]
  have accounts := valid.accounts
  rw [recordingId_at at_plan, phase] at accounts
  have found : ({ s with transport }.setPhase 0 c (.executing reservation)).cycles 0 =
      some { c with startedAt := c.startedAt, phase := .executing reservation } := by
    simp [AutomationState.setPhase, AutomationState.setCycle]
  refine valid.moved wired at_plan found (fun cycle other => Function.update_of_ne other _ _)
    valid.intervals ?_ ?_ (fun slot stands isOpen => .inl ?_) (fun _ _ stands => ?_) ?_
  · rw [book]
    exact valid.book
  · rw [book]
    exact accounts
  · rw [book] at stands isOpen
    exact ⟨stands, isOpen⟩
  · rw [book]
    exact stands
  · rw [book]
    refine ⟨ok.1, fun call same => ?_⟩
    rcases calls with raised | ⟨current, provenance, claiming⟩
    · cases raised.symm.trans same
      exact Book.not_completed_of_absent ok.2
    · cases claiming.symm.trans same
      exact ok.2

/-- What is known of a worker whose `execute` call is in flight. -/
structure Executing (s : AutomationState) (c : Cycle) (plan : SourceAutomationPlan)
    (reservation : SourceRequestReservation) : Prop where
  at_plan : s.current 0 = some (c, plan)
  phase : c.phase = .executing reservation
  stands : plan.slot ∈ s.book.slots
  member : reservation ∈ s.book.reservations
  forSlot : reservation.For plan.slot
  call : ∀ found, s.transport.calls 0 = some found →
    found.serves reservation ∧ CallOk s.book reservation found

theorem BooksInvariant.executing (valid : BooksInvariant s) (at_plan : s.current 0 = some (c, plan))
    (phase : c.phase = .executing reservation) : Executing s c plan reservation := by
  obtain ⟨before, head⟩ := AutomationState.current_some.mp at_plan
  have ok := (valid.cycle c before).phase plan head
  have knows := (valid.wired.owned 0).knows c plan at_plan
  rw [phase] at ok knows
  refine ⟨at_plan, phase, ok.1, knows.1, ⟨knows.2.source, knows.2.key, knows.2.attempt⟩,
    fun found same => ⟨?_, ok.2 found same⟩⟩
  obtain ⟨_, _, own, now, executing, serves⟩ := (valid.wired.owned 0).call found same
  cases at_plan.symm.trans now
  cases phase.symm.trans executing
  exact serves

/-- A step of `execute` that leaves the books in order. -/
theorem BooksInvariant.ran (valid : BooksInvariant s) (runs : Executing s c plan reservation)
    (wired : Wired { s with transport, slotSends, claims })
    (book : (s.book.execute transport.executions).Valid)
    (accounts : s.book.Accounts none → (s.book.execute transport.executions).Accounts none)
    (waits : ∀ slot ∈ s.book.slots, (s.book.execute transport.executions).Open slot →
      s.book.Open slot ∨ slot.planId = plan.planId)
    (call : ∀ found ∈ transport.calls 0, CallOk (s.book.execute transport.executions) reservation found) :
    BooksInvariant { s with transport, slotSends, claims } := by
  obtain ⟨before, head⟩ := AutomationState.current_some.mp runs.at_plan
  have same : c = { c with startedAt := c.startedAt, phase := .executing reservation } := by
    rw [← runs.phase]
  have before_accounts := valid.accounts
  rw [recordingId_at runs.at_plan, runs.phase] at before_accounts
  have found : { s with transport, slotSends, claims }.cycles 0 =
      some { c with startedAt := c.startedAt, phase := .executing reservation } := before.trans (congrArg some same)
  exact valid.moved wired runs.at_plan found (fun _ _ => rfl) valid.intervals book
    (accounts before_accounts)
    (fun slot stands isOpen => (waits slot stands isOpen).imp_left fun wasOpen => ⟨stands, wasOpen⟩)
    (fun _ _ stands => stands) ⟨runs.stands, call⟩

/-- A step of `execute` that leaves the executions as they are. -/
theorem BooksInvariant.ranQuiet (valid : BooksInvariant s) (runs : Executing s c plan reservation)
    (wired : Wired { s with transport, slotSends, claims })
    (executions : transport.executions = s.transport.executions)
    (call : ∀ found ∈ transport.calls 0, CallOk s.book reservation found) :
    BooksInvariant { s with transport, slotSends, claims } := by
  have book : s.book.execute transport.executions = s.book := by
    rw [executions]
    rfl
  refine valid.ran runs wired ?_ ?_ ?_ ?_ <;> rw [book]
  · exact valid.book
  · exact id
  · exact fun slot _ isOpen => .inl isOpen
  · exact call

theorem BooksInvariant.claimed (valid : BooksInvariant s) (runs : Executing s c plan reservation)
    (h : transportStep sha256 validate .sqlite s.transport (.claim 0) = some transport)
    (wired : Wired { s with transport, slotSends, claims }) :
    BooksInvariant { s with transport, slotSends, claims } := by
  obtain ⟨current, own, provenance, maxBytes, startedAt, found, ⟨fresh, executions, sending⟩ | ⟨taken, -⟩⟩ :=
    transportStep_claim h
  · obtain ⟨serves, -⟩ := runs.call _ found
    have serves : own = reservation := serves
    subst serves
    have status : (claimedRow own provenance startedAt).status ≠ .completed := by simp [claimedRow]
    refine valid.ran runs wired ?_ ?_ (fun slot stands isOpen => .inl ?_) fun call same => ?_
    · rw [executions]
      exact valid.book.claim fresh (List.mem_map_of_mem runs.member) status
    · rw [executions]
      exact fun accounts => accounts.claim status
    · rw [executions] at isOpen
      obtain ⟨other, member, forSlot, completed⟩ := isOpen
      exact ⟨other, member, forSlot, (Book.claim_completed status).mp completed⟩
    · rw [executions]
      cases sending.symm.trans same
      exact ⟨claimedRow own provenance startedAt, List.mem_append_right _ (List.mem_singleton_self _),
        rfl, status⟩
  · obtain ⟨serves, absent⟩ := runs.call _ found
    have serves : own = reservation := serves
    subst serves
    exact absurd taken absent

theorem BooksInvariant.finished (valid : BooksInvariant s) (runs : Executing s c plan reservation)
    (h : transportStep sha256 validate .sqlite s.transport (.finish 0 time) = some transport)
    (wired : Wired { s with transport, slotSends, claims }) :
    BooksInvariant { s with transport, slotSends, claims } := by
  obtain ⟨reservationId, status, receiptId, errorCode, found, executions, ended⟩ := transportStep_finish h
  obtain ⟨serves, ⟨row, stored, same, open_⟩, outcome⟩ := runs.call _ found
  have serves : reservationId = reservation.reservationId := serves
  rw [serves, ← same] at executions
  have completed {id} := @Book.Valid.finish_completed s.book row receiptId errorCode time id status
    valid.book stored open_
  have here : s.book.At row.reservationId :=
    ⟨reservation, runs.member, same.symm, plan.slot, runs.stands, runs.forSlot⟩
  refine valid.ran runs wired ?_ ?_ (fun slot stands isOpen => ?_) fun call now => ?_
  · rw [executions]
    exact valid.book.finish stored open_
  · rw [executions]
    exact fun accounts => accounts.finish valid.book stored open_ here
  · rw [executions] at isOpen
    obtain ⟨other, member, forSlot, done⟩ := isOpen
    rcases completed.mp done with old | ⟨id, -⟩
    · exact .inl ⟨other, member, forSlot, old⟩
    · have other_eq : other = reservation := valid.book.ids.eq member runs.member (id.trans same)
      rw [other_eq] at forSlot
      exact .inr (congrArg Slot.planId (valid.book.slot_eq stands runs.stands forSlot runs.forSlot))
  · rw [executions]
    cases receiptId with
    | some receipt =>
      cases ended.symm.trans now
      exact completed.mpr (.inr ⟨same.symm, outcome.mpr rfl⟩)
    | none =>
      cases ended.symm.trans now
      intro done
      rcases completed.mp done with old | ⟨-, good⟩
      · exact valid.book.not_completed stored open_ (same ▸ old)
      · cases outcome.mp good

theorem BooksInvariant.executor (valid : BooksInvariant s) (at_plan : s.current 0 = some (c, plan))
    (phase : c.phase = .executing reservation)
    (h : transportStep sha256 validate .sqlite s.transport (ExecutorStep.action step 0) = some transport)
    (wired : Wired { s with transport, slotSends, claims }) :
    BooksInvariant { s with transport, slotSends, claims } := by
  have runs := valid.executing at_plan phase
  cases step with
  | claim => exact valid.claimed runs h wired
  | send responds =>
    obtain ⟨request, found, executions, next⟩ := transportStep_send h
    have row := (runs.call _ found).2
    refine valid.ranQuiet runs wired executions fun call now => ?_
    rcases next with captures | fails
    · cases captures.symm.trans now
      exact row
    · cases fails.symm.trans now
      exact ⟨row, by simp⟩
  | capture receipt =>
    obtain ⟨request, found, executions, status, receiptId, errorCode, next, outcome⟩ :=
      transportStep_capture h
    have row := (runs.call _ found).2
    refine valid.ranQuiet runs wired executions fun call now => ?_
    cases next.symm.trans now
    exact ⟨row, outcome⟩
  | finish time => exact valid.finished runs h wired

/-- The worker takes up the outcome of its `execute` call. -/
theorem BooksInvariant.collects (valid : BooksInvariant s) (runs : Executing s c plan reservation)
    (ok : OpsOk s.book c.evaluatedAt plan [.advance, .addRun draft])
    (wired : Wired ({ s with transport := s.transport.setCall 0 none }.setPhase 0 c
      (.storing [.advance, .addRun draft]))) :
    BooksInvariant ({ s with transport := s.transport.setCall 0 none }.setPhase 0 c
      (.storing [.advance, .addRun draft])) := by
  have accounts := valid.accounts
  rw [recordingId_at runs.at_plan, runs.phase] at accounts
  have found : ({ s with transport := s.transport.setCall 0 none }.setPhase 0 c
      (.storing [.advance, .addRun draft])).cycles 0 =
        some { c with startedAt := c.startedAt, phase := .storing [.advance, .addRun draft] } := by
    simp [AutomationState.setPhase, AutomationState.setCycle]
  exact valid.moved wired runs.at_plan found (fun cycle other => Function.update_of_ne other _ _)
    valid.intervals valid.book accounts (fun slot stands isOpen => .inl ⟨stands, isOpen⟩)
    (fun _ _ stands => stands) ok

/-- A write that moves the plan past the time of evaluation. -/
theorem BooksInvariant.moves (valid : BooksInvariant s) (at_plan : s.current 0 = some (c, plan))
    (stands : plan.slot ∈ s.book.slots) (later : c.evaluatedAt.instant < time.instant)
    (accounts : (s.book.move plan.planId time).Accounts (Phase.storing ops).recordingId)
    (ok : OpsOk (s.book.move plan.planId time) c.evaluatedAt plan ops)
    (wired : Wired ({ s with plans := deferPlan s.plans plan.planId time now }.setPhase 0 c (.storing ops))) :
    BooksInvariant ({ s with plans := deferPlan s.plans plan.planId time now }.setPhase 0 c
      (.storing ops)) := by
  obtain ⟨before, head⟩ := AutomationState.current_some.mp at_plan
  have due := (valid.cycle c before).due plan (List.mem_of_mem_head? head)
  have after : plan.slot.time.instant < time.instant := lt_of_le_of_lt due later
  have book : ({ s with plans := deferPlan s.plans plan.planId time now }.setPhase 0 c
      (.storing ops)).book = s.book.move plan.planId time := by
    simp only [AutomationState.book, AutomationState.setPhase, AutomationState.setCycle, deferPlan_slots,
      Book.move]
  have found : ({ s with plans := deferPlan s.plans plan.planId time now }.setPhase 0 c
      (.storing ops)).cycles 0 = some { c with startedAt := c.startedAt, phase := .storing ops } := by
    simp [AutomationState.setPhase, AutomationState.setCycle]
  refine valid.moved wired at_plan found (fun cycle other => Function.update_of_ne other _ _)
    (intervals_updateRow (fun _ => rfl) valid.intervals) ?_ ?_ (fun slot moved isOpen => .inl ?_)
    (fun other different stood => ?_) ?_
  · rw [book]
    exact valid.book.move stands after
  · rw [book]
    exact accounts
  · rw [book] at moved isOpen
    obtain ⟨stood, -, wasOpen⟩ := valid.book.move_open stands after moved isOpen
    exact ⟨stood, wasOpen⟩
  · rw [book]
    exact List.mem_map.mpr ⟨other.slot, stood, if_neg different⟩
  · rw [book]
    exact ok

/-- After a move the plan's slot has no completed execution. -/
theorem BooksInvariant.clear_moved (valid : BooksInvariant s) (before : s.cycles 0 = some c)
    (head : c.queue.head? = some plan) (stands : plan.slot ∈ s.book.slots)
    (later : c.evaluatedAt.instant < time.instant) : Clear (s.book.move plan.planId time) plan := by
  have due := (valid.cycle c before).due plan (List.mem_of_mem_head? head)
  intro slot moved same isOpen
  exact (valid.book.move_open stands (lt_of_le_of_lt due later) moved isOpen).2.1 same

/-- A write to the run ledger. -/
theorem BooksInvariant.adds (valid : BooksInvariant s) (at_plan : s.current 0 = some (c, plan))
    (done : ∀ reservationId, run.status = .completed → run.reservationId = some reservationId →
      s.book.Completed reservationId)
    (accounts : (s.book.record run).Accounts (Phase.storing ops).recordingId)
    (ok : OpsOk (s.book.record run) c.evaluatedAt plan ops)
    (wired : Wired ({ s with runs := s.runs ++ [run] }.setPhase 0 c (.storing ops))) :
    BooksInvariant ({ s with runs := s.runs ++ [run] }.setPhase 0 c (.storing ops)) := by
  have found : ({ s with runs := s.runs ++ [run] }.setPhase 0 c (.storing ops)).cycles 0 =
      some { c with startedAt := c.startedAt, phase := .storing ops } := by
    simp [AutomationState.setPhase, AutomationState.setCycle]
  exact valid.moved wired at_plan found (fun cycle other => Function.update_of_ne other _ _)
    valid.intervals (valid.book.record done) accounts (fun slot stands isOpen => .inl ⟨stands, isOpen⟩)
    (fun _ _ stands => stands) ok

/-- A write that disables the plan. -/
theorem BooksInvariant.disables (valid : BooksInvariant s) (at_plan : s.current 0 = some (c, plan))
    (accounts : s.book.Accounts (Phase.storing ops).recordingId)
    (ok : OpsOk s.book c.evaluatedAt plan ops)
    (wired : Wired ({ s with plans := setEnabled s.plans plan.planId false now }.setPhase 0 c
      (.storing ops))) :
    BooksInvariant ({ s with plans := setEnabled s.plans plan.planId false now }.setPhase 0 c
      (.storing ops)) := by
  have book : ({ s with plans := setEnabled s.plans plan.planId false now }.setPhase 0 c
      (.storing ops)).book = s.book := by
    simp only [AutomationState.book, AutomationState.setPhase, AutomationState.setCycle, setEnabled_slots]
  have found : ({ s with plans := setEnabled s.plans plan.planId false now }.setPhase 0 c
      (.storing ops)).cycles 0 = some { c with startedAt := c.startedAt, phase := .storing ops } := by
    simp [AutomationState.setPhase, AutomationState.setCycle]
  refine valid.moved wired at_plan found (fun cycle other => Function.update_of_ne other _ _)
    (intervals_updateRow (fun _ => rfl) valid.intervals) ?_ ?_ (fun slot stands isOpen => .inl ?_)
    (fun _ _ stands => ?_) ?_
  · rw [book]
    exact valid.book
  · rw [book]
    exact accounts
  · rw [book] at stands isOpen
    exact ⟨stands, isOpen⟩
  · rw [book]
    exact stands
  · rw [book]
    exact ok

/-- Writes without a COMPLETED run record nothing. -/
theorem recordingId_plain (plain : ∀ op ∈ ops, op = StoreOp.disable ∨
    ∃ draft, op = .addRun draft ∧ draft.status ≠ .completed) : (Phase.storing ops).recordingId = none := by
  cases ops with
  | nil => rfl
  | cons op rest =>
    rcases plain op List.mem_cons_self with rfl | ⟨draft, rfl, status⟩
    · rfl
    · cases rest with
      | nil => simp [Phase.recordingId, status]
      | cons => rfl

theorem applyOp_advance (h : applyOp plans runs c plan runId now .advance = .ok (after, runs')) :
    ∃ next, advanced plan c.evaluatedAt = .ok next ∧
      after = deferPlan plans plan.planId next now ∧ runs' = runs := by
  obtain ⟨next, moved, h⟩ := bind_ok h
  cases h
  exact ⟨next, moved, rfl, rfl⟩

theorem applyOp_addRun (h : applyOp plans runs c plan runId now (.addRun draft) = .ok (after, runs')) :
    after = plans ∧ runs' = runs ++ [newRun c plan draft runId now] := by
  simp only [applyOp] at h
  split at h
  · cases h
  · rename_i inserted
    cases h
    exact ⟨rfl, (Sql.insertRow_some.mp inserted).2⟩

/-- A write of `_run_plan` keeps the books, whichever of its paths it belongs to. -/
theorem BooksInvariant.stored (valid : BooksInvariant s) (at_plan : s.current 0 = some (c, plan))
    (phase : c.phase = .storing (op :: ops))
    (h : applyOp s.plans s.runs c plan runId now op = .ok (plans, runs))
    (wired : Wired ({ s with plans, runs }.setPhase 0 c (.storing ops))) :
    BooksInvariant ({ s with plans, runs }.setPhase 0 c (.storing ops)) := by
  obtain ⟨before, head⟩ := AutomationState.current_some.mp at_plan
  have cycle := valid.cycle c before
  have ok := cycle.phase plan head
  have interval := cycle.interval plan (List.mem_of_mem_head? head)
  have accounts := valid.accounts
  rw [recordingId_at at_plan, phase] at accounts
  rw [phase] at ok
  cases ok with
  | record stands member forSlot done status id =>
    obtain ⟨next, moved, rfl, rfl⟩ := applyOp_advance h
    have later := advanced_after interval moved
    have due := lt_of_le_of_lt (cycle.due plan (List.mem_of_mem_head? head)) later
    have recording := accounts.record valid.book stands due member forSlot
    have after : (Phase.storing [.addRun _]).recordingId = some _ := (if_pos status).trans id
    rw [← after] at recording
    exact valid.moves at_plan stands later recording
      (.recording (valid.clear_moved before head stands later) done status id) wired
  | recording clear done status id =>
    obtain ⟨rfl, rfl⟩ := applyOp_addRun h
    have now : (Phase.storing [.addRun _]).recordingId = some _ := (if_pos status).trans id
    rw [now] at accounts
    refine valid.adds at_plan (fun other _ same => ?_) (accounts.settle status id)
      (.settle clear (by simp)) wired
    cases id.symm.trans same
    exact done
  | move stands shut status moves =>
    have after : (Phase.storing [.addRun _]).recordingId = none := if_neg status
    have ends {time : Datetime} (later : c.evaluatedAt.instant < time.instant) :
        OpsOk (s.book.move plan.planId time) c.evaluatedAt plan [.addRun _] :=
      .settle (valid.clear_moved before head stands later) fun op member =>
        .inr ⟨_, List.mem_singleton.mp member, status⟩
    have due := cycle.due plan (List.mem_of_mem_head? head)
    rcases moves with rfl | ⟨time, rfl, later⟩
    · obtain ⟨next, moved, rfl, rfl⟩ := applyOp_advance h
      have later := advanced_after interval moved
      have left := Book.Accounts.move accounts valid.book stands (lt_of_le_of_lt due later) shut
      rw [← after] at left
      exact valid.moves at_plan stands later left (ends later) wired
    · cases h
      have left := Book.Accounts.move accounts valid.book stands (lt_of_le_of_lt due later) shut
      rw [← after] at left
      exact valid.moves at_plan stands later left (ends later) wired
  | settle clear plain =>
    rw [recordingId_plain plain] at accounts
    have rest : ∀ other ∈ ops, other = StoreOp.disable ∨
        ∃ draft, other = .addRun draft ∧ draft.status ≠ .completed :=
      fun other member => plain other (List.mem_cons_of_mem _ member)
    rw [← recordingId_plain rest] at accounts
    rcases plain op List.mem_cons_self with rfl | ⟨draft, rfl, status⟩
    · cases h
      exact valid.disables at_plan accounts (.settle clear rest) wired
    · obtain ⟨rfl, rfl⟩ := applyOp_addRun h
      exact valid.adds at_plan (fun _ completed _ => absurd completed status)
        (accounts.pass status) (.settle clear rest) wired

theorem recordingId_quiet {phase : Phase} (quiet : phase.recording = false) :
    phase.recordingId = none := by
  unfold Phase.recording at quiet
  unfold Phase.recordingId
  split at quiet
  · exact if_neg (of_decide_eq_false quiet)
  · rfl

/-- A write that fails is not the record of a completed execution. -/
theorem storeFailed_quiet {phase : Phase} (fresh : phase.recording = true → runId ∉ runs.map (·.runId))
    (storing : phase = .storing (op :: ops))
    (h : applyOp plans runs c plan runId now op = .error error) : phase.recordingId = none := by
  cases recording : phase.recording with
  | false => exact recordingId_quiet recording
  | true =>
    have unused := fresh recording
    subst storing
    unfold Phase.recording at recording
    split at recording
    · rename_i draft same
      cases same
      simp only [applyOp] at h
      split at h
      · rename_i taken
        exact absurd (Sql.insertRow_none.mp taken) unused
      · cases h
    · cases recording

theorem initial_ledger : BooksInvariant .initial := by
  refine ⟨initial_wired, fun _ _ => rfl, by simp [AutomationState.initial], ?_, ?_, ?_, ?_⟩
  · constructor <;>
      simp [AutomationState.initial, AutomationState.book, TransportState.initial, Sql.Unique]
  · rintro _ ⟨row, member, -⟩
    cases member
  · intro slot stands
    cases stands
  · intro c found
    cases found

/-- Every step of one worker keeps the books, on the condition. -/
theorem Effect.ledger (effect : Effect sha256 ed25519 validate s a t) (valid : BooksInvariant s)
    (solo : Solo a) (good : LedgerKept s a) : BooksInvariant t := by
  have wired := effect.wired valid.wired
  cases effect with
  | appended | approving | approved | refused =>
    exact valid.same wired rfl valid.intervals rfl rfl rfl
  | planned h stored plain fresh => exact valid.planned wired h plain fresh
  | enabled =>
    refine valid.same wired ?_ (intervals_updateRow (fun _ => rfl) valid.intervals) rfl rfl rfl
    simp only [AutomationState.book, setEnabled_slots]
  | begun idle =>
    obtain ⟨rfl, rfl⟩ := solo
    exact valid.begun idle wired good.1 good.2
  | ended found done =>
    cases solo.owner rfl
    exact valid.ended wired found done
  | aborted =>
    cases solo.owner rfl
    refine valid.stop wired ?_
    cases at_plan : s.current 0 with
    | none => exact recordingId_none at_plan
    | some found =>
      rw [recordingId_at at_plan]
      exact recordingId_quiet (good found.1 (AutomationState.current_some.mp at_plan).1)
  | read at_plan mine h =>
    cases solo.owner (AutomationAction.owner_of_cycle mine)
    exact valid.read at_plan mine good h wired
  | reserveFailed at_plan phase =>
    cases solo.owner rfl
    refine valid.stop wired ?_
    rw [recordingId_at at_plan, phase]
    rfl
  | declined at_plan phase later =>
    cases solo.owner rfl
    exact valid.declined at_plan phase later wired
  | reserved at_plan phase fresh source key attempt =>
    cases solo.owner rfl
    exact valid.reserved at_plan phase fresh source key attempt wired
  | executes at_plan phase h =>
    cases solo.owner rfl
    exact valid.executes at_plan phase h wired
  | executor at_plan phase h =>
    cases solo.owner rfl
    exact valid.executor at_plan phase h wired
  | collected at_plan phase call =>
    cases solo.owner rfl
    have runs := valid.executing at_plan phase
    exact valid.collects runs
      (.record runs.stands runs.member runs.forSlot (runs.call _ call).2 rfl rfl) wired
  | failed at_plan phase call =>
    cases solo.owner rfl
    have runs := valid.executing at_plan phase
    have shut := valid.book.shut runs.member runs.forSlot (runs.call _ call).2
    exact valid.collects runs (.move runs.stands shut (by simp) (.inl rfl)) wired
  | stored at_plan phase h =>
    cases solo.owner rfl
    exact valid.stored at_plan phase h wired
  | storeFailed at_plan phase h =>
    cases solo.owner rfl
    refine valid.stop wired ?_
    rw [recordingId_at at_plan]
    exact storeFailed_quiet (good _ (AutomationState.current_some.mp at_plan).1) phase h

/-- In every history of one worker that meets the condition, once a `run_due` has returned,
every completed execution has exactly one COMPLETED run. -/
theorem run_recordedOnce {actions : List AutomationAction} {s : AutomationState}
    (solo : ∀ a ∈ actions, Solo a)
    (kept : Transition.Meets (automationStep sha256 ed25519 validate) LedgerKept .initial actions)
    (reached : Transition.run (automationStep sha256 ed25519 validate) .initial actions = some s)
    (idle : s.cycles 0 = none) (returned : s.returned = true) :
    ∀ row ∈ s.transport.executions, row.status = .completed →
      completedRuns s.runs row.reservationId = 1 := by
  have valid : BooksInvariant s := Transition.run_invariant
    (fun _ _ _ valid good step => (automationStep_effect step).ledger valid good.1 good.2)
    initial_ledger (kept.and solo) reached
  intro row member status
  have completed : s.book.Completed row.reservationId := ⟨row, member, rfl, status⟩
  have accounts := valid.accounts
  rw [recordingId_none (current_none idle)] at accounts
  rcases accounts row.reservationId completed with ⟨one, -⟩ | ⟨-, here, -⟩ | ⟨-, -, recording⟩
  · exact one
  · obtain ⟨reservation, stored, id, slot, stands, forSlot⟩ := here
    have waiting := valid.waits slot stands ⟨reservation, stored, forSlot, id ▸ completed⟩
    rw [idle] at waiting
    exact absurd returned (by rw [show s.returned = false from waiting]; simp)
  · cases recording

/-- A policy and one plan for it. -/
def onePlan : List AutomationAction := [
  .appendPolicy samplePolicy "bp_pol_1" noon, .createPlan firstSnapshot samplePlanRequest "0" noon]

/-- A cycle from its begin to the end of a completed execution. -/
def completedExecution : List AutomationAction := [
  sampleRunDue 0 false none noon, .start 0 noon, .lookup 0, .reserve 0 [] "r0", .examine 0,
  .execute 0 noon, .executor 0 .claim, .executor 0 (.send true), .executor 0 (.capture (some "receipt")),
  .executor 0 (.finish noon)]

/-- A cycle that finds the execution completed and records it. -/
def recoveredCycle : List AutomationAction := [
  sampleRunDue 0 false none minuteLater, .start 0 minuteLater, .lookup 0, .examine 0,
  .store 0 "run0" minuteLater, .store 0 "run0" minuteLater, .next 0, .finish 0]

/-- The worker stops after the end of the execution; the next cycle records it. -/
def stoppedBeforeAdvance : List AutomationAction :=
  onePlan ++ completedExecution ++ [.abort 0] ++ recoveredCycle

theorem stoppedBeforeAdvance_recordedOnce : ∃ s,
    Transition.run (automationStep headChecksum headEd25519 (fun _ _ _ => none)) .initial
      stoppedBeforeAdvance = some s ∧
    s.transport.executions.length = 1 ∧ ∀ row ∈ s.transport.executions, row.status = .completed →
      completedRuns s.runs row.reservationId = 1 := by
  obtain ⟨s, reached, ends⟩ := @Transition.run_test _ _
    (automationStep headChecksum headEd25519 (fun _ _ _ => none)) .initial stoppedBeforeAdvance
    (fun s => s.cycles 0 = none ∧ s.returned = true ∧ s.transport.executions.length = 1)
    (by decide +kernel)
  simp only [decide_eq_true_eq] at ends
  refine ⟨s, reached, ends.2.2, run_recordedOnce ?_ (by decide +kernel) reached ends.1 ends.2.1⟩
  simp [stoppedBeforeAdvance, onePlan, completedExecution, recoveredCycle, sampleRunDue, Solo,
    AutomationAction.owner, AutomationAction.cycle]

/-- The worker stops after the move of the plan; the next cycle is at the next slot. -/
def stoppedBeforeAddRun : List AutomationAction :=
  onePlan ++ completedExecution ++ [.collect 0, .store 0 "run0" noon, .abort 0,
    sampleRunDue 0 false none noon, .finish 0]

theorem stoppedBeforeAddRun_unrecorded : ∃ s,
    Transition.run (automationStep headChecksum headEd25519 (fun _ _ _ => none)) .initial
      stoppedBeforeAddRun = some s ∧
    (∀ a ∈ stoppedBeforeAddRun, Solo a) ∧ s.cycles 0 = none ∧ s.returned = true ∧
    ∃ row ∈ s.transport.executions, row.status = .completed ∧
      completedRuns s.runs row.reservationId = 0 := by
  obtain ⟨s, reached, ends⟩ := @Transition.run_test _ _
    (automationStep headChecksum headEd25519 (fun _ _ _ => none)) .initial stoppedBeforeAddRun
    (fun s => s.cycles 0 = none ∧ s.returned = true ∧ ∃ row ∈ s.transport.executions,
      row.status = .completed ∧ completedRuns s.runs row.reservationId = 0) (by decide +kernel)
  simp only [decide_eq_true_eq] at ends
  refine ⟨s, reached, ?_, ends⟩
  simp [stoppedBeforeAddRun, onePlan, completedExecution, sampleRunDue, Solo, AutomationAction.owner,
    AutomationAction.cycle]

end BallotProof
