import BallotProof.AutomationSlots

/-! The books of acquisition: the slot that each plan stands at, the reservations made for
slots, their executions, and the run ledger. Each completed execution is recorded once,
waits at its plan's slot, or is being recorded. -/
namespace BallotProof
open Python

/-- The slot that a plan stands at. -/
structure Slot where
  planId : String
  sourceId : String
  time : Datetime
  deriving DecidableEq

def SourceAutomationPlan.slot (plan : SourceAutomationPlan) : Slot :=
  ⟨plan.planId, plan.sourceId, plan.nextRunAt⟩

/-- The request key of a slot. -/
def slotKey (planId : String) (time : Datetime) : String := planId ++ ":" ++ time.isoformat

/-- The reservation is the first attempt for the slot. -/
def SourceRequestReservation.For (reservation : SourceRequestReservation) (slot : Slot) : Prop :=
  reservation.sourceId = slot.sourceId ∧ reservation.requestKey = slotKey slot.planId slot.time ∧
    reservation.attempt = 1

/-- A text without the separator before it. -/
theorem separated_injective {a b x y : List Char} (left : ':' ∉ a) (right : ':' ∉ b)
    (same : a ++ ':' :: x = b ++ ':' :: y) : a = b ∧ x = y := by
  induction a generalizing b with
  | nil =>
    cases b with
    | nil => exact ⟨rfl, (List.cons.inj same).2⟩
    | cons c b => exact absurd ((List.cons.inj same).1 ▸ List.mem_cons_self) right
  | cons c a ih =>
    cases b with
    | nil => exact absurd ((List.cons.inj same).1 ▸ List.mem_cons_self) left
    | cons d b =>
      obtain ⟨first, rest⟩ := List.cons.inj same
      obtain ⟨heads, tails⟩ := ih (fun member => left (List.mem_cons_of_mem _ member))
        (fun member => right (List.mem_cons_of_mem _ member)) rest
      exact ⟨by rw [first, heads], tails⟩

theorem slotKey_injective (left : ':' ∉ planId.toList) (right : ':' ∉ other.toList)
    (same : slotKey planId time = slotKey other time') : planId = other ∧ time = time' := by
  have texts : planId.toList ++ ':' :: time.isoformat.toList =
      other.toList ++ ':' :: time'.isoformat.toList := by
    simpa [slotKey] using congrArg String.toList same
  obtain ⟨ids, times⟩ := separated_injective left right texts
  exact ⟨String.toList_inj.mp ids, Datetime.isoformat_injective (String.toList_inj.mp times)⟩

structure Book where
  slots : List Slot
  reservations : List SourceRequestReservation
  executions : List TransportExecutionRecord
  runs : List SourceAutomationRun

/-- COMPLETED runs of a reservation. -/
def completedRuns (runs : List SourceAutomationRun) (reservationId : String) : Nat :=
  runs.countP fun run => run.status = .completed ∧ run.reservationId = some reservationId

namespace Book

/-- The reservation's execution reached COMPLETED. -/
def Completed (b : Book) (reservationId : String) : Prop :=
  ∃ row ∈ b.executions, row.reservationId = reservationId ∧ row.status = .completed

/-- The reservation is for a slot that a plan stands at. -/
def At (b : Book) (reservationId : String) : Prop :=
  ∃ reservation ∈ b.reservations, reservation.reservationId = reservationId ∧
    ∃ slot ∈ b.slots, reservation.For slot

/-- The slot has a completed execution. -/
def Open (b : Book) (slot : Slot) : Prop :=
  ∃ reservation ∈ b.reservations, reservation.For slot ∧ b.Completed reservation.reservationId

structure Valid (b : Book) : Prop where
  slots : Sql.Unique (·.planId) b.slots
  plain : ∀ slot ∈ b.slots, ':' ∉ slot.planId.toList
  ids : Sql.Unique (·.reservationId) b.reservations
  keys : Sql.Unique (fun row => (row.sourceId, row.requestKey, row.attempt)) b.reservations
  placed : ∀ reservation ∈ b.reservations, ∃ slot ∈ b.slots, ∃ time : Datetime,
    reservation.requestKey = slotKey slot.planId time ∧ time.instant ≤ slot.time.instant
  executions : Sql.Unique (·.reservationId) b.executions
  reserved : ∀ row ∈ b.executions, row.reservationId ∈ b.reservations.map (·.reservationId)
  recorded : ∀ run ∈ b.runs, run.status = .completed →
    ∀ reservationId, run.reservationId = some reservationId → b.Completed reservationId

/-- Each completed execution is recorded once, waits at its slot, or is the one being
recorded. -/
def Accounts (b : Book) (recording : Option String) : Prop :=
  ∀ reservationId, b.Completed reservationId →
    completedRuns b.runs reservationId = 1 ∧ ¬b.At reservationId ∧ recording ≠ some reservationId ∨
    completedRuns b.runs reservationId = 0 ∧ b.At reservationId ∧ recording ≠ some reservationId ∨
    completedRuns b.runs reservationId = 0 ∧ ¬b.At reservationId ∧ recording = some reservationId

variable {b : Book}

/-- A reservation is for one slot only. -/
theorem Valid.slot_eq (valid : b.Valid) (left : slot ∈ b.slots) (right : other ∈ b.slots)
    (forSlot : SourceRequestReservation.For reservation slot) (forOther : reservation.For other) :
    slot = other :=
  valid.slots.eq left right
    (slotKey_injective (valid.plain slot left) (valid.plain other right)
      (forSlot.2.1.symm.trans forOther.2.1)).1

/-- A slot has one reservation only. -/
theorem Valid.reservation_eq (valid : b.Valid) (left : first ∈ b.reservations)
    (right : second ∈ b.reservations) (forFirst : first.For slot) (forSecond : second.For slot) :
    first = second :=
  valid.keys.eq left right (by rw [forFirst.1, forFirst.2.1, forFirst.2.2, forSecond.1, forSecond.2.1,
    forSecond.2.2])

/-- A claimed execution is not completed. -/
theorem Valid.not_completed (valid : b.Valid) (member : row ∈ b.executions)
    (status : row.status ≠ .completed) : ¬b.Completed row.reservationId := by
  rintro ⟨other, stored, same, completed⟩
  rw [valid.executions.eq stored member same] at completed
  exact status completed

/-- What has no execution row is not completed. -/
theorem not_completed_of_absent (absent : reservationId ∉ b.executions.map (·.reservationId)) :
    ¬b.Completed reservationId := by
  rintro ⟨row, member, same, -⟩
  exact absent (same ▸ List.mem_map_of_mem member)

/-- What is not completed has no COMPLETED run. -/
theorem Valid.completedRuns_zero (valid : b.Valid) (never : ¬b.Completed reservationId) :
    completedRuns b.runs reservationId = 0 := by
  refine List.countP_eq_zero.mpr fun run member recorded => never ?_
  simp only [decide_eq_true_eq] at recorded
  exact valid.recorded run member recorded.1 reservationId recorded.2

/-- A plan that stands at a slot later than its book's has no reservation there. -/
theorem Valid.unreserved (valid : b.Valid) (stands : slot ∈ b.slots)
    (later : slot.time.instant < time.instant) (member : reservation ∈ b.reservations) :
    reservation.requestKey ≠ slotKey slot.planId time := by
  intro same
  obtain ⟨other, stored, placed, key, before⟩ := valid.placed reservation member
  obtain ⟨plan, times⟩ := slotKey_injective (valid.plain other stored) (valid.plain slot stands)
    (key.symm.trans same)
  rw [valid.slots.eq stored stands plan, times] at before
  omega

/-! A new plan stands at a slot without a reservation. -/

def plan (b : Book) (slot : Slot) : Book := { b with slots := b.slots ++ [slot] }

theorem Valid.plan_unreserved (valid : b.Valid) (fresh : slot.planId ∉ b.slots.map (·.planId))
    (plain : ':' ∉ slot.planId.toList) (member : reservation ∈ b.reservations) : ¬reservation.For slot := by
  rintro ⟨-, same, -⟩
  obtain ⟨other, stored, placed, key, -⟩ := valid.placed reservation member
  obtain ⟨plan, -⟩ := slotKey_injective (valid.plain other stored) plain (key.symm.trans same)
  exact fresh (plan ▸ List.mem_map_of_mem stored)

theorem Valid.plan (valid : b.Valid) (fresh : slot.planId ∉ b.slots.map (·.planId))
    (plain : ':' ∉ slot.planId.toList) : (b.plan slot).Valid := by
  refine ⟨valid.slots.snoc fresh, fun other member => ?_, valid.ids, valid.keys,
    fun reservation member => ?_, valid.executions, valid.reserved, valid.recorded⟩
  · rcases List.mem_append.mp member with old | new
    · exact valid.plain other old
    · rw [List.mem_singleton.mp new]
      exact plain
  · obtain ⟨other, stored, rest⟩ := valid.placed reservation member
    exact ⟨other, List.mem_append_left _ stored, rest⟩

theorem Valid.plan_at (valid : b.Valid) (fresh : slot.planId ∉ b.slots.map (·.planId))
    (plain : ':' ∉ slot.planId.toList) : (b.plan slot).At reservationId ↔ b.At reservationId := by
  constructor
  · rintro ⟨reservation, member, id, other, stands, forOther⟩
    rcases List.mem_append.mp stands with old | new
    · exact ⟨reservation, member, id, other, old, forOther⟩
    · rw [List.mem_singleton.mp new] at forOther
      exact absurd forOther (valid.plan_unreserved fresh plain member)
  · rintro ⟨reservation, member, id, other, stands, forOther⟩
    exact ⟨reservation, member, id, other, List.mem_append_left _ stands, forOther⟩

theorem Valid.plan_open (valid : b.Valid) (fresh : slot.planId ∉ b.slots.map (·.planId))
    (plain : ':' ∉ slot.planId.toList) (stands : other ∈ (b.plan slot).slots)
    (isOpen : (b.plan slot).Open other) : other ∈ b.slots ∧ b.Open other := by
  obtain ⟨reservation, member, forOther, completed⟩ := isOpen
  rcases List.mem_append.mp stands with old | new
  · exact ⟨old, reservation, member, forOther, completed⟩
  · rw [List.mem_singleton.mp new] at forOther
    exact absurd forOther (valid.plan_unreserved fresh plain member)

theorem Accounts.plan (accounts : b.Accounts recording) (valid : b.Valid)
    (fresh : slot.planId ∉ b.slots.map (·.planId)) (plain : ':' ∉ slot.planId.toList) :
    (b.plan slot).Accounts recording := by
  intro reservationId completed
  rw [valid.plan_at fresh plain]
  exact accounts reservationId completed

/-! A plan moves to a later slot, which has no reservation. -/

def move (b : Book) (planId : String) (time : Datetime) : Book :=
  { b with slots := Sql.updateRow (·.planId) planId (fun slot => { slot with time }) b.slots }

theorem Valid.move (valid : b.Valid) (stands : slot ∈ b.slots)
    (later : slot.time.instant < time.instant) : (b.move slot.planId time).Valid := by
  refine ⟨valid.slots.update fun _ => rfl, fun other member => ?_, valid.ids, valid.keys,
    fun reservation member => ?_, valid.executions, valid.reserved, valid.recorded⟩
  · obtain ⟨old, stored, ⟨-, rfl⟩ | ⟨-, rfl⟩⟩ := Sql.mem_updateRow member
    · exact valid.plain old stored
    · exact valid.plain _ stored
  · obtain ⟨other, stored, placed, key, before⟩ := valid.placed reservation member
    by_cases same : other.planId = slot.planId
    · have other_eq := valid.slots.eq stored stands same
      refine ⟨{ other with time }, List.mem_map.mpr ⟨other, stored, if_pos same⟩, placed, key, ?_⟩
      rw [other_eq] at before
      exact before.trans later.le
    · exact ⟨other, List.mem_map.mpr ⟨other, stored, if_neg same⟩, placed, key, before⟩

/-- After a move only the other plans stand at slots with reservations. -/
theorem Valid.move_for (valid : b.Valid) (stands : slot ∈ b.slots)
    (later : slot.time.instant < time.instant) (member : reservation ∈ b.reservations)
    (moved : other ∈ (b.move slot.planId time).slots) (forOther : reservation.For other) :
    other ∈ b.slots ∧ other.planId ≠ slot.planId := by
  obtain ⟨old, stored, ⟨same, rfl⟩ | ⟨different, rfl⟩⟩ := Sql.mem_updateRow moved
  · exact absurd (forOther.2.1.trans (by rw [same])) (valid.unreserved stands later member)
  · exact ⟨stored, different⟩

theorem Valid.move_open (valid : b.Valid) (stands : slot ∈ b.slots)
    (later : slot.time.instant < time.instant) (moved : other ∈ (b.move slot.planId time).slots)
    (isOpen : (b.move slot.planId time).Open other) :
    other ∈ b.slots ∧ other.planId ≠ slot.planId ∧ b.Open other := by
  obtain ⟨reservation, member, forOther, completed⟩ := isOpen
  obtain ⟨stored, different⟩ := valid.move_for stands later member moved forOther
  exact ⟨stored, different, reservation, member, forOther, completed⟩

theorem Valid.move_at (valid : b.Valid) (stands : slot ∈ b.slots)
    (later : slot.time.instant < time.instant) :
    (b.move slot.planId time).At reservationId ↔ ∃ reservation ∈ b.reservations,
      reservation.reservationId = reservationId ∧
        ∃ other ∈ b.slots, other.planId ≠ slot.planId ∧ reservation.For other := by
  constructor
  · rintro ⟨reservation, member, id, other, moved, forOther⟩
    obtain ⟨stored, different⟩ := valid.move_for stands later member moved forOther
    exact ⟨reservation, member, id, other, stored, different, forOther⟩
  · rintro ⟨reservation, member, id, other, stored, different, forOther⟩
    exact ⟨reservation, member, id, other, List.mem_map.mpr ⟨other, stored, if_neg different⟩, forOther⟩

/-- A plan may leave a slot without a completed execution. -/
theorem Accounts.move (accounts : b.Accounts none) (valid : b.Valid) (stands : slot ∈ b.slots)
    (later : slot.time.instant < time.instant) (shut : ¬b.Open slot) :
    (b.move slot.planId time).Accounts none := by
  intro reservationId completed
  have same : (b.move slot.planId time).At reservationId ↔ b.At reservationId := by
    rw [valid.move_at stands later]
    constructor
    · rintro ⟨reservation, member, id, other, stored, -, forOther⟩
      exact ⟨reservation, member, id, other, stored, forOther⟩
    · rintro ⟨reservation, member, id, other, stored, forOther⟩
      refine ⟨reservation, member, id, other, stored, fun plan => shut ?_, forOther⟩
      rw [valid.slots.eq stored stands plan] at forOther
      exact ⟨reservation, member, forOther, id ▸ completed⟩
  rw [same]
  exact accounts reservationId completed

/-- A plan that leaves a slot with a completed execution leaves it to be recorded. -/
theorem Accounts.record (accounts : b.Accounts none) (valid : b.Valid) (stands : slot ∈ b.slots)
    (later : slot.time.instant < time.instant) (member : reservation ∈ b.reservations)
    (forSlot : reservation.For slot) :
    (b.move slot.planId time).Accounts (some reservation.reservationId) := by
  intro reservationId completed
  rw [valid.move_at stands later]
  by_cases mine : reservation.reservationId = reservationId
  · subst mine
    have waits := accounts reservation.reservationId completed
    have here : b.At reservation.reservationId := ⟨reservation, member, rfl, slot, stands, forSlot⟩
    refine .inr (.inr ⟨?_, ?_, rfl⟩)
    · rcases waits with ⟨-, gone, -⟩ | ⟨none, -⟩ | ⟨none, -⟩
      · exact absurd here gone
      · exact none
      · exact none
    · rintro ⟨other, stored, id, place, place_stands, different, forPlace⟩
      rw [valid.ids.eq stored member id] at forPlace
      exact different (congrArg Slot.planId (valid.slot_eq place_stands stands forPlace forSlot))
  · have same : b.At reservationId ↔ ∃ other ∈ b.reservations, other.reservationId = reservationId ∧
        ∃ place ∈ b.slots, place.planId ≠ slot.planId ∧ other.For place := by
      constructor
      · rintro ⟨other, stored, id, place, place_stands, forPlace⟩
        refine ⟨other, stored, id, place, place_stands, fun plan => mine ?_, forPlace⟩
        rw [valid.slots.eq place_stands stands plan] at forPlace
        rw [valid.reservation_eq member stored forSlot forPlace]
        exact id
      · rintro ⟨other, stored, id, place, place_stands, -, forPlace⟩
        exact ⟨other, stored, id, place, place_stands, forPlace⟩
    rw [← same]
    have quiet : some reservation.reservationId ≠ some reservationId := fun h => mine (Option.some.inj h)
    rcases accounts reservationId completed with ⟨one, gone, -⟩ | ⟨none, here, -⟩ | ⟨-, -, impossible⟩
    · exact .inl ⟨one, gone, quiet⟩
    · exact .inr (.inl ⟨none, here, quiet⟩)
    · cases impossible

/-! A reservation for a slot that a plan stands at. -/

def reserve (b : Book) (reservation : SourceRequestReservation) : Book :=
  { b with reservations := b.reservations ++ [reservation] }

theorem Valid.reserve_fresh (valid : b.Valid)
    (fresh : reservationId ∉ b.reservations.map (·.reservationId)) : ¬b.Completed reservationId := by
  refine not_completed_of_absent fun taken => fresh ?_
  obtain ⟨row, member, same⟩ := List.mem_map.mp taken
  exact same ▸ valid.reserved row member

theorem Valid.reserve (valid : b.Valid) (fresh : FreshReservation b.reservations reservation)
    (stands : slot ∈ b.slots) (forSlot : reservation.For slot) : (b.reserve reservation).Valid := by
  refine ⟨valid.slots, valid.plain, valid.ids.snoc fresh.id, valid.keys.snoc fun taken => ?_,
    fun other member => ?_, valid.executions, fun row member => ?_, valid.recorded⟩
  · obtain ⟨row, member, same⟩ := List.mem_map.mp taken
    simp only [Prod.mk.injEq] at same
    exact fresh.key row member same
  · rcases List.mem_append.mp member with old | new
    · exact valid.placed other old
    · rw [List.mem_singleton.mp new]
      exact ⟨slot, stands, slot.time, forSlot.2.1, le_refl _⟩
  · simp only [Book.reserve, List.map_append, List.mem_append]
    exact .inl (valid.reserved row member)

theorem Valid.reserve_open (valid : b.Valid) (fresh : FreshReservation b.reservations reservation)
    (isOpen : (b.reserve reservation).Open slot) : b.Open slot := by
  obtain ⟨other, member, forSlot, completed⟩ := isOpen
  rcases List.mem_append.mp member with old | new
  · exact ⟨other, old, forSlot, completed⟩
  · rw [List.mem_singleton.mp new] at completed
    exact absurd completed (valid.reserve_fresh fresh.id)

theorem Accounts.reserve (accounts : b.Accounts recording) (valid : b.Valid)
    (fresh : FreshReservation b.reservations reservation) : (b.reserve reservation).Accounts recording := by
  intro reservationId completed
  have different : reservation.reservationId ≠ reservationId := by
    rintro rfl
    exact valid.reserve_fresh fresh.id completed
  have same : (b.reserve reservation).At reservationId ↔ b.At reservationId := by
    constructor
    · rintro ⟨other, member, id, rest⟩
      rcases List.mem_append.mp member with old | new
      · exact ⟨other, old, id, rest⟩
      · rw [List.mem_singleton.mp new] at id
        exact absurd id different
    · rintro ⟨other, member, rest⟩
      exact ⟨other, List.mem_append_left _ member, rest⟩
  rw [same]
  exact accounts reservationId completed

/-! The rows of executions. -/

def execute (b : Book) (executions : List TransportExecutionRecord) : Book := { b with executions }

/-- A claim completes nothing. -/
theorem claim_completed (status : row.status ≠ .completed) :
    (b.execute (b.executions ++ [row])).Completed reservationId ↔ b.Completed reservationId := by
  constructor
  · rintro ⟨other, member, same, completed⟩
    rcases List.mem_append.mp member with old | new
    · exact ⟨other, old, same, completed⟩
    · rw [List.mem_singleton.mp new] at completed
      exact absurd completed status
  · rintro ⟨other, member, rest⟩
    exact ⟨other, List.mem_append_left _ member, rest⟩

theorem Valid.claim (valid : b.Valid) (fresh : row.reservationId ∉ b.executions.map (·.reservationId))
    (reserved : row.reservationId ∈ b.reservations.map (·.reservationId))
    (status : row.status ≠ .completed) : (b.execute (b.executions ++ [row])).Valid := by
  refine ⟨valid.slots, valid.plain, valid.ids, valid.keys, valid.placed, valid.executions.snoc fresh,
    fun other member => ?_, fun run member done reservationId same => ?_⟩
  · rcases List.mem_append.mp member with old | new
    · exact valid.reserved other old
    · rw [List.mem_singleton.mp new]
      exact reserved
  · exact (claim_completed status).mpr (valid.recorded run member done reservationId same)

theorem Accounts.claim (accounts : b.Accounts recording) (status : row.status ≠ .completed) :
    (b.execute (b.executions ++ [row])).Accounts recording := fun reservationId completed =>
  accounts reservationId ((claim_completed status).mp completed)

/-- An execution that ends: what was not completed is completed if the status says so. -/
theorem Valid.finish_completed {outcome : TransportExecutionStatus} (valid : b.Valid)
    (member : row ∈ b.executions) (status : row.status ≠ .completed) :
    (b.execute (finish b.executions row.reservationId outcome receiptId errorCode time)).Completed
        reservationId ↔
      b.Completed reservationId ∨ reservationId = row.reservationId ∧ outcome = .completed := by
  constructor
  · rintro ⟨other, changed, id, completed⟩
    obtain ⟨old, stored, ⟨same, rfl⟩ | ⟨different, rfl⟩⟩ := Sql.mem_updateRow changed
    · exact .inr ⟨id.symm.trans same, completed⟩
    · exact .inl ⟨_, stored, id, completed⟩
  · rintro (⟨other, stored, id, completed⟩ | ⟨rfl, rfl⟩)
    · have different : other.reservationId ≠ row.reservationId := by
        intro same
        rw [valid.executions.eq stored member same] at completed
        exact status completed
      exact ⟨other, List.mem_map.mpr ⟨other, stored, if_neg different⟩, id, completed⟩
    · exact ⟨_, List.mem_map.mpr ⟨row, member, if_pos rfl⟩, rfl, rfl⟩

theorem Valid.finish {outcome : TransportExecutionStatus} (valid : b.Valid)
    (member : row ∈ b.executions) (status : row.status ≠ .completed) :
    (b.execute (BallotProof.finish b.executions row.reservationId outcome receiptId errorCode time)).Valid := by
  refine ⟨valid.slots, valid.plain, valid.ids, valid.keys, valid.placed,
    valid.executions.update fun _ => rfl, fun other changed => ?_,
    fun run recorded done reservationId same => ?_⟩
  · obtain ⟨old, stored, ⟨-, rfl⟩ | ⟨-, rfl⟩⟩ := Sql.mem_updateRow changed
    · exact valid.reserved old stored
    · exact valid.reserved _ stored
  · exact (valid.finish_completed member status).mpr
      (.inl (valid.recorded run recorded done reservationId same))

/-- An execution that ends at its slot waits there if it is completed. -/
theorem Accounts.finish {outcome : TransportExecutionStatus} (accounts : b.Accounts none)
    (valid : b.Valid) (member : row ∈ b.executions)
    (status : row.status ≠ .completed) (here : b.At row.reservationId) :
    (b.execute (BallotProof.finish b.executions row.reservationId outcome receiptId errorCode time)).Accounts
      none := by
  intro reservationId completed
  rcases (valid.finish_completed member status).mp completed with old | ⟨rfl, -⟩
  · exact accounts reservationId old
  · exact .inr (.inl ⟨valid.completedRuns_zero (valid.not_completed member status), here, by simp⟩)

/-! The run ledger. -/

def record (b : Book) (run : SourceAutomationRun) : Book := { b with runs := b.runs ++ [run] }

theorem Valid.record (valid : b.Valid) (done : ∀ reservationId, run.status = .completed →
    run.reservationId = some reservationId → b.Completed reservationId) : (b.record run).Valid := by
  refine ⟨valid.slots, valid.plain, valid.ids, valid.keys, valid.placed, valid.executions,
    valid.reserved, fun other member completed reservationId same => ?_⟩
  rcases List.mem_append.mp member with old | new
  · exact valid.recorded other old completed reservationId same
  · rw [List.mem_singleton.mp new] at completed same
    exact done reservationId completed same

/-- A run that is not COMPLETED settles nothing. -/
theorem Accounts.pass (accounts : b.Accounts recording) (status : run.status ≠ .completed) :
    (b.record run).Accounts recording := by
  intro reservationId completed
  have same : completedRuns (b.record run).runs reservationId = completedRuns b.runs reservationId := by
    simp [completedRuns, Book.record, List.countP_append, status]
  rw [same]
  exact accounts reservationId completed

/-- The COMPLETED run of the execution that is being recorded settles it. -/
theorem Accounts.settle (accounts : b.Accounts (some reservationId)) (status : run.status = .completed)
    (mine : run.reservationId = some reservationId) : (b.record run).Accounts none := by
  intro other completed
  have count : completedRuns (b.record run).runs other =
      completedRuns b.runs other + if reservationId = other then 1 else 0 := by
    simp [completedRuns, Book.record, List.countP_append, status, mine, List.countP_singleton]
  rw [count]
  by_cases same : reservationId = other
  · rw [if_pos same]
    rcases accounts other completed with ⟨-, -, quiet⟩ | ⟨-, -, quiet⟩ | ⟨none, gone, -⟩
    · exact absurd (congrArg some same) quiet
    · exact absurd (congrArg some same) quiet
    · exact .inl ⟨by omega, gone, by simp⟩
  · rw [if_neg same]
    rcases accounts other completed with ⟨one, gone, -⟩ | ⟨none, here, -⟩ | ⟨-, -, equal⟩
    · exact .inl ⟨one, gone, by simp⟩
    · exact .inr (.inl ⟨none, here, by simp⟩)
    · exact absurd (Option.some.inj equal) same

end Book

end BallotProof
