import BallotProof.Automation
import BallotProof.Loop

/-! The catch-up of a plan after an outage: `SourceAutomationStore.advance` moves `next_run_at`
from slot to slot until it lies after the time of evaluation. -/
namespace Python

/-- The days of a `timedelta` have at most nine digits. -/
def maxTimedeltaDays : Int := 999999999

/-- `timedelta(seconds=seconds)`, for seconds that may be too many -/
def boundedTimedelta (seconds : Int) : Result Int :=
  if -maxTimedeltaDays ≤ seconds / 86400 ∧ seconds / 86400 ≤ maxTimedeltaDays then .ok (timedelta seconds)
  else .error ⟨.overflowError, "magnitude of days"⟩

theorem boundedTimedelta_ok (h : boundedTimedelta seconds = .ok interval) :
    interval = timedelta seconds := by
  unfold boundedTimedelta at h
  split at h
  · cases h
    rfl
  · cases h

theorem boundedTimedelta_raises (h : boundedTimedelta seconds = .error e) :
    e = ⟨.overflowError, "magnitude of days"⟩ := by
  unfold boundedTimedelta at h
  split at h
  · cases h
  · cases h
    rfl

namespace Timestamp

/-- `a <= b` -/
def le (a b : Timestamp) : Result Bool :=
  if a.isAware = b.isAware then .ok (a.moment ≤ b.moment)
  else .error ⟨.typeError, "can't compare offset-naive and offset-aware datetimes"⟩

/-- The time that the range of years is about. -/
def localTime : Timestamp → Int
  | .naive time _ => time
  | .aware t => t.instant + t.offset

theorem add_error {t : Timestamp} {delta : Int} :
    t.add delta = .error ⟨.overflowError, "date value out of range"⟩ ↔
      ¬(minLocal ≤ t.localTime + delta ∧ t.localTime + delta < maxLocal) := by
  cases t with
  | naive time range =>
    simp only [add, localTime]
    split <;> simp [*]
  | aware t =>
    have shifted : t.instant + delta + t.offset = t.instant + t.offset + delta := by omega
    simp only [add, localTime, Datetime.add, shifted]
    split <;> simp [Except.map, *]

theorem add_raises {t : Timestamp} (h : t.add delta = .error e) :
    e = ⟨.overflowError, "date value out of range"⟩ := by
  cases t with
  | naive time range =>
    dsimp only [add] at h
    split at h
    · cases h
    · cases h
      rfl
  | aware t =>
    dsimp only [add, Datetime.add] at h
    split at h
    · cases h
    · cases h
      rfl

theorem add_ok {t next : Timestamp} (h : t.add delta = .ok next) :
    next.moment = t.moment + delta ∧ next.localTime = t.localTime + delta ∧ next.isAware = t.isAware := by
  cases t with
  | naive time range =>
    dsimp only [add] at h
    split at h
    · cases h
      exact ⟨rfl, rfl, rfl⟩
    · cases h
  | aware t =>
    obtain ⟨later, added, rfl⟩ := map_ok h
    obtain ⟨instant, offset⟩ := Datetime.add_ok added
    refine ⟨instant, ?_, rfl⟩
    dsimp only [localTime]
    omega

theorem localTime_range (t : Timestamp) : minLocal ≤ t.localTime ∧ t.localTime < maxLocal := by
  cases t with
  | naive time range => exact range
  | aware t => exact t.local_range

theorem add_zero (t : Timestamp) : t.add 0 = .ok t := by
  cases t with
  | naive time range => simp [add, range]
  | aware t => simp [add, Datetime.add, t.local_range, Except.map]

/-- A later sum in range leaves the first one in range, and both ways of adding agree. -/
theorem add_add {t next : Timestamp} (h : t.add a = .ok next) (b : Int) : next.add b = t.add (a + b) := by
  cases t with
  | naive time range =>
    dsimp only [add] at h
    split at h
    · cases h
      simp only [add, add_assoc]
    · cases h
  | aware t =>
    obtain ⟨later, added, rfl⟩ := map_ok h
    unfold Datetime.add at added
    split at added
    · cases added
      simp only [add, Datetime.add, add_assoc]
    · cases added

end Timestamp

end Python

namespace BallotProof
open Python

/-- A row of `source_automation_plans`; `columns` stands for those that a move of the schedule keeps. -/
structure PlanRow (columns : Type) where
  planId : String
  intervalSeconds : Int
  nextRunAt : Python.Timestamp
  updatedAt : Python.Timestamp
  columns : columns
  /-- `Field(ge=60)` -/
  interval : 60 ≤ intervalSeconds
  deriving DecidableEq

section
variable {ρ : Type}

/-- `get_plan` -/
def getPlan (rows : List (PlanRow ρ)) (planId : String) : Result (PlanRow ρ) :=
  match Sql.selectRow (·.planId) planId rows with
  | some row => .ok row
  | none => .error ⟨.keyError, "Unknown automation plan: " ++ planId⟩

/-- `SET next_run_at = ?, updated_at = ?` -/
def PlanRow.moved (nextRunAt : Python.Timestamp) (now : Datetime) (row : PlanRow ρ) : PlanRow ρ :=
  { row with nextRunAt, updatedAt := .aware now }

/-- `defer`, with the table it leaves -/
def defer (rows : List (PlanRow ρ)) (planId : String) (nextRunAt : Python.Timestamp) (now : Datetime) :
    Result (PlanRow ρ) × List (PlanRow ρ) :=
  let rows := Sql.updateRow (·.planId) planId (PlanRow.moved nextRunAt now) rows
  (getPlan rows planId, rows)

/-- `advance`, whose loop makes at most `tests` comparisons, with the table it leaves -/
def advance (tests : Nat) (rows : List (PlanRow ρ)) (plan : PlanRow ρ) (evaluatedAt : Python.Timestamp)
    (now : Datetime) : Option (Result (PlanRow ρ) × List (PlanRow ρ)) :=
  match boundedTimedelta plan.intervalSeconds with
  | .error e => some (.error e, rows)
  | .ok interval =>
    match whileLoop (·.le evaluatedAt) (·.add interval) tests plan.nextRunAt with
    | none => none
    | some (.error e) => some (.error e, rows)
    | some (.ok nextRun) => some (defer rows plan.planId nextRun now)

/-- The time of the slot that lies `k` intervals after `next_run_at`. -/
def PlanRow.slot (plan : PlanRow ρ) (k : Nat) : Int :=
  plan.nextRunAt.moment + k * timedelta plan.intervalSeconds

/-- `k` counts the intervals to the first slot strictly after a time. -/
structure PlanRow.FirstAfter (plan : PlanRow ρ) (moment : Int) (k : Nat) : Prop where
  later : moment < plan.slot k
  first : ∀ j, moment < plan.slot j → k ≤ j

/-- The interval of a plan is positive, so some slot lies after any given time. -/
theorem PlanRow.exists_firstAfter (plan : PlanRow ρ) (moment : Int) : ∃ k, plan.FirstAfter moment k := by
  have positive : 0 < timedelta plan.intervalSeconds := by
    have := plan.interval
    unfold timedelta
    omega
  have beyond : ∃ k, moment < plan.slot k := by
    refine ⟨(moment - plan.nextRunAt.moment + 1).toNat, ?_⟩
    have count := Int.self_le_toNat (moment - plan.nextRunAt.moment + 1)
    unfold slot
    nlinarith
  classical
  exact ⟨Nat.find beyond, Nat.find_spec beyond, fun j later => Nat.find_min' beyond later⟩

theorem le_iff {a b : Python.Timestamp} (same : a.isAware = b.isAware) :
    a.le b = .ok (decide (a.moment ≤ b.moment)) := by
  rw [Python.Timestamp.le, if_pos same]

/-- One interval at a time, the loop adds what lies between the time it starts with and the first
sum after `evaluatedAt`. -/
theorem catchUp_ends {interval : Int} {k : Nat} {nextRun evaluatedAt : Python.Timestamp} (positive : 0 < interval)
    (same : nextRun.isAware = evaluatedAt.isAware)
    (later : evaluatedAt.moment < nextRun.moment + k * interval)
    (first : ∀ j : Nat, evaluatedAt.moment < nextRun.moment + j * interval → k ≤ j) :
    Ends (·.le evaluatedAt) (·.add interval) nextRun (nextRun.add (k * interval)) := by
  induction k generalizing nextRun with
  | zero =>
    have future : ¬nextRun.moment ≤ evaluatedAt.moment := by simpa using later
    rw [Nat.cast_zero, zero_mul, Python.Timestamp.add_zero]
    apply Ends.done
    rw [le_iff same, decide_eq_false future]
  | succ k ih =>
    have due : nextRun.moment ≤ evaluatedAt.moment := by
      by_contra future
      have := first 0 (by simpa using future)
      omega
    have again : nextRun.le evaluatedAt = .ok true := by rw [le_iff same, decide_eq_true due]
    have split : ((k + 1 : Nat) : Int) * interval = interval + k * interval := by push_cast; ring
    rw [split] at later ⊢
    cases added : nextRun.add interval with
    | error e =>
      obtain rfl := Python.Timestamp.add_raises added
      have out := Python.Timestamp.add_error.mp added
      have far : nextRun.add (interval + k * interval) = .error ⟨.overflowError, "date value out of range"⟩ := by
        have range := nextRun.localTime_range
        have rest : 0 ≤ k * interval := by positivity
        rw [Python.Timestamp.add_error]
        omega
      rw [far]
      exact Ends.body_raises again added
    | ok next =>
      obtain ⟨moment, -, aware⟩ := Python.Timestamp.add_ok added
      rw [← Python.Timestamp.add_add added]
      refine Ends.turn (t := next) again added ?_
      apply ih (aware.trans same)
      · rw [moment]
        linarith
      · intro j after
        have := first (j + 1) (by push_cast; rw [moment] at after; linarith)
        omega

theorem defer_known (rows : List (PlanRow ρ)) (nextRunAt : Python.Timestamp) (now : Datetime)
    (known : getPlan rows planId = .ok row) :
    defer rows planId nextRunAt now =
      (.ok (row.moved nextRunAt now), Sql.updateRow (·.planId) planId (PlanRow.moved nextRunAt now) rows) := by
  have found : Sql.selectRow (·.planId) planId rows = some row := by
    unfold getPlan at known
    split at known
    · cases known
      assumption
    · cases known
  have kept (row : PlanRow ρ) : (row.moved nextRunAt now).planId = row.planId := rfl
  rw [defer, getPlan, Sql.select_update kept, found]
  rfl

section
variable {plan : PlanRow ρ} {evaluatedAt : Python.Timestamp} {interval : Int}
  (bounded : boundedTimedelta plan.intervalSeconds = .ok interval) (rows : List (PlanRow ρ)) (now : Datetime)
include bounded

theorem advance_raises (loop : Ends (·.le evaluatedAt) (·.add interval) plan.nextRunAt (.error e)) :
    ∃ enough, ∀ tests, enough ≤ tests → advance tests rows plan evaluatedAt now = some (.error e, rows) := by
  obtain ⟨enough, loop⟩ := loop
  refine ⟨enough, fun tests bound => ?_⟩
  rw [advance, bounded]
  dsimp only
  rw [loop tests bound]

theorem advance_defers (loop : Ends (·.le evaluatedAt) (·.add interval) plan.nextRunAt (.ok next)) :
    ∃ enough, ∀ tests, enough ≤ tests →
      advance tests rows plan evaluatedAt now = some (defer rows plan.planId next now) := by
  obtain ⟨enough, loop⟩ := loop
  refine ⟨enough, fun tests bound => ?_⟩
  rw [advance, bounded]
  dsimp only
  rw [loop tests bound]

end

/-- The loop ends. The plan gets the first slot strictly after the evaluation if that is a datetime,
and otherwise the call raises and leaves the table as it is. -/
theorem advance_firstSlot (rows : List (PlanRow ρ)) (plan : PlanRow ρ) (evaluatedAt : Python.Timestamp)
    (now : Datetime) :
    ∃ k outcome, plan.FirstAfter evaluatedAt.moment k ∧
      (∃ enough, ∀ tests, enough ≤ tests → advance tests rows plan evaluatedAt now = some outcome) ∧
      match boundedTimedelta plan.intervalSeconds with
      | .error e => e.kind = .overflowError ∧ outcome = (.error e, rows)
      | .ok interval =>
        if plan.nextRunAt.isAware = evaluatedAt.isAware then
          match plan.nextRunAt.add (k * interval) with
          | .error e => e.kind = .overflowError ∧ outcome = (.error e, rows)
          | .ok next => next.moment = plan.slot k ∧
            (evaluatedAt.moment < plan.nextRunAt.moment → next = plan.nextRunAt) ∧
            ∀ row, getPlan rows plan.planId = .ok row → outcome =
              (.ok (row.moved next now), Sql.updateRow (·.planId) plan.planId (PlanRow.moved next now) rows)
        else ∃ e, e.kind = .typeError ∧ outcome = (.error e, rows) := by
  obtain ⟨k, slot⟩ := plan.exists_firstAfter evaluatedAt.moment
  refine ⟨k, ?_⟩
  cases bounded : boundedTimedelta plan.intervalSeconds with
  | error e =>
    obtain rfl := boundedTimedelta_raises bounded
    exact ⟨_, slot, ⟨0, fun tests _ => by rw [advance, bounded]⟩, rfl, rfl⟩
  | ok interval =>
    obtain rfl := boundedTimedelta_ok bounded
    have positive : 0 < timedelta plan.intervalSeconds := by
      have := plan.interval
      unfold timedelta
      omega
    dsimp only
    by_cases same : plan.nextRunAt.isAware = evaluatedAt.isAware
    · have loop := catchUp_ends positive same slot.later slot.first
      simp only [if_pos same]
      cases added : plan.nextRunAt.add (k * timedelta plan.intervalSeconds) with
      | error e =>
        rw [added] at loop
        refine ⟨_, slot, advance_raises bounded rows now loop, ?_, rfl⟩
        rw [Python.Timestamp.add_raises added]
      | ok next =>
        rw [added] at loop
        refine ⟨_, slot, advance_defers bounded rows now loop, ?_, fun future => ?_, fun row known => ?_⟩
        · exact (Python.Timestamp.add_ok added).1
        · have none : k = 0 := by
            have := slot.first 0 (by simpa [PlanRow.slot] using future)
            omega
          rw [none, Nat.cast_zero, zero_mul, Python.Timestamp.add_zero] at added
          exact (Except.ok.inj added).symm
        · exact defer_known rows next now known
    · have raised : plan.nextRunAt.le evaluatedAt =
          .error ⟨.typeError, "can't compare offset-naive and offset-aware datetimes"⟩ := by
        rw [Python.Timestamp.le, if_neg same]
      simp only [if_neg same]
      exact ⟨_, slot, advance_raises bounded rows now (Ends.guard_raises raised), _, rfl, rfl⟩

theorem catchUp_loop {interval : Int} {steps : Nat} {nextRun evaluatedAt : Datetime}
    (near : evaluatedAt.instant < nextRun.instant + steps * interval) :
    Ends (Python.Timestamp.le · (.aware evaluatedAt)) (Python.Timestamp.add · interval) (.aware nextRun)
      ((catchUp interval evaluatedAt steps nextRun).map .aware) := by
  have compared (t : Datetime) :
      (Python.Timestamp.aware t).le (.aware evaluatedAt) = .ok (decide (t.instant ≤ evaluatedAt.instant)) := le_iff rfl
  induction steps generalizing nextRun with
  | zero =>
    apply Ends.done
    rw [compared, decide_eq_false]
    simpa using near
  | succ steps ih =>
    rw [catchUp]
    split
    · rename_i due
      have again := compared nextRun
      rw [decide_eq_true due] at again
      cases added : nextRun.add interval with
      | error e =>
        refine Ends.body_raises (e := e) again ?_
        dsimp only [Python.Timestamp.add]
        rw [added]
        rfl
      | ok next =>
        refine Ends.turn (t := .aware next) again ?_ ?_
        · dsimp only [Python.Timestamp.add]
          rw [added]
          rfl
        · apply ih
          rw [(Datetime.add_ok added).1]
          push_cast at near
          linarith
    · rename_i future
      apply Ends.done
      rw [compared, decide_eq_false future]

/-- The bounded loop of the automation cycle is the loop of `advance`. -/
theorem advanced_ends (plan : SourceAutomationPlan) (interval : 60 ≤ plan.intervalSeconds)
    (evaluatedAt : Datetime) :
    Ends (Python.Timestamp.le · (.aware evaluatedAt)) (Python.Timestamp.add · (timedelta plan.intervalSeconds))
      (.aware plan.nextRunAt)
      ((advanced plan evaluatedAt).map .aware) := by
  have positive : 0 < timedelta plan.intervalSeconds := by
    unfold timedelta
    omega
  apply catchUp_loop
  have enough := Int.lt_ediv_add_one_mul_self (evaluatedAt.instant - plan.nextRunAt.instant) positive
  have rounds := mul_le_mul_of_nonneg_right (Int.self_le_toNat
    ((evaluatedAt.instant - plan.nextRunAt.instant) / timedelta plan.intervalSeconds + 1)) positive.le
  linarith

/-- A plan of the last minute of the year 9999. -/
def lastMinute : PlanRow Unit where
  planId := "bp_auto_0"
  intervalSeconds := 60
  nextRunAt := .aware ⟨253402300740000000, 0, Datetime.utc_offset, by decide⟩
  updatedAt := .aware (Datetime.utc 0 Datetime.epoch_range)
  columns := ()
  interval := by decide

/-- The slot after the last minute is no datetime, so the plan stays due. -/
theorem lastMinute_overflows :
    advance 1 [lastMinute] lastMinute lastMinute.nextRunAt ⟨0, 0, by decide, by decide⟩ =
      some (.error ⟨.overflowError, "date value out of range"⟩, [lastMinute]) := by
  have bounded : boundedTimedelta lastMinute.intervalSeconds = .ok 60000000 := by decide
  have due : lastMinute.nextRunAt.le lastMinute.nextRunAt = .ok true := le_iff rfl
  have beyond : lastMinute.nextRunAt.add 60000000 =
      .error ⟨.overflowError, "date value out of range"⟩ := by
    rw [Python.Timestamp.add_error]
    decide
  simp only [advance, bounded, whileLoop, due, beyond]

end

end BallotProof
