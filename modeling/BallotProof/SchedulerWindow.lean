import BallotProof.Scheduler

/-! Concurrent `reserve` calls of one scheduler store and the sliding window of a source.
The clock is sampled in one step and the transaction is another, so calls may commit in any
order of their samples. -/
namespace BallotProof
open Python

structure SchedulerState where
  reservations : List SourceRequestReservation
  calls : Nat → Option ReserveCall

inductive SchedulerAction where
  | reserve (call : Nat) (now : Datetime) (snapshot : SourcePolicySnapshot)
      (request : SourceReservationRequest) (receipts : List ProvenanceReceipt)
  | transact (call : Nat) (reservationId : String)
  | abort (call : Nat)

namespace SchedulerState

def initial : SchedulerState := ⟨[], fun _ => none⟩

def setCall (s : SchedulerState) (call : Nat) (next : Option ReserveCall) : SchedulerState :=
  { s with calls := Function.update s.calls call next }

@[simp] theorem setCall_reservations (s : SchedulerState) :
    (s.setCall call next).reservations = s.reservations := rfl

/-- The calls in flight after one of them has changed. -/
theorem setCall_calls {s : SchedulerState} (h : (s.setCall call next).calls other = some found) :
    s.calls other = some found ∨ next = some found := by
  by_cases same : other = call
  · subst same
    exact .inr (by simpa [setCall] using h)
  · exact .inl (by simpa [setCall, same] using h)

end SchedulerState

section
variable (validateSourceRequest : SourcePolicy → String → String → Option RequestPolicyViolation)
variable (store : SchedulerStore)

def schedulerStep (s : SchedulerState) : SchedulerAction → Option SchedulerState
  | .reserve call now snapshot request receipts =>
    if s.calls call = none ∧ now.offset = 0 then
      match reserveChecks validateSourceRequest snapshot request receipts now with
      | .ok (.inr reserving) => some (s.setCall call (some reserving))
      | _ => some s
    else none
  | .transact call reservationId =>
    match s.calls call with
    | none => none
    | some reserving =>
      match reserveTransaction store s.reservations reserving reservationId with
      | .ok (_, rows) => some ({ s with reservations := rows }.setCall call none)
      | .error _ => some (s.setCall call none)
  | .abort call => some (s.setCall call none)

end

/-- Granted reservations of a source with `start ≤ reserved_at < start + 60 s`. -/
def windowCount (rows : List SourceRequestReservation) (sourceId : String) (start : Int) : Nat :=
  rows.countP fun row => row.sourceId = sourceId ∧ start ≤ row.reservedAt.instant ∧
    row.reservedAt.instant < start + minute

/-- Every policy that the run reserves under for the source has the limit. -/
def LimitHeld (sourceId : String) (limit : Nat) : SchedulerAction → Prop
  | .reserve _ _ snapshot _ _ =>
    snapshot.policy.sourceId = sourceId → snapshot.policy.requestsPerMinute = limit
  | _ => True

/-- A transaction that finds room in the minute up to its sample finds no reservation of its
source in the minute after it. -/
def CommitsInOrder (s : SchedulerState) : SchedulerAction → Prop
  | .transact call _ => ∀ reserving ∈ s.calls call,
    windowCount s.reservations reserving.snapshot.policy.sourceId
        (reserving.now.instant - minute + 1) < reserving.snapshot.policy.requestsPerMinute →
      ∀ row ∈ s.reservations, row.sourceId = reserving.snapshot.policy.sourceId →
        reserving.now.instant < row.reservedAt.instant →
        reserving.now.instant + minute ≤ row.reservedAt.instant
  | _ => True

instance (s : SchedulerState) (a : SchedulerAction) : Decidable (CommitsInOrder s a) := by
  cases a <;> simp only [CommitsInOrder] <;> infer_instance

theorem before_utc (store : SchedulerStore) {a b : Datetime} (left : a.offset = 0) (right : b.offset = 0) :
    store.before a b = true ↔ a.instant < b.instant := by
  cases store with
  | sqlite => simpa [SchedulerStore.before] using Datetime.isoformat_lt left right
  | postgres => simp [SchedulerStore.before]

/-- A full window blocks until its first row is a minute old. -/
theorem rateLimitUntil_full (full : limit ≤ window.length) (h : rateLimitUntil window limit = .ok until_) :
    ∃ row ∈ window, ∃ time, until_ = some time ∧ time.instant = row.reservedAt.instant + minute := by
  simp only [rateLimitUntil, full, if_true] at h
  split at h
  · cases h
  · rename_i row found
    obtain ⟨time, added, rest⟩ := bind_ok h
    cases rest
    exact ⟨row, List.mem_of_getElem? found, time, rfl, (Datetime.add_ok added).1⟩

theorem latestOf_pair (best next : Datetime) (rest : List Datetime) : latestOf (best :: next :: rest) =
    latestOf ((if best.instant < next.instant then next else best) :: rest) := by
  simp only [latestOf, List.foldl_cons]
  split <;> rfl

theorem latestOf_mem {times : List Datetime} (h : time ∈ times) : latestOf times ≠ none := by
  have kept : ∀ (rest : List Datetime) (best : Datetime), latestOf (best :: rest) ≠ none := by
    intro rest
    induction rest with
    | nil => simp [latestOf]
    | cons next rest ih =>
      intro best
      rw [latestOf_pair]
      exact ih _
  cases times with
  | nil => cases h
  | cons first rest => exact kept rest first

theorem mem_rateWindow (h : row ∈ rateWindow store rows sourceId windowStart now) :
    row ∈ rows ∧ row.sourceId = sourceId ∧ store.before windowStart row.reservedAt = true ∧
      store.before now row.reservedAt = false := by
  have member := (List.perm_insertionSort _ _).mem_iff.mp h
  simpa [and_assoc] using member

/-- What a transaction does to the table: nothing, or it adds a reservation at the sampled
time when nothing blocks it. -/
theorem reserveTransaction_rows (h : reserveTransaction store rows call reservationId = .ok (decision, after)) :
    after = rows ∨ (after = rows ++ [call.reservation reservationId] ∧
      ∃ windowStart rateLimit, call.now.add (-minute) = .ok windowStart ∧
        rateLimitUntil (rateWindow store rows call.snapshot.policy.sourceId windowStart call.now)
          call.snapshot.policy.requestsPerMinute = .ok rateLimit ∧
        latestOf (blockers call rateLimit) = none) := by
  obtain ⟨windowStart, started, h⟩ := bind_ok h
  split at h
  · cases h
    exact .inl rfl
  · obtain ⟨rateLimit, limited, h⟩ := bind_ok h
    split at h
    · cases h
      exact .inl rfl
    · rename_i unblocked
      unfold insertReservation at h
      split at h
      · obtain ⟨_, -, same⟩ := map_ok h
        cases same
        exact .inl rfl
      · cases h
        exact .inr ⟨rfl, windowStart, rateLimit, started, limited, unblocked⟩

/-- A granted call found room in the minute up to its sample. -/
theorem room_of_unblocked (limited : rateLimitUntil window limit = .ok rateLimit)
    (unblocked : latestOf (blockers call rateLimit) = none)
    (recent : ∀ row ∈ window, call.now.instant < row.reservedAt.instant + minute) :
    window.length < limit := by
  by_contra full
  obtain ⟨row, member, time, rfl, later⟩ := rateLimitUntil_full (not_lt.mp full) limited
  have blocks : call.now.instant < time.instant := later ▸ recent row member
  have listed : time ∈ blockers call (some time) :=
    List.mem_filterMap.mpr ⟨some time, by simp, by simp [Option.filter, blocks]⟩
  exact latestOf_mem listed unblocked

theorem windowCount_snoc (rows : List SourceRequestReservation) (row : SourceRequestReservation)
    (sourceId : String) (start : Int) : windowCount (rows ++ [row]) sourceId start =
      windowCount rows sourceId start + if row.sourceId = sourceId ∧ start ≤ row.reservedAt.instant ∧
        row.reservedAt.instant < start + minute then 1 else 0 := by
  simp [windowCount, List.countP_append, List.countP_singleton]

/-- Rows and calls carry clock samples, and calls of the source carry its limit. -/
structure WindowInvariant (sourceId : String) (limit : Nat) (s : SchedulerState) : Prop where
  rows_utc : ∀ row ∈ s.reservations, row.reservedAt.offset = 0
  calls_utc : ∀ call reserving, s.calls call = some reserving → reserving.now.offset = 0
  calls_limit : ∀ call reserving, s.calls call = some reserving →
    reserving.snapshot.policy.sourceId = sourceId →
    reserving.snapshot.policy.requestsPerMinute = limit
  bounded : ∀ start, windowCount s.reservations sourceId start ≤ limit

theorem WindowInvariant.setCall (valid : WindowInvariant sourceId limit s)
    (utc : ∀ reserving, next = some reserving → reserving.now.offset = 0)
    (held : ∀ reserving, next = some reserving → reserving.snapshot.policy.sourceId = sourceId →
      reserving.snapshot.policy.requestsPerMinute = limit) :
    WindowInvariant sourceId limit (s.setCall call next) := by
  refine ⟨valid.rows_utc, fun other reserving found => ?_, fun other reserving found => ?_, valid.bounded⟩
  · rcases SchedulerState.setCall_calls found with old | new
    · exact valid.calls_utc other reserving old
    · exact utc reserving new
  · rcases SchedulerState.setCall_calls found with old | new
    · exact valid.calls_limit other reserving old
    · exact held reserving new

/-- Rows that share a window with a sample are in the minute up to it, when none is after it. -/
theorem windowCount_room {call : ReserveCall} {windowStart : Datetime}
    (rows_utc : ∀ row ∈ rows, row.reservedAt.offset = 0) (utc : call.now.offset = 0)
    (started : call.now.add (-minute) = .ok windowStart) (after : call.now.instant - minute < start)
    (ordered : ∀ row ∈ rows, row.sourceId = sourceId → call.now.instant < row.reservedAt.instant →
      start + minute ≤ row.reservedAt.instant) :
    windowCount rows sourceId start ≤ (rateWindow store rows sourceId windowStart call.now).length := by
  obtain ⟨startAt, startUtc⟩ := Datetime.add_ok started
  rw [rateWindow, List.length_insertionSort, ← List.countP_eq_length_filter, windowCount]
  refine List.countP_mono_left fun row member inside => ?_
  simp only [decide_eq_true_eq] at inside ⊢
  have rowUtc := rows_utc row member
  refine ⟨inside.1, (before_utc store (startUtc.trans utc) rowUtc).mpr (by omega), fun later => ?_⟩
  have later := (before_utc store utc rowUtc).mp later
  have := ordered row member inside.1 later
  omega

/-- A grant in order keeps every window within the limit. -/
theorem WindowInvariant.grant (valid : WindowInvariant sourceId limit s)
    (found : s.calls call = some reserving) (ordered : CommitsInOrder s (.transact call reservationId))
    (h : reserveTransaction store s.reservations reserving reservationId = .ok (decision, rows)) :
    WindowInvariant sourceId limit { s with reservations := rows } := by
  have utc := valid.calls_utc call reserving found
  rcases reserveTransaction_rows h with rfl | ⟨rfl, windowStart, rateLimit, started, limited, unblocked⟩
  · exact ⟨valid.rows_utc, valid.calls_utc, valid.calls_limit, valid.bounded⟩
  · refine ⟨fun row member => ?_, valid.calls_utc, valid.calls_limit, fun start => ?_⟩
    · rcases List.mem_append.mp member with old | new
      · exact valid.rows_utc row old
      · rw [List.mem_singleton.mp new]
        exact utc
    · rw [windowCount_snoc]
      split
      · rename_i inside
        obtain ⟨source, low, high⟩ := inside
        have source : reserving.snapshot.policy.sourceId = sourceId := source
        have low : start ≤ reserving.now.instant := low
        have high : reserving.now.instant < start + minute := high
        have held := valid.calls_limit call reserving found source
        have room := room_of_unblocked limited unblocked fun row member => by
          obtain ⟨among, -, later, -⟩ := mem_rateWindow member
          obtain ⟨startAt, startUtc⟩ := Datetime.add_ok started
          have := (before_utc store (startUtc.trans utc) (valid.rows_utc row among)).mp later
          omega
        rw [held, source] at room
        have before : windowCount s.reservations sourceId (reserving.now.instant - minute + 1) ≤
            (rateWindow store s.reservations sourceId windowStart reserving.now).length :=
          windowCount_room valid.rows_utc utc started (by omega) fun row _ _ later => by omega
        have gap := ordered reserving found (by rw [held, source]; exact before.trans_lt room)
        rw [source] at gap
        have counted : windowCount s.reservations sourceId start ≤
            (rateWindow store s.reservations sourceId windowStart reserving.now).length :=
          windowCount_room valid.rows_utc utc started (by omega) fun row member same later => by
            have := gap row member same later
            omega
        omega
      · exact valid.bounded start

theorem schedulerStep_invariant (valid : WindowInvariant sourceId limit s)
    (held : LimitHeld sourceId limit a) (ordered : CommitsInOrder s a)
    (h : schedulerStep validate store s a = some t) : WindowInvariant sourceId limit t := by
  cases a with
  | reserve call now snapshot request receipts =>
    simp only [schedulerStep] at h
    split at h
    · rename_i sampled
      split at h
      · rename_i reserving checked
        cases h
        obtain ⟨rfl, rfl, -⟩ := reserveChecks_call checked
        refine valid.setCall (fun _ same => ?_) (fun _ same => ?_)
        · cases same
          exact sampled.2
        · cases same
          exact held
      · cases h
        exact valid
    · cases h
  | transact call reservationId =>
    simp only [schedulerStep] at h
    split at h
    · cases h
    · rename_i reserving found
      split at h
      · rename_i decision rows done
        cases h
        exact (valid.grant found ordered done).setCall (by simp) (by simp)
      · cases h
        exact valid.setCall (by simp) (by simp)
  | abort call =>
    cases h
    exact valid.setCall (by simp) (by simp)

/-- In a run whose transactions commit in the order of their samples, no window of a minute
holds more grants of a source than its limit. -/
theorem run_slidingWindow {actions : List SchedulerAction} {s : SchedulerState}
    (held : ∀ a ∈ actions, LimitHeld sourceId limit a)
    (ordered : Transition.Meets (schedulerStep validate store) CommitsInOrder .initial actions)
    (reached : Transition.run (schedulerStep validate store) .initial actions = some s) :
    ∀ start, windowCount s.reservations sourceId start ≤ limit := by
  have initial : WindowInvariant sourceId limit .initial := by
    constructor <;> simp [SchedulerState.initial, windowCount]
  exact (Transition.run_invariant
    (fun _ _ _ valid good => schedulerStep_invariant valid good.1 good.2) initial
    (ordered.and held) reached).bounded

/-- An approved policy with room for one request a minute. -/
def samplePolicy : SourcePolicy where
  sourceId := "iec"
  provider := "IEC"
  baseUrl := some "https://results.example/"
  allowedHosts := ["results.example"]
  accessStatus := .approved
  termsReviewedAt := some "2026-01-01T00:00:00Z"
  termsReference := none
  requestsPerMinute := 1
  maxAttempts := 3
  backoffSeconds := .finite false unitsPerOne representable_one
  requestTimeoutSeconds := .finite false unitsPerOne representable_one
  maxResponseBytes := 1000
  retryStatusCodes := [503]
  captureRawResponse := true
  notes := none

def noon : Datetime := ⟨1767268800000000, 0, Datetime.utc_offset, by decide⟩
def halfMinuteLater : Datetime := ⟨1767268830000000, 0, Datetime.utc_offset, by decide⟩
def minuteLater : Datetime := ⟨1767268860000000, 0, Datetime.utc_offset, by decide⟩

def sampleSnapshot : SourcePolicySnapshot :=
  ⟨"bp_pol_1", "iec", 1, samplePolicy, noon, none, checksum []⟩

def sampleRequest (key : String) : SourceReservationRequest :=
  ⟨1, checksum [], key, "https://results.example/r", "get", 1⟩

def sampleReserve (call : Nat) (now : Datetime) (key : String) : SchedulerAction :=
  .reserve call now sampleSnapshot (sampleRequest key) []

/-- Two calls that commit in the order of their samples, a minute apart. -/
def inOrderCalls : List SchedulerAction := [
  sampleReserve 0 noon "a", sampleReserve 1 minuteLater "b", .transact 0 "r0", .transact 1 "r1"]

/-- A call samples noon, another samples 12:00:30 and commits, then the first commits. -/
def overtaken : List SchedulerAction := [
  sampleReserve 0 noon "a", sampleReserve 1 halfMinuteLater "b", .transact 1 "r1", .transact 0 "r0"]

theorem inOrder_slidingWindow : ∃ s,
    Transition.run (schedulerStep (fun _ _ _ => none) .sqlite) .initial inOrderCalls = some s ∧
    s.reservations.length = 2 ∧ ∀ start, windowCount s.reservations "iec" start ≤ 1 := by
  obtain ⟨s, reached, two⟩ := @Transition.run_test _ _ (schedulerStep (fun _ _ _ => none) .sqlite)
    .initial inOrderCalls (fun s => s.reservations.length = 2) (by decide +kernel)
  refine ⟨s, reached, by simpa using two, run_slidingWindow ?_ (by decide +kernel) reached⟩
  simp [inOrderCalls, sampleReserve, LimitHeld, sampleSnapshot, samplePolicy]

/-- The call that samples first commits last, and both are granted within a minute. -/
theorem overtaken_granted (store : SchedulerStore) : ∃ s,
    Transition.run (schedulerStep (fun _ _ _ => none) store) .initial overtaken = some s ∧
    windowCount s.reservations "iec" noon.instant = 2 := by
  obtain ⟨s, reached, two⟩ := @Transition.run_test _ _ (schedulerStep (fun _ _ _ => none) store)
    .initial overtaken (fun s => windowCount s.reservations "iec" noon.instant = 2)
    (by cases store <;> decide +kernel)
  exact ⟨s, reached, by simpa using two⟩

theorem overtaken_overfull :
    (∃ s, Transition.run (schedulerStep (fun _ _ _ => none) .sqlite) .initial overtaken = some s ∧
      ¬windowCount s.reservations "iec" noon.instant ≤ samplePolicy.requestsPerMinute) ∧
    ∃ s, Transition.run (schedulerStep (fun _ _ _ => none) .postgres) .initial overtaken = some s ∧
      ¬windowCount s.reservations "iec" noon.instant ≤ samplePolicy.requestsPerMinute := by
  obtain ⟨s, reached, two⟩ := overtaken_granted .sqlite
  obtain ⟨t, reached', two'⟩ := overtaken_granted .postgres
  exact ⟨⟨s, reached, by simp [two, samplePolicy]⟩, ⟨t, reached', by simp [two', samplePolicy]⟩⟩

end BallotProof
