import BallotProof.Sources
import BallotProof.Transition
import Mathlib.Data.List.Sort

/-! The reservation gate of the source scheduler: `reserve` samples its clock and checks the
request, then counts and inserts in one transaction under the database lock. -/
namespace BallotProof
open Python

/-- The reasons of `SourceRequestPolicyError` that a request can be refused for. -/
inductive RequestPolicyViolation where
  | insecureScheme | userinfoNotAllowed | hostNotAllowed | methodNotAllowed
  | nonstandardPort | unsafeIpLiteral | fragmentNotAllowed
  deriving DecidableEq, Repr

inductive ReservationBlockReason where
  | policyNotApproved | policySnapshotMismatch | attemptsExhausted | retrySequenceInvalid
  | duplicateReservation | backoff | rateLimit
  | request (violation : RequestPolicyViolation)
  deriving DecidableEq, Repr

structure SourceReservationRequest where
  policyVersion : Nat
  policySnapshotHash : Digest
  requestKey : String
  requestUrl : String
  requestMethod : String
  attempt : Nat
  deriving DecidableEq

structure SourceRequestReservation where
  reservationId : String
  sourceId : String
  policyVersion : Nat
  policySnapshotHash : Digest
  requestKey : String
  requestUrl : String
  requestMethod : String
  attempt : Nat
  reservedAt : Datetime
  deriving DecidableEq

/-- `retryAfter` is `retry_after_seconds` in microseconds. -/
structure ReservationDecision where
  allowed : Bool
  reason : Option ReservationBlockReason
  nextAllowedAt : Option Datetime
  retryAfter : Int
  reservation : Option SourceRequestReservation
  deriving DecidableEq

/-- The fields of a receipt that the scheduler reads. -/
structure ProvenanceReceipt where
  receiptId : String
  sourceId : String
  requestUrl : String
  requestKey : Option String
  retrievedAt : Datetime
  statusCode : Nat
  attempt : Nat
  storedAt : Datetime
  deriving DecidableEq

def ReservationDecision.blocked (reason : ReservationBlockReason) : ReservationDecision :=
  ⟨false, some reason, none, 0, none⟩

/-- The two databases differ in how a `reserved_at` column compares and in what a rejected
INSERT does. -/
inductive SchedulerStore where
  | sqlite | postgres
  deriving DecidableEq

/-- `a < b` on the column: the text of `isoformat`, or a timestamp with time zone. -/
def SchedulerStore.before (store : SchedulerStore) (a b : Datetime) : Bool :=
  match store with
  | .sqlite => a.isoformat < b.isoformat
  | .postgres => a.instant < b.instant

/-- The outcome of an INSERT that a uniqueness constraint rejects. -/
def SchedulerStore.conflict : SchedulerStore → Result ReservationDecision
  | .sqlite => .error ⟨.integrityError, "UNIQUE constraint failed"⟩
  | .postgres => .ok (.blocked .duplicateReservation)

/-- `timedelta(seconds=value * factor)` for a float value, in microseconds. -/
def timedeltaSeconds (value : Binary64) (factor : Nat) : Result Int :=
  match value with
  | .nan => .error ⟨.valueError, "cannot convert float NaN to integer"⟩
  | .infinity _ => .error ⟨.overflowError, "cannot convert float infinity to integer"⟩
  | .finite negative units _ =>
    let exact := units * factor * 1000000
    let micros := roundTies (exact / unitsPerOne) (exact % unitsPerOne) unitsPerOne
    .ok (if negative then -(micros : Int) else micros)

/-- The order of the key `(retrieved_at, stored_at, receipt_id)`. -/
def receiptBefore (a b : ProvenanceReceipt) : Bool :=
  a.retrievedAt.instant < b.retrievedAt.instant ∨ a.retrievedAt.instant = b.retrievedAt.instant ∧
    (a.storedAt.instant < b.storedAt.instant ∨ a.storedAt.instant = b.storedAt.instant ∧
      a.receiptId < b.receiptId)

/-- `matching_receipts[-1]` -/
def latestReceipt (receipts : List ProvenanceReceipt) (policy : SourcePolicy)
    (request : SourceReservationRequest) (now : Datetime) : Option ProvenanceReceipt :=
  let matching := receipts.filter fun receipt => receipt.sourceId = policy.sourceId ∧
    receipt.requestKey = some request.requestKey ∧ receipt.requestUrl = request.requestUrl ∧
    receipt.retrievedAt.instant ≤ now.instant
  (matching.insertionSort fun a b => !receiptBefore b a).getLast?

/-- A call of `reserve` that has passed the checks before its transaction. -/
structure ReserveCall where
  now : Datetime
  snapshot : SourcePolicySnapshot
  request : SourceReservationRequest
  backoffUntil : Option Datetime
  deriving DecidableEq

section
variable (validateSourceRequest : SourcePolicy → String → String → Option RequestPolicyViolation)

/-- `reserve` up to its transaction: a decision, or the call that goes on. -/
def reserveChecks (snapshot : SourcePolicySnapshot) (request : SourceReservationRequest)
    (receipts : List ProvenanceReceipt) (now : Datetime) :
    Result (ReservationDecision ⊕ ReserveCall) :=
  let policy := snapshot.policy
  if request.policyVersion ≠ snapshot.version ∨ request.policySnapshotHash ≠ snapshot.snapshotHash then
    .ok (.inl (.blocked .policySnapshotMismatch))
  else if policy.accessStatus ≠ .approved then .ok (.inl (.blocked .policyNotApproved))
  else match validateSourceRequest policy request.requestUrl request.requestMethod with
  | some violation => .ok (.inl (.blocked (.request violation)))
  | none =>
    if policy.maxAttempts < request.attempt then .ok (.inl (.blocked .attemptsExhausted))
    else if request.attempt ≤ 1 then .ok (.inr ⟨now, snapshot, request, none⟩)
    else match latestReceipt receipts policy request now with
    | none => .ok (.inl (.blocked .retrySequenceInvalid))
    | some latest =>
      if latest.attempt + 1 = request.attempt ∧ latest.statusCode ∈ policy.retryStatusCodes then do
        let backoff ← timedeltaSeconds policy.backoffSeconds (2 ^ (latest.attempt - 1))
        let backoffUntil ← latest.retrievedAt.add backoff
        return .inr ⟨now, snapshot, request, some backoffUntil⟩
      else .ok (.inl (.blocked .retrySequenceInvalid))

end

/-- The rows of the minute up to `now`, in the order of the column. -/
def rateWindow (store : SchedulerStore) (rows : List SourceRequestReservation) (sourceId : String)
    (windowStart now : Datetime) : List SourceRequestReservation :=
  let rows := rows.filter fun row => row.sourceId = sourceId ∧
    store.before windowStart row.reservedAt ∧ ¬store.before now row.reservedAt
  rows.insertionSort fun a b => !store.before b.reservedAt a.reservedAt

/-- When the window has room again, if it is full. -/
def rateLimitUntil (window : List SourceRequestReservation) (limit : Nat) :
    Result (Option Datetime) :=
  if limit ≤ window.length then
    match window[window.length - limit]? with
    | none => .error ⟨.indexError, "list index out of range"⟩
    | some blocking => do return some (← blocking.reservedAt.add minute)
  else .ok none

/-- `max` of datetimes, the first of equal ones. -/
def latestOf (times : List Datetime) : Option Datetime :=
  times.foldl (fun best time => match best with
    | none => some time
    | some best => if best.instant < time.instant then some time else some best) none

/-- The reservation that a granted call inserts. -/
def ReserveCall.reservation (call : ReserveCall) (reservationId : String) :
    SourceRequestReservation where
  reservationId := reservationId
  sourceId := call.snapshot.policy.sourceId
  policyVersion := call.snapshot.version
  policySnapshotHash := call.snapshot.snapshotHash
  requestKey := call.request.requestKey
  requestUrl := call.request.requestUrl
  requestMethod := call.request.requestMethod.toUpper
  attempt := call.request.attempt
  reservedAt := call.now

/-- `blockers` -/
def blockers (call : ReserveCall) (rateLimit : Option Datetime) : List Datetime :=
  [call.backoffUntil, rateLimit].filterMap fun limit =>
    limit.filter fun time => call.now.instant < time.instant

def blockedUntil (call : ReserveCall) (nextAllowed : Datetime) : ReservationDecision where
  allowed := false
  reason := some (if call.backoffUntil.map (·.instant) = some nextAllowed.instant then .backoff
    else .rateLimit)
  nextAllowedAt := some nextAllowed
  retryAfter := max 0 (nextAllowed.instant - call.now.instant)
  reservation := none

/-- The INSERT of a granted call. -/
def insertReservation (store : SchedulerStore) (rows : List SourceRequestReservation)
    (reservation : SourceRequestReservation) : Result (ReservationDecision × List SourceRequestReservation) :=
  if reservation.reservationId ∈ rows.map (·.reservationId) then
    store.conflict.map fun decision => (decision, rows)
  else .ok (⟨true, none, none, 0, some reservation⟩, rows ++ [reservation])

/-- The transaction of `reserve`. -/
def reserveTransaction (store : SchedulerStore) (rows : List SourceRequestReservation)
    (call : ReserveCall) (reservationId : String) :
    Result (ReservationDecision × List SourceRequestReservation) := do
  let policy := call.snapshot.policy
  let windowStart ← call.now.add (-minute)
  if ∃ row ∈ rows, row.sourceId = policy.sourceId ∧ row.requestKey = call.request.requestKey ∧
      row.attempt = call.request.attempt then
    .ok (.blocked .duplicateReservation, rows)
  else
    let window := rateWindow store rows policy.sourceId windowStart call.now
    let rateLimit ← rateLimitUntil window policy.requestsPerMinute
    match latestOf (blockers call rateLimit) with
    | some nextAllowed => .ok (blockedUntil call nextAllowed, rows)
    | none => insertReservation store rows (call.reservation reservationId)

/-- A call that passes the checks carries the request and its sampled time. -/
theorem reserveChecks_call (h : reserveChecks validate snapshot request receipts now = .ok (.inr call)) :
    call.now = now ∧ call.snapshot = snapshot ∧ call.request = request := by
  simp only [reserveChecks] at h
  split at h
  · cases h
  · split at h
    · cases h
    · split at h
      · cases h
      · split at h
        · cases h
        · split at h
          · cases h
            exact ⟨rfl, rfl, rfl⟩
          · split at h
            · cases h
            · split at h
              · obtain ⟨_, -, h⟩ := bind_ok h
                obtain ⟨_, -, h⟩ := bind_ok h
                cases h
                exact ⟨rfl, rfl, rfl⟩
              · cases h

/-- A refusal before the transaction names no time. -/
theorem reserveChecks_refused
    (h : reserveChecks validate snapshot request receipts now = .ok (.inl decision)) :
    decision.nextAllowedAt = none := by
  simp only [reserveChecks] at h
  split at h
  · cases h
    rfl
  · split at h
    · cases h
      rfl
    · split at h
      · cases h
        rfl
      · split at h
        · cases h
          rfl
        · split at h
          · cases h
          · split at h
            · cases h
              rfl
            · split at h
              · obtain ⟨_, -, h⟩ := bind_ok h
                obtain ⟨_, -, h⟩ := bind_ok h
                cases h
              · cases h
                rfl

theorem mem_of_latestOf {times : List Datetime} (h : latestOf times = some latest) : latest ∈ times := by
  have kept : ∀ (rest : List Datetime) (best : Datetime), rest.foldl (fun best time => match best with
      | none => some time
      | some best => if best.instant < time.instant then some time else some best) (some best) = some latest →
      latest = best ∨ latest ∈ rest := by
    intro rest
    induction rest with
    | nil => simp [eq_comm]
    | cons next rest ih =>
      intro best h
      simp only [List.foldl_cons] at h
      split at h
      · rcases ih next h with rfl | member
        · exact .inr List.mem_cons_self
        · exact .inr (List.mem_cons_of_mem _ member)
      · rcases ih best h with same | member
        · exact .inl same
        · exact .inr (List.mem_cons_of_mem _ member)
  cases times with
  | nil => cases h
  | cons first rest =>
    rcases kept rest first h with rfl | member
    · exact List.mem_cons_self
    · exact List.mem_cons_of_mem _ member

/-- Only limits after the sampled time block a call. -/
theorem latestOf_blockers (h : latestOf (blockers call rateLimit) = some nextAllowed) :
    call.now.instant < nextAllowed.instant := by
  obtain ⟨limit, -, kept⟩ := List.mem_filterMap.mp (mem_of_latestOf h)
  simpa using (Option.filter_eq_some_iff.mp kept).2

/-- No row has the reservation id or the `(source_id, request_key, attempt)` of another row. -/
structure FreshReservation (rows : List SourceRequestReservation)
    (reservation : SourceRequestReservation) : Prop where
  id : reservation.reservationId ∉ rows.map (·.reservationId)
  key : ∀ row ∈ rows, ¬(row.sourceId = reservation.sourceId ∧
    row.requestKey = reservation.requestKey ∧ row.attempt = reservation.attempt)

/-- What the transaction decides: it refuses and leaves the table as it is, or it grants a
fresh reservation. -/
theorem reserveTransaction_decision
    (h : reserveTransaction store rows call reservationId = .ok (decision, after)) :
    (after = rows ∧ decision.reservation = none ∧
      ∀ nextAllowed, decision.nextAllowedAt = some nextAllowed →
        call.now.instant < nextAllowed.instant) ∨
    (after = rows ++ [call.reservation reservationId] ∧
      decision.reservation = some (call.reservation reservationId) ∧
      FreshReservation rows (call.reservation reservationId)) := by
  obtain ⟨_, -, h⟩ := bind_ok h
  split at h
  · cases h
    exact .inl ⟨rfl, rfl, by simp [ReservationDecision.blocked]⟩
  · rename_i unique
    obtain ⟨rateLimit, -, h⟩ := bind_ok h
    split at h
    · rename_i nextAllowed blocked
      cases h
      refine .inl ⟨rfl, rfl, fun time same => ?_⟩
      cases same
      exact latestOf_blockers blocked
    · unfold insertReservation at h
      split at h
      · obtain ⟨refused, conflict, same⟩ := map_ok h
        cases same
        cases store with
        | sqlite => cases conflict
        | postgres =>
          cases conflict
          exact .inl ⟨rfl, rfl, by simp [ReservationDecision.blocked]⟩
      · rename_i free
        cases h
        exact .inr ⟨rfl, rfl, free, fun row member taken => unique ⟨row, member, taken⟩⟩

end BallotProof
