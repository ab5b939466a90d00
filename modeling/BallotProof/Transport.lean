import BallotProof.Rows
import BallotProof.SchedulerWindow

/-! The transport executor: `execute` checks its binding, claims the reservation, sends,
captures the response and records how it ended. Every store operation is a step of its own,
and a process may stop between any two. -/
namespace BallotProof
open Python

inductive TransportExecutionStatus where
  | claimed | completed | transportError | captureError
  deriving DecidableEq, Repr

def TransportExecutionStatus.text : TransportExecutionStatus → String
  | .claimed => "claimed"
  | .completed => "completed"
  | .transportError => "transport_error"
  | .captureError => "capture_error"

/-- The provenance attributes that a transport object has, and the name of its class. -/
structure TransportIdentity where
  transportId : Option String
  transportVersion : Option String
  transportConfigHash : Option String
  className : String
  deriving DecidableEq

structure TransportProvenance where
  transportId : String
  transportVersion : String
  transportConfigHash : String
  kind : String
  deriving DecidableEq

structure TransportExecutionRecord where
  reservationId : String
  sourceId : String
  requestKey : String
  attempt : Nat
  policySnapshotHash : Digest
  provenance : TransportProvenance
  status : TransportExecutionStatus
  startedAt : Datetime
  completedAt : Option Datetime
  receiptId : Option String
  errorCode : Option String
  deriving DecidableEq

structure TransportRequest where
  reservationId : String
  sourceId : String
  policySnapshotHash : Digest
  requestUrl : String
  requestMethod : String
  requestKey : String
  attempt : Nat
  allowedHosts : List String
  timeoutSeconds : Binary64
  maxResponseBytes : Nat
  followRedirects : Bool
  deriving DecidableEq

/-- The pattern `^[a-f0-9]{64}$` -/
def isHash (text : String) : Bool :=
  text.length = 64 ∧ text.toList.all fun c => c.isDigit || ('a' ≤ c && c ≤ 'f')

/-- The field constraints of `TransportProvenance`. -/
def TransportProvenance.valid (p : TransportProvenance) : Bool :=
  1 ≤ p.transportId.length ∧ p.transportId.length ≤ 256 ∧ 1 ≤ p.transportVersion.length ∧
    p.transportVersion.length ≤ 128 ∧ isHash p.transportConfigHash

section
variable (sha256 : Bytes → Digest)
variable (validateSourceRequest : SourcePolicy → String → String → Option RequestPolicyViolation)

/-- `_transport_provenance` -/
def transportProvenance (transport : TransportIdentity) : Result TransportProvenance := do
  let provenance ← match transport.transportId, transport.transportVersion,
      transport.transportConfigHash with
    | some transportId, some version, some hash =>
      .ok ⟨transportId, version, hash, "declared"⟩
    | none, none, none =>
      let identity := transport.className
      let config := "compatibility:" ++ identity ++ ":unversioned"
      .ok ⟨identity, "unversioned", (sha256 (encode config.toList)).hex, "compatibility"⟩
    | _, _, _ => .error ⟨.valueError, "transport provenance attributes must be supplied together"⟩
  raiseIf (provenance.valid = false) ⟨.validationError, "TransportProvenance"⟩
  return provenance

/-- `_validate_binding` -/
def validateBinding (policies : List SourcePolicySnapshot) (snapshot : SourcePolicySnapshot)
    (reservation : SourceRequestReservation) : Result SourcePolicySnapshot :=
  match latestPolicy policies reservation.sourceId with
  | .error _ => .error ⟨.permissionError, "source policy is missing at transport execution time"⟩
  | .ok current => do
    raiseIf (current.policy.accessStatus ≠ .approved)
      ⟨.permissionError, "source policy is not approved for transport execution"⟩
    raiseIf (snapshot.sourceId ≠ current.sourceId ∨ snapshot.version ≠ current.version ∨
        snapshot.snapshotHash ≠ current.snapshotHash)
      ⟨.permissionError, "source policy snapshot is no longer current"⟩
    raiseIf (reservation.sourceId ≠ current.policy.sourceId)
      ⟨.valueError, "reservation source_id does not match current policy snapshot"⟩
    raiseIf (reservation.policyVersion ≠ current.version)
      ⟨.permissionError, "reservation policy version is no longer current"⟩
    raiseIf (reservation.policySnapshotHash ≠ current.snapshotHash)
      ⟨.permissionError, "reservation policy hash is no longer current"⟩
    raiseIf (current.policy.maxAttempts < reservation.attempt)
      ⟨.valueError, "reservation attempt exceeds source policy max_attempts"⟩
    raiseIf (validateSourceRequest current.policy reservation.requestUrl
        reservation.requestMethod ≠ none)
      ⟨.valueError, "source request violates its policy"⟩
    return current

end

/-- The request that `execute` hands to `transport.send`. -/
def transportRequest (current : SourcePolicySnapshot) (reservation : SourceRequestReservation)
    (maxBytes : Option Nat) : TransportRequest where
  reservationId := reservation.reservationId
  sourceId := reservation.sourceId
  policySnapshotHash := current.snapshotHash
  requestUrl := reservation.requestUrl
  requestMethod := reservation.requestMethod
  requestKey := reservation.requestKey
  attempt := reservation.attempt
  allowedHosts := current.policy.allowedHosts
  timeoutSeconds := current.policy.requestTimeoutSeconds
  maxResponseBytes := match maxBytes with
    | none => current.policy.maxResponseBytes
    | some bound => min current.policy.maxResponseBytes bound
  followRedirects := false

/-- The row that `_claim` inserts. -/
def claimedRow (reservation : SourceRequestReservation) (provenance : TransportProvenance)
    (startedAt : Datetime) : TransportExecutionRecord where
  reservationId := reservation.reservationId
  sourceId := reservation.sourceId
  requestKey := reservation.requestKey
  attempt := reservation.attempt
  policySnapshotHash := reservation.policySnapshotHash
  provenance := provenance
  status := .claimed
  startedAt := startedAt
  completedAt := none
  receiptId := none
  errorCode := none

def alreadyConsumed : Error := ⟨.valueError, "reservation has already been consumed"⟩

/-- `SourceTransportExecutor._claim`, where the INSERT raises an integrity error. -/
def claim (rows : List TransportExecutionRecord) (row : TransportExecutionRecord) :
    Result (List TransportExecutionRecord) :=
  match Sql.insertRow (·.reservationId) row rows with
  | none => .error alreadyConsumed
  | some rows => .ok rows

/-- `PostgresSourceTransportExecutor._claim`, where the INSERT returns no row. -/
def postgresClaim (rows : List TransportExecutionRecord) (row : TransportExecutionRecord) :
    Result (List TransportExecutionRecord) :=
  match Sql.insertOrIgnore (·.reservationId) row rows with
  | (_, none) => .error alreadyConsumed
  | (rows, some _) => .ok rows

/-- `_finish` -/
def finish (rows : List TransportExecutionRecord) (reservationId : String)
    (status : TransportExecutionStatus) (receiptId errorCode : Option String)
    (completedAt : Datetime) : List TransportExecutionRecord :=
  Sql.updateRow (·.reservationId) reservationId
    (fun row => { row with status, completedAt := some completedAt, receiptId, errorCode }) rows

inductive TransportStore where
  | sqlite | postgres
  deriving DecidableEq

def TransportStore.claim : TransportStore → List TransportExecutionRecord → TransportExecutionRecord →
    Result (List TransportExecutionRecord)
  | .sqlite => BallotProof.claim
  | .postgres => postgresClaim

/-- Both claims insert the row exactly when the reservation has none. -/
theorem TransportStore.claim_ok (store : TransportStore) : store.claim rows row = .ok after ↔
    row.reservationId ∉ rows.map (·.reservationId) ∧ after = rows ++ [row] := by
  cases store with
  | sqlite =>
    simp only [TransportStore.claim, BallotProof.claim]
    split
    · rename_i taken
      simp [Sql.insertRow_none.mp taken]
    · rename_i free
      obtain ⟨fresh, rfl⟩ := Sql.insertRow_some.mp free
      simp [fresh, eq_comm]
  | postgres =>
    simp only [TransportStore.claim, postgresClaim, Sql.insertOrIgnore]
    by_cases taken : row.reservationId ∈ rows.map (·.reservationId)
    · simp [taken]
    · simp [taken, eq_comm]

/-- An `execute` call between two of its steps. -/
inductive ExecuteCall where
  | claiming (current : SourcePolicySnapshot) (reservation : SourceRequestReservation)
      (provenance : TransportProvenance) (maxBytes : Option Nat) (startedAt : Datetime)
  | sending (request : TransportRequest)
  | capturing (request : TransportRequest)
  | finishing (reservationId : String) (status : TransportExecutionStatus)
      (receiptId errorCode : Option String)
  | returned (receiptId : String)
  | raised
  deriving DecidableEq

/-- `sends` is history: every call of `transport.send`, in order. -/
structure TransportState where
  policies : List SourcePolicySnapshot
  executions : List TransportExecutionRecord
  calls : Nat → Option ExecuteCall
  sends : List TransportRequest

inductive TransportAction where
  | policies (rows : List SourcePolicySnapshot)
  | execute (call : Nat) (snapshot : SourcePolicySnapshot) (reservation : SourceRequestReservation)
      (transport : TransportIdentity) (maxBytes : Option Nat) (startedAt : Datetime)
  | claim (call : Nat)
  | send (call : Nat) (responds : Bool)
  | capture (call : Nat) (receiptId : Option String)
  | finish (call : Nat) (completedAt : Datetime)
  | collect (call : Nat)
  | abort (call : Nat)
  deriving DecidableEq

namespace TransportState

def initial : TransportState := ⟨[], [], fun _ => none, []⟩

def setCall (s : TransportState) (call : Nat) (next : Option ExecuteCall) : TransportState :=
  { s with calls := Function.update s.calls call next }

@[simp] theorem setCall_executions (s : TransportState) :
    (s.setCall call next).executions = s.executions := rfl

@[simp] theorem setCall_sends (s : TransportState) : (s.setCall call next).sends = s.sends := rfl

theorem setCall_calls {s : TransportState} (h : (s.setCall call next).calls other = some found) :
    (other ≠ call ∧ s.calls other = some found) ∨ (other = call ∧ next = some found) := by
  by_cases same : other = call
  · subst same
    exact .inr ⟨rfl, by simpa [setCall] using h⟩
  · exact .inl ⟨same, by simpa [setCall, same] using h⟩

end TransportState

section
variable (sha256 : Bytes → Digest)
variable (validateSourceRequest : SourcePolicy → String → String → Option RequestPolicyViolation)
variable (store : TransportStore)

def transportStep (s : TransportState) : TransportAction → Option TransportState
  | .policies rows => some { s with policies := rows }
  | .execute call snapshot reservation transport maxBytes startedAt =>
    match s.calls call with
    | some _ => none
    | none =>
      match validateBinding validateSourceRequest s.policies snapshot reservation,
        transportProvenance sha256 transport with
      | .ok current, .ok provenance =>
        some (s.setCall call (some (.claiming current reservation provenance maxBytes startedAt)))
      | _, _ => some (s.setCall call (some .raised))
  | .claim call =>
    match s.calls call with
    | some (.claiming current reservation provenance maxBytes startedAt) =>
      match store.claim s.executions (claimedRow reservation provenance startedAt) with
      | .ok rows => some ({ s with executions := rows }.setCall call
          (some (.sending (transportRequest current reservation maxBytes))))
      | .error _ => some (s.setCall call (some .raised))
    | _ => none
  | .send call responds =>
    match s.calls call with
    | some (.sending request) =>
      let next := if responds then ExecuteCall.capturing request
        else .finishing request.reservationId .transportError none (some "transport_exception")
      some ({ s with sends := s.sends ++ [request] }.setCall call (some next))
    | _ => none
  | .capture call receiptId =>
    match s.calls call with
    | some (.capturing request) =>
      let next := match receiptId with
        | some receiptId => ExecuteCall.finishing request.reservationId .completed (some receiptId) none
        | none => .finishing request.reservationId .captureError none (some "capture_exception")
      some (s.setCall call (some next))
    | _ => none
  | .finish call completedAt =>
    match s.calls call with
    | some (.finishing reservationId status receiptId errorCode) =>
      let next := match receiptId with
        | some receiptId => ExecuteCall.returned receiptId
        | none => .raised
      let rows := BallotProof.finish s.executions reservationId status receiptId errorCode completedAt
      some ({ s with executions := rows }.setCall call (some next))
    | _ => none
  | .collect call =>
    match s.calls call with
    | some (.returned _) | some .raised => some (s.setCall call none)
    | _ => none
  | .abort call => some (s.setCall call none)

end

theorem finish_keys (rows : List TransportExecutionRecord) :
    (finish rows reservationId status receiptId errorCode completedAt).map (·.reservationId) =
      rows.map (·.reservationId) :=
  Sql.updateRow_keys fun _ => rfl

/-- A send belongs to a claimed reservation, and a call about to send is the only one with
its reservation, which has not been sent. -/
structure OneShot (s : TransportState) : Prop where
  claimed : ∀ request ∈ s.sends, request.reservationId ∈ s.executions.map (·.reservationId)
  pending : ∀ call request, s.calls call = some (.sending request) →
    request.reservationId ∈ s.executions.map (·.reservationId) ∧
      request.reservationId ∉ s.sends.map (·.reservationId)
  apart : ∀ call other request others, s.calls call = some (.sending request) →
    s.calls other = some (.sending others) → request.reservationId = others.reservationId →
    call = other
  once : (s.sends.map (·.reservationId)).Nodup

theorem initial_oneShot : OneShot .initial := by
  constructor <;> simp [TransportState.initial]

/-- A call that moves on to anything but a send keeps the invariant. -/
theorem OneShot.setCall (valid : OneShot s) (quiet : ∀ request, next ≠ some (.sending request)) :
    OneShot (s.setCall call next) := by
  have old {other request} (h : (s.setCall call next).calls other = some (.sending request)) :
      s.calls other = some (.sending request) := by
    rcases TransportState.setCall_calls h with ⟨-, h⟩ | ⟨-, h⟩
    · exact h
    · exact absurd h (quiet request)
  exact ⟨valid.claimed, fun other request h => valid.pending other request (old h),
    fun call other request others h h' same => valid.apart call other request others (old h) (old h') same,
    valid.once⟩

/-- Only the column of reservation ids matters. -/
theorem OneShot.executions (valid : OneShot s)
    (same : rows.map (·.reservationId) = s.executions.map (·.reservationId)) :
    OneShot { s with executions := rows } := by
  refine ⟨fun request member => ?_, fun call request h => ?_, valid.apart, valid.once⟩
  · rw [same]
    exact valid.claimed request member
  · rw [same]
    exact valid.pending call request h

/-- A claim that succeeds lets one call send. -/
theorem OneShot.claim (valid : OneShot s) (fresh : row.reservationId ∉ s.executions.map (·.reservationId))
    (same : request.reservationId = row.reservationId) :
    OneShot ({ s with executions := s.executions ++ [row] }.setCall call (some (.sending request))) := by
  have kept {id} (h : id ∈ s.executions.map (·.reservationId)) :
      id ∈ (s.executions ++ [row]).map (·.reservationId) := by
    rw [List.map_append]
    exact List.mem_append_left _ h
  refine ⟨fun sent member => kept (valid.claimed sent member), ?_, ?_, valid.once⟩
  · intro other found h
    rcases TransportState.setCall_calls h with ⟨-, h⟩ | ⟨-, h⟩
    · exact ⟨kept (valid.pending other found h).1, (valid.pending other found h).2⟩
    · cases h
      refine ⟨by simp [same], fun sent => fresh ?_⟩
      obtain ⟨earlier, member, id⟩ := List.mem_map.mp sent
      rw [← same, ← id]
      exact valid.claimed earlier member
  · intro first second left right h h' equal
    rcases TransportState.setCall_calls h with ⟨-, old⟩ | ⟨mine, new⟩ <;>
      rcases TransportState.setCall_calls h' with ⟨-, old'⟩ | ⟨mine', new'⟩
    · exact valid.apart first second left right old old' equal
    · cases new'
      exact absurd (equal.trans same ▸ (valid.pending first left old).1) fresh
    · cases new
      exact absurd (equal.symm.trans same ▸ (valid.pending second right old').1) fresh
    · exact mine.trans mine'.symm

/-- A send uses up the right to send. -/
theorem OneShot.send (valid : OneShot s) (found : s.calls call = some (.sending request))
    (quiet : ∀ request, next ≠ some (.sending request)) :
    OneShot ({ s with sends := s.sends ++ [request] }.setCall call next) := by
  obtain ⟨claimed, unsent⟩ := valid.pending call request found
  refine ⟨fun sent member => ?_, ?_, ?_, ?_⟩
  · rcases List.mem_append.mp member with old | new
    · exact valid.claimed sent old
    · rw [List.mem_singleton.mp new]
      exact claimed
  · intro other pending h
    rcases TransportState.setCall_calls h with ⟨different, h⟩ | ⟨-, h⟩
    · refine ⟨(valid.pending other pending h).1, fun sent => ?_⟩
      simp only [TransportState.setCall_sends, List.map_append, List.map_singleton,
        List.mem_append, List.mem_singleton] at sent
      rcases sent with old | new
      · exact (valid.pending other pending h).2 old
      · exact different (valid.apart other call pending request h found new)
    · exact absurd h (quiet pending)
  · intro first second left right h h' equal
    rcases TransportState.setCall_calls h with ⟨-, h⟩ | ⟨-, h⟩
    · rcases TransportState.setCall_calls h' with ⟨-, h'⟩ | ⟨-, h'⟩
      · exact valid.apart first second left right h h' equal
      · exact absurd h' (quiet right)
    · exact absurd h (quiet left)
  · simp only [TransportState.setCall_sends, List.map_append, List.map_singleton]
    exact List.nodup_append.mpr ⟨valid.once, List.nodup_singleton _,
      fun id member other same => by rw [List.mem_singleton.mp same]; rintro rfl; exact unsent member⟩

theorem transportStep_oneShot (valid : OneShot s)
    (h : transportStep sha256 validate store s a = some t) : OneShot t := by
  cases a with
  | policies rows =>
    cases h
    exact ⟨valid.claimed, valid.pending, valid.apart, valid.once⟩
  | execute call snapshot reservation transport maxBytes startedAt =>
    simp only [transportStep] at h
    split at h
    · cases h
    · split at h <;> (cases h; exact valid.setCall (by simp))
  | claim call =>
    simp only [transportStep] at h
    split at h
    · split at h
      · rename_i rows done
        cases h
        obtain ⟨fresh, rfl⟩ := (store.claim_ok).mp done
        exact valid.claim fresh rfl
      · cases h
        exact valid.setCall (by simp)
    · cases h
  | send call responds =>
    simp only [transportStep] at h
    split at h
    · rename_i request found
      cases h
      exact valid.send found (by cases responds <;> simp)
    · cases h
  | capture call receiptId =>
    simp only [transportStep] at h
    split at h
    · cases h
      exact valid.setCall (by cases receiptId <;> simp)
    · cases h
  | finish call completedAt =>
    simp only [transportStep] at h
    split at h
    · rename_i reservationId status receiptId errorCode found
      cases h
      exact (valid.executions (finish_keys s.executions)).setCall (by cases receiptId <;> simp)
    · cases h
  | collect call =>
    simp only [transportStep] at h
    split at h
    · cases h
      exact valid.setCall (by simp)
    · cases h
      exact valid.setCall (by simp)
    · cases h
  | abort call =>
    cases h
    exact valid.setCall (by simp)

/-- The call that a step belongs to. -/
def TransportAction.call : TransportAction → Option Nat
  | .policies _ => none
  | .execute call _ _ _ _ _ | .claim call | .send call _ | .capture call _ | .finish call _
  | .collect call | .abort call => some call

/-- A call leaves the policies and the other calls as they are. -/
theorem transportStep_frame (mine : a.call = some call)
    (h : transportStep sha256 validate store s a = some t) :
    t.policies = s.policies ∧ ∀ other, other ≠ call → t.calls other = s.calls other := by
  have moved (s : TransportState) (next : Option ExecuteCall) :
      (s.setCall call next).policies = s.policies ∧
        ∀ other, other ≠ call → (s.setCall call next).calls other = s.calls other :=
    ⟨rfl, fun other different => by simp [TransportState.setCall, different]⟩
  cases a with
  | policies => cases mine
  | execute k snapshot reservation transport maxBytes startedAt =>
    cases mine
    simp only [transportStep] at h
    split at h
    · cases h
    · split at h <;> (cases h; exact moved _ _)
  | claim k =>
    cases mine
    simp only [transportStep] at h
    split at h
    · split at h <;> (cases h; exact moved _ _)
    · cases h
  | send k responds =>
    cases mine
    simp only [transportStep] at h
    split at h
    · cases h
      exact moved _ _
    · cases h
  | capture k receiptId =>
    cases mine
    simp only [transportStep] at h
    split at h
    · cases h
      exact moved _ _
    · cases h
  | finish k completedAt =>
    cases mine
    simp only [transportStep] at h
    split at h
    · cases h
      exact moved _ _
    · cases h
  | collect k =>
    cases mine
    simp only [transportStep] at h
    split at h
    · cases h
      exact moved _ _
    · cases h
      exact moved _ _
    · cases h
  | abort k =>
    cases mine
    cases h
    exact moved _ _

/-- The call works for the reservation. -/
def ExecuteCall.serves (reservation : SourceRequestReservation) : ExecuteCall → Prop
  | .claiming _ own _ _ _ => own = reservation
  | .sending request | .capturing request => request.reservationId = reservation.reservationId
  | .finishing reservationId _ _ _ => reservationId = reservation.reservationId
  | .returned _ | .raised => True

/-- A call works for one reservation from its begin to its end. -/
theorem transportStep_serves (mine : a.call = some call)
    (begins : ∀ k snapshot own transport maxBytes startedAt,
      a = .execute k snapshot own transport maxBytes startedAt → own = reservation)
    (serving : ∀ found, s.calls call = some found → found.serves reservation)
    (h : transportStep sha256 validate store s a = some t) :
    ∀ found, t.calls call = some found → found.serves reservation := by
  have moved {s : TransportState} {next : Option ExecuteCall}
      (serves : ∀ found, next = some found → found.serves reservation) :
      ∀ found, (s.setCall call next).calls call = some found → found.serves reservation := by
    intro found same
    exact serves found (by simpa [TransportState.setCall] using same)
  cases a with
  | policies => cases mine
  | execute k snapshot own transport maxBytes startedAt =>
    cases mine
    have own := begins _ _ _ _ _ _ rfl
    simp only [transportStep] at h
    split at h
    · cases h
    · split at h <;> (cases h; exact moved fun found same => by cases same; simp [ExecuteCall.serves, own])
  | claim k =>
    cases mine
    simp only [transportStep] at h
    split at h
    · rename_i current own provenance maxBytes startedAt found
      have own : own = reservation := serving _ found
      split at h <;> cases h
      · refine moved fun found same => ?_
        cases same
        rw [own]
        rfl
      · refine moved fun found same => ?_
        cases same
        trivial
    · cases h
  | send k responds =>
    cases mine
    simp only [transportStep] at h
    split at h
    · rename_i request found
      have own : request.reservationId = reservation.reservationId := serving _ found
      cases h
      refine moved fun found same => ?_
      cases responds <;> (cases same; exact own)
    · cases h
  | capture k receiptId =>
    cases mine
    simp only [transportStep] at h
    split at h
    · rename_i request found
      have own : request.reservationId = reservation.reservationId := serving _ found
      cases h
      refine moved fun found same => ?_
      cases receiptId <;> (cases same; exact own)
    · cases h
  | finish k completedAt =>
    cases mine
    simp only [transportStep] at h
    split at h
    · rename_i id status receiptId errorCode found
      cases h
      refine moved fun found same => ?_
      cases receiptId <;> (cases same; trivial)
    · cases h
  | collect k =>
    cases mine
    simp only [transportStep] at h
    split at h
    · cases h
      exact moved fun _ same => by cases same
    · cases h
      exact moved fun _ same => by cases same
    · cases h
  | abort k =>
    cases mine
    cases h
    exact moved fun _ same => by cases same

/-- Only a `send` step sends, and it sends the request of its call. -/
theorem transportStep_sends (h : transportStep sha256 validate store s a = some t) :
    match a with
    | .send call _ => ∃ request, s.calls call = some (.sending request) ∧ t.sends = s.sends ++ [request]
    | _ => t.sends = s.sends := by
  cases a with
  | send k responds =>
    simp only [transportStep] at h
    split at h
    · rename_i request found
      cases h
      exact ⟨request, found, rfl⟩
    · cases h
  | policies | abort =>
    cases h
    rfl
  | execute =>
    simp only [transportStep] at h
    split at h
    · cases h
    · split at h <;> (cases h; rfl)
  | claim =>
    simp only [transportStep] at h
    split at h
    · split at h <;> (cases h; rfl)
    · cases h
  | capture | finish =>
    simp only [transportStep] at h
    split at h
    · cases h
      rfl
    · cases h
  | collect =>
    simp only [transportStep] at h
    split at h
    · cases h
      rfl
    · cases h
      rfl
    · cases h

/-- A binding that holds names the latest snapshot of the source. -/
theorem validateBinding_ok (h : validateBinding validate policies snapshot reservation = .ok current) :
    latestPolicy policies reservation.sourceId = .ok current ∧
      current.policy.accessStatus = .approved ∧ snapshot.version = current.version ∧
      snapshot.snapshotHash = current.snapshotHash := by
  unfold validateBinding at h
  split at h
  · cases h
  · rename_i latest found
    simp only [bind_eq_ok, raiseIf_ok, exists_const, not_or, not_not] at h
    obtain ⟨status, ⟨-, version, hash⟩, -, -, -, -, -, same⟩ := h
    cases same
    exact ⟨found, status, version, hash⟩

/-- A call is about to claim only when its `execute` has just checked the binding. -/
theorem transportStep_claiming (mine : a.call = some call)
    (h : transportStep sha256 validate store s a = some t)
    (found : t.calls call = some (.claiming current own provenance maxBytes startedAt)) :
    ∃ snapshot transport, a = .execute call snapshot own transport maxBytes startedAt ∧
      validateBinding validate s.policies snapshot own = .ok current := by
  have moved {s : TransportState} {next : Option ExecuteCall}
      (found : (s.setCall call next).calls call =
        some (.claiming current own provenance maxBytes startedAt)) :
      next = some (.claiming current own provenance maxBytes startedAt) := by
    simpa [TransportState.setCall] using found
  cases a with
  | policies => cases mine
  | execute k snapshot reservation transport bytes started =>
    cases mine
    simp only [transportStep] at h
    split at h
    · cases h
    · split at h
      · rename_i bound _
        cases h
        cases moved found
        exact ⟨snapshot, transport, rfl, bound⟩
      · cases h
        cases moved found
  | claim k =>
    cases mine
    simp only [transportStep] at h
    split at h
    · split at h <;> (cases h; cases moved found)
    · cases h
  | send k responds =>
    cases mine
    simp only [transportStep] at h
    split at h
    · cases h
      have := moved found
      cases responds <;> cases this
    · cases h
  | capture k receiptId =>
    cases mine
    simp only [transportStep] at h
    split at h
    · cases h
      have := moved found
      cases receiptId <;> cases this
    · cases h
  | finish k completedAt =>
    cases mine
    simp only [transportStep] at h
    split at h
    · rename_i receiptId _ _
      cases h
      have := moved found
      cases receiptId <;> cases this
    · cases h
  | collect k =>
    cases mine
    simp only [transportStep] at h
    split at h
    · cases h
      cases moved found
    · cases h
      cases moved found
    · cases h
  | abort k =>
    cases mine
    cases h
    cases moved found

/-- The begin of `execute` leaves the executions, and the call raises or is about to claim. -/
theorem transportStep_execute (h : transportStep sha256 validate store s
      (.execute call snapshot own transport maxBytes startedAt) = some t) :
    t.executions = s.executions ∧ (t.calls call = some .raised ∨ ∃ current provenance,
      t.calls call = some (.claiming current own provenance maxBytes startedAt)) := by
  simp only [transportStep] at h
  split at h
  · cases h
  · split at h
    · rename_i current provenance _ _
      cases h
      exact ⟨rfl, .inr ⟨current, provenance, by simp [TransportState.setCall]⟩⟩
    · cases h
      exact ⟨rfl, .inl (by simp [TransportState.setCall])⟩

/-- A claim inserts the row of its reservation, or raises when there is one. -/
theorem transportStep_claim (h : transportStep sha256 validate store s (.claim call) = some t) :
    ∃ current own provenance maxBytes startedAt,
      s.calls call = some (.claiming current own provenance maxBytes startedAt) ∧
      (own.reservationId ∉ s.executions.map (·.reservationId) ∧
          t.executions = s.executions ++ [claimedRow own provenance startedAt] ∧
          t.calls call = some (.sending (transportRequest current own maxBytes)) ∨
        own.reservationId ∈ s.executions.map (·.reservationId) ∧
          t.executions = s.executions ∧ t.calls call = some .raised) := by
  simp only [transportStep] at h
  split at h
  · rename_i current own provenance maxBytes startedAt found
    refine ⟨current, own, provenance, maxBytes, startedAt, found, ?_⟩
    split at h
    · rename_i rows done
      cases h
      obtain ⟨fresh, rfl⟩ := store.claim_ok.mp done
      exact .inl ⟨fresh, rfl, by simp [TransportState.setCall]⟩
    · rename_i error refused
      cases h
      refine .inr ⟨?_, rfl, by simp [TransportState.setCall]⟩
      by_contra fresh
      rw [store.claim_ok.mpr ⟨fresh, rfl⟩] at refused
      cases refused
  · cases h

/-- A send is followed by a capture, or by an end as a transport error. -/
theorem transportStep_send (h : transportStep sha256 validate store s (.send call responds) = some t) :
    ∃ request, s.calls call = some (.sending request) ∧ t.executions = s.executions ∧
      (t.calls call = some (.capturing request) ∨ t.calls call =
        some (.finishing request.reservationId .transportError none (some "transport_exception"))) := by
  simp only [transportStep] at h
  split at h
  · rename_i request found
    cases h
    refine ⟨request, found, rfl, ?_⟩
    cases responds <;> simp [TransportState.setCall]
  · cases h

/-- A capture is followed by an end as completed with its receipt, or as a capture error. -/
theorem transportStep_capture (h : transportStep sha256 validate store s (.capture call receipt) = some t) :
    ∃ request, s.calls call = some (.capturing request) ∧ t.executions = s.executions ∧
      ∃ status receiptId errorCode, t.calls call =
        some (.finishing request.reservationId status receiptId errorCode) ∧
        (status = .completed ↔ receiptId.isSome) := by
  simp only [transportStep] at h
  split at h
  · rename_i request found
    cases h
    refine ⟨request, found, rfl, ?_⟩
    cases receipt with
    | none => exact ⟨.captureError, none, some "capture_exception", by simp [TransportState.setCall], by simp⟩
    | some receiptId => exact ⟨.completed, some receiptId, none, by simp [TransportState.setCall], by simp⟩
  · cases h

/-- The end of an execution updates its row, and the call returns when it has a receipt. -/
theorem transportStep_finish (h : transportStep sha256 validate store s (.finish call time) = some t) :
    ∃ reservationId status receiptId errorCode,
      s.calls call = some (.finishing reservationId status receiptId errorCode) ∧
      t.executions = finish s.executions reservationId status receiptId errorCode time ∧
      t.calls call = some (match receiptId with
        | some receiptId => .returned receiptId
        | none => .raised) := by
  simp only [transportStep] at h
  split at h
  · rename_i reservationId status receiptId errorCode found
    cases h
    exact ⟨reservationId, status, receiptId, errorCode, found, rfl, by simp [TransportState.setCall]⟩
  · cases h

/-- In every run, `transport.send` is called at most once for each reservation id. -/
theorem run_sendsOnce {actions : List TransportAction} {s : TransportState}
    (reached : Transition.run (transportStep sha256 validate store) .initial actions = some s)
    (reservationId : String) : (s.sends.map (·.reservationId)).count reservationId ≤ 1 :=
  List.nodup_iff_count_le_one.mp
    (Transition.run_preserves (fun _ _ _ valid => transportStep_oneShot valid) initial_oneShot
      reached).once reservationId

def sampleTransport : TransportIdentity :=
  ⟨some "fixture", some "1", some (checksum []).hex, "fixture.Transport"⟩

def sampleReservation : SourceRequestReservation :=
  ⟨"r0", "iec", 1, checksum [], "a", "https://results.example/r", "GET", 1, noon⟩

def sampleExecute (call : Nat) : TransportAction :=
  .execute call sampleSnapshot sampleReservation sampleTransport none noon

/-- Two calls race for one reservation, the winner stops after its send, and a third call
tries after the restart. -/
def racingExecutes : List TransportAction := [
  .policies [sampleSnapshot], sampleExecute 0, sampleExecute 1, .claim 1, .claim 0, .send 1 true,
  .abort 1, .abort 0, sampleExecute 2, .claim 2]

theorem racingExecutes_sendsOnce : ∃ s,
    Transition.run (transportStep checksum (fun _ _ _ => none) .sqlite) .initial racingExecutes = some s ∧
    s.sends.length = 1 ∧ (s.sends.map (·.reservationId)).count "r0" ≤ 1 := by
  obtain ⟨s, reached, one⟩ := @Transition.run_test _ _
    (transportStep checksum (fun _ _ _ => none) .sqlite) .initial racingExecutes
    (fun s => s.sends.length = 1) (by decide +kernel)
  exact ⟨s, reached, by simpa using one, run_sendsOnce reached "r0"⟩

end BallotProof
