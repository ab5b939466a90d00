import BallotProof.Transport

/-! One `execute` call against whatever its transport, its capture store and the stream of the
response do, and when the ledger tells how it ended. -/
namespace BallotProof
open Python

/-- What the code that is called raises: an `Exception`, or something that `except Exception`
does not catch. -/
inductive Raised where
  | exception (error : Error)
  | interrupt
  deriving DecidableEq

abbrev Outcome (α : Type u) := Except Raised α

/-- What `transport.send` may return. Of a value that is no `TransportResponse` the executor
reads `stream` and `close_stream`, and tests the truth of the second. -/
inductive SendResult (Stream : Type) where
  | response (body : Bytes)
  | other (stream : Outcome Stream) (closeStream : Outcome (Outcome Bool))

/-- A `_BytesReader`, or the stream of the response. -/
inductive ResponseStream (Stream : Type) where
  | bytes (payload : Bytes)
  | own (stream : Stream)

/-- Everything outside the executor. `captureRequest` reads the other attributes of the response
and builds the `CaptureRequest`; `receiptId` reads `captured.receipt.receipt_id`. -/
structure Surroundings (Stream CaptureRequest Captured : Type) where
  send : TransportRequest → Outcome (SendResult Stream)
  captureRequest : SendResult Stream → Outcome CaptureRequest
  capture : ResponseStream Stream → CaptureRequest → Outcome Captured
  close : ResponseStream Stream → Outcome Unit
  receiptId : Captured → Outcome String

/-- `_response_stream`, with the truth of the flag. -/
def responseStream {Stream : Type} : SendResult Stream → Outcome (ResponseStream Stream × Outcome Bool)
  | .response body => .ok (.bytes body, .ok false)
  | .other stream closeStream => do
    let stream ← stream
    let closeStream ← closeStream
    return (.own stream, closeStream)

structure ExecuteArguments where
  snapshot : SourcePolicySnapshot
  reservation : SourceRequestReservation
  transport : TransportIdentity
  maxBytes : Option Int
  startedAt : Datetime

/-- `min(policy.max_response_bytes, max_bytes)` -/
def effectiveMaxBytes (policy : SourcePolicy) (maxBytes : Option Int) : Int :=
  match maxBytes with
  | none => policy.maxResponseBytes
  | some bound => min policy.maxResponseBytes bound

/-- `low <= x <= high` -/
def betweenWhole (low high : Nat) : Binary64 → Bool
  | .finite negative units _ => ¬negative ∧ low * unitsPerOne ≤ units ∧ units ≤ high * unitsPerOne
  | _ => false

/-- The bounds that the fields of a `TransportRequest` can miss. -/
structure RequestFits (current : SourcePolicySnapshot) (reservation : SourceRequestReservation)
    (maxBytes : Option Int) : Prop where
  attempt : 1 ≤ reservation.attempt
  timeout : betweenWhole 1 120 current.policy.requestTimeoutSeconds = true
  bytes : 1 ≤ effectiveMaxBytes current.policy maxBytes

instance (current : SourcePolicySnapshot) (reservation : SourceRequestReservation) (maxBytes : Option Int) :
    Decidable (RequestFits current reservation maxBytes) :=
  decidable_of_iff (1 ≤ reservation.attempt ∧ betweenWhole 1 120 current.policy.requestTimeoutSeconds = true ∧
      1 ≤ effectiveMaxBytes current.policy maxBytes)
    ⟨fun h => ⟨h.1, h.2.1, h.2.2⟩, fun h => ⟨h.attempt, h.timeout, h.bytes⟩⟩

/-- `TransportRequest(...)` -/
def createRequest (current : SourcePolicySnapshot) (reservation : SourceRequestReservation)
    (maxBytes : Option Int) : Result TransportRequest := do
  raiseIf (¬RequestFits current reservation maxBytes) ⟨.validationError, "TransportRequest"⟩
  return transportRequest current reservation (maxBytes.map Int.toNat)

section
variable {Stream CaptureRequest Captured : Type} (world : Surroundings Stream CaptureRequest Captured)

/-- `if close_stream: close()` -/
def closing (stream : ResponseStream Stream) (closeStream : Outcome Bool) : Outcome Unit := do
  if ← closeStream then world.close stream

/-- The body of the `try` around the capture. -/
def capturing (response : SendResult Stream) (stream : ResponseStream Stream) : Outcome Captured := do
  let request ← world.captureRequest response
  world.capture stream request

/-- What `execute` does with the reservation once it has claimed it. -/
def runClaimed (rows : List TransportExecutionRecord) (current : SourcePolicySnapshot)
    (reservation : SourceRequestReservation) (maxBytes : Option Int) (completedAt : Datetime) :
    List TransportExecutionRecord × Outcome Captured :=
  let record := finish rows reservation.reservationId
  match createRequest current reservation maxBytes with
  | .error error => (rows, .error (.exception error))
  | .ok request =>
    match world.send request with
    | .error (.exception error) =>
      (record .transportError none (some "transport_exception") completedAt, .error (.exception error))
    | .error .interrupt => (rows, .error .interrupt)
    | .ok response =>
      -- outside of every `try`
      match responseStream response with
      | .error raised => (rows, .error raised)
      | .ok (stream, closeStream) =>
        match capturing world response stream, closing world stream closeStream with
        | .error (.exception error), closed =>
          (record .captureError none (some "capture_exception") completedAt,
            closed >>= fun _ => .error (.exception error))
        | .error .interrupt, closed => (rows, closed >>= fun _ => .error .interrupt)
        -- what `finally` raises goes past the record
        | .ok _, .error raised => (rows, .error raised)
        | .ok captured, .ok () =>
          match world.receiptId captured with
          | .error raised => (rows, .error raised)
          | .ok receiptId => (record .completed (some receiptId) none completedAt, .ok captured)

variable (sha256 : Bytes → Digest)
  (validateSourceRequest : SourcePolicy → String → String → Option RequestPolicyViolation)
  (store : TransportStore)

/-- `SourceTransportExecutor.execute` -/
def execute (policies : List SourcePolicySnapshot) (rows : List TransportExecutionRecord)
    (call : ExecuteArguments) (completedAt : Datetime) : List TransportExecutionRecord × Outcome Captured :=
  match validateBinding validateSourceRequest policies call.snapshot call.reservation with
  | .error error => (rows, .error (.exception error))
  | .ok current =>
    match transportProvenance sha256 call.transport with
    | .error error => (rows, .error (.exception error))
    | .ok provenance =>
      match store.claim rows (claimedRow call.reservation provenance call.startedAt) with
      | .error error => (rows, .error (.exception error))
      | .ok claimed => runClaimed world claimed current call.reservation call.maxBytes completedAt

end

/-- `execution` -/
def execution (rows : List TransportExecutionRecord) (reservationId : String) :
    Result TransportExecutionRecord :=
  match Sql.selectRow (·.reservationId) reservationId rows with
  | some row => .ok row
  | none => .error ⟨.keyError, "Unknown reservation_id: " ++ reservationId⟩

/-- The stored record says how the execution ended. -/
def Terminal (rows : List TransportExecutionRecord) (reservationId : String) : Prop :=
  ∃ row, execution rows reservationId = .ok row ∧ row.status ≠ .claimed

/-- The ways in which an execution ends with a record. -/
inductive Recorded {Stream CaptureRequest Captured : Type}
    (world : Surroundings Stream CaptureRequest Captured) (request : TransportRequest) : Prop where
  | transportError (raised : world.send request = .error (.exception error))
  | captureError (sent : world.send request = .ok response)
      (streamed : responseStream response = .ok (stream, closeStream))
      (raised : capturing world response stream = .error (.exception error))
  | completed (sent : world.send request = .ok response)
      (streamed : responseStream response = .ok (stream, closeStream))
      (returned : capturing world response stream = .ok captured)
      (closed : closing world stream closeStream = .ok ())
      (receipt : world.receiptId captured = .ok receiptId)

section
variable {rows : List TransportExecutionRecord} {row : TransportExecutionRecord}

theorem execution_claimed (fresh : row.reservationId ∉ rows.map (·.reservationId)) :
    execution (rows ++ [row]) row.reservationId = .ok row := by
  have absent : rows.find? (·.reservationId = row.reservationId) = none := Sql.selectRow_none.mpr fresh
  simp [execution, Sql.selectRow, List.find?_append, absent]

theorem execution_finish (fresh : row.reservationId ∉ rows.map (·.reservationId)) :
    execution (finish (rows ++ [row]) row.reservationId status receiptId errorCode completedAt)
      row.reservationId = .ok { row with status, completedAt := some completedAt, receiptId, errorCode } := by
  have other : (finish rows row.reservationId status receiptId errorCode completedAt).find?
      (·.reservationId = row.reservationId) = none := by
    refine Sql.selectRow_none.mpr ?_
    rw [finish_keys]
    exact fresh
  have split : finish (rows ++ [row]) row.reservationId status receiptId errorCode completedAt =
      finish rows row.reservationId status receiptId errorCode completedAt ++
        [{ row with status, completedAt := some completedAt, receiptId, errorCode }] := by
    simp [finish, Sql.updateRow]
  rw [split]
  simp [execution, Sql.selectRow, List.find?_append, other]

/-- A claimed record that is left alone is not terminal. -/
theorem claimed_not_terminal (fresh : row.reservationId ∉ rows.map (·.reservationId))
    (claimed : row.status = .claimed) : ¬Terminal (rows ++ [row]) row.reservationId := by
  rintro ⟨found, stored, ended⟩
  rw [execution_claimed fresh] at stored
  cases stored
  exact ended claimed

theorem finish_terminal (fresh : row.reservationId ∉ rows.map (·.reservationId)) (ended : status ≠ .claimed) :
    Terminal (finish (rows ++ [row]) row.reservationId status receiptId errorCode completedAt)
      row.reservationId :=
  ⟨_, execution_finish fresh, ended⟩

end

section
variable {Stream CaptureRequest Captured : Type} {world : Surroundings Stream CaptureRequest Captured}

theorem createRequest_eq (current : SourcePolicySnapshot) (reservation : SourceRequestReservation)
    (maxBytes : Option Int) : createRequest current reservation maxBytes =
      if RequestFits current reservation maxBytes then
        .ok (transportRequest current reservation (maxBytes.map Int.toNat))
      else .error ⟨.validationError, "TransportRequest"⟩ := by
  by_cases fits : RequestFits current reservation maxBytes
  · rw [if_pos fits, createRequest, raiseIf, if_neg (not_not.mpr fits)]
    rfl
  · rw [if_neg fits, createRequest, raiseIf, if_pos fits]
    rfl

/-- The rows after the claim end in a terminal record exactly in the recorded ways. -/
theorem runClaimed_terminal {rows : List TransportExecutionRecord} {row : TransportExecutionRecord}
    (fresh : row.reservationId ∉ rows.map (·.reservationId)) (claimed : row.status = .claimed)
    (own : row.reservationId = reservation.reservationId) :
    Terminal (runClaimed world (rows ++ [row]) current reservation maxBytes completedAt).1
        reservation.reservationId ↔
      RequestFits current reservation maxBytes ∧
        Recorded world (transportRequest current reservation (maxBytes.map Int.toNat)) := by
  have left : ¬Terminal (rows ++ [row]) reservation.reservationId := own ▸ claimed_not_terminal fresh claimed
  have ended {status : TransportExecutionStatus} {receiptId errorCode : Option String}
      (terminal : status ≠ .claimed) : Terminal (finish (rows ++ [row]) reservation.reservationId status
        receiptId errorCode completedAt) reservation.reservationId := own ▸ finish_terminal fresh terminal
  rw [runClaimed, createRequest_eq]
  by_cases fits : RequestFits current reservation maxBytes
  · rw [if_pos fits]
    dsimp only
    rw [and_iff_right fits]
    cases sent : world.send (transportRequest current reservation (maxBytes.map Int.toNat)) with
    | error raised =>
      cases raised with
      | exception error => exact iff_of_true (ended (by decide)) (.transportError sent)
      | interrupt =>
        refine iff_of_false left ?_
        rintro (raised | ⟨again, -, -⟩ | ⟨again, -, -, -, -⟩) <;> simp_all
    | ok response =>
      dsimp only
      cases streamed : responseStream response with
      | error raised =>
        refine iff_of_false left ?_
        rintro (raised | ⟨again, other, -⟩ | ⟨again, other, -, -, -⟩) <;> simp_all
      | ok parts =>
        obtain ⟨stream, closeStream⟩ := parts
        dsimp only
        cases returned : capturing world response stream with
        | error raised =>
          cases raised with
          | exception error => exact iff_of_true (ended (by decide)) (.captureError sent streamed returned)
          | interrupt =>
            refine iff_of_false left ?_
            rintro (raised | ⟨again, other, failed⟩ | ⟨again, other, came, -, -⟩) <;> simp_all
        | ok captured =>
          cases closed : closing world stream closeStream with
          | error raised =>
            refine iff_of_false left ?_
            rintro (raised | ⟨again, other, failed⟩ | ⟨again, other, came, shut, -⟩) <;> simp_all
          | ok u =>
            dsimp only
            cases receipt : world.receiptId captured with
            | error raised =>
              refine iff_of_false left ?_
              rintro (raised | ⟨again, other, failed⟩ | ⟨again, other, came, shut, read⟩) <;> simp_all
            | ok receiptId =>
              exact iff_of_true (ended (by decide)) (.completed sent streamed returned closed receipt)
  · rw [if_neg fits]
    exact iff_of_false left fun h => fits h.1

/-- An execution that has claimed its reservation ends with a terminal record exactly when the request
can be built, and what is sent and captured ends in one of the recorded ways. -/
theorem execute_terminal_iff (world : Surroundings Stream CaptureRequest Captured) (sha256 : Bytes → Digest)
    (validate : SourcePolicy → String → String → Option RequestPolicyViolation) (store : TransportStore)
    (policies : List SourcePolicySnapshot) (rows : List TransportExecutionRecord) (call : ExecuteArguments)
    (completedAt : Datetime)
    (bound : validateBinding validate policies call.snapshot call.reservation = .ok current)
    (known : transportProvenance sha256 call.transport = .ok provenance)
    (claims : store.claim rows (claimedRow call.reservation provenance call.startedAt) = .ok claimed) :
    Terminal (execute world sha256 validate store policies rows call completedAt).1
        call.reservation.reservationId ↔
      RequestFits current call.reservation call.maxBytes ∧
        Recorded world (transportRequest current call.reservation (call.maxBytes.map Int.toNat)) := by
  obtain ⟨fresh, rfl⟩ := store.claim_ok.mp claims
  have run : execute world sha256 validate store policies rows call completedAt =
      runClaimed world (rows ++ [claimedRow call.reservation provenance call.startedAt]) current
        call.reservation call.maxBytes completedAt := by
    rw [execute, bound]
    dsimp only
    rw [known]
    dsimp only
    rw [claims]
  rw [run]
  exact runClaimed_terminal fresh rfl rfl

end

/-- A transport that answers and a capture store that stores what it answered. -/
def orderly : Surroundings Unit Unit Unit where
  send _ := .ok (.response [1])
  captureRequest _ := .ok ()
  capture _ _ := .ok ()
  close _ := .ok ()
  receiptId _ := .ok "bp_cap_1"

def sampleExecution (maxBytes : Option Int) : ExecuteArguments where
  snapshot := sampleSnapshot
  reservation := ReserveCall.reservation ⟨noon, sampleSnapshot, sampleRequest "a", none⟩ "r"
  transport := ⟨none, none, none, "fixtures.Transport"⟩
  maxBytes := maxBytes
  startedAt := noon

def quietProvenance : TransportProvenance where
  transportId := "fixtures.Transport"
  transportVersion := "unversioned"
  transportConfigHash := (checksum (encode "compatibility:fixtures.Transport:unversioned".toList)).hex
  kind := "compatibility"

theorem sampleExecution_claims (maxBytes : Option Int) :
    validateBinding (fun _ _ _ => none) [sampleSnapshot] (sampleExecution maxBytes).snapshot
        (sampleExecution maxBytes).reservation = .ok sampleSnapshot ∧
      transportProvenance checksum (sampleExecution maxBytes).transport = .ok quietProvenance ∧
      TransportStore.sqlite.claim [] (claimedRow (sampleExecution maxBytes).reservation quietProvenance noon) =
        .ok [claimedRow (sampleExecution maxBytes).reservation quietProvenance noon] := by
  refine ⟨?_, ?_, ?_⟩
  · change validateBinding (fun _ _ _ => none) [sampleSnapshot] sampleSnapshot
      (ReserveCall.reservation ⟨noon, sampleSnapshot, sampleRequest "a", none⟩ "r") = _
    decide +kernel
  · change transportProvenance checksum ⟨none, none, none, "fixtures.Transport"⟩ = _
    decide +kernel
  · rfl

/-- An orderly execution with a bound of one byte is recorded. -/
theorem orderly_recorded : Terminal (execute orderly checksum (fun _ _ _ => none) .sqlite [sampleSnapshot] []
    (sampleExecution (some 1)) noon).1 "r" := by
  obtain ⟨bound, known, claims⟩ := sampleExecution_claims (some 1)
  refine (execute_terminal_iff orderly checksum (fun _ _ _ => none) .sqlite [sampleSnapshot] []
    (sampleExecution (some 1)) noon bound known claims).mpr ⟨?_, .completed rfl rfl rfl rfl rfl⟩
  change RequestFits sampleSnapshot
    (ReserveCall.reservation ⟨noon, sampleSnapshot, sampleRequest "a", none⟩ "r") (some 1)
  decide +kernel

/-- With a bound of zero bytes the claim is all that is ever recorded. -/
theorem zeroBytes_claimed :
    TransportStore.sqlite.claim [] (claimedRow (sampleExecution (some 0)).reservation quietProvenance noon) =
        .ok [claimedRow (sampleExecution (some 0)).reservation quietProvenance noon] ∧
      (execute orderly checksum (fun _ _ _ => none) .sqlite [sampleSnapshot] [] (sampleExecution (some 0))
        noon).1 = [claimedRow (sampleExecution (some 0)).reservation quietProvenance noon] ∧
      ¬Terminal (execute orderly checksum (fun _ _ _ => none) .sqlite [sampleSnapshot] []
        (sampleExecution (some 0)) noon).1 "r" := by
  obtain ⟨bound, known, claims⟩ := sampleExecution_claims (some 0)
  have tooFew : ¬RequestFits sampleSnapshot (sampleExecution (some 0)).reservation
      (sampleExecution (some 0)).maxBytes := fun fits => absurd fits.bytes (by decide)
  have left : (execute orderly checksum (fun _ _ _ => none) .sqlite [sampleSnapshot] []
      (sampleExecution (some 0)) noon).1 =
      [claimedRow (sampleExecution (some 0)).reservation quietProvenance noon] := by
    have claims : TransportStore.sqlite.claim [] (claimedRow (sampleExecution (some 0)).reservation
        quietProvenance (sampleExecution (some 0)).startedAt) =
        .ok [claimedRow (sampleExecution (some 0)).reservation quietProvenance noon] := claims
    rw [execute, bound]
    dsimp only
    rw [known]
    dsimp only
    rw [claims]
    dsimp only [runClaimed]
    rw [createRequest_eq, if_neg tooFew]
  refine ⟨claims, left, ?_⟩
  rw [left]
  exact @claimed_not_terminal [] (claimedRow (sampleExecution (some 0)).reservation quietProvenance noon)
    List.not_mem_nil rfl

end BallotProof
