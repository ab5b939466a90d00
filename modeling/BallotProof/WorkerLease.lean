import BallotProof.Requests
import BallotProof.Scheduler

/-! The SQLite worker lease: one row of `source_worker_leases`, which a worker takes until a
time and may give back. Each call is one transaction, and an exception rolls it back. -/
namespace BallotProof
open Python

/-- The lease `"source-acquisition"`; its row has the same columns. -/
structure WorkerLeaderLease where
  workerId : String
  acquiredAt : Python.Timestamp
  expiresAt : Python.Timestamp
  deriving DecidableEq

def WorkerLeaderLease.validated (workerId : String) (acquiredAt expiresAt : Python.Timestamp) :
    Result WorkerLeaderLease := do
  raiseIf (workerId.length < 1) ⟨.validationError, "worker_id: String should have at least 1 character"⟩
  raiseIf (128 < workerId.length) ⟨.validationError, "worker_id: String should have at most 128 characters"⟩
  return ⟨workerId, acquiredAt, expiresAt⟩

/-- The row, when there is one. -/
abbrev LeaseTable := Option WorkerLeaderLease

namespace WorkerLeaseStore

/-- `evaluated_at or datetime.now(UTC)` -/
def now (evaluatedAt : Option Python.Timestamp) (clock : Datetime) : Python.Timestamp :=
  evaluatedAt.getD (.aware clock)

/-- `INSERT ... ON CONFLICT(lease_name) DO UPDATE`, after the field checks. -/
def upsert (workerId : String) (acquiredAt expiresAt : Python.Timestamp) :
    Result (Option WorkerLeaderLease × LeaseTable) := do
  let lease ← WorkerLeaderLease.validated workerId acquiredAt expiresAt
  return (some lease, some lease)

/-- The transaction of `try_acquire`, with the answer and the row it leaves. -/
def acquire (table : LeaseTable) (workerId : String) (now expiresAt : Python.Timestamp) :
    Result (Option WorkerLeaderLease × LeaseTable) :=
  match table with
  | none => upsert workerId now expiresAt
  | some row => do
    let running ← now.lt row.expiresAt
    if running ∧ row.workerId ≠ workerId then return (none, some row)
    else upsert workerId (if row.workerId = workerId ∧ running then row.acquiredAt else now) expiresAt

def tryAcquire (table : LeaseTable) (workerId : String) (evaluatedAt : Option Python.Timestamp)
    (leaseSeconds : Binary64) (clock : Datetime) : Result (Option WorkerLeaderLease × LeaseTable) := do
  raiseIf leaseSeconds.nonpositive ⟨.valueError, "lease_seconds must be positive"⟩
  let duration ← timedeltaSeconds leaseSeconds 1
  let expiresAt ← (now evaluatedAt clock).add duration
  acquire table workerId (now evaluatedAt clock) expiresAt

/-- `DELETE ... WHERE worker_id = ?`, and whether a row went. -/
def release (table : LeaseTable) (workerId : String) : Bool × LeaseTable :=
  match table with
  | none => (false, none)
  | some row => if row.workerId = workerId then (true, none) else (false, some row)

def active (table : LeaseTable) (evaluatedAt : Option Python.Timestamp) (clock : Datetime) :
    Result (Option WorkerLeaderLease) :=
  match table with
  | none => .ok none
  | some row => do
    let lease ← WorkerLeaderLease.validated row.workerId row.acquiredAt row.expiresAt
    let running ← (now evaluatedAt clock).lt lease.expiresAt
    return if running then some lease else none

end WorkerLeaseStore

open WorkerLeaseStore

inductive LeaseRequest where
  | tryAcquire (workerId : String) (evaluatedAt : Option Python.Timestamp) (leaseSeconds : Binary64)
      (clock : Datetime)
  | release (workerId : String)

inductive LeaseAnswer where
  | acquired (lease : Option WorkerLeaderLease)
  | released (done : Bool)
  deriving DecidableEq

def serveLease (table : LeaseTable) : LeaseRequest → Result (LeaseAnswer × LeaseTable)
  | .tryAcquire workerId evaluatedAt leaseSeconds clock => do
    let (lease, next) ← WorkerLeaseStore.tryAcquire table workerId evaluatedAt leaseSeconds clock
    return (.acquired lease, next)
  | .release workerId =>
    let (done, next) := WorkerLeaseStore.release table workerId
    .ok (.released done, next)

/-- The time at which a request is evaluated. -/
def LeaseRequest.evaluated : LeaseRequest → Option Python.Timestamp
  | .tryAcquire _ evaluatedAt _ clock => some (now evaluatedAt clock)
  | .release _ => none

/-- No request is evaluated before an earlier one. -/
def NonDecreasing (requests : List LeaseRequest) : Prop :=
  (requests.filterMap LeaseRequest.evaluated).Pairwise fun earlier later => ¬later.Before earlier

/-- The worker gives the lease back, or takes one that ends before `expiry`. -/
def GivesUp (holder : String) (expiry : Python.Timestamp) (table : LeaseTable) (request : LeaseRequest) :
    Prop :=
  match request with
  | .release workerId => workerId = holder ∧ ∃ next, serveLease table request = .ok (.released true, next)
  | .tryAcquire workerId _ _ _ => workerId = holder ∧
      ∃ lease next, serveLease table request = .ok (.acquired (some lease), next) ∧
        lease.expiresAt.Before expiry

theorem WorkerLeaderLease.validated_ok (h : validated worker start expiry = .ok lease) :
    lease = ⟨worker, start, expiry⟩ := by
  unfold validated at h
  obtain ⟨-, -, h⟩ := bind_ok h
  obtain ⟨-, -, h⟩ := bind_ok h
  cases h
  rfl

namespace WorkerLeaseStore

theorem upsert_ok (h : upsert workerId acquiredAt expiresAt = .ok (answer, next)) :
    answer = some ⟨workerId, acquiredAt, expiresAt⟩ ∧ next = answer := by
  obtain ⟨lease, valid, h⟩ := bind_ok h
  cases h
  cases WorkerLeaderLease.validated_ok valid
  exact ⟨rfl, rfl⟩

/-- A refused worker met a running lease of another one. -/
structure Refused (table : LeaseTable) (workerId : String) (now : Python.Timestamp)
    (row : WorkerLeaderLease) : Prop where
  found : table = some row
  running : now.Before row.expiresAt
  other : row.workerId ≠ workerId

/-- A worker that is let in finds no running lease of another one. -/
structure LetIn (table : LeaseTable) (workerId : String) (now expiresAt : Python.Timestamp)
    (lease : WorkerLeaderLease) : Prop where
  worker : lease.workerId = workerId
  expires : lease.expiresAt = expiresAt
  comparable : ∀ row, table = some row → now.isAware = row.expiresAt.isAware
  free : ∀ row, table = some row → now.Before row.expiresAt → row.workerId = workerId

theorem acquire_ok (h : acquire table workerId time expiresAt = .ok (answer, next)) :
    (answer = none ∧ next = table ∧ ∃ row, Refused table workerId time row) ∨
      ∃ lease, answer = some lease ∧ next = some lease ∧ LetIn table workerId time expiresAt lease := by
  cases table with
  | none =>
    obtain ⟨rfl, rfl⟩ := upsert_ok h
    exact .inr ⟨_, rfl, rfl, rfl, rfl, by simp, by simp⟩
  | some row =>
    obtain ⟨running, compared, h⟩ := bind_ok h
    split at h
    next taken =>
      cases h
      refine .inl ⟨rfl, rfl, row, rfl, ?_, taken.2⟩
      rw [taken.1] at compared
      exact compared
    next free =>
      obtain ⟨rfl, rfl⟩ := upsert_ok h
      refine .inr ⟨_, rfl, rfl, rfl, rfl, ?_, ?_⟩
      · intro found same
        cases same
        exact (Timestamp.lt_eq_ok.mp compared).1
      · intro found same before
        cases same
        by_contra other
        unfold Timestamp.Before at before
        rw [compared] at before
        exact free ⟨Except.ok.inj before, other⟩

/-- The new lease ends at a time that compares with the time of the call. -/
theorem tryAcquire_ok
    (h : tryAcquire table workerId evaluatedAt leaseSeconds clock = .ok (answer, next)) :
    (answer = none ∧ next = table ∧ ∃ row, Refused table workerId (now evaluatedAt clock) row) ∨
      ∃ lease expiresAt, answer = some lease ∧ next = some lease ∧
        expiresAt.isAware = (now evaluatedAt clock).isAware ∧
        LetIn table workerId (now evaluatedAt clock) expiresAt lease := by
  obtain ⟨-, -, h⟩ := bind_ok h
  obtain ⟨duration, -, h⟩ := bind_ok h
  obtain ⟨expiresAt, sum, h⟩ := bind_ok h
  rcases acquire_ok h with refused | ⟨lease, answered, left, letIn⟩
  · exact .inl refused
  · exact .inr ⟨lease, expiresAt, answered, left, Timestamp.add_isAware sum, letIn⟩

/-- Whoever else asks is refused while the active lease runs. -/
theorem active_excludes (h : active table evaluatedAt clock = .ok (some lease))
    (apart : other ≠ lease.workerId) :
    tryAcquire table other evaluatedAt leaseSeconds clock ≠ .ok (some won, next) := by
  intro acquired
  cases table with
  | none => cases h
  | some row =>
    obtain ⟨found, valid, h⟩ := bind_ok h
    obtain ⟨running, compared, h⟩ := bind_ok h
    have same := WorkerLeaderLease.validated_ok valid
    cases running with
    | false => cases h
    | true =>
      cases h
      subst same
      rcases tryAcquire_ok acquired with ⟨none, -⟩ | ⟨_, _, _, _, _, letIn⟩
      · cases none
      · exact apart (letIn.free row rfl compared).symm

theorem release_other (other : ∀ row, table = some row → row.workerId ≠ workerId) :
    release table workerId = (false, table) := by
  cases table with
  | none => rfl
  | some row => exact if_neg (other row rfl)

end WorkerLeaseStore

theorem serveLease_acquired
    (h : serveLease table (.tryAcquire workerId evaluatedAt leaseSeconds clock) =
      .ok (.acquired lease, next)) :
    WorkerLeaseStore.tryAcquire table workerId evaluatedAt leaseSeconds clock = .ok (lease, next) := by
  obtain ⟨⟨found, left⟩, acquired, h⟩ := bind_ok h
  cases h
  exact acquired

/-- The row is the holder's, and does not end before `expiry`. -/
def Guarded (holder : String) (expiry : Python.Timestamp) (table : LeaseTable) : Prop :=
  ∃ row, table = some row ∧ row.workerId = holder ∧ row.expiresAt.isAware = expiry.isAware ∧
    expiry.moment ≤ row.expiresAt.moment

theorem Guarded.excludes (guarded : Guarded holder expiry table) (apart : other ≠ holder)
    (early : (now evaluatedAt clock).Before expiry) :
    WorkerLeaseStore.tryAcquire table other evaluatedAt leaseSeconds clock ≠ .ok (some won, next) := by
  obtain ⟨row, found, worker, kind, reach⟩ := guarded
  intro acquired
  rcases tryAcquire_ok acquired with ⟨none, -⟩ | ⟨_, _, _, _, _, letIn⟩
  · cases none
  · apply apart
    rw [← worker]
    obtain ⟨same, less⟩ := Timestamp.before_iff.mp early
    refine (letIn.free row found (Timestamp.before_iff.mpr ⟨?_, ?_⟩)).symm
    · rw [same, kind]
    · omega

/-- A request keeps the row guarded when the holder gives nothing up and the clock has not
reached `expiry`. -/
theorem Guarded.step (guarded : Guarded holder expiry table)
    (early : ∀ t, request.evaluated = some t → t.isAware = expiry.isAware → t.moment < expiry.moment)
    (keeps : ¬GivesUp holder expiry table request)
    (served : serveLease table request = .ok (answer, next)) : Guarded holder expiry next := by
  obtain ⟨row, rfl, worker, kind, reach⟩ := guarded
  cases request with
  | release workerId =>
    by_cases own : row.workerId = workerId
    · refine absurd ⟨own.symm.trans worker, none, ?_⟩ keeps
      simp [serveLease, WorkerLeaseStore.release, own]
    · have other : WorkerLeaseStore.release (some row) workerId = (false, some row) := if_neg own
      simp only [serveLease, other] at served
      cases served
      exact ⟨row, rfl, worker, kind, reach⟩
  | tryAcquire workerId evaluatedAt leaseSeconds clock =>
    obtain ⟨⟨answered, left⟩, acquired, same⟩ := bind_ok served
    cases same
    rcases tryAcquire_ok acquired with ⟨-, rfl, -⟩ | ⟨lease, expiresAt, rfl, rfl, ends, letIn⟩
    · exact ⟨row, rfl, worker, kind, reach⟩
    · have compared := letIn.comparable row rfl
      have aware : (now evaluatedAt clock).isAware = expiry.isAware := compared.trans kind
      have before := early _ rfl aware
      have own := letIn.free row rfl (Timestamp.before_iff.mpr ⟨compared, by omega⟩)
      refine ⟨lease, rfl, ?_, ?_, ?_⟩
      · rw [letIn.worker, ← own, worker]
      · rw [letIn.expires, ends, aware]
      · by_contra shorter
        refine keeps ⟨own.symm.trans worker, lease, some lease, served, ?_⟩
        refine Timestamp.before_iff.mpr ⟨?_, not_le.mp shorter⟩
        rw [letIn.expires, ends, aware]

theorem Guarded.run (guarded : Guarded holder expiry table)
    (early : ∀ request ∈ requests, ∀ t, request.evaluated = some t →
      t.isAware = expiry.isAware → t.moment < expiry.moment)
    (keeps : Requests.Meets serveLease (fun s request => ¬GivesUp holder expiry s request) table requests) :
    Guarded holder expiry (Requests.run serveLease table requests) := by
  have meets := keeps.and (Requests.Meets.of_forall fun request member _ => early request member)
  exact Requests.run_keeps (fun s request a t guarded good served =>
    Guarded.step guarded good.2 good.1 served) guarded meets

/-- While a lease of `holder` runs, nobody else acquires one unless `holder` gave it up; a
release by a worker that does not hold the lease leaves it. The table is that of any earlier run. -/
theorem leases_exclude (table : LeaseTable) :
    (∀ holder evaluatedAt seconds clock lease held middle other evaluatedAt' seconds' clock',
      serveLease table (.tryAcquire holder evaluatedAt seconds clock) = .ok (.acquired (some lease), held) →
      NonDecreasing (.tryAcquire holder evaluatedAt seconds clock :: middle ++
        [.tryAcquire other evaluatedAt' seconds' clock']) →
      other ≠ holder → (now evaluatedAt' clock').Before lease.expiresAt →
      Requests.Meets serveLease (fun s request => ¬GivesUp holder lease.expiresAt s request) held middle →
      ∀ won next, serveLease (Requests.run serveLease held middle)
        (.tryAcquire other evaluatedAt' seconds' clock') ≠ .ok (.acquired (some won), next)) ∧
    ∀ workerId, (∀ row, table = some row → row.workerId ≠ workerId) →
      serveLease table (.release workerId) = .ok (.released false, table) := by
  refine ⟨?_, ?_⟩
  · intro holder evaluatedAt seconds clock lease held middle other evaluatedAt' seconds' clock' first ordered
      apart early keeps won next last
    have guarded : Guarded holder lease.expiresAt held := by
      rcases tryAcquire_ok (serveLease_acquired first) with ⟨none, -⟩ | ⟨found, _, same, left, _, letIn⟩
      · cases none
      · cases same
        exact ⟨lease, left, letIn.worker, rfl, le_refl _⟩
    refine Guarded.excludes (guarded.run ?_ keeps) apart early (serveLease_acquired last)
    -- the last call is no earlier than any in between
    intro request member t evaluated kind
    obtain ⟨aware, less⟩ := Timestamp.before_iff.mp early
    unfold NonDecreasing at ordered
    rw [List.filterMap_append, List.pairwise_append] at ordered
    have later := ordered.2.2 t (List.mem_filterMap.mpr ⟨request, List.mem_cons_of_mem _ member, evaluated⟩)
      (now evaluatedAt' clock') (by simp [LeaseRequest.evaluated])
    by_contra reached
    refine later (Timestamp.before_iff.mpr ⟨aware.trans kind.symm, ?_⟩)
    omega
  · intro workerId other
    simp [serveLease, release_other other]

def sampleClock (second : Fin 1000) : Datetime :=
  Datetime.utc (1000000 * second.val) (by unfold minLocal maxLocal; omega)

/-- `60.0` -/
def sixty : Binary64 := .finite false (60 * unitsPerOne) (by decide +kernel)

def sampleLease (second : Fin 1000) (acquired : Fin 1000) : WorkerLeaderLease :=
  ⟨"worker-a", .aware (sampleClock acquired), .aware (sampleClock (second + 60))⟩

theorem sampleAcquire :
    serveLease none (.tryAcquire "worker-a" none sixty (sampleClock 0)) =
      .ok (.acquired (some (sampleLease 0 0)), some (sampleLease 0 0)) := by
  decide +kernel

theorem secondWorker_excluded : ∀ won next,
    serveLease (Requests.run serveLease (some (sampleLease 0 0))
      [.release "worker-b", .tryAcquire "worker-a" none sixty (sampleClock 30)])
      (.tryAcquire "worker-b" none sixty (sampleClock 59)) ≠ .ok (.acquired (some won), next) := by
  apply (leases_exclude none).1 "worker-a" none sixty (sampleClock 0) (sampleLease 0 0)
    (some (sampleLease 0 0)) _ _ _ _ _ sampleAcquire
  · unfold NonDecreasing
    decide +kernel
  · decide
  · decide +kernel
  · refine ⟨?_, ?_, trivial⟩
    · rintro ⟨same, -⟩
      exact absurd same (by decide)
    · rintro ⟨-, lease, next, renewed, before⟩
      have ends : serveLease (some (sampleLease 0 0)) (.tryAcquire "worker-a" none sixty (sampleClock 30)) =
          .ok (.acquired (some (sampleLease 30 0)), some (sampleLease 30 0)) := by decide +kernel
      have kept : Requests.next serveLease (some (sampleLease 0 0)) (.release "worker-b") =
          some (sampleLease 0 0) := by decide +kernel
      rw [kept, ends] at renewed
      cases renewed
      exact absurd before (by decide +kernel)

end BallotProof
