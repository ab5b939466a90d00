import BallotProof.Transition
import BallotProof.Bytes
import Mathlib.Tactic

/-! The PostgreSQL worker lease: one row of `worker_leases`, the tokens each store object
remembers, and the calls in flight. Every database transaction is one step, with the
clock samples it takes, so a run is an interleaving of any number of calls. -/
namespace BallotProof
open Python

/-- Microseconds of the database clock, which nothing here assumes to be monotone. -/
abbrev Timestamp := Int

/-- The row of the lease `"source-acquisition"`; `PostgresFencedLease` has the same fields. -/
structure Lease where
  workerId : String
  fencingToken : Nat
  acquiredAt : Timestamp
  expiresAt : Timestamp
  deriving DecidableEq

/-- The field checks of `PostgresFencedLease` and the range of a BIGINT column. -/
def Lease.admissible (lease : Lease) : Bool :=
  1 ≤ lease.workerId.length ∧ lease.workerId.length ≤ 128 ∧
    1 ≤ lease.fencingToken ∧ lease.fencingToken < 2 ^ 63

/-- A call in flight and what it does next. -/
inductive LeaseCall where
  | inserting (store : Nat) (workerId : String) (duration : Nat)
  | selecting (store : Nat) (workerId : String) (duration : Nat)
  | remembering (store : Nat) (lease : Lease)
  | deleting (workerId : String) (token : Nat)
  deriving DecidableEq

/-- A lease object handed out, with the number of the hold it belongs to. -/
structure Grant where
  hold : Nat
  lease : Lease
  deriving DecidableEq

/-- `holds` and `grants` are history: they record what the calls returned. -/
structure LeaseState where
  row : Option Lease
  heldTokens : Nat → String → Option Nat
  calls : Nat → Option LeaseCall
  holds : Nat
  grants : List Grant

inductive LeaseAction where
  | tryAcquire (call store : Nat) (workerId : String) (duration : Nat)
  | insert (call : Nat) (acquired base : Timestamp)
  | select (call : Nat) (databaseNow written acquired base : Timestamp)
  | remember (call : Nat)
  | release (call store : Nat) (workerId : String)
  | delete (call : Nat)
  | abort (call : Nat)
  deriving DecidableEq

namespace LeaseState

def setCall (s : LeaseState) (call : Nat) (next : Option LeaseCall) : LeaseState :=
  { s with calls := Function.update s.calls call next }

def setHeld (s : LeaseState) (store : Nat) (workerId : String) (token : Option Nat) : LeaseState :=
  { s with heldTokens :=
    Function.update s.heldTokens store (Function.update (s.heldTokens store) workerId token) }

/-- Commit a lease: the row, and the record of a hold that begins or goes on. -/
def commit (s : LeaseState) (lease : Lease) (begins : Bool) : LeaseState :=
  let hold := if begins then s.holds + 1 else s.holds
  { s with row := some lease, holds := hold, grants := s.grants ++ [⟨hold, lease⟩] }

def initial : LeaseState := ⟨none, fun _ _ => none, fun _ => none, 0, []⟩

end LeaseState

/-- The row that a fresh INSERT writes. -/
def insertedLease (workerId : String) (duration : Nat) (acquired base : Timestamp) : Lease :=
  ⟨workerId, 1, acquired, base + duration⟩

/-- `active and row["worker_id"] == worker_id` -/
def sameActiveHolder (row : Lease) (workerId : String) (databaseNow : Timestamp) : Bool :=
  row.expiresAt > databaseNow ∧ row.workerId = workerId

/-- The row that the UPDATE writes over the locked one. -/
def updatedLease (row : Lease) (workerId : String) (duration : Nat)
    (databaseNow written acquired base : Timestamp) : Lease where
  workerId := workerId
  fencingToken :=
    if sameActiveHolder row workerId databaseNow then row.fencingToken else row.fencingToken + 1
  acquiredAt := if row.workerId = workerId ∧ row.expiresAt > written then row.acquiredAt else acquired
  expiresAt := base + duration

/-- One step of a call. The INSERT with its commit is one step, because a concurrent INSERT
of the same key waits for it; the SELECT FOR UPDATE, the UPDATE and the commit are one
step, because the row stays locked between them. -/
def leaseStep (s : LeaseState) : LeaseAction → Option LeaseState
  | .tryAcquire call store workerId duration =>
    match s.calls call with
    | none => some (s.setCall call (some (.inserting store workerId duration)))
    | some _ => none
  | .insert call acquired base =>
    match s.calls call with
    | some (.inserting store workerId duration) =>
      match s.row with
      | some _ => some (s.setCall call (some (.selecting store workerId duration)))
      | none =>
        let lease := insertedLease workerId duration acquired base
        if lease.admissible then
          some ((s.commit lease true).setCall call (some (.remembering store lease)))
        else some (s.setCall call none)
    | _ => none
  | .select call databaseNow written acquired base =>
    match s.calls call with
    | some (.selecting store workerId duration) =>
      match s.row with
      | none => some (s.setCall call none)
      | some row =>
        if row.expiresAt > databaseNow ∧ row.workerId ≠ workerId then some (s.setCall call none)
        else
          let lease := updatedLease row workerId duration databaseNow written acquired base
          if lease.admissible then
            some ((s.commit lease (!sameActiveHolder row workerId databaseNow)).setCall call
              (some (.remembering store lease)))
          else some (s.setCall call none)
    | _ => none
  | .remember call =>
    match s.calls call with
    | some (.remembering store lease) =>
      some ((s.setHeld store lease.workerId (some lease.fencingToken)).setCall call none)
    | _ => none
  | .release call store workerId =>
    match s.calls call with
    | none =>
      match s.heldTokens store workerId with
      | none => some s
      | some token =>
        some ((s.setHeld store workerId none).setCall call (some (.deleting workerId token)))
    | some _ => none
  | .delete call =>
    match s.calls call with
    | some (.deleting workerId token) =>
      match s.row with
      | some row =>
        if row.workerId = workerId ∧ row.fencingToken = token then
          some ({ s with row := none }.setCall call none)
        else some (s.setCall call none)
      | none => some (s.setCall call none)
    | _ => none
  | .abort call => some (s.setCall call none)

/-- `assert_current` against the row it reads. -/
def assertCurrent (row : Option Lease) (lease : Lease) (databaseNow : Timestamp) : Result Unit :=
  match row with
  | none => .error ⟨.permissionError, "worker lease is no longer present"⟩
  | some row =>
    if row.workerId ≠ lease.workerId ∨ row.fencingToken ≠ lease.fencingToken ∨
        row.expiresAt ≤ databaseNow then
      .error ⟨.permissionError, "worker lease fencing token is stale"⟩
    else .ok ()

/-- Tokens grow from hold to hold, and a lease of an earlier hold is refused. -/
structure Fenced (s : LeaseState) : Prop where
  increasing : ∀ earlier ∈ s.grants, ∀ later ∈ s.grants, earlier.hold < later.hold →
    earlier.lease.fencingToken < later.lease.fencingToken
  refused : ∀ grant ∈ s.grants, grant.hold < s.holds →
    ∀ now, assertCurrent s.row grant.lease now ≠ .ok ()

/-- The INSERT of this step takes effect. -/
def insertsRow (s : LeaseState) : LeaseAction → Bool
  | .insert call acquired base =>
    match s.calls call, s.row with
    | some (.inserting _ workerId duration), none =>
      (insertedLease workerId duration acquired base).admissible
    | _, _ => false
  | _ => false

/-- No acquire inserts a fresh row once a hold has begun. -/
def KeepsRow (s : LeaseState) (a : LeaseAction) : Prop := insertsRow s a = true → s.holds = 0

instance (s : LeaseState) (a : LeaseAction) : Decidable (KeepsRow s a) :=
  inferInstanceAs (Decidable (_ → _))

/-- Grants are numbered up to the current hold, and the row carries the current token. -/
structure LeaseInvariant (s : LeaseState) : Prop where
  bounded : ∀ grant ∈ s.grants, 1 ≤ grant.hold ∧ grant.hold ≤ s.holds
  increasing : ∀ earlier ∈ s.grants, ∀ later ∈ s.grants, earlier.hold < later.hold →
    earlier.lease.fencingToken < later.lease.fencingToken
  current : ∀ row, s.row = some row → ∀ grant ∈ s.grants,
    (grant.hold = s.holds → grant.lease.fencingToken = row.fencingToken) ∧
    (grant.hold < s.holds → grant.lease.fencingToken < row.fencingToken)
  begun : ∀ row, s.row = some row → 0 < s.holds

theorem initial_invariant : LeaseInvariant LeaseState.initial := by
  constructor <;> simp [LeaseState.initial]

/-- What a step does to the row and the history. -/
theorem leaseStep_cases (h : leaseStep s a = some t) :
    (t.row = s.row ∧ t.holds = s.holds ∧ t.grants = s.grants) ∨
    (t.row = none ∧ t.holds = s.holds ∧ t.grants = s.grants) ∨
    (insertsRow s a = true ∧ ∃ lease, lease.fencingToken = 1 ∧ t.row = some lease ∧
      t.holds = s.holds + 1 ∧ t.grants = s.grants ++ [⟨s.holds + 1, lease⟩]) ∨
    (∃ row lease, s.row = some row ∧ t.row = some lease ∧ 1 ≤ lease.fencingToken ∧
      ((lease.fencingToken = row.fencingToken ∧ t.holds = s.holds) ∨
        (lease.fencingToken = row.fencingToken + 1 ∧ t.holds = s.holds + 1)) ∧
      t.grants = s.grants ++ [⟨t.holds, lease⟩]) := by
  cases a with
  | tryAcquire call store workerId duration =>
    simp only [leaseStep] at h
    split at h
    · cases h; exact .inl ⟨rfl, rfl, rfl⟩
    · cases h
  | insert call acquired base =>
    simp only [leaseStep] at h
    split at h
    · rename_i store workerId duration inserting
      split at h
      · cases h; exact .inl ⟨rfl, rfl, rfl⟩
      · rename_i missing
        split at h
        · rename_i admissible
          cases h
          exact .inr (.inr (.inl ⟨by simp [insertsRow, inserting, missing, admissible],
            _, rfl, rfl, rfl, rfl⟩))
        · cases h; exact .inl ⟨rfl, rfl, rfl⟩
    · cases h
  | select call databaseNow written acquired base =>
    simp only [leaseStep] at h
    split at h
    · rename_i store workerId duration selecting
      split at h
      · cases h; exact .inl ⟨rfl, rfl, rfl⟩
      · rename_i row found
        split at h
        · cases h; exact .inl ⟨rfl, rfl, rfl⟩
        · split at h
          · rename_i admissible
            cases h
            simp only [Lease.admissible, decide_eq_true_eq] at admissible
            refine .inr (.inr (.inr ⟨row, _, found, rfl, admissible.2.2.1, ?_, rfl⟩))
            cases same : sameActiveHolder row workerId databaseNow
            · exact .inr (by simp [updatedLease, same, LeaseState.commit, LeaseState.setCall])
            · exact .inl (by simp [updatedLease, same, LeaseState.commit, LeaseState.setCall])
          · cases h; exact .inl ⟨rfl, rfl, rfl⟩
    · cases h
  | remember call =>
    simp only [leaseStep] at h
    split at h
    · cases h; exact .inl ⟨rfl, rfl, rfl⟩
    · cases h
  | release call store workerId =>
    simp only [leaseStep] at h
    split at h
    · split at h <;> (cases h; exact .inl ⟨rfl, rfl, rfl⟩)
    · cases h
  | delete call =>
    simp only [leaseStep] at h
    split at h
    · split at h
      · split at h
        · cases h; exact .inr (.inl ⟨rfl, rfl, rfl⟩)
        · cases h; exact .inl ⟨rfl, rfl, rfl⟩
      · cases h; exact .inl ⟨rfl, rfl, rfl⟩
    · cases h
  | abort call => cases h; exact .inl ⟨rfl, rfl, rfl⟩

/-- A new hold whose token exceeds every earlier one keeps the invariant. -/
theorem LeaseInvariant.begin (valid : LeaseInvariant s) (lease : Lease)
    (above : ∀ grant ∈ s.grants, grant.lease.fencingToken < lease.fencingToken)
    (row : t.row = some lease) (holds : t.holds = s.holds + 1)
    (grants : t.grants = s.grants ++ [⟨s.holds + 1, lease⟩]) : LeaseInvariant t := by
  constructor
  · intro grant member
    rw [grants] at member
    rcases List.mem_append.mp member with old | new
    · have := valid.bounded grant old; omega
    · rw [List.mem_singleton.mp new, holds]; simp
  · intro earlier he later hl less
    rw [grants] at he hl
    rcases List.mem_append.mp he with he | he <;> rcases List.mem_append.mp hl with hl | hl
    · exact valid.increasing earlier he later hl less
    · rw [List.mem_singleton.mp hl]; exact above earlier he
    · have := valid.bounded later hl
      rw [List.mem_singleton.mp he] at less
      simp only at less
      omega
    · rw [List.mem_singleton.mp he, List.mem_singleton.mp hl] at less
      simp at less
  · intro other eq grant member
    rw [row, Option.some.injEq] at eq
    rw [grants] at member
    rcases List.mem_append.mp member with old | new
    · have := valid.bounded grant old
      have := above grant old
      exact ⟨fun same => by omega, fun _ => eq ▸ this⟩
    · rw [List.mem_singleton.mp new, holds, eq]
      simp
  · intro _ _
    omega

/-- A renewal goes on with the token of the current hold. -/
theorem LeaseInvariant.renew (valid : LeaseInvariant s) (old : s.row = some locked)
    (token : lease.fencingToken = locked.fencingToken) (row : t.row = some lease)
    (holds : t.holds = s.holds) (grants : t.grants = s.grants ++ [⟨s.holds, lease⟩])
    (begun : 0 < s.holds) : LeaseInvariant t := by
  constructor
  · intro grant member
    rw [grants] at member
    rw [holds]
    rcases List.mem_append.mp member with member | member
    · exact valid.bounded grant member
    · rw [List.mem_singleton.mp member]; exact ⟨begun, le_rfl⟩
  · intro earlier he later hl less
    rw [grants] at he hl
    rcases List.mem_append.mp he with he | he <;> rcases List.mem_append.mp hl with hl | hl
    · exact valid.increasing earlier he later hl less
    · rw [List.mem_singleton.mp hl] at less ⊢
      exact token ▸ (valid.current locked old earlier he).2 less
    · have := valid.bounded later hl
      rw [List.mem_singleton.mp he] at less
      simp only at less
      omega
    · rw [List.mem_singleton.mp he, List.mem_singleton.mp hl] at less
      simp at less
  · intro other eq grant member
    rw [row, Option.some.injEq] at eq
    rw [grants] at member
    rw [holds, ← eq, token]
    rcases List.mem_append.mp member with member | member
    · exact valid.current locked old grant member
    · rw [List.mem_singleton.mp member, token]; simp
  · intro _ _
    omega

theorem leaseStep_invariant (valid : LeaseInvariant s) (keeps : KeepsRow s a)
    (h : leaseStep s a = some t) : LeaseInvariant t := by
  rcases leaseStep_cases h with ⟨row, holds, grants⟩ | ⟨row, holds, grants⟩ |
    ⟨inserts, lease, one, row, holds, grants⟩ | ⟨old, lease, oldRow, row, -, token, grants⟩
  · exact ⟨by simpa [grants, holds] using valid.bounded, by simpa [grants] using valid.increasing,
      by simpa [grants, holds, row] using valid.current, by simpa [row, holds] using valid.begun⟩
  · exact ⟨by simpa [grants, holds] using valid.bounded, by simpa [grants] using valid.increasing,
      by simp [row], by simp [row]⟩
  · have first := keeps inserts
    refine valid.begin lease (fun grant member => ?_) row holds grants
    have := valid.bounded grant member
    omega
  · rcases token with ⟨token, holds⟩ | ⟨token, holds⟩
    · exact valid.renew oldRow token row holds (holds ▸ grants) (valid.begun old oldRow)
    · refine valid.begin lease (fun grant member => ?_) row holds (holds ▸ grants)
      have bounds := valid.bounded grant member
      have current := valid.current old oldRow grant member
      rcases Nat.lt_or_eq_of_le bounds.2 with less | same
      · have := current.2 less; omega
      · have := current.1 same; omega

/-- No lease of an earlier hold is current. -/
theorem LeaseInvariant.fenced (valid : LeaseInvariant s) : Fenced s := by
  refine ⟨valid.increasing, fun grant member earlier now passed => ?_⟩
  unfold assertCurrent at passed
  split at passed
  · cases passed
  · rename_i row found
    split at passed
    · cases passed
    · rename_i current
      simp only [not_or, not_not] at current
      have := (valid.current row found grant member).2 earlier
      omega

/-- What every run records, with or without a repeated insert. -/
structure LeaseHistory (s : LeaseState) : Prop where
  bounded : ∀ grant ∈ s.grants, grant.hold ≤ s.holds
  positive : ∀ grant ∈ s.grants, 1 ≤ grant.lease.fencingToken
  recorded : 0 < s.holds → s.grants ≠ []

theorem leaseStep_history (valid : LeaseHistory s) (h : leaseStep s a = some t) :
    LeaseHistory t := by
  have extend (lease : Lease) (positive : 1 ≤ lease.fencingToken) (holds : s.holds ≤ t.holds)
      (grants : t.grants = s.grants ++ [⟨t.holds, lease⟩]) : LeaseHistory t := by
    refine ⟨fun grant member => ?_, fun grant member => ?_, fun _ => by simp [grants]⟩
    all_goals rw [grants] at member
    all_goals rcases List.mem_append.mp member with member | member
    · exact (valid.bounded grant member).trans holds
    · rw [List.mem_singleton.mp member]
    · exact valid.positive grant member
    · rw [List.mem_singleton.mp member]; exact positive
  rcases leaseStep_cases h with ⟨-, holds, grants⟩ | ⟨-, holds, grants⟩ |
    ⟨-, lease, one, -, holds, grants⟩ | ⟨old, lease, -, -, positive, token, grants⟩
  · exact ⟨by simpa [grants, holds] using valid.bounded, by simpa [grants] using valid.positive,
      by simpa [grants, holds] using valid.recorded⟩
  · exact ⟨by simpa [grants, holds] using valid.bounded, by simpa [grants] using valid.positive,
      by simpa [grants, holds] using valid.recorded⟩
  · exact extend lease one.ge (by omega) (holds ▸ grants)
  · exact extend lease positive (by omega) grants

/-- A later hold without a larger token. -/
def TokenRepeats (s : LeaseState) : Prop :=
  ∃ earlier ∈ s.grants, ∃ later ∈ s.grants, earlier.hold < later.hold ∧
    later.lease.fencingToken ≤ earlier.lease.fencingToken

theorem TokenRepeats.step (repeats : TokenRepeats s) (h : leaseStep s a = some t) :
    TokenRepeats t := by
  have kept : s.grants ⊆ t.grants := by
    rcases leaseStep_cases h with ⟨-, -, grants⟩ | ⟨-, -, grants⟩ | ⟨-, _, -, -, -, grants⟩ |
      ⟨-, _, -, -, -, -, grants⟩ <;> simp [grants]
  obtain ⟨earlier, he, later, hl, repeated⟩ := repeats
  exact ⟨earlier, kept he, later, kept hl, repeated⟩

theorem TokenRepeats.not_fenced (repeats : TokenRepeats s) : ¬Fenced s := by
  obtain ⟨earlier, he, later, hl, less, token⟩ := repeats
  intro fenced
  have := fenced.increasing earlier he later hl less
  omega

theorem insertsRow_step (inserts : insertsRow s a = true) (h : leaseStep s a = some t) :
    ∃ lease, lease.fencingToken = 1 ∧ t.grants = s.grants ++ [⟨s.holds + 1, lease⟩] := by
  cases a with
  | insert call acquired base =>
    simp only [insertsRow] at inserts
    split at inserts
    · rename_i store workerId duration inserting missing
      simp only [leaseStep, inserting, missing, inserts, if_true] at h
      cases h
      exact ⟨_, rfl, rfl⟩
    · cases inserts
  | _ => cases inserts

/-- Inserting the row again starts over with token 1. -/
theorem insertsRow_repeats (valid : LeaseHistory s) (inserts : insertsRow s a = true)
    (begun : 0 < s.holds) (h : leaseStep s a = some t) : TokenRepeats t := by
  obtain ⟨first, member⟩ := List.exists_mem_of_ne_nil _ (valid.recorded begun)
  have positive := valid.positive first member
  have bounded := valid.bounded first member
  obtain ⟨lease, one, grants⟩ := insertsRow_step inserts h
  exact ⟨first, by simp [grants, member], ⟨s.holds + 1, lease⟩, by simp [grants],
    by simp only; omega, by simp only; omega⟩

theorem meets_of_fenced (valid : LeaseHistory s)
    (reached : Transition.run leaseStep s actions = some t) (fenced : Fenced t) :
    Transition.Meets leaseStep KeepsRow s actions := by
  induction actions generalizing s with
  | nil => trivial
  | cons a rest ih =>
    obtain ⟨m, first, others⟩ := Transition.run_cons reached
    have next := leaseStep_history valid first
    refine ⟨fun inserts => ?_, fun m' step => ?_⟩
    · by_contra begun
      have repeats := insertsRow_repeats valid inserts (Nat.pos_of_ne_zero begun) first
      exact (Transition.run_preserves (fun _ _ _ repeats => repeats.step) repeats others).not_fenced
        fenced
    · have same : m = m' := Option.some.inj (first.symm.trans step)
      exact same ▸ ih next others

/-- Tokens grow and old leases are refused exactly in the runs in which no acquire inserts
the row a second time. -/
theorem run_fenced_iff {actions : List LeaseAction} {s : LeaseState}
    (reached : Transition.run leaseStep LeaseState.initial actions = some s) :
    Fenced s ↔ Transition.Meets leaseStep KeepsRow LeaseState.initial actions := by
  constructor
  · exact meets_of_fenced ⟨by simp [LeaseState.initial], by simp [LeaseState.initial],
      by simp [LeaseState.initial]⟩ reached
  · intro keeps
    exact (Transition.run_invariant (fun _ _ _ valid keeps => leaseStep_invariant valid keeps)
      initial_invariant keeps reached).fenced

/-- A worker takes over after expiry and renews. -/
def takeover : List LeaseAction := [
  .tryAcquire 0 0 "a" 10, .insert 0 0 0, .remember 0, .tryAcquire 1 1 "b" 10, .insert 1 20 20,
  .select 1 20 20 20 20, .remember 1, .tryAcquire 2 1 "b" 10, .insert 2 25 25, .select 2 25 25 25 25]

theorem takeover_fenced : ∃ s, Transition.run leaseStep LeaseState.initial takeover = some s ∧
    s.grants.map (·.lease.fencingToken) = [1, 2, 2] ∧ Fenced s := by
  obtain ⟨s, reached, tokens⟩ := @Transition.run_test _ _ leaseStep LeaseState.initial takeover
    (fun s => s.grants.map (·.lease.fencingToken) = [1, 2, 2]) (by decide +kernel)
  exact ⟨s, reached, by simpa using tokens, (run_fenced_iff reached).mpr (by decide +kernel)⟩

/-- A worker acquires the lease, releases it and acquires it again. -/
def reacquire : List LeaseAction := [
  .tryAcquire 0 0 "w" 10, .insert 0 0 0, .remember 0, .release 1 0 "w", .delete 1,
  .tryAcquire 2 0 "w" 10, .insert 2 5 5, .remember 2]

/-- The second hold gets token 1 again, and the lease of the first passes as current. -/
theorem reacquire_notFenced : ∃ s,
    Transition.run leaseStep LeaseState.initial reacquire = some s ∧ ¬Fenced s ∧
    ∃ grant ∈ s.grants, grant.hold < s.holds ∧ assertCurrent s.row grant.lease 6 = .ok () := by
  obtain ⟨s, reached, stale⟩ := @Transition.run_test _ _ leaseStep LeaseState.initial reacquire
    (fun s => s.grants.any fun grant => grant.hold < s.holds ∧
      (assertCurrent s.row grant.lease 6).toBool) (by decide +kernel)
  obtain ⟨grant, member, stale⟩ := List.any_eq_true.mp stale
  simp only [decide_eq_true_eq] at stale
  have passed : assertCurrent s.row grant.lease 6 = .ok () := by
    cases result : assertCurrent s.row grant.lease 6 with
    | error e => rw [result] at stale; cases stale.2
    | ok u => rfl
  exact ⟨s, reached, fun fenced => fenced.refused grant member stale.1 6 passed,
    grant, member, stale.1, passed⟩

end BallotProof
