import BallotProof.Approvals
import BallotProof.Requests
import BallotProof.Rows

/-! Runs of the approval ledger: whatever calls of `append` interleave, every chain verifies,
a revocation follows an approval of its snapshot, and the latest event decides. The text of
`event_json` stands as the event that is read back from it. -/
namespace BallotProof
open Python

/-- The policy snapshots as `SourcePolicyStore.get` returns them, and the approval events. -/
structure ApprovalLedger where
  policies : List SourcePolicySnapshot
  approvals : List SourceApprovalRow

/-- `append` makes its checks when the policy store has its first `seen` snapshots, and then
runs its transaction. -/
inductive ApprovalRequest where
  | policy (snapshot : SourcePolicySnapshot)
  | append (event : SignedSourceApproval) (trusted : Option (List Digest)) (seen : Nat) (storedAt : Datetime)

section
variable {Key : Type} (sha256 : Bytes → Digest) (ed25519 : Ed25519 Key)

/-- The answer of `append` is the event it stores. -/
def serveApproval (s : ApprovalLedger) :
    ApprovalRequest → Result (Option SignedSourceApproval × ApprovalLedger)
  | .policy snapshot =>
    if ∃ row ∈ s.policies, row.sourceId = snapshot.sourceId ∧ row.version = snapshot.version then
      .error ⟨.integrityError, "UNIQUE constraint failed"⟩
    else .ok (none, { s with policies := s.policies ++ [snapshot] })
  | .append event trusted seen storedAt => do
    approvalChecks sha256 ed25519 (s.policies.take seen) trusted event
    let approvals ← appendApproval s.approvals event storedAt
    return (some { event with storedAt := some storedAt }, { s with approvals })

end

/-- The decision of the latest event for the snapshot that a row is about. -/
def latestDecision (rows : List SourceApprovalRow) (row : SourceApprovalRow) : Option SourceApprovalDecision :=
  (latestForSnapshot rows row.sourceId row.policyVersion row.policySnapshotHash).map (·.decision)

/-- The columns of a row are those of its event, which is signed and bound to an approved policy. -/
structure SourceApprovalRow.Recorded {Key : Type} (sha256 : Bytes → Digest) (ed25519 : Ed25519 Key)
    (policies : List SourcePolicySnapshot) (row : SourceApprovalRow) : Prop where
  source : row.event.payload.sourceId = row.sourceId
  version : row.event.payload.policyVersion = row.policyVersion
  hash : row.event.payload.policySnapshotHash = row.policySnapshotHash
  decision : row.event.payload.decision = row.decision
  signed : verifySourceApproval sha256 ed25519 row.event = true
  bound : ∃ snapshot, boundSnapshot policies row.event = .ok snapshot ∧
    snapshot.policy.accessStatus = .approved

/-- What every append keeps. -/
structure ApprovalsKept {Key : Type} (sha256 : Bytes → Digest) (ed25519 : Ed25519 Key) (s : ApprovalLedger) :
    Prop where
  versions : Sql.Unique (fun row => (SourcePolicySnapshot.sourceId row, row.version)) s.policies
  recorded : ∀ row ∈ s.approvals, row.Recorded sha256 ed25519 s.policies
  chains : ∀ sourceId, (verifyApprovalChain sha256 ed25519 s.policies s.approvals sourceId).valid = true
  ids : Sql.Unique (·.eventId) s.approvals
  alternates : ∀ front row back, s.approvals = front ++ row :: back → row.decision = .revoke →
    latestDecision front row = some .approve

section
variable {Key : Type} {sha256 : Bytes → Digest} {ed25519 : Ed25519 Key}

theorem ApprovalsKept.initial : ApprovalsKept sha256 ed25519 ⟨[], []⟩ :=
  ⟨List.nodup_nil, by simp, fun _ => rfl, List.nodup_nil, by simp⟩

theorem SourceApprovalRow.Recorded.grown {row : SourceApprovalRow}
    (recorded : row.Recorded sha256 ed25519 policies) (grown : policies <+: after) :
    row.Recorded sha256 ed25519 after := by
  obtain ⟨snapshot, bound, status⟩ := recorded.bound
  exact { recorded with bound := ⟨snapshot, boundSnapshot_grown bound grown, status⟩ }

theorem approvalChecks_status (h : approvalChecks sha256 ed25519 policies trusted event = .ok ()) :
    verifySourceApproval sha256 ed25519 event = true ∧
      ∃ snapshot, boundSnapshot policies event = .ok snapshot ∧
        snapshot.policy.accessStatus = .approved := by
  simp only [approvalChecks, bind_eq_ok, raiseIf_ok, exists_const] at h
  obtain ⟨-, signed, -, snapshot, bound, status⟩ := h
  exact ⟨by simpa using signed, snapshot, bound, by simpa using status⟩

/-- What the transaction of an append that succeeds has found. -/
structure Appended (rows : List SourceApprovalRow) (event : SignedSourceApproval) : Prop where
  fresh : ∀ row ∈ rows, row.eventId ≠ event.payload.eventId
  revokes : event.payload.decision = .revoke →
    (latestForSnapshot rows event.payload.sourceId event.payload.policyVersion
      event.payload.policySnapshotHash).map (·.decision) = some .approve

theorem appendApproval_appended (h : appendApproval rows event storedAt = .ok after) : Appended rows event := by
  simp only [appendApproval, bind_eq_ok, raiseIf_ok, exists_const] at h
  obtain ⟨-, alternates, unique, -⟩ := h
  refine ⟨fun row member same => unique ⟨row, member, .inl same⟩, fun revoke => ?_⟩
  by_contra apart
  exact alternates ⟨revoke, apart⟩

namespace ApprovalsKept

theorem policy {s : ApprovalLedger} (kept : ApprovalsKept sha256 ed25519 s)
    (fresh : ∀ row ∈ s.policies, ¬(row.sourceId = snapshot.sourceId ∧ row.version = snapshot.version)) :
    ApprovalsKept sha256 ed25519 { s with policies := s.policies ++ [snapshot] } := by
  have grown : s.policies <+: s.policies ++ [snapshot] := List.prefix_append _ _
  refine ⟨kept.versions.snoc ?_, ?_, ?_, kept.ids, kept.alternates⟩
  · intro member
    obtain ⟨row, stored, same⟩ := List.mem_map.mp member
    exact fresh row stored (Prod.mk.inj same)
  · intro row member
    exact (kept.recorded row member).grown grown
  · intro sourceId
    have valid := kept.chains sourceId
    rw [verifyApprovalChain_valid] at valid ⊢
    exact checkApprovals_grown grown valid

theorem append {s : ApprovalLedger} (kept : ApprovalsKept sha256 ed25519 s)
    (signed : verifySourceApproval sha256 ed25519 event = true)
    (bound : boundSnapshot s.policies event = .ok snapshot)
    (status : snapshot.policy.accessStatus = .approved)
    (h : appendApproval s.approvals event storedAt = .ok after) :
    ApprovalsKept sha256 ed25519 { s with approvals := after } := by
  have appended := appendApproval_appended h
  have chains (sourceId : String) := verifyApprovalChain_append signed bound h (kept.chains sourceId)
  obtain ⟨rfl, -⟩ := appendApproval_ok h
  refine ⟨kept.versions, ?_, chains, kept.ids.snoc ?_, ?_⟩
  · intro row member
    rcases List.mem_append.mp member with old | new
    · exact kept.recorded row old
    · rw [List.mem_singleton.mp new]
      exact ⟨rfl, rfl, rfl, rfl, signed, snapshot, bound, status⟩
  · intro member
    obtain ⟨row, stored, same⟩ := List.mem_map.mp member
    exact appended.fresh row stored same
  · intro front row back split revoke
    rcases List.eq_nil_or_concat back with rfl | ⟨back, last, rfl⟩
    · obtain ⟨rfl, same⟩ := List.append_inj' split rfl
      cases same
      exact appended.revokes revoke
    · rw [List.concat_eq_append, ← List.cons_append, ← List.append_assoc] at split
      obtain ⟨rows, -⟩ := List.append_inj' split rfl
      exact kept.alternates front row back rows revoke

theorem serve {s : ApprovalLedger} (kept : ApprovalsKept sha256 ed25519 s)
    (h : serveApproval sha256 ed25519 s request = .ok (answer, after)) :
    ApprovalsKept sha256 ed25519 after := by
  cases request with
  | policy snapshot =>
    simp only [serveApproval] at h
    split at h
    · cases h
    next fresh =>
      cases h
      exact kept.policy fun row member same => fresh ⟨row, member, same⟩
  | append event trusted seen storedAt =>
    obtain ⟨_, checked, h⟩ := bind_ok h
    obtain ⟨rows, stored, h⟩ := bind_ok h
    cases h
    obtain ⟨signed, snapshot, bound, status⟩ := approvalChecks_status checked
    exact kept.append signed (boundSnapshot_grown bound (List.take_prefix _ _)) status stored

theorem run (requests : List ApprovalRequest) :
    ApprovalsKept sha256 ed25519 (Requests.run (serveApproval sha256 ed25519) ⟨[], []⟩ requests) := by
  have kept (s : ApprovalLedger) (request : ApprovalRequest) (answer : Option SignedSourceApproval)
      (t : ApprovalLedger) (kept : ApprovalsKept sha256 ed25519 s) (_ : True)
      (h : serveApproval sha256 ed25519 s request = .ok (answer, t)) : ApprovalsKept sha256 ed25519 t :=
    kept.serve h
  exact Requests.run_keeps kept initial (Requests.Meets.of_forall fun _ _ _ => trivial)

/-- The snapshot that an event is bound to is the stored one with its source and version. -/
theorem getPolicy_stored {s : ApprovalLedger} (kept : ApprovalsKept sha256 ed25519 s)
    (stored : snapshot ∈ s.policies) :
    getPolicy s.policies snapshot.sourceId snapshot.version = .ok snapshot := by
  have found := kept.versions.select stored
  have same : (fun row : SourcePolicySnapshot =>
      decide ((row.sourceId, row.version) = (snapshot.sourceId, snapshot.version))) =
      fun row => decide (row.sourceId = snapshot.sourceId ∧ row.version = snapshot.version) := by
    funext row
    simp
  unfold Sql.selectRow at found
  rw [same] at found
  rw [getPolicy, found]

/-- An event for a stored snapshot was accepted because the snapshot is approved. -/
theorem status {s : ApprovalLedger} (kept : ApprovalsKept sha256 ed25519 s) (stored : snapshot ∈ s.policies)
    (latest : latestForSnapshot s.approvals snapshot.sourceId snapshot.version snapshot.snapshotHash =
      some row) :
    row.Recorded sha256 ed25519 s.policies ∧ snapshot.policy.accessStatus = .approved := by
  obtain ⟨member, about⟩ := List.mem_filter.mp (List.mem_of_getLast? latest)
  obtain ⟨source, version, -⟩ := of_decide_eq_true about
  have recorded := kept.recorded row member
  obtain ⟨found, bound, status⟩ := recorded.bound
  obtain ⟨read, get, bound⟩ := bind_ok bound
  obtain ⟨_, -, bound⟩ := bind_ok bound
  cases bound
  rw [recorded.source, source, recorded.version, version, kept.getPolicy_stored stored] at get
  cases get
  exact ⟨recorded, status⟩

end ApprovalsKept

end

end BallotProof
