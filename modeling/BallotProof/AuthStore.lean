import BallotProof.Aware
import BallotProof.Base64
import BallotProof.Calls
import BallotProof.Collation
import BallotProof.Governance
import BallotProof.Rows
import BallotProof.Strings

/-! The store of identities, API keys, approver keys and the audit journal. A call reads and
writes in transactions of its own; each write appends its event in the same transaction. -/
namespace BallotProof
open Python Sql Calls

inductive Role where
  | viewer | evidenceContributor | sourceOperator | governanceReviewer | admin
  deriving DecidableEq, Repr

def Role.value : Role → String
  | .viewer => "viewer"
  | .evidenceContributor => "evidence_contributor"
  | .sourceOperator => "source_operator"
  | .governanceReviewer => "governance_reviewer"
  | .admin => "admin"

/-- `sorted({Role(role) for role in roles}, key=lambda item: item.value)` -/
def sortedRoles (roles : List Role) : List Role :=
  roles.dedup.insertionSort fun a b => a.value ≤ b.value

structure Identity where
  actorId : String
  displayName : Option String
  roles : List Role
  createdAt : Timestamp
  disabledAt : Option Timestamp

/-- `Identity(actor_id=..., display_name=..., roles=..., created_at=..., disabled_at=...)` -/
def Identity.create (actorId : String) (displayName : Option String) (roles : List Role)
    (createdAt : Timestamp) (disabledAt : Option Timestamp) : Result Identity := do
  checkLength 256 actorId
  require (∀ name ∈ displayName, name.length ≤ 256) "String should have at most 256 characters"
  return ⟨actorId, displayName, roles, createdAt, disabledAt⟩

structure ApiKeyIssued where
  keyId : String
  actorId : String
  token : String
  createdAt : Timestamp
  expiresAt : Option Timestamp

structure ApiKeyMetadata where
  keyId : String
  actorId : String
  tokenPrefix : String
  createdAt : Timestamp
  expiresAt : Option Timestamp
  revokedAt : Option Timestamp

structure ApproverKey where
  keyId : String
  actorId : String
  publicKeyB64 : String
  publicKeySha256 : Digest
  enrolledAt : Timestamp
  enrolledByActorId : String
  revokedAt : Option Timestamp
  revokedByActorId : Option String

/-- A row of `identities`; the column of roles holds the JSON text of their values. -/
structure IdentityRow where
  actorId : String
  displayName : Option String
  roles : List Role
  createdAt : Timestamp
  disabledAt : Option Timestamp

/-- A row of `api_keys`, without the salt and the verifier of the token. -/
structure ApiKeyRow where
  keyId : String
  actorId : String
  tokenPrefix : String
  createdAt : Timestamp
  expiresAt : Option Timestamp
  revokedAt : Option Timestamp

/-- A row of `approver_keys`. -/
structure ApproverKeyRow where
  keyId : String
  actorId : String
  publicKeyB64 : String
  publicKeySha256 : Digest
  enrolledAt : Timestamp
  enrolledByActorId : String
  revokedAt : Option Timestamp
  revokedByActorId : Option String

/-- A row of `auth_audit_events`; the column of the payload holds its JSON text. -/
structure AuditEvent where
  sequence : Nat
  eventType : String
  actorId : String
  targetId : String
  payload : Json
  previousEventHash : Option Digest
  eventHash : Digest
  createdAt : Timestamp

structure AuthDb where
  identities : List IdentityRow
  apiKeys : List ApiKeyRow
  approverKeys : List ApproverKeyRow
  auditEvents : List AuditEvent

def AuthDb.empty : AuthDb := ⟨[], [], [], []⟩

def auditBody (sequence : Nat) (eventType actorId targetId : String) (payload : Json)
    (previous : Option Digest) (createdAt : Timestamp) : Json := .obj [
  ("actor_id", .str actorId),
  ("created_at", .str createdAt.isoformat),
  ("event_type", .str eventType),
  ("payload", payload),
  ("previous_event_hash", optionalHash previous),
  ("sequence", .int sequence),
  ("target_id", .str targetId)]

/-- What a writer says of itself: the kind of its event, its target and its payload. -/
structure AuditEntry where
  eventType : String
  actorId : String
  targetId : String
  payload : Json
  createdAt : Timestamp

section
variable (sha256 : Bytes → Digest)

/-- `_append_audit` -/
def appendAudit (events : List AuditEvent) (entry : AuditEntry) : Result (List AuditEvent) :=
  let previous := (orderBy (·.sequence) events).getLast?
  let sequence := (previous.map (·.sequence + 1)).getD 1
  let previousHash := previous.map (·.eventHash)
  let eventHash := hashRecord sha256 (auditBody sequence entry.eventType entry.actorId entry.targetId
    entry.payload previousHash entry.createdAt)
  if integerLimit ≤ sequence then
    .error ⟨.overflowError, "Python int too large to convert to SQLite INTEGER"⟩
  else if (∃ event ∈ events, event.sequence = sequence) ∨ ∃ event ∈ events, event.eventHash = eventHash then
    .error ⟨.integrityError, "UNIQUE constraint failed"⟩
  else .ok (events ++ [⟨sequence, entry.eventType, entry.actorId, entry.targetId, entry.payload,
    previousHash, eventHash, entry.createdAt⟩])

/-- The loop of `verify_audit_chain`. -/
def auditLinked (previous : Option Digest) : List AuditEvent → Bool
  | [] => true
  | event :: rest =>
    if event.previousEventHash ≠ previous ∨ hashRecord sha256 (auditBody event.sequence event.eventType
        event.actorId event.targetId event.payload previous event.createdAt) ≠ event.eventHash then false
    else auditLinked (some event.eventHash) rest

/-- `verify_audit_chain` -/
def AuthDb.verifyAuditChain (db : AuthDb) : Bool :=
  auditLinked sha256 none (orderBy (·.sequence) db.auditEvents)

def rolesPayload (roles : List Role) : Json := .obj [("roles", .arr (roles.map fun role => .str role.value))]

def issuedPayload (row : ApiKeyRow) : Json := .obj [
  ("expires_at", optionalText (row.expiresAt.map (·.isoformat))),
  ("subject_actor_id", .str row.actorId)]

def enrolledPayload (row : ApproverKeyRow) : Json := .obj [
  ("public_key_sha256", .str row.publicKeySha256.hex),
  ("subject_actor_id", .str row.actorId)]

/-- The `INSERT` of `create_identity`. -/
def AuthDb.insertIdentity (db : AuthDb) (row : IdentityRow) (performedBy : String) : Result AuthDb :=
  if row.actorId ∈ db.identities.map (·.actorId) then .error ⟨.valueError, "identity already exists"⟩
  else do
    let events ← appendAudit sha256 db.auditEvents
      ⟨"identity.created", performedBy, row.actorId, rolesPayload row.roles, row.createdAt⟩
    return { db with identities := db.identities ++ [row], auditEvents := events }

/-- The `UPDATE` of `update_roles`. -/
def AuthDb.updateRoles (db : AuthDb) (actorId : String) (roles : List Role) (performedBy : String)
    (now : Timestamp) : Result AuthDb := do
  let events ← appendAudit sha256 db.auditEvents
    ⟨"identity.roles_updated", performedBy, actorId, rolesPayload roles, now⟩
  return { db with
    identities := updateRow (·.actorId) actorId (fun row => { row with roles := roles }) db.identities
    auditEvents := events }

/-- The `INSERT` of `issue_api_key`. -/
def AuthDb.insertApiKey (db : AuthDb) (row : ApiKeyRow) (performedBy : String) : Result AuthDb :=
  if row.keyId ∈ db.apiKeys.map (·.keyId) then
    .error ⟨.integrityError, "UNIQUE constraint failed: api_keys.key_id"⟩
  else if row.actorId ∉ db.identities.map (·.actorId) then
    .error ⟨.integrityError, "FOREIGN KEY constraint failed"⟩
  else do
    let events ← appendAudit sha256 db.auditEvents
      ⟨"api_key.issued", performedBy, row.keyId, issuedPayload row, row.createdAt⟩
    return { db with apiKeys := db.apiKeys ++ [row], auditEvents := events }

/-- The transaction of `revoke_api_key`. -/
def AuthDb.revokeApiKey (db : AuthDb) (keyId performedBy : String) (now : Timestamp) : Result AuthDb :=
  match selectRow (·.keyId) keyId db.apiKeys with
  | none => .error ⟨.keyError, "Unknown key_id: " ++ keyId⟩
  | some row =>
    if row.revokedAt ≠ none then .error ⟨.valueError, "API key is already revoked"⟩
    else do
      let events ← appendAudit sha256 db.auditEvents
        ⟨"api_key.revoked", performedBy, keyId, .obj [], now⟩
      return { db with
        apiKeys := updateRow (·.keyId) keyId (fun row => { row with revokedAt := some now }) db.apiKeys
        auditEvents := events }

/-- The `INSERT` of `enroll_approver_key`. -/
def AuthDb.insertApproverKey (db : AuthDb) (row : ApproverKeyRow) : Result AuthDb :=
  if row.keyId ∈ db.approverKeys.map (·.keyId) ∨
      row.publicKeySha256 ∈ db.approverKeys.map (·.publicKeySha256) ∨
      row.actorId ∉ db.identities.map (·.actorId) then
    .error ⟨.valueError, "approver public key is already enrolled"⟩
  else do
    let events ← appendAudit sha256 db.auditEvents
      ⟨"approver_key.enrolled", row.enrolledByActorId, row.keyId, enrolledPayload row, row.enrolledAt⟩
    return { db with approverKeys := db.approverKeys ++ [row], auditEvents := events }

/-- The transaction of `revoke_approver_key`. -/
def AuthDb.revokeApproverKey (db : AuthDb) (keyId performedBy : String) (now : Timestamp) : Result AuthDb :=
  match selectRow (·.keyId) keyId db.approverKeys with
  | none => .error ⟨.keyError, "Unknown approver key_id: " ++ keyId⟩
  | some row =>
    if row.revokedAt ≠ none then .error ⟨.valueError, "approver key is already revoked"⟩
    else do
      let events ← appendAudit sha256 db.auditEvents
        ⟨"approver_key.revoked", performedBy, keyId, .obj [], now⟩
      return { db with
        approverKeys := updateRow (·.keyId) keyId
          (fun row => { row with revokedAt := some now, revokedByActorId := some performedBy })
          db.approverKeys
        auditEvents := events }

/-- The transactions that write. -/
inductive AuthWrite where
  | insertIdentity (row : IdentityRow) (performedBy : String)
  | updateRoles (actorId : String) (roles : List Role) (performedBy : String) (now : Timestamp)
  | insertApiKey (row : ApiKeyRow) (performedBy : String)
  | revokeApiKey (keyId performedBy : String) (now : Timestamp)
  | insertApproverKey (row : ApproverKeyRow)
  | revokeApproverKey (keyId performedBy : String) (now : Timestamp)

def AuthWrite.apply (db : AuthDb) : AuthWrite → Result AuthDb
  | insertIdentity row performedBy => db.insertIdentity sha256 row performedBy
  | updateRoles actorId roles performedBy now => db.updateRoles sha256 actorId roles performedBy now
  | insertApiKey row performedBy => db.insertApiKey sha256 row performedBy
  | revokeApiKey keyId performedBy now => db.revokeApiKey sha256 keyId performedBy now
  | insertApproverKey row => db.insertApproverKey sha256 row
  | revokeApproverKey keyId performedBy now => db.revokeApproverKey sha256 keyId performedBy now

inductive AuthTransaction where
  | countIdentities
  | readIdentity (actorId : String)
  | readApiKeys
  | readApproverKey (keyId : String)
  | write (written : AuthWrite)

def AuthTransaction.Answer : AuthTransaction → Type
  | countIdentities => Nat
  | readIdentity _ => Option IdentityRow
  | readApiKeys => List ApiKeyRow
  | readApproverKey _ => Option ApproverKeyRow
  | write _ => Result Unit

/-- One transaction: a write commits, or raises and is rolled back. -/
def AuthTransaction.exec : (t : AuthTransaction) → AuthDb → t.Answer × AuthDb
  | countIdentities, db => (db.identities.length, db)
  | readIdentity actorId, db => (selectRow (·.actorId) actorId db.identities, db)
  | readApiKeys, db => (db.apiKeys, db)
  | readApproverKey keyId, db => (selectRow (·.keyId) keyId db.approverKeys, db)
  | write written, db =>
    match written.apply sha256 db with
    | .ok after => (.ok (), after)
    | .error e => (.error e, db)

end

abbrev AuthCall := Call AuthTransaction.Answer Error

/-- What a call does when its write has committed; when it was rolled back, the call raises. -/
def committed (next : AuthCall α) : Result Unit → AuthCall α
  | .ok () => next
  | .error e => .done (.error e)

/-- A transaction that writes. -/
def write (written : AuthWrite) (next : AuthCall α) : AuthCall α :=
  .transact (.write written) (committed next)

/-- `_identity_from_row` -/
def IdentityRow.identity (row : IdentityRow) : Result Identity :=
  Identity.create row.actorId row.displayName row.roles row.createdAt row.disabledAt

def ApproverKeyRow.approverKey (row : ApproverKeyRow) : ApproverKey :=
  ⟨row.keyId, row.actorId, row.publicKeyB64, row.publicKeySha256, row.enrolledAt, row.enrolledByActorId,
    row.revokedAt, row.revokedByActorId⟩

def ApiKeyRow.metadata (row : ApiKeyRow) : ApiKeyMetadata :=
  ⟨row.keyId, row.actorId, row.tokenPrefix, row.createdAt, row.expiresAt, row.revokedAt⟩

def identityFound (actorId : String) : Option IdentityRow → AuthCall Identity
  | none => .done (.error ⟨.keyError, "Unknown actor_id: " ++ actorId⟩)
  | some row => .done row.identity

/-- `get_identity` -/
def getIdentity (actorId : String) : AuthCall Identity :=
  .transact (.readIdentity actorId) (identityFound actorId)

/-- `create_identity`, when the clock reads `now`. -/
def createIdentity (actorId : String) (roles : List Role) (displayName : Option String)
    (performedBy : String) (now : Timestamp) : AuthCall Identity :=
  if strip actorId.toList = [] then .done (.error ⟨.valueError, "actor_id is required"⟩)
  else if roles = [] then .done (.error ⟨.valueError, "at least one role is required"⟩)
  else
    write (.insertIdentity ⟨actorId, displayName, sortedRoles roles, now, none⟩ performedBy) <|
      .done (Identity.create actorId displayName (sortedRoles roles) now none)

/-- `update_roles` -/
def updateRoles (actorId : String) (roles : List Role) (performedBy : String) (now : Timestamp) :
    AuthCall Identity :=
  if roles = [] then .done (.error ⟨.valueError, "at least one role is required"⟩)
  else (getIdentity actorId).bind fun current =>
    if current.disabledAt ≠ none then
      .done (.error ⟨.permissionError, "disabled identity roles cannot be changed"⟩)
    else write (.updateRoles actorId (sortedRoles roles) performedBy now) (getIdentity actorId)

/-- `issue_api_key`, when `secrets` gives the key id and the secret. -/
def issueApiKey (actorId performedBy : String) (expiresAt : Option Timestamp) (keyId secret : String)
    (now : Timestamp) : AuthCall ApiKeyIssued :=
  (getIdentity actorId).bind fun identity =>
    if identity.disabledAt ≠ none then
      .done (.error ⟨.permissionError, "cannot issue API key to disabled identity"⟩)
    else if ∃ expires ∈ expiresAt, expires.utcoffset = none then
      .done (.error ⟨.valueError, "expires_at must be timezone-aware"⟩)
    else
      let token := "bp_live_" ++ keyId ++ "_" ++ secret
      write (.insertApiKey ⟨keyId, actorId, String.ofList (token.toList.take 24), now, expiresAt, none⟩
        performedBy) (.done (.ok ⟨keyId, actorId, token, now, expiresAt⟩))

/-- `bootstrap_admin`, once the identities are counted. -/
def bootstrapCounted (actorId : String) (displayName : Option String) (keyId secret : String)
    (createdAt issuedAt : Timestamp) (count : Nat) : AuthCall ApiKeyIssued :=
  if count ≠ 0 then
    .done (.error ⟨.permissionError, "bootstrap is allowed only before any identity exists"⟩)
  else (createIdentity actorId [.admin] displayName "bootstrap" createdAt).bind fun _ =>
    issueApiKey actorId "bootstrap" none keyId secret issuedAt

/-- `bootstrap_admin` -/
def bootstrapAdmin (actorId : String) (displayName : Option String) (keyId secret : String)
    (createdAt issuedAt : Timestamp) : AuthCall ApiKeyIssued :=
  .transact .countIdentities (bootstrapCounted actorId displayName keyId secret createdAt issuedAt)

/-- `next(item for item in self.api_keys() if item.key_id == key_id)` -/
def apiKeyListed (keyId : String) (rows : List ApiKeyRow) : AuthCall ApiKeyMetadata :=
  match (rows.map (·.metadata)).find? (·.keyId = keyId) with
  | none => .done (.error ⟨.runtimeError, "StopIteration"⟩)
  | some key => .done (.ok key)

/-- `revoke_api_key` -/
def revokeApiKey (keyId performedBy : String) (now : Timestamp) : AuthCall ApiKeyMetadata :=
  write (.revokeApiKey keyId performedBy now) (.transact .readApiKeys (apiKeyListed keyId))

def approverKeyFound (keyId : String) : Option ApproverKeyRow → AuthCall ApproverKey
  | none => .done (.error ⟨.keyError, "Unknown approver key_id: " ++ keyId⟩)
  | some row => .done (.ok row.approverKey)

/-- `get_approver_key` -/
def getApproverKey (keyId : String) : AuthCall ApproverKey :=
  .transact (.readApproverKey keyId) (approverKeyFound keyId)

/-- `enroll_approver_key` -/
def enrollApproverKey (sha256 : Bytes → Digest) (actorId publicKeyB64 performedBy keyId : String)
    (now : Timestamp) : AuthCall ApproverKey :=
  (getIdentity actorId).bind fun identity =>
    if identity.disabledAt ≠ none ∨ Role.governanceReviewer ∉ identity.roles then
      .done (.error ⟨.permissionError, "approver keys require an active governance_reviewer identity"⟩)
    else
      match b64decode publicKeyB64.toList with
      | .error _ => .done (.error ⟨.valueError, "public_key_b64 is not valid base64"⟩)
      | .ok raw =>
        if raw.length ≠ 32 then
          .done (.error ⟨.valueError, "Ed25519 public key must be 32 raw bytes"⟩)
        else
          write (.insertApproverKey ⟨keyId, actorId, publicKeyB64, sha256 raw, now, performedBy, none, none⟩)
            (getApproverKey keyId)

/-- `revoke_approver_key` -/
def revokeApproverKey (keyId performedBy : String) (now : Timestamp) : AuthCall ApproverKey :=
  write (.revokeApproverKey keyId performedBy now) (getApproverKey keyId)

/-- What a write that commits has done: its rows, and its event at the end of the journal. -/
inductive Writes (sha256 : Bytes → Digest) (db : AuthDb) : AuthWrite → AuthDb → Prop
  | insertIdentity :
    row.actorId ∉ db.identities.map (·.actorId) →
    appendAudit sha256 db.auditEvents
      ⟨"identity.created", performedBy, row.actorId, rolesPayload row.roles, row.createdAt⟩ = .ok events →
    Writes sha256 db (.insertIdentity row performedBy)
      { db with identities := db.identities ++ [row], auditEvents := events }
  | updateRoles :
    appendAudit sha256 db.auditEvents
      ⟨"identity.roles_updated", performedBy, actorId, rolesPayload roles, now⟩ = .ok events →
    Writes sha256 db (.updateRoles actorId roles performedBy now)
      { db with
        identities := updateRow (·.actorId) actorId (fun row => { row with roles := roles }) db.identities
        auditEvents := events }
  | insertApiKey :
    row.keyId ∉ db.apiKeys.map (·.keyId) →
    appendAudit sha256 db.auditEvents
      ⟨"api_key.issued", performedBy, row.keyId, issuedPayload row, row.createdAt⟩ = .ok events →
    Writes sha256 db (.insertApiKey row performedBy)
      { db with apiKeys := db.apiKeys ++ [row], auditEvents := events }
  | revokeApiKey :
    keyId ∈ db.apiKeys.map (·.keyId) →
    appendAudit sha256 db.auditEvents ⟨"api_key.revoked", performedBy, keyId, .obj [], now⟩ = .ok events →
    Writes sha256 db (.revokeApiKey keyId performedBy now)
      { db with
        apiKeys := updateRow (·.keyId) keyId (fun row => { row with revokedAt := some now }) db.apiKeys
        auditEvents := events }
  | insertApproverKey :
    row.keyId ∉ db.approverKeys.map (·.keyId) →
    appendAudit sha256 db.auditEvents
      ⟨"approver_key.enrolled", row.enrolledByActorId, row.keyId, enrolledPayload row, row.enrolledAt⟩ =
        .ok events →
    Writes sha256 db (.insertApproverKey row)
      { db with approverKeys := db.approverKeys ++ [row], auditEvents := events }
  | revokeApproverKey :
    keyId ∈ db.approverKeys.map (·.keyId) →
    appendAudit sha256 db.auditEvents ⟨"approver_key.revoked", performedBy, keyId, .obj [], now⟩ = .ok events →
    Writes sha256 db (.revokeApproverKey keyId performedBy now)
      { db with
        approverKeys := updateRow (·.keyId) keyId
          (fun row => { row with revokedAt := some now, revokedByActorId := some performedBy })
          db.approverKeys
        auditEvents := events }

theorem selectRow_known {rows : List α} {key : α → String} (found : selectRow key k rows = some row) :
    k ∈ rows.map key := by
  obtain ⟨member, rfl⟩ := selectRow_mem found
  exact List.mem_map_of_mem member

theorem apply_writes (h : written.apply sha256 db = .ok after) : Writes sha256 db written after := by
  cases written with
  | insertIdentity row performedBy =>
    simp only [AuthWrite.apply, AuthDb.insertIdentity] at h
    split at h
    · cases h
    · rename_i fresh
      obtain ⟨events, appended, h⟩ := bind_ok h
      cases h
      exact .insertIdentity fresh appended
  | updateRoles actorId roles performedBy now =>
    obtain ⟨events, appended, h⟩ := bind_ok h
    cases h
    exact .updateRoles appended
  | insertApiKey row performedBy =>
    simp only [AuthWrite.apply, AuthDb.insertApiKey] at h
    split at h
    · cases h
    · rename_i fresh
      split at h
      · cases h
      · obtain ⟨events, appended, h⟩ := bind_ok h
        cases h
        exact .insertApiKey fresh appended
  | revokeApiKey keyId performedBy now =>
    simp only [AuthWrite.apply, AuthDb.revokeApiKey] at h
    split at h
    · cases h
    · rename_i row found
      split at h
      · cases h
      · obtain ⟨events, appended, h⟩ := bind_ok h
        cases h
        exact .revokeApiKey (selectRow_known found) appended
  | insertApproverKey row =>
    simp only [AuthWrite.apply, AuthDb.insertApproverKey] at h
    split at h
    · cases h
    · rename_i fresh
      obtain ⟨events, appended, h⟩ := bind_ok h
      cases h
      exact .insertApproverKey (fun taken => fresh (.inl taken)) appended
  | revokeApproverKey keyId performedBy now =>
    simp only [AuthWrite.apply, AuthDb.revokeApproverKey] at h
    split at h
    · cases h
    · rename_i row found
      split at h
      · cases h
      · obtain ⟨events, appended, h⟩ := bind_ok h
        cases h
        exact .revokeApproverKey (selectRow_known found) appended

end BallotProof
