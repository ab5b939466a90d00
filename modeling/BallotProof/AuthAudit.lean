import BallotProof.AuthBootstrap
import BallotProof.HashChain
import BallotProof.Table
import Mathlib.Data.Finset.Dedup

/-! The audit journal of the auth store: what its events say, folded from the empty state, is
what the tables hold, and every call that returns has appended one event. A call that builds
its answer after the commit can still fail, when the identity it has created is too long. -/
namespace BallotProof
open Python Sql Calls HashChain

/-- What the journal tells of the store. -/
structure AuditView where
  roles : Table (List String)
  issued : Table (String × Option String)
  revokedApiKeys : Finset String
  enrolled : Table (String × String)
  revokedApproverKeys : Finset String

def AuditView.empty : AuditView := ⟨Table.empty, Table.empty, ∅, Table.empty, ∅⟩

/-- `payload[name]`, when it is a text. -/
def payloadText (payload : Json) (name : String) : Option String :=
  match payload with
  | .obj entries =>
    match lookup name entries with
    | some (.str text) => some text
    | _ => none
  | _ => none

/-- `payload["roles"]` -/
def payloadRoles (payload : Json) : List String :=
  match payload with
  | .obj entries =>
    match lookup "roles" entries with
    | some (.arr items) => items.filterMap fun
      | .str text => some text
      | _ => none
    | _ => []
  | _ => []

/-- One event. -/
def AuditView.apply (view : AuditView) (event : AuditEvent) : AuditView :=
  let subject := (payloadText event.payload "subject_actor_id").getD ""
  if event.eventType = "identity.created" ∨ event.eventType = "identity.roles_updated" then
    { view with roles := view.roles.set event.targetId (payloadRoles event.payload) }
  else if event.eventType = "api_key.issued" then
    { view with issued := view.issued.set event.targetId (subject, payloadText event.payload "expires_at") }
  else if event.eventType = "api_key.revoked" then
    { view with revokedApiKeys := Insert.insert event.targetId view.revokedApiKeys }
  else if event.eventType = "approver_key.enrolled" then
    let fingerprint := (payloadText event.payload "public_key_sha256").getD ""
    { view with enrolled := view.enrolled.set event.targetId (subject, fingerprint) }
  else if event.eventType = "approver_key.revoked" then
    { view with revokedApproverKeys := Insert.insert event.targetId view.revokedApproverKeys }
  else view

def IdentityRow.entry (row : IdentityRow) : String × List String := (row.actorId, row.roles.map Role.value)

def ApiKeyRow.entry (row : ApiKeyRow) : String × String × Option String :=
  (row.keyId, row.actorId, row.expiresAt.map (·.isoformat))

def ApproverKeyRow.entry (row : ApproverKeyRow) : String × String × String :=
  (row.keyId, row.actorId, row.publicKeySha256.hex)

/-- What the tables hold. -/
def AuthDb.view (db : AuthDb) : AuditView where
  roles := Table.ofList (db.identities.map (·.entry))
  issued := Table.ofList (db.apiKeys.map (·.entry))
  revokedApiKeys := ((db.apiKeys.filter (·.revokedAt.isSome)).map (·.keyId)).toFinset
  enrolled := Table.ofList (db.approverKeys.map (·.entry))
  revokedApproverKeys := ((db.approverKeys.filter (·.revokedAt.isSome)).map (·.keyId)).toFinset

/-- What `verify_audit_chain` looks at in an event. -/
def auditLog (sha256 : Bytes → Digest) : Log AuditEvent Digest where
  version := (·.sequence)
  previous := (·.previousEventHash)
  hash := (·.eventHash)
  expected event := hashRecord sha256 (auditBody event.sequence event.eventType event.actorId event.targetId
    event.payload event.previousEventHash event.createdAt)

/-- The tables have keys, the journal is a chain, and it tells what the tables hold. -/
structure Audited (sha256 : Bytes → Digest) (db : AuthDb) : Prop where
  identities : Unique (·.actorId) db.identities
  apiKeys : Unique (·.keyId) db.apiKeys
  approverKeys : Unique (·.keyId) db.approverKeys
  numbered : (auditLog sha256).Numbered db.auditEvents
  linked : (auditLog sha256).Linked none db.auditEvents
  faithful : db.auditEvents.foldl AuditView.apply .empty = db.view

section
variable {sha256 : Bytes → Digest}

theorem auditLinked_iff {events : List AuditEvent} :
    auditLinked sha256 previous events = true ↔ (auditLog sha256).Linked previous events := by
  induction events generalizing previous with
  | nil => simp [auditLinked, Log.Linked]
  | cons event rest ih =>
    rw [auditLinked, Log.Linked, ← ih]
    by_cases same : event.previousEventHash = previous
    · subst same
      by_cases hash : hashRecord sha256 (auditBody event.sequence event.eventType event.actorId
          event.targetId event.payload event.previousEventHash event.createdAt) = event.eventHash
      · rw [if_neg (by simp [hash])]
        exact ⟨fun rest => ⟨⟨rfl, hash.symm⟩, rest⟩, fun linked => linked.2⟩
      · rw [if_pos (.inr hash)]
        exact iff_of_false (by simp) fun linked => hash linked.1.2.symm
    · rw [if_pos (.inl same)]
      exact iff_of_false (by simp) fun linked => same linked.1.1

/-- A numbered journal is read in the order in which it was written. -/
theorem orderBy_sequence {events : List AuditEvent} (numbered : (auditLog sha256).Numbered events) :
    orderBy (·.sequence) events = events := orderBy_of_ascending numbered.ascending

theorem Audited.verified {db : AuthDb} (audited : Audited sha256 db) :
    db.verifyAuditChain sha256 = true := by
  rw [AuthDb.verifyAuditChain, orderBy_sequence audited.numbered]
  exact auditLinked_iff.mpr audited.linked

/-- An entry is appended as the next event of the chain. -/
theorem appendAudit_ok (numbered : (auditLog sha256).Numbered events)
    (linked : (auditLog sha256).Linked none events) (h : appendAudit sha256 events entry = .ok appended) :
    ∃ event : AuditEvent, appended = events ++ [event] ∧ event.eventType = entry.eventType ∧
      event.targetId = entry.targetId ∧ event.payload = entry.payload ∧
      (auditLog sha256).Numbered appended ∧ (auditLog sha256).Linked none appended := by
  unfold appendAudit at h
  rw [orderBy_sequence numbered] at h
  dsimp only at h
  split at h
  · cases h
  · split at h
    · cases h
    · cases h
      have head : (auditLog sha256).head none events = events.getLast?.map (·.eventHash) :=
        Log.head_eq_getLast events
      exact ⟨_, rfl, rfl, rfl, rfl, numbered.snoc numbered.next_eq, linked.snoc head.symm rfl⟩

/-- A write that changes the tables as its event tells keeps the journal faithful. -/
theorem Audited.append {db after : AuthDb} (audited : Audited sha256 db)
    (appended : appendAudit sha256 db.auditEvents entry = .ok after.auditEvents)
    (identities : Unique (·.actorId) after.identities) (apiKeys : Unique (·.keyId) after.apiKeys)
    (approverKeys : Unique (·.keyId) after.approverKeys)
    (told : ∀ event : AuditEvent, event.eventType = entry.eventType → event.targetId = entry.targetId →
      event.payload = entry.payload → db.view.apply event = after.view) :
    Audited sha256 after ∧ after.auditEvents.length = db.auditEvents.length + 1 := by
  obtain ⟨event, eq, type, target, payload, numbered, linked⟩ :=
    appendAudit_ok audited.numbered audited.linked appended
  refine ⟨⟨identities, apiKeys, approverKeys, numbered, linked, ?_⟩, by rw [eq, List.length_append]; rfl⟩
  rw [eq, List.foldl_append, audited.faithful]
  exact told event type target payload

end

theorem ofList_snoc (pairs : List (String × α)) (key : String) (value : α) :
    Table.ofList (pairs ++ [(key, value)]) = (Table.ofList pairs).set key value := by
  apply Table.ext
  intro other
  rw [Table.get_ofList_append, Table.get_set]

/-- An update of one row is an update of its entry. -/
theorem ofList_updateRow {rows : List ρ} {key : ρ → String} {value : ρ → α} {change : ρ → ρ}
    (unique : Unique key rows) (kept : ∀ row, key (change row) = key row)
    (changed : ∀ row, value (change row) = new) (known : k ∈ rows.map key) :
    Table.ofList ((updateRow key k change rows).map fun row => (key row, value row)) =
      (Table.ofList (rows.map fun row => (key row, value row))).set k new := by
  have keys (rows : List ρ) : (rows.map fun row => (key row, value row)).map (·.1) = rows.map key := by
    simp [Function.comp_def]
  have after := unique.update (k := k) kept
  apply Table.ext
  intro other
  rw [Table.get_set]
  by_cases same : other = k
  · subst same
    rw [if_pos rfl, Table.get_ofList ((keys _).symm ▸ after)]
    obtain ⟨row, member, eq⟩ := List.mem_map.mp known
    refine List.mem_map.mpr ⟨change row, List.mem_map.mpr ⟨row, member, if_pos eq⟩, ?_⟩
    rw [kept, eq, changed]
  · rw [if_neg same]
    apply Option.ext
    intro v
    rw [Table.get_ofList ((keys _).symm ▸ after), Table.get_ofList ((keys _).symm ▸ unique)]
    simp only [List.mem_map, Prod.mk.injEq]
    constructor
    · rintro ⟨row, member, rfl, rfl⟩
      obtain ⟨old, inside, ⟨eq, rfl⟩ | ⟨-, rfl⟩⟩ := mem_updateRow member
      · exact absurd ((kept old).trans eq) same
      · exact ⟨row, inside, rfl, rfl⟩
    · rintro ⟨row, inside, rfl, rfl⟩
      exact ⟨row, List.mem_map.mpr ⟨row, inside, if_neg same⟩, rfl, rfl⟩

/-- A revocation marks one row. -/
theorem revoked_updateRow {rows : List ρ} {key : ρ → String} {revoked : ρ → Bool} {change : ρ → ρ}
    (kept : ∀ row, key (change row) = key row) (changed : ∀ row, revoked (change row) = true)
    (known : k ∈ rows.map key) :
    (((updateRow key k change rows).filter revoked).map key).toFinset =
      Insert.insert k ((rows.filter revoked).map key).toFinset := by
  ext other
  simp only [List.mem_toFinset, Finset.mem_insert, List.mem_map, List.mem_filter]
  constructor
  · rintro ⟨row, ⟨member, marked⟩, rfl⟩
    obtain ⟨old, inside, ⟨eq, rfl⟩ | ⟨-, rfl⟩⟩ := mem_updateRow member
    · exact .inl ((kept old).trans eq)
    · exact .inr ⟨row, ⟨inside, marked⟩, rfl⟩
  · rintro (rfl | ⟨row, ⟨inside, marked⟩, rfl⟩)
    · obtain ⟨row, member, eq⟩ := List.mem_map.mp known
      exact ⟨change row, ⟨List.mem_map.mpr ⟨row, member, if_pos eq⟩, changed row⟩, (kept row).trans eq⟩
    · by_cases same : key row = k
      · exact ⟨change row, ⟨List.mem_map.mpr ⟨row, inside, if_pos same⟩, changed row⟩, kept row⟩
      · exact ⟨row, ⟨List.mem_map.mpr ⟨row, inside, if_neg same⟩, marked⟩, rfl⟩

@[simp] theorem payloadRoles_rolesPayload (roles : List Role) :
    payloadRoles (rolesPayload roles) = roles.map Role.value := by
  simp [payloadRoles, rolesPayload, lookup, List.filterMap_map]

@[simp] theorem payloadText_issued (row : ApiKeyRow) :
    payloadText (issuedPayload row) "subject_actor_id" = some row.actorId ∧
      payloadText (issuedPayload row) "expires_at" = row.expiresAt.map (·.isoformat) := by
  refine ⟨by simp [payloadText, issuedPayload, lookup], ?_⟩
  cases expires : row.expiresAt <;> simp [payloadText, issuedPayload, lookup, expires, optionalText]

@[simp] theorem payloadText_enrolled (row : ApproverKeyRow) :
    payloadText (enrolledPayload row) "subject_actor_id" = some row.actorId ∧
      payloadText (enrolledPayload row) "public_key_sha256" = some row.publicKeySha256.hex := by
  simp [payloadText, enrolledPayload, lookup]

/-- The roles that are set are those of some identity, and a new key is not revoked. -/
def AuthWrite.Ready (db : AuthDb) : AuthWrite → Prop
  | .updateRoles actorId .. => actorId ∈ db.identities.map (·.actorId)
  | .insertApiKey row _ => row.revokedAt = none
  | .insertApproverKey row => row.revokedAt = none
  | _ => True

section
variable {sha256 : Bytes → Digest} {db after : AuthDb}

/-- Every write keeps the journal faithful, and appends one event to it. -/
theorem Writes.audited (writes : Writes sha256 db written after) (audited : Audited sha256 db)
    (ready : written.Ready db) :
    Audited sha256 after ∧ after.auditEvents.length = db.auditEvents.length + 1 := by
  cases writes with
  | insertIdentity fresh appended =>
    refine audited.append appended (audited.identities.snoc fresh) audited.apiKeys audited.approverKeys ?_
    intro event type target payload
    simp [AuditView.apply, AuthDb.view, type, target, payload, ofList_snoc, IdentityRow.entry]
  | @updateRoles performedBy actorId roles now events appended =>
    refine audited.append appended (audited.identities.update fun _ => rfl) audited.apiKeys
      audited.approverKeys ?_
    intro event type target payload
    have updated : Table.ofList ((updateRow (·.actorId) actorId (fun row => { row with roles := roles })
        db.identities).map (·.entry)) =
        (Table.ofList (db.identities.map (·.entry))).set actorId (roles.map Role.value) :=
      ofList_updateRow audited.identities (fun _ => rfl) (fun _ => rfl) ready
    simp [AuditView.apply, AuthDb.view, type, target, payload, updated]
  | insertApiKey fresh appended =>
    refine audited.append appended audited.identities (audited.apiKeys.snoc fresh) audited.approverKeys ?_
    intro event type target payload
    have active : _ = none := ready
    simp [AuditView.apply, AuthDb.view, type, target, payload, ofList_snoc, ApiKeyRow.entry, active]
  | @revokeApiKey keyId performedBy now events known appended =>
    refine audited.append appended audited.identities (audited.apiKeys.update fun _ => rfl)
      audited.approverKeys ?_
    intro event type target payload
    have kept : (updateRow (·.keyId) keyId (fun row => { row with revokedAt := some now }) db.apiKeys).map
        (·.entry) = db.apiKeys.map (·.entry) := updateRow_map fun _ => rfl
    have marked : (((updateRow (·.keyId) keyId (fun row => { row with revokedAt := some now })
        db.apiKeys).filter (·.revokedAt.isSome)).map (·.keyId)).toFinset =
        Insert.insert keyId ((db.apiKeys.filter (·.revokedAt.isSome)).map (·.keyId)).toFinset :=
      revoked_updateRow (fun _ => rfl) (fun _ => rfl) known
    simp [AuditView.apply, AuthDb.view, type, target, kept, marked]
  | insertApproverKey fresh appended =>
    refine audited.append appended audited.identities audited.apiKeys (audited.approverKeys.snoc fresh) ?_
    intro event type target payload
    have active : _ = none := ready
    simp [AuditView.apply, AuthDb.view, type, target, payload, ofList_snoc, ApproverKeyRow.entry, active]
  | @revokeApproverKey keyId performedBy now events known appended =>
    refine audited.append appended audited.identities audited.apiKeys
      (audited.approverKeys.update fun _ => rfl) ?_
    intro event type target payload
    have kept : (updateRow (·.keyId) keyId (fun row =>
        { row with revokedAt := some now, revokedByActorId := some performedBy }) db.approverKeys).map
        (·.entry) = db.approverKeys.map (·.entry) := updateRow_map fun _ => rfl
    have marked : (((updateRow (·.keyId) keyId (fun row =>
        { row with revokedAt := some now, revokedByActorId := some performedBy })
        db.approverKeys).filter (·.revokedAt.isSome)).map (·.keyId)).toFinset =
        Insert.insert keyId ((db.approverKeys.filter (·.revokedAt.isSome)).map (·.keyId)).toFinset :=
      revoked_updateRow (fun _ => rfl) (fun _ => rfl) known
    simp [AuditView.apply, AuthDb.view, type, target, kept, marked]

/-- What other calls leave: identities with their names, and the keys of both kinds. -/
structure Grows (db after : AuthDb) : Prop where
  identities : ∀ row ∈ db.identities, ∃ kept ∈ after.identities, kept.actorId = row.actorId ∧
    kept.displayName = row.displayName ∧ kept.disabledAt = row.disabledAt
  apiKeys : ∀ keyId ∈ db.apiKeys.map (·.keyId), keyId ∈ after.apiKeys.map (·.keyId)
  approverKeys : ∀ keyId ∈ db.approverKeys.map (·.keyId), keyId ∈ after.approverKeys.map (·.keyId)

theorem Grows.refl (db : AuthDb) : Grows db db :=
  ⟨fun row member => ⟨row, member, rfl, rfl, rfl⟩, fun _ => id, fun _ => id⟩

theorem Grows.trans (a b c : AuthDb) (first : Grows a b) (then_ : Grows b c) : Grows a c := by
  refine ⟨fun row member => ?_, fun keyId known => then_.apiKeys _ (first.apiKeys _ known),
    fun keyId known => then_.approverKeys _ (first.approverKeys _ known)⟩
  obtain ⟨middle, inside, actor, name, disabled⟩ := first.identities row member
  obtain ⟨last, kept, actor', name', disabled'⟩ := then_.identities middle inside
  exact ⟨last, kept, actor'.trans actor, name'.trans name, disabled'.trans disabled⟩

theorem Writes.grows (writes : Writes sha256 db written after) : Grows db after := by
  have same := Grows.refl db
  cases writes with
  | insertIdentity fresh appended =>
    exact ⟨fun row member => ⟨row, List.mem_append_left _ member, rfl, rfl, rfl⟩, same.apiKeys,
      same.approverKeys⟩
  | @updateRoles performedBy actorId roles now events appended =>
    refine ⟨fun row member => ?_, same.apiKeys, same.approverKeys⟩
    by_cases named : row.actorId = actorId
    · exact ⟨{ row with roles := roles }, List.mem_map.mpr ⟨row, member, if_pos named⟩, rfl, rfl, rfl⟩
    · exact ⟨row, List.mem_map.mpr ⟨row, member, if_neg named⟩, rfl, rfl, rfl⟩
  | insertApiKey fresh appended =>
    refine ⟨same.identities, fun keyId known => ?_, same.approverKeys⟩
    rw [List.map_append]
    exact List.mem_append_left _ known
  | @revokeApiKey keyId performedBy now events known appended =>
    have keys : (updateRow (·.keyId) keyId (fun row => { row with revokedAt := some now }) db.apiKeys).map
        (·.keyId) = db.apiKeys.map (·.keyId) := updateRow_keys fun _ => rfl
    exact ⟨same.identities, fun other listed => keys.symm ▸ listed, same.approverKeys⟩
  | insertApproverKey fresh appended =>
    refine ⟨same.identities, same.apiKeys, fun keyId known => ?_⟩
    rw [List.map_append]
    exact List.mem_append_left _ known
  | @revokeApproverKey keyId performedBy now events known appended =>
    have keys : (updateRow (·.keyId) keyId (fun row =>
        { row with revokedAt := some now, revokedByActorId := some performedBy }) db.approverKeys).map
        (·.keyId) = db.approverKeys.map (·.keyId) := updateRow_keys fun _ => rfl
    exact ⟨same.identities, same.apiKeys, fun other listed => keys.symm ▸ listed⟩

end

/-- A name that `Identity` takes. -/
def NameFits (actorId : String) (displayName : Option String) : Prop :=
  actorId.length ≤ 256 ∧ ∀ name ∈ displayName, name.length ≤ 256

/-- An identity that is created has a name that `Identity` takes. -/
def NamesFit : AuthTransaction → AuthDb → Prop
  | .write (.insertIdentity row _), db =>
    row.actorId ∈ db.identities.map (·.actorId) ∨ NameFits row.actorId row.displayName
  | _, _ => True

instance : ∀ t db, Decidable (NamesFit t db)
  | .write (.insertIdentity row _), db =>
    inferInstanceAs (Decidable (row.actorId ∈ db.identities.map (·.actorId) ∨
      (row.actorId.length ≤ 256 ∧ ∀ name ∈ row.displayName, name.length ≤ 256)))
  | .write (.updateRoles ..), _ | .write (.insertApiKey ..), _ | .write (.revokeApiKey ..), _
  | .write (.insertApproverKey _), _ | .write (.revokeApproverKey ..), _ | .countIdentities, _
  | .readIdentity _, _ | .readApiKeys, _ | .readApproverKey _, _ => isTrue trivial

/-- The events that the transactions of a call have appended. -/
def appendedEvents (history : List (AuthDb × AuthDb)) : Nat :=
  (history.map fun pair => pair.2.auditEvents.length - pair.1.auditEvents.length).sum

/-- A call that returns has appended one event, a call that raises none. -/
def LoggedOnce (history : List (AuthDb × AuthDb)) (result : Result α) : Prop :=
  appendedEvents history = match result with
    | .ok _ => 1
    | .error _ => 0

theorem appendedEvents_read (history : List (AuthDb × AuthDb)) (db : AuthDb) :
    appendedEvents (history ++ [(db, db)]) = appendedEvents history := by
  simp [appendedEvents]

theorem appendedEvents_write {db after : AuthDb} (history : List (AuthDb × AuthDb))
    (one : after.auditEvents.length = db.auditEvents.length + 1) :
    appendedEvents (history ++ [(db, after)]) = appendedEvents history + 1 := by
  simp [appendedEvents, one]

/-- The contract of a call of the store, in any company. -/
abbrev AuditFollows (sha256 : Bytes → Digest) (call : AuthCall α) (history : List (AuthDb × AuthDb))
    (seen : AuthDb) : Prop :=
  Follows (AuthTransaction.exec sha256) NamesFit (Audited sha256) Grows LoggedOnce call history seen

theorem create_ok : (∃ identity, Identity.create actorId displayName roles createdAt disabledAt = .ok identity) ↔
    1 ≤ actorId.length ∧ NameFits actorId displayName := by
  unfold Identity.create NameFits
  constructor
  · rintro ⟨identity, created⟩
    obtain ⟨_, length, created⟩ := bind_ok created
    obtain ⟨_, name, created⟩ := bind_ok created
    obtain ⟨low, high⟩ := checkLength_ok.mp length
    exact ⟨low, high, require_ok.mp name⟩
  · rintro ⟨low, high, name⟩
    exact ⟨_, bind_eq_ok.mpr ⟨(), checkLength_ok.mpr ⟨low, high⟩,
      bind_eq_ok.mpr ⟨(), require_ok.mpr name, rfl⟩⟩⟩

section
variable {sha256 : Bytes → Digest} {history : List (AuthDb × AuthDb)} {seen : AuthDb}

/-- A call that has appended nothing may raise. -/
theorem audit_raises {e : Error} (unlogged : appendedEvents history = 0) :
    AuditFollows sha256 (.done (.error e) : AuthCall α) history seen := unlogged

theorem audit_returns (logged : appendedEvents history = 1) (a : α) :
    AuditFollows sha256 (.done (.ok a)) history seen := logged

theorem audit_write {next : AuthCall α} (unlogged : appendedEvents history = 0)
    (ready : ∀ db, Audited sha256 db → Grows seen db → written.Ready db)
    (commits : ∀ db after, Grows seen after → NamesFit (.write written) db →
      Writes sha256 db written after → appendedEvents (history ++ [(db, after)]) = 1 →
      AuditFollows sha256 next (history ++ [(db, after)]) after) :
    AuditFollows sha256 (write written next) history seen := by
  refine follows_write Grows.refl (fun db after audited grows meets applied => ?_) fun db e _ _ _ _ => ?_
  · have writes := apply_writes applied
    obtain ⟨kept, one⟩ := writes.audited audited (ready db audited grows)
    refine ⟨kept, writes.grows, commits db after (grows.trans _ _ _ writes.grows) meets writes ?_⟩
    rw [appendedEvents_write history one, unlogged]
  · rw [LoggedOnce, appendedEvents_read, unlogged]

/-- The first read of an identity: the call raises, or goes on with an identity whose name fits. -/
theorem audit_getIdentity {f : Identity → AuthCall α} (unlogged : appendedEvents history = 0)
    (found : ∀ db row identity, row ∈ db.identities → row.actorId = actorId →
      1 ≤ row.actorId.length ∧ NameFits row.actorId row.displayName →
      appendedEvents (history ++ [(db, db)]) = 0 →
      AuditFollows sha256 (f identity) (history ++ [(db, db)]) db) :
    AuditFollows sha256 ((getIdentity actorId).bind f) history seen := by
  intro db audited _ _
  have unlogged' := (appendedEvents_read history db).trans unlogged
  refine ⟨audited, Grows.refl db, ?_⟩
  have after (read : Option IdentityRow) (same : selectRow (·.actorId) actorId db.identities = read) :
      AuditFollows sha256 ((identityFound actorId read).bind f) (history ++ [(db, db)]) db := by
    cases read with
    | none => exact audit_raises unlogged'
    | some row =>
      obtain ⟨member, eq⟩ := selectRow_mem same
      cases built : row.identity with
      | error e =>
        simp only [identityFound, built, Call.bind]
        exact audit_raises unlogged'
      | ok identity =>
        simp only [identityFound, built, Call.bind]
        exact found db row identity member eq (create_ok.mp ⟨identity, built⟩) unlogged'
  exact after _ rfl

/-- The last read of an identity that is there, with a name that fits. -/
theorem audit_lastIdentity {f : Identity → α} (logged : appendedEvents history = 1)
    (known : ∃ row ∈ seen.identities, row.actorId = actorId ∧
      1 ≤ row.actorId.length ∧ NameFits row.actorId row.displayName) :
    AuditFollows sha256 ((getIdentity actorId).map f) history seen := by
  intro db audited grows _
  have logged' := (appendedEvents_read history db).trans logged
  refine ⟨audited, Grows.refl db, ?_⟩
  obtain ⟨row, member, rfl, fits⟩ := known
  obtain ⟨kept, inside, actor, name, -⟩ := grows.identities row member
  have selected : selectRow (·.actorId) row.actorId db.identities = some kept :=
    actor ▸ audited.identities.select inside
  rw [← actor, ← name] at fits
  obtain ⟨identity, built⟩ := create_ok.mpr fits
  have after (read : Option IdentityRow) (same : some kept = read) :
      AuditFollows sha256 ((identityFound row.actorId read).bind fun a => .done (.ok (f a)))
        (history ++ [(db, db)]) db := by
    cases same
    have built : kept.identity = .ok identity := built
    simp only [identityFound, built, Call.bind]
    exact audit_returns logged' _
  exact after _ selected.symm

theorem createIdentity_follows {f : Identity → α} :
    AuditFollows sha256 ((createIdentity actorId roles displayName performedBy now).map f) [] seen := by
  unfold createIdentity
  by_cases blank : strip actorId.toList = []
  · rw [if_pos blank]
    exact audit_raises rfl
  · rw [if_neg blank]
    by_cases none : roles = []
    · rw [if_pos none]
      exact audit_raises rfl
    · rw [if_neg none, Call.map, write_bind]
      refine audit_write rfl (fun _ _ _ => trivial) fun db after _ meets writes logged => ?_
      -- the identity is inserted, so its name was fresh
      have fits : NameFits actorId displayName := by
        cases writes with
        | insertIdentity fresh appended => exact meets.resolve_left fresh
      have nonempty : 1 ≤ actorId.length := by
        rw [← String.length_toList, Nat.one_le_iff_ne_zero, Ne, List.length_eq_zero_iff]
        intro empty
        exact blank (by rw [empty]; rfl)
      obtain ⟨identity, built⟩ := create_ok.mpr ⟨nonempty, fits⟩
      rw [built]
      exact audit_returns logged _

theorem updateRoles_follows {f : Identity → α} :
    AuditFollows sha256 ((updateRoles actorId roles performedBy now).map f) [] seen := by
  unfold updateRoles
  by_cases none : roles = []
  · rw [if_pos none]
    exact audit_raises rfl
  · rw [if_neg none, Call.map, Call.bind_assoc]
    refine audit_getIdentity rfl fun db row current member named fits unlogged => ?_
    by_cases disabled : current.disabledAt ≠ Option.none
    · rw [if_pos disabled]
      exact audit_raises unlogged
    · rw [if_neg disabled, write_bind]
      have known (later : AuthDb) (grows : Grows db later) : ∃ kept ∈ later.identities, kept.actorId = actorId ∧
          1 ≤ kept.actorId.length ∧ NameFits kept.actorId kept.displayName := by
        obtain ⟨kept, inside, actor, name, -⟩ := grows.identities row member
        exact ⟨kept, inside, actor.trans named, by rw [actor, name]; exact fits⟩
      refine audit_write unlogged (fun later _ grows => ?_) fun before after grows _ _ logged => ?_
      · obtain ⟨kept, inside, actor, -⟩ := known later grows
        exact List.mem_map.mpr ⟨kept, inside, actor⟩
      · exact audit_lastIdentity logged (known after grows)

theorem issueApiKey_follows {f : ApiKeyIssued → α} :
    AuditFollows sha256 ((issueApiKey actorId performedBy expiresAt keyId secret now).map f) [] seen := by
  unfold issueApiKey
  rw [Call.map, Call.bind_assoc]
  refine audit_getIdentity rfl fun db row identity _ _ _ unlogged => ?_
  by_cases disabled : identity.disabledAt ≠ none
  · rw [if_pos disabled]
    exact audit_raises unlogged
  · rw [if_neg disabled]
    by_cases naive : ∃ expires ∈ expiresAt, expires.utcoffset = none
    · rw [if_pos naive]
      exact audit_raises unlogged
    · rw [if_neg naive, write_bind]
      exact audit_write unlogged (fun _ _ _ => rfl) fun _ _ _ _ _ logged => audit_returns logged _

theorem revokeApiKey_follows {f : ApiKeyMetadata → α} :
    AuditFollows sha256 ((revokeApiKey keyId performedBy now).map f) [] seen := by
  unfold revokeApiKey
  rw [Call.map, write_bind]
  refine audit_write rfl (fun _ _ _ => trivial) fun before after _ _ writes logged => ?_
  intro db audited grows _
  have logged' := (appendedEvents_read _ db).trans logged
  refine ⟨audited, Grows.refl db, ?_⟩
  -- the revoked key is still listed
  have known : keyId ∈ db.apiKeys.map (·.keyId) := by
    apply grows.apiKeys
    cases writes with
    | revokeApiKey known appended => rwa [updateRow_keys (by exact fun _ => rfl)]
  have listed (rows : List ApiKeyRow) (same : db.apiKeys = rows) :
      AuditFollows sha256 ((apiKeyListed keyId rows).bind fun a => .done (.ok (f a)))
        ([] ++ [(before, after)] ++ [(db, db)]) db := by
    subst same
    unfold apiKeyListed
    cases found : (db.apiKeys.map (·.metadata)).find? (·.keyId = keyId) with
    | none =>
      obtain ⟨row, member, eq⟩ := List.mem_map.mp known
      have apart : row.metadata.keyId ≠ keyId := by
        simpa using List.find?_eq_none.mp found row.metadata (List.mem_map_of_mem member)
      exact absurd eq apart
    | some key => exact audit_returns logged' _
  exact listed _ rfl

/-- The last read of an approver key that is there. -/
theorem audit_lastApproverKey {f : ApproverKey → α} (logged : appendedEvents history = 1)
    (known : keyId ∈ seen.approverKeys.map (·.keyId)) :
    AuditFollows sha256 ((getApproverKey keyId).map f) history seen := by
  intro db audited grows _
  have logged' := (appendedEvents_read history db).trans logged
  refine ⟨audited, Grows.refl db, ?_⟩
  have after (read : Option ApproverKeyRow) (same : selectRow (·.keyId) keyId db.approverKeys = read) :
      AuditFollows sha256 ((approverKeyFound keyId read).bind fun a => .done (.ok (f a)))
        (history ++ [(db, db)]) db := by
    cases read with
    | none => exact absurd (grows.approverKeys keyId known) (selectRow_none.mp same)
    | some row => exact audit_returns logged' _
  exact after _ rfl

theorem enrollApproverKey_follows {f : ApproverKey → α} :
    AuditFollows sha256 ((enrollApproverKey sha256 actorId publicKeyB64 performedBy keyId now).map f) []
      seen := by
  unfold enrollApproverKey
  rw [Call.map, Call.bind_assoc]
  refine audit_getIdentity rfl fun db row identity _ _ _ unlogged => ?_
  by_cases refused : identity.disabledAt ≠ none ∨ Role.governanceReviewer ∉ identity.roles
  · rw [if_pos refused]
    exact audit_raises unlogged
  · rw [if_neg refused]
    cases decoded : b64decode publicKeyB64.toList with
    | error e => exact audit_raises unlogged
    | ok raw =>
      simp only
      by_cases short : raw.length ≠ 32
      · rw [if_pos short]
        exact audit_raises unlogged
      · rw [if_neg short, write_bind]
        refine audit_write unlogged (fun _ _ _ => rfl) fun before after _ _ writes logged => ?_
        apply audit_lastApproverKey logged
        cases writes with
        | insertApproverKey fresh appended => simp

theorem revokeApproverKey_follows {f : ApproverKey → α} :
    AuditFollows sha256 ((revokeApproverKey keyId performedBy now).map f) [] seen := by
  unfold revokeApproverKey
  rw [Call.map, write_bind]
  refine audit_write rfl (fun _ _ _ => trivial) fun before after _ _ writes logged => ?_
  apply audit_lastApproverKey logged
  cases writes with
  | revokeApproverKey known appended => rwa [updateRow_keys (by exact fun _ => rfl)]

end

/-- A call of one of the six operations. -/
inductive AuthRequest where
  | createIdentity (actorId : String) (roles : List Role) (displayName : Option String)
      (performedBy : String) (now : Timestamp)
  | updateRoles (actorId : String) (roles : List Role) (performedBy : String) (now : Timestamp)
  | issueApiKey (actorId performedBy : String) (expiresAt : Option Timestamp) (keyId secret : String)
      (now : Timestamp)
  | revokeApiKey (keyId performedBy : String) (now : Timestamp)
  | enrollApproverKey (actorId publicKeyB64 performedBy keyId : String) (now : Timestamp)
  | revokeApproverKey (keyId performedBy : String) (now : Timestamp)

inductive AuthAnswer where
  | identity (value : Identity)
  | issued (value : ApiKeyIssued)
  | apiKey (value : ApiKeyMetadata)
  | approverKey (value : ApproverKey)

def AuthRequest.call (sha256 : Bytes → Digest) : AuthRequest → AuthCall AuthAnswer
  | .createIdentity actorId roles displayName performedBy now =>
    (BallotProof.createIdentity actorId roles displayName performedBy now).map .identity
  | .updateRoles actorId roles performedBy now =>
    (BallotProof.updateRoles actorId roles performedBy now).map .identity
  | .issueApiKey actorId performedBy expiresAt keyId secret now =>
    (BallotProof.issueApiKey actorId performedBy expiresAt keyId secret now).map .issued
  | .revokeApiKey keyId performedBy now => (BallotProof.revokeApiKey keyId performedBy now).map .apiKey
  | .enrollApproverKey actorId publicKeyB64 performedBy keyId now =>
    (BallotProof.enrollApproverKey sha256 actorId publicKeyB64 performedBy keyId now).map .approverKey
  | .revokeApproverKey keyId performedBy now =>
    (BallotProof.revokeApproverKey keyId performedBy now).map .approverKey

theorem AuthRequest.follows {sha256 : Bytes → Digest} {seen : AuthDb} (request : AuthRequest) :
    AuditFollows sha256 (request.call sha256) [] seen := by
  cases request with
  | createIdentity => exact createIdentity_follows
  | updateRoles => exact updateRoles_follows
  | issueApiKey => exact issueApiKey_follows
  | revokeApiKey => exact revokeApiKey_follows
  | enrollApproverKey => exact enrollApproverKey_follows
  | revokeApproverKey => exact revokeApproverKey_follows

theorem audited_empty (sha256 : Bytes → Digest) : Audited sha256 .empty :=
  ⟨List.nodup_nil, List.nodup_nil, List.nodup_nil, rfl, trivial, rfl⟩

/-- Calls of the six operations, in any number of processes. -/
def AuthCalls (sha256 : Bytes → Digest) (events : List (Event AuthTransaction.Answer Error AuthAnswer)) : Prop :=
  ∀ call, .start call ∈ events → ∃ request : AuthRequest, call = request.call sha256

/-- In every interleaving that creates no identity with a name too long to be returned, the
journal verifies and tells what the tables hold, a call that has returned has appended one
event, and one that has raised none. -/
theorem run_audited (sha256 : Bytes → Digest)
    (events : List (Event AuthTransaction.Answer Error AuthAnswer)) (calls : AuthCalls sha256 events)
    (meets : Meets (AuthTransaction.exec sha256) NamesFit (Pool.initial AuthDb.empty) events) :
    let pool := run (AuthTransaction.exec sha256) (Pool.initial AuthDb.empty) events
    pool.store.verifyAuditChain sha256 = true ∧
      pool.store.auditEvents.foldl AuditView.apply .empty = pool.store.view ∧
      ∀ running ∈ pool.calls, ∀ result, running.call = .done result →
        LoggedOnce running.history result := by
  intro pool
  have starts : ∀ call, .start call ∈ events → ∀ db, Audited sha256 db → AuditFollows sha256 call [] db := by
    intro call started db _
    obtain ⟨request, rfl⟩ := calls call started
    exact request.follows
  have kept := run_kept Grows.refl Grows.trans (kept_initial (audited_empty sha256)) starts meets
  refine ⟨kept.store.verified, kept.store.faithful, fun running member result done => ?_⟩
  have follows := kept.calls running member
  rw [done] at follows
  exact follows

/-- Calls of several processes, and which of them makes the next transaction. -/
def auditEventsOf (requests : List AuthRequest) (turns : List Nat) :
    List (Event AuthTransaction.Answer Error AuthAnswer) :=
  requests.map (fun request => .start (request.call checksum)) ++ turns.map .advance

theorem auditEventsOf_calls (requests : List AuthRequest) (turns : List Nat) :
    AuthCalls checksum (auditEventsOf requests turns) := by
  intro call started
  rcases List.mem_append.mp started with listed | turned
  · obtain ⟨request, -, eq⟩ := List.mem_map.mp listed
    exact ⟨request, (Event.start.inj eq).symm⟩
  · obtain ⟨turn, -, eq⟩ := List.mem_map.mp turned
    cases eq

/-- Whether a call has returned, and how many events it has appended. -/
def outcome (running : Running AuthTransaction.Answer Error AuthAnswer AuthDb) : Option Bool × Nat :=
  match running.call with
  | .transact .. => (none, appendedEvents running.history)
  | .done (.ok _) => (some true, appendedEvents running.history)
  | .done (.error _) => (some false, appendedEvents running.history)

/-- A role is changed while a key is issued and revoked twice. -/
def sampleAudit : List (Event AuthTransaction.Answer Error AuthAnswer) :=
  auditEventsOf [.createIdentity "a" [.viewer] none "x" bootstrapClock,
    .updateRoles "a" [.admin] "x" bootstrapClock, .issueApiKey "a" "x" none "k" "s" bootstrapClock,
    .revokeApiKey "k" "x" bootstrapClock, .revokeApiKey "k" "y" bootstrapClock]
    [0, 1, 2, 2, 1, 3, 1, 4, 3]

theorem sampleAudit_audited :
    let pool := run (AuthTransaction.exec checksum) (Pool.initial AuthDb.empty) sampleAudit
    pool.calls.map outcome =
        [(some true, 1), (some true, 1), (some true, 1), (some true, 1), (some false, 0)] ∧
      pool.store.verifyAuditChain checksum = true ∧
      pool.store.auditEvents.foldl AuditView.apply .empty = pool.store.view ∧
      ∀ running ∈ pool.calls, ∀ result, running.call = .done result →
        LoggedOnce running.history result := by
  have outcomes : (run (AuthTransaction.exec checksum) (Pool.initial AuthDb.empty) sampleAudit).calls.map
      outcome = [(some true, 1), (some true, 1), (some true, 1), (some true, 1), (some false, 0)] := by
    decide +kernel
  exact ⟨outcomes, run_audited checksum sampleAudit (auditEventsOf_calls _ _) (by decide +kernel)⟩

/-- An identity whose name is too long to be returned is created all the same. -/
def longName : List (Event AuthTransaction.Answer Error AuthAnswer) :=
  auditEventsOf [.createIdentity (String.ofList (List.replicate 257 'a')) [.viewer] none "x" bootstrapClock] [0]

theorem longName_logged :
    AuthCalls checksum longName ∧
      ¬∀ running ∈ (run (AuthTransaction.exec checksum) (Pool.initial AuthDb.empty) longName).calls,
        ∀ result, running.call = .done result → LoggedOnce running.history result := by
  refine ⟨auditEventsOf_calls _ _, fun logged => ?_⟩
  generalize ran : (run (AuthTransaction.exec checksum) (Pool.initial AuthDb.empty) longName).calls = calls
    at logged
  have outcomes : calls.map outcome = [(some false, 1)] := by
    rw [← ran]
    decide +kernel
  obtain ⟨⟨call, history⟩, rfl⟩ := List.length_eq_one_iff.mp (by simpa using congrArg List.length outcomes)
  rw [List.map_singleton, List.cons.injEq] at outcomes
  cases call with
  | transact t next => cases (Prod.mk.inj outcomes.1).1
  | done result =>
    cases result with
    | ok a => cases (Prod.mk.inj outcomes.1).1
    | error e =>
      have one : appendedEvents history = 1 := (Prod.mk.inj outcomes.1).2
      have none : appendedEvents history = 0 := logged _ (List.mem_singleton.mpr rfl) _ rfl
      omega

end BallotProof
