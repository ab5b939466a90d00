import BallotProof.Grouping
import BallotProof.Replication
import BallotProof.WitnessStatements

/-! Witnesses of publications: `create_witness_statement` signs what a witness saw, and
`detect_witness_equivocations` finds who signed two views of one checkpoint. -/
namespace BallotProof
open Python

/-- `schema_version` has one value, `"1"`. -/
structure GovernedPublicationRecord where
  releaseId : String
  electionId : String
  manifestSha256 : Digest
  ledgerMerkleRoot : Digest
  semanticSummarySha256 : Digest
  semanticRoot : Digest
  checkpointHash : Digest
  checkpointSequence : PositiveInt
  releaseKeyTransparencyHeadEventHash : Digest
  checkpointChainHeadHash : Digest
  releaseFiles : List ImmutableObjectRef
  semanticFiles : List ImmutableObjectRef
  checkpoint : ImmutableObjectRef
  releaseKeySnapshot : ImmutableObjectRef
  checkpointChainSnapshot : ImmutableObjectRef

structure GovernedReleasePublication where
  publicationSha256 : Digest
  publicationPath : String
  record : GovernedPublicationRecord

structure WitnessEquivocation where
  witnessKeySha256 : String
  electionId : String
  checkpointSequence : Nat
  statementSha256 : List String
  publicationSha256 : List String
  checkpointHashes : List String
  deriving DecidableEq

/-- An aware datetime is kept as the text of its JSON form. -/
structure Moment where
  aware : Bool
  json : String

def ImmutableObjectRef.json (ref : ImmutableObjectRef) : Json := .obj [
  ("path", .str ref.path),
  ("sha256", .str ref.sha256.hex),
  ("size_bytes", .int ref.sizeBytes)]

/-- `record.model_dump(mode="json")` -/
def GovernedPublicationRecord.json (record : GovernedPublicationRecord) : Json := .obj [
  ("checkpoint", record.checkpoint.json),
  ("checkpoint_chain_head_hash", .str record.checkpointChainHeadHash.hex),
  ("checkpoint_chain_snapshot", record.checkpointChainSnapshot.json),
  ("checkpoint_hash", .str record.checkpointHash.hex),
  ("checkpoint_sequence", .int record.checkpointSequence.1),
  ("election_id", .str record.electionId),
  ("ledger_merkle_root", .str record.ledgerMerkleRoot.hex),
  ("manifest_sha256", .str record.manifestSha256.hex),
  ("release_files", .arr (record.releaseFiles.map (·.json))),
  ("release_id", .str record.releaseId),
  ("release_key_snapshot", record.releaseKeySnapshot.json),
  ("release_key_transparency_head_event_hash", .str record.releaseKeyTransparencyHeadEventHash.hex),
  ("schema_version", .str "1"),
  ("semantic_files", .arr (record.semanticFiles.map (·.json))),
  ("semantic_root", .str record.semanticRoot.hex),
  ("semantic_summary_sha256", .str record.semanticSummarySha256.hex)]

section
variable {Key : Type} (conversions : Conversions) (lowering : Lowering) (sha256 : Bytes → Digest)
  (ed25519 : Ed25519 Key)

/-- The payload of `create_witness_statement`. -/
def witnessPayload (publication : GovernedReleasePublication) (witnessId : String) (moment : Moment) :
    Result WitnessPayload := do
  let expected := sha256 (canonicalJsonBytes publication.record.json)
  raiseIf (publication.publicationSha256 ≠ expected ∨
      publication.publicationPath ≠ "publications/" ++ expected.hex ++ ".json")
    ⟨.valueError, "witness statements require a self-consistent publication record"⟩
  raiseIf (strip witnessId.toList = []) ⟨.valueError, "witness_id must contain non-whitespace characters"⟩
  raiseIf (moment.aware = false) ⟨.valueError, "witness observed_at must be timezone-aware"⟩
  let witnessId ← boundedText 1 256 witnessId
  return {
    witnessId
    publicationSha256 := publication.publicationSha256
    releaseId := publication.record.releaseId
    electionId := publication.record.electionId
    manifestSha256 := publication.record.manifestSha256
    checkpointHash := publication.record.checkpointHash
    checkpointSequence := publication.record.checkpointSequence
    releaseKeyTransparencyHeadEventHash := publication.record.releaseKeyTransparencyHeadEventHash
    observedAt := moment.json }

/-- The statement over a payload, signed with the key of the witness. -/
def signPayload (payload : WitnessPayload) (key : Key) : SignedWitnessStatement :=
  let body : SignedWitnessStatement := {
    payload
    publicKeyB64 := String.ofList (b64encode (ed25519.publicKey key))
    witnessKeySha256 := sha256 (ed25519.publicKey key)
    signatureB64 := String.ofList (b64encode (ed25519.sign key (canonicalJsonBytes payload.dict.toJson)))
    statementSha256 := sha256 [] }
  { body with statementSha256 := hashRecord sha256 body.body }

/-- `create_witness_statement`; the statement is built from the JSON of its payload. -/
def createWitnessStatement (publication : GovernedReleasePublication) (witnessId : String) (key : Key)
    (moment : Moment) : Result SignedWitnessStatement := do
  let payload ← witnessPayload sha256 publication witnessId moment
  SignedWitnessStatement.modelValidate conversions (signPayload sha256 ed25519 payload key).dict.toJson

/-- The key of `groups` -/
def SignedWitnessStatement.subject (s : SignedWitnessStatement) : String ×ₗ String ×ₗ Nat :=
  toLex (s.witnessKeySha256.hex, toLex (s.payload.electionId, s.payload.checkpointSequence.1))

/-- A member of `views` -/
def SignedWitnessStatement.view (s : SignedWitnessStatement) : Digest × Digest :=
  (s.payload.publicationSha256, s.payload.checkpointHash)

abbrev StatementGroups := List ((String ×ₗ String ×ₗ Nat) × List SignedWitnessStatement)

/-- The first loop of `detect_witness_equivocations`. -/
def groupStatements : List SignedWitnessStatement → StatementGroups → Result StatementGroups
  | [], groups => .ok groups
  | s :: statements, groups =>
    if (verifyWitnessStatement lowering sha256 ed25519 s none).valid = false then
      .error ⟨.valueError, "equivocation detection requires valid witness statements"⟩
    else groupStatements statements (Grouping.add (·.subject) groups s)

/-- The texts of a set in order. -/
def sortedTexts (texts : List String) : List String := texts.toFinset.sort (· ≤ ·)

/-- What is reported of a group. -/
def equivocation (subject : String ×ₗ String ×ₗ Nat) (group : List SignedWitnessStatement) : WitnessEquivocation where
  witnessKeySha256 := (ofLex subject).1
  electionId := (ofLex (ofLex subject).2).1
  checkpointSequence := (ofLex (ofLex subject).2).2
  statementSha256 := (group.map (·.statementSha256.hex)).insertionSort (· ≤ ·)
  publicationSha256 := sortedTexts (group.map (·.payload.publicationSha256.hex))
  checkpointHashes := sortedTexts (group.map (·.payload.checkpointHash.hex))

/-- The body of the second loop. -/
def conflict (entry : (String ×ₗ String ×ₗ Nat) × List SignedWitnessStatement) : Option WitnessEquivocation :=
  if (entry.2.map (·.view)).toFinset.card ≤ 1 then none else some (equivocation entry.1 entry.2)

/-- `detect_witness_equivocations` -/
def detectWitnessEquivocations (statements : List SignedWitnessStatement) : Result (List WitnessEquivocation) := do
  let groups ← groupStatements lowering sha256 ed25519 statements []
  return (groups.insertionSort fun a b => a.1 ≤ b.1).filterMap conflict

end

section
variable {Key : Type} {conversions : Conversions} {lowering : Lowering} {sha256 : Bytes → Digest}
  {ed25519 : Ed25519 Key}

theorem verifyWitnessStatement_untrusted {s : SignedWitnessStatement} :
    (verifyWitnessStatement lowering sha256 ed25519 s none).valid = true ↔ s.Sound sha256 ed25519 := by
  unfold verifyWitnessStatement
  cases signed : checkWitnessSignature sha256 ed25519 s with
  | error e => exact iff_of_false (by simp) fun h => by simp [h.signed] at signed
  | ok u =>
    have sound : s.Sound sha256 ed25519 ↔ statementHashValid sha256 s = true :=
      ⟨fun h => h.hashed, fun h => ⟨signed, h⟩⟩
    simp [normalizeTrustedFingerprints, sound]

instance (s : SignedWitnessStatement) : Decidable (s.Sound sha256 ed25519) :=
  decidable_of_iff (checkWitnessSignature sha256 ed25519 s = .ok () ∧ statementHashValid sha256 s = true)
    ⟨fun h => ⟨h.1, h.2⟩, fun h => ⟨h.signed, h.hashed⟩⟩

/-- The loop returns the groups of all statements, or stops at the first that is not sound. -/
theorem groupStatements_eq (statements : List SignedWitnessStatement) (groups : StatementGroups) :
    groupStatements lowering sha256 ed25519 statements groups =
      if ∀ s ∈ statements, s.Sound sha256 ed25519 then .ok (statements.foldl (Grouping.add (·.subject)) groups)
      else .error ⟨.valueError, "equivocation detection requires valid witness statements"⟩ := by
  induction statements generalizing groups with
  | nil => simp [groupStatements]
  | cons s statements ih =>
    rw [groupStatements, List.foldl_cons, ih]
    by_cases sound : s.Sound sha256 ed25519
    · rw [verifyWitnessStatement_untrusted.mpr sound, if_neg Bool.noConfusion]
      simp only [List.forall_mem_cons, sound, true_and]
    · rw [if_pos (Bool.eq_false_iff.mpr (mt verifyWitnessStatement_untrusted.mp sound)), if_neg]
      exact fun all => sound (all s List.mem_cons_self)

/-- The statements about one subject. -/
abbrev about (statements : List SignedWitnessStatement) (subject : String ×ₗ String ×ₗ Nat) :
    List SignedWitnessStatement :=
  Grouping.ofKey (·.subject) statements subject

/-- The conflicts among sound statements, in the order of their subjects. -/
def conflicts (statements : List SignedWitnessStatement) : List WitnessEquivocation :=
  ((statements.map (·.subject)).toFinset.sort (· ≤ ·)).filterMap fun subject =>
    conflict (subject, about statements subject)

theorem detectWitnessEquivocations_eq (statements : List SignedWitnessStatement) :
    detectWitnessEquivocations lowering sha256 ed25519 statements =
      if ∀ s ∈ statements, s.Sound sha256 ed25519 then .ok (conflicts statements)
      else .error ⟨.valueError, "equivocation detection requires valid witness statements"⟩ := by
  rw [detectWitnessEquivocations, groupStatements_eq]
  split
  · have sorted := @Grouping.sorted_collect _ _ _ SignedWitnessStatement.subject statements
    rw [ok_bind, conflicts]
    change Except.ok (((Grouping.collect (·.subject) statements).insertionSort _).filterMap conflict) = _
    rw [sorted, List.filterMap_map]
    rfl
  · rfl

/-- The subject of a report. -/
def WitnessEquivocation.subject (c : WitnessEquivocation) : String ×ₗ String ×ₗ Nat :=
  toLex (c.witnessKeySha256, toLex (c.electionId, c.checkpointSequence))

/-- Two statements about one subject whose views differ. -/
def Equivocal (statements : List SignedWitnessStatement) (subject : String ×ₗ String ×ₗ Nat) : Prop :=
  ∃ s ∈ statements, ∃ t ∈ statements, s.subject = subject ∧ t.subject = subject ∧ s.view ≠ t.view

theorem equivocal_iff : Equivocal statements subject ↔ 1 < ((about statements subject).map (·.view)).toFinset.card := by
  rw [Finset.one_lt_card]
  simp only [List.mem_toFinset, List.mem_map, about, Grouping.ofKey, List.mem_filter, decide_eq_true_eq]
  constructor
  · rintro ⟨s, hs, t, ht, same, also, differ⟩
    exact ⟨s.view, ⟨s, ⟨hs, same⟩, rfl⟩, t.view, ⟨t, ⟨ht, also⟩, rfl⟩, differ⟩
  · rintro ⟨-, ⟨s, ⟨hs, same⟩, rfl⟩, -, ⟨t, ⟨ht, also⟩, rfl⟩, differ⟩
    exact ⟨s, hs, t, ht, same, also, differ⟩

theorem mem_conflicts : c ∈ conflicts statements ↔
    Equivocal statements c.subject ∧ c = equivocation c.subject (about statements c.subject) := by
  have reported (subject : String ×ₗ String ×ₗ Nat) (group : List SignedWitnessStatement) :
      (equivocation subject group).subject = subject := rfl
  rw [conflicts, List.mem_filterMap]
  constructor
  · rintro ⟨subject, -, found⟩
    rw [conflict] at found
    split at found
    · cases found
    · rename_i several
      cases found
      exact ⟨equivocal_iff.mpr (not_le.mp several), rfl⟩
  · rintro ⟨several, form⟩
    refine ⟨c.subject, ?_, ?_⟩
    · obtain ⟨s, member, -, -, same, -⟩ := several
      rw [Finset.mem_sort, List.mem_toFinset, ← same]
      exact List.mem_map_of_mem member
    · rw [conflict, if_neg (not_le.mpr (equivocal_iff.mp several)), ← form]

theorem conflicts_ascend (statements : List SignedWitnessStatement) :
    (conflicts statements).Pairwise fun a b => a.subject < b.subject := by
  rw [conflicts, List.pairwise_filterMap]
  have strict : ((statements.map (·.subject)).toFinset.sort (· ≤ ·)).Pairwise (· < ·) :=
    (Finset.sortedLT_sort _).pairwise
  refine strict.imp fun below c found d other => ?_
  have subject (k : String ×ₗ String ×ₗ Nat) (e : WitnessEquivocation)
      (found : conflict (k, about statements k) = some e) : e.subject = k := by
    rw [conflict] at found
    split at found
    · cases found
    · cases found
      rfl
  rw [subject _ c found, subject _ d other]
  exact below

theorem conflicts_perm (perm : statements.Perm others) : conflicts statements = conflicts others := by
  have subjects : (statements.map (·.subject)).toFinset = (others.map (·.subject)).toFinset :=
    List.toFinset_eq_of_perm _ _ (perm.map _)
  have group (subject : String ×ₗ String ×ₗ Nat) : (about statements subject).Perm (about others subject) :=
    perm.filter _
  rw [conflicts, conflicts, subjects]
  apply List.filterMap_congr
  intro subject _
  have views : ((about statements subject).map (·.view)).toFinset = ((about others subject).map (·.view)).toFinset :=
    List.toFinset_eq_of_perm _ _ ((group subject).map _)
  have report : equivocation subject (about statements subject) = equivocation subject (about others subject) := by
    have texts (text : SignedWitnessStatement → String) :
        sortedTexts ((about statements subject).map text) = sortedTexts ((about others subject).map text) :=
      congrArg (Finset.sort · (· ≤ ·)) (List.toFinset_eq_of_perm _ _ ((group subject).map text))
    have hashes : ((about statements subject).map (·.statementSha256.hex)).insertionSort (· ≤ ·) =
        ((about others subject).map (·.statementSha256.hex)).insertionSort (· ≤ ·) :=
      Grouping.insertionSort_perm ((group subject).map _)
    simp only [equivocation, texts, hashes]
  rw [conflict, conflict, views, report]

/-- The detector takes sound statements only. It reports each subject of which some witness signed two views once,
in order, with everything that was said about it, whatever the order of the statements. -/
theorem detectWitnessEquivocations_exact (statements : List SignedWitnessStatement) :
    if ∀ s ∈ statements, s.Sound sha256 ed25519 then
      ∃ found, detectWitnessEquivocations lowering sha256 ed25519 statements = .ok found ∧
        found.Pairwise (fun a b => a.subject < b.subject) ∧
        (∀ c, c ∈ found ↔ Equivocal statements c.subject ∧
          c = equivocation c.subject (statements.filter fun s => s.subject = c.subject)) ∧
        ∀ others, statements.Perm others →
          detectWitnessEquivocations lowering sha256 ed25519 others = .ok found
    else detectWitnessEquivocations lowering sha256 ed25519 statements =
      .error ⟨.valueError, "equivocation detection requires valid witness statements"⟩ := by
  split
  · rename_i sound
    refine ⟨conflicts statements, by rw [detectWitnessEquivocations_eq, if_pos sound], conflicts_ascend statements,
      fun c => mem_conflicts, fun others perm => ?_⟩
    have sound : ∀ s ∈ others, s.Sound sha256 ed25519 := fun s member => sound s (perm.mem_iff.mpr member)
    rw [detectWitnessEquivocations_eq, if_pos sound, conflicts_perm perm]
  · rename_i unsound
    rw [detectWitnessEquivocations_eq, if_neg unsound]

/-- A payload says of the checkpoint what the record of the publication says. -/
structure Describes (sha256 : Bytes → Digest) (record : GovernedPublicationRecord) (payload : WitnessPayload) : Prop where
  publication : payload.publicationSha256 = sha256 (canonicalJsonBytes record.json)
  checkpoint : payload.checkpointHash = record.checkpointHash
  election : payload.electionId = record.electionId
  sequence : payload.checkpointSequence = record.checkpointSequence

theorem witnessPayload_ok (h : witnessPayload sha256 publication witnessId moment = .ok payload) :
    Describes sha256 publication.record payload ∧ payload.observedAt = moment.json := by
  obtain ⟨_, consistent, h⟩ := bind_ok h
  obtain ⟨_, -, h⟩ := bind_ok h
  obtain ⟨_, -, h⟩ := bind_ok h
  obtain ⟨_, -, h⟩ := bind_ok h
  cases h
  exact ⟨⟨not_not.mp (not_or.mp (raiseIf_ok.mp consistent)).1, rfl, rfl, rfl⟩, rfl⟩

theorem signPayload_sound (signing : ed25519.Lawful) (payload : WitnessPayload) (key : Key) :
    (signPayload sha256 ed25519 payload key).Sound sha256 ed25519 := by
  refine ⟨?_, decide_eq_true rfl⟩
  simp [checkWitnessSignature, signPayload, signing.size, signing.verifies, raiseIf, ok_bind]

/-- A created statement is the signed payload, in spite of the way through its JSON. -/
theorem createWitnessStatement_ok (stable : conversions.Stable) (shown : conversions.datetime value = some moment.json)
    (created : createWitnessStatement conversions sha256 ed25519 publication witnessId key moment = .ok s) :
    ∃ payload, witnessPayload sha256 publication witnessId moment = .ok payload ∧
      s = signPayload sha256 ed25519 payload key := by
  obtain ⟨payload, made, created⟩ := bind_ok created
  have built : (signPayload sha256 ed25519 payload key).Built conversions :=
    ⟨value, shown.trans (congrArg some (witnessPayload_ok made).2.symm)⟩
  rw [readStatement stable built] at created
  exact ⟨payload, made, (Except.ok.inj created).symm⟩

theorem payload_bytes {p q : WitnessPayload}
    (same : canonicalJsonBytes p.dict.toJson = canonicalJsonBytes q.dict.toJson) : p = q := by
  have dicts : p.dict = q.dict :=
    Dict.toJson_injective (canonicalJsonBytes_injective p.dict.toJson_wellFormed q.dict.toJson_wellFormed same)
  have entries := congrArg Dict.entries dicts
  cases p
  cases q
  simp only [WitnessPayload.dict, List.cons.injEq, Prod.mk.injEq, Json.str.injEq, Json.int.injEq, Digest.hex_inj,
    Nat.cast_inj, true_and, and_true] at entries
  grind

/-- The keys under which statements were made. -/
def statementKeys (statements : List SignedWitnessStatement) : List Bytes :=
  statements.filterMap fun s => (b64decode s.publicKeyB64.toList).toOption

theorem statementKey_ok {s : SignedWitnessStatement} (sound : s.Sound sha256 ed25519) (member : s ∈ statements) :
    ∃ raw ∈ statementKeys statements, b64decode s.publicKeyB64.toList = .ok raw ∧ sha256 raw = s.witnessKeySha256 := by
  obtain ⟨raw, decoded, rest⟩ := bind_ok sound.signed
  obtain ⟨_, fingerprint, -⟩ := bind_ok rest
  have fingerprint := not_or.mp (raiseIf_ok.mp fingerprint)
  refine ⟨raw, List.mem_filterMap.mpr ⟨s, member, ?_⟩, decoded, not_not.mp fingerprint.2⟩
  rw [decoded]
  rfl

/-- The arguments of a call of `create_witness_statement` under one key. -/
structure WitnessCall where
  publication : GovernedReleasePublication
  witnessId : String
  moment : Moment

/-- Statements under the key of a witness say what its calls signed. -/
def Unforged (sha256 : Bytes → Digest) (publicKey : Bytes) (calls : List WitnessCall)
    (statements : List SignedWitnessStatement) : Prop :=
  ∀ s ∈ statements, b64decode s.publicKeyB64.toList = .ok publicKey → ∃ call ∈ calls, ∃ payload,
    witnessPayload sha256 call.publication call.witnessId call.moment = .ok payload ∧
      canonicalJsonBytes s.payload.dict.toJson = canonicalJsonBytes payload.dict.toJson

/-- Two records of one checkpoint of an election. -/
def SameCheckpoint (a b : GovernedPublicationRecord) : Prop :=
  a.electionId = b.electionId ∧ a.checkpointSequence = b.checkpointSequence

theorem reported_saw (free : CollisionFree sha256 (publicKey :: statementKeys statements))
    (unforged : Unforged sha256 publicKey calls statements) (sound : s.Sound sha256 ed25519) (member : s ∈ statements)
    (named : s.witnessKeySha256 = sha256 publicKey) :
    ∃ call ∈ calls, Describes sha256 call.publication.record s.payload := by
  obtain ⟨raw, listed, decoded, fingerprint⟩ := statementKey_ok sound member
  have same : raw = publicKey :=
    free raw (List.mem_cons_of_mem _ listed) publicKey List.mem_cons_self (fingerprint.trans named)
  obtain ⟨call, called, payload, made, bytes⟩ := unforged s member (same ▸ decoded)
  exact ⟨call, called, payload_bytes bytes ▸ (witnessPayload_ok made).1⟩

theorem subject_eq {s : SignedWitnessStatement} {c : WitnessEquivocation} (same : s.subject = c.subject) :
    s.witnessKeySha256.hex = c.witnessKeySha256 ∧ s.payload.electionId = c.electionId ∧
      s.payload.checkpointSequence.1 = c.checkpointSequence := by
  have outer := congrArg ofLex same
  obtain ⟨key, inner⟩ := Prod.mk.inj outer
  obtain ⟨election, sequence⟩ := Prod.mk.inj (congrArg ofLex inner)
  exact ⟨key, election, sequence⟩

/-- A witness that saw one record of each checkpoint is never reported. One that signed two views of a checkpoint
is reported wherever both statements are, with the two. -/
theorem witnesses_accountable (stable : conversions.Stable)
    (shown : ∀ call ∈ calls, ∃ value, conversions.datetime value = some call.moment.json)
    (returned : detectWitnessEquivocations lowering sha256 ed25519 statements = .ok found)
    (free : CollisionFree sha256 (ed25519.publicKey key :: statementKeys statements))
    (unforged : Unforged sha256 (ed25519.publicKey key) calls statements) :
    ((∀ a ∈ calls, ∀ b ∈ calls, SameCheckpoint a.publication.record b.publication.record →
        a.publication.record = b.publication.record) →
      ∀ c ∈ found, c.witnessKeySha256 ≠ (sha256 (ed25519.publicKey key)).hex) ∧
    ∀ a ∈ calls, ∀ b ∈ calls, ∀ s ∈ statements, ∀ t ∈ statements,
      createWitnessStatement conversions sha256 ed25519 a.publication a.witnessId key a.moment = .ok s →
      createWitnessStatement conversions sha256 ed25519 b.publication b.witnessId key b.moment = .ok t →
      SameCheckpoint a.publication.record b.publication.record → s.view ≠ t.view →
      ∃ c ∈ found, c.subject = s.subject ∧ s.statementSha256.hex ∈ c.statementSha256 ∧
        t.statementSha256.hex ∈ c.statementSha256 := by
  have sound : ∀ s ∈ statements, s.Sound sha256 ed25519 := by
    by_contra unsound
    rw [detectWitnessEquivocations_eq, if_neg unsound] at returned
    cases returned
  rw [detectWitnessEquivocations_eq, if_pos sound] at returned
  cases returned
  refine ⟨fun honest c reported named => ?_, ?_⟩
  · obtain ⟨⟨s, hs, t, ht, same, also, differ⟩, -⟩ := mem_conflicts.mp reported
    obtain ⟨key, election, sequence⟩ := subject_eq same
    obtain ⟨key', election', sequence'⟩ := subject_eq also
    obtain ⟨a, calledA, reportsA⟩ := reported_saw free unforged (sound s hs) hs
      (Digest.hex_injective (key.trans named))
    obtain ⟨b, calledB, reportsB⟩ := reported_saw free unforged (sound t ht) ht
      (Digest.hex_injective (key'.trans named))
    have checkpoint : SameCheckpoint a.publication.record b.publication.record :=
      ⟨reportsA.election.symm.trans ((election.trans election'.symm).trans reportsB.election),
        reportsA.sequence.symm.trans ((Subtype.ext (sequence.trans sequence'.symm)).trans reportsB.sequence)⟩
    have record := honest a calledA b calledB checkpoint
    apply differ
    rw [SignedWitnessStatement.view, SignedWitnessStatement.view, reportsA.publication, reportsA.checkpoint,
      reportsB.publication, reportsB.checkpoint, record]
  · intro a calledA b calledB s hs t ht createdA createdB checkpoint differ
    obtain ⟨valueA, shownA⟩ := shown a calledA
    obtain ⟨valueB, shownB⟩ := shown b calledB
    obtain ⟨p, madeA, formA⟩ := createWitnessStatement_ok stable shownA createdA
    obtain ⟨q, madeB, formB⟩ := createWitnessStatement_ok stable shownB createdB
    have subject : t.subject = s.subject := by
      have reportsA := (witnessPayload_ok madeA).1
      have reportsB := (witnessPayload_ok madeB).1
      rw [formA, formB]
      simp only [SignedWitnessStatement.subject, signPayload, reportsA.election, reportsB.election, reportsA.sequence,
        reportsB.sequence, checkpoint.1, checkpoint.2]
    have listed (u : SignedWitnessStatement) (member : u ∈ statements) (same : u.subject = s.subject) :
        u.statementSha256.hex ∈ (equivocation s.subject (about statements s.subject)).statementSha256 := by
      apply (List.mem_insertionSort (· ≤ ·)).mpr
      exact List.mem_map_of_mem (List.mem_filter.mpr ⟨member, decide_eq_true same⟩)
    exact ⟨equivocation s.subject (about statements s.subject), mem_conflicts.mpr ⟨⟨s, hs, t, ht, rfl, subject,
      differ⟩, rfl⟩, rfl, listed s hs rfl, listed t ht subject⟩

end

/-- A record of the first checkpoint of election `e`, under any hash. -/
def witnessedRecord (checkpoint : Digest) : GovernedPublicationRecord where
  releaseId := "bp_rel_example"
  electionId := "e"
  manifestSha256 := checksum []
  ledgerMerkleRoot := checksum []
  semanticSummarySha256 := checksum []
  semanticRoot := checksum []
  checkpointHash := checkpoint
  checkpointSequence := ⟨1, one_positive⟩
  releaseKeyTransparencyHeadEventHash := checksum []
  checkpointChainHeadHash := checkpoint
  releaseFiles := []
  semanticFiles := []
  checkpoint := ⟨"checkpoint.json", checkpoint, 1⟩
  releaseKeySnapshot := ⟨"keys.json", checkpoint, 1⟩
  checkpointChainSnapshot := ⟨"chain.json", checkpoint, 1⟩

def witnessedCall (checkpoint : Digest) : WitnessCall where
  publication :=
    let hash := checksum (canonicalJsonBytes (witnessedRecord checkpoint).json)
    ⟨hash, "publications/" ++ hash.hex ++ ".json", witnessedRecord checkpoint⟩
  witnessId := "witness"
  moment := ⟨true, "2026-01-01T00:00:00Z"⟩

def witnessedPayload (checkpoint : Digest) : WitnessPayload where
  witnessId := ⟨"witness", by decide⟩
  publicationSha256 := checksum (canonicalJsonBytes (witnessedRecord checkpoint).json)
  releaseId := "bp_rel_example"
  electionId := "e"
  manifestSha256 := checksum []
  checkpointHash := checkpoint
  checkpointSequence := ⟨1, one_positive⟩
  releaseKeyTransparencyHeadEventHash := checksum []
  observedAt := "2026-01-01T00:00:00Z"

theorem witnessedPayload_made (checkpoint : Digest) : witnessPayload checksum (witnessedCall checkpoint).publication
    (witnessedCall checkpoint).witnessId (witnessedCall checkpoint).moment = .ok (witnessedPayload checkpoint) := by
  have named : ¬strip "witness".toList = [] := by decide
  refine bind_eq_ok.mpr ⟨(), raiseIf_ok.mpr (by simp [witnessedCall]), bind_eq_ok.mpr ⟨(), raiseIf_ok.mpr named,
    bind_eq_ok.mpr ⟨(), raiseIf_ok.mpr (by simp [witnessedCall]), bind_eq_ok.mpr ⟨⟨"witness", by decide⟩, ?_, rfl⟩⟩⟩⟩
  exact dif_pos _

theorem sampleConversions_stable : sampleConversions.Stable where
  datetime _ _ _ := rfl
  url _ _ _ _ again := (Option.some.inj again).symm

def witnessedStatement (checkpoint : Digest) : SignedWitnessStatement :=
  signPayload checksum mirrorEd25519 (witnessedPayload checkpoint) ()

theorem witnessedStatement_created (checkpoint : Digest) :
    createWitnessStatement sampleConversions checksum mirrorEd25519 (witnessedCall checkpoint).publication
      (witnessedCall checkpoint).witnessId () (witnessedCall checkpoint).moment =
        .ok (witnessedStatement checkpoint) := by
  rw [createWitnessStatement, witnessedPayload_made, ok_bind]
  exact readStatement sampleConversions_stable ⟨.str "2026-01-01T00:00:00Z", rfl⟩

theorem witnessedCall_checkpoint (one other : Digest) :
    SameCheckpoint (witnessedCall one).publication.record (witnessedCall other).publication.record :=
  ⟨rfl, rfl⟩

/-- Two statements of one witness about the first checkpoint. -/
def twoViews : List SignedWitnessStatement := [witnessedStatement (checksum [1]), witnessedStatement (checksum [2])]

theorem twoViews_sound : ∀ s ∈ twoViews, s.Sound checksum mirrorEd25519 := by
  have signing : mirrorEd25519.Lawful := ⟨fun _ => rfl, fun _ _ => decide_eq_true rfl⟩
  intro s member
  rcases List.mem_cons.mp member with rfl | member
  · exact signPayload_sound signing _ ()
  · rw [List.mem_singleton.mp member]
    exact signPayload_sound signing _ ()

theorem witnesses_accountable_example :
    detectWitnessEquivocations asciiLowering checksum mirrorEd25519 twoViews = .ok (conflicts twoViews) ∧
      ∃ c ∈ conflicts twoViews, c.subject = (witnessedStatement (checksum [1])).subject := by
  have returned : detectWitnessEquivocations asciiLowering checksum mirrorEd25519 twoViews =
      .ok (conflicts twoViews) := by
    rw [detectWitnessEquivocations_eq, if_pos twoViews_sound]
  have keys : statementKeys twoViews = [mirrorEd25519.publicKey (), mirrorEd25519.publicKey ()] := by
    simp [statementKeys, twoViews, witnessedStatement, signPayload, Except.toOption]
  have unforged : Unforged checksum (mirrorEd25519.publicKey ())
      [witnessedCall (checksum [1]), witnessedCall (checksum [2])] twoViews := by
    intro s member _
    rcases List.mem_cons.mp member with rfl | member
    · exact ⟨_, List.mem_cons_self, _, witnessedPayload_made _, rfl⟩
    · rw [List.mem_singleton.mp member]
      exact ⟨_, List.mem_cons_of_mem _ List.mem_cons_self, _, witnessedPayload_made _, rfl⟩
  have accountable := witnesses_accountable sampleConversions_stable
    (fun call _ => ⟨.str call.moment.json, rfl⟩) returned (by rw [keys]; decide +kernel) unforged
  have differ : (witnessedStatement (checksum [1])).view ≠ (witnessedStatement (checksum [2])).view := fun same =>
    absurd (congrArg Prod.snd same : checksum [1] = checksum [2]) (by decide +kernel)
  obtain ⟨c, reported, subject, -⟩ := accountable.2 (witnessedCall (checksum [1])) List.mem_cons_self
    (witnessedCall (checksum [2])) (List.mem_cons_of_mem _ List.mem_cons_self) (witnessedStatement (checksum [1]))
    List.mem_cons_self (witnessedStatement (checksum [2])) (List.mem_cons_of_mem _ List.mem_cons_self)
    (witnessedStatement_created (checksum [1])) (witnessedStatement_created (checksum [2]))
    (witnessedCall_checkpoint (checksum [1]) (checksum [2])) differ
  exact ⟨returned, c, reported, subject⟩

end BallotProof
