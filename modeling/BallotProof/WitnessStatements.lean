import BallotProof.EvidenceChain
import BallotProof.Strings

/-! Statements of witnesses about a publication: the signed document, reading it back, and
`verify_witness_statement`. -/
namespace BallotProof
open Python

/-- `schema_version` has one value, `"1"`. -/
structure WitnessPayload where
  witnessId : Text 1 256
  publicationSha256 : Digest
  releaseId : String
  electionId : String
  manifestSha256 : Digest
  checkpointHash : Digest
  checkpointSequence : PositiveInt
  releaseKeyTransparencyHeadEventHash : Digest
  observedAt : String

/-- `algorithm` has one value, `"Ed25519"`. -/
structure SignedWitnessStatement where
  payload : WitnessPayload
  publicKeyB64 : String
  witnessKeySha256 : Digest
  signatureB64 : String
  statementSha256 : Digest

/-- `payload.model_dump(mode="json")` -/
def WitnessPayload.dict (p : WitnessPayload) : Dict where
  entries := [
    ("checkpoint_hash", .str p.checkpointHash.hex),
    ("checkpoint_sequence", .int p.checkpointSequence.1),
    ("election_id", .str p.electionId),
    ("manifest_sha256", .str p.manifestSha256.hex),
    ("observed_at", .str p.observedAt),
    ("publication_sha256", .str p.publicationSha256.hex),
    ("release_id", .str p.releaseId),
    ("release_key_transparency_head_event_hash", .str p.releaseKeyTransparencyHeadEventHash.hex),
    ("schema_version", .str "1"),
    ("witness_id", .str p.witnessId.1)]
  wellFormed := by
    simp only [Json.wellFormed, Bool.and_eq_true]
    refine ⟨by simp only [keysAscend]; decide, wellFormedEntries_iff.mpr ?_⟩
    simp only [List.mem_cons, List.not_mem_nil, or_false, forall_eq_or_imp, forall_eq]
    exact ⟨str_wellFormed _, int_wellFormed p.checkpointSequence.2.2, str_wellFormed _, str_wellFormed _,
      str_wellFormed _, str_wellFormed _, str_wellFormed _, str_wellFormed _, str_wellFormed _,
      str_wellFormed _⟩

/-- The body whose hash is `statement_sha256`. -/
def SignedWitnessStatement.body (s : SignedWitnessStatement) : Json := .obj [
  ("algorithm", .str "Ed25519"),
  ("payload", s.payload.dict.toJson),
  ("public_key_b64", .str s.publicKeyB64),
  ("signature_b64", .str s.signatureB64),
  ("witness_key_sha256", .str s.witnessKeySha256.hex)]

/-- `statement.model_dump(mode="json")` -/
def SignedWitnessStatement.dict (s : SignedWitnessStatement) : Dict where
  entries := [
    ("algorithm", .str "Ed25519"),
    ("payload", s.payload.dict.toJson),
    ("public_key_b64", .str s.publicKeyB64),
    ("signature_b64", .str s.signatureB64),
    ("statement_sha256", .str s.statementSha256.hex),
    ("witness_key_sha256", .str s.witnessKeySha256.hex)]
  wellFormed := by
    simp only [Json.wellFormed, Bool.and_eq_true]
    refine ⟨by simp only [keysAscend]; decide, wellFormedEntries_iff.mpr ?_⟩
    simp only [List.mem_cons, List.not_mem_nil, or_false, forall_eq_or_imp, forall_eq]
    exact ⟨str_wellFormed _, Dict.toJson_wellFormed _, str_wellFormed _, str_wellFormed _,
      str_wellFormed _, str_wellFormed _⟩

/-- A field that has one value, which is the default. -/
def literalField (entries : List (String × Json)) (name value : String) : Result Unit :=
  require (∀ found ∈ lookup name entries, found.pyEq (.str value) = true) ("Input should be " ++ value)

section
variable (conversions : Conversions)

def readWitnessPayload (value : Json) : Result WitnessPayload := do
  let entries ← objectOf value
  onlyFields ["schema_version", "witness_id", "publication_sha256", "release_id", "election_id",
    "manifest_sha256", "checkpoint_hash", "checkpoint_sequence",
    "release_key_transparency_head_event_hash", "observed_at"] entries
  literalField entries "schema_version" "1"
  let witnessId ← boundedField entries "witness_id" 1 256
  let publicationSha256 ← hashField entries "publication_sha256"
  let releaseId ← textField entries "release_id"
  let electionId ← textField entries "election_id"
  let manifestSha256 ← hashField entries "manifest_sha256"
  let checkpointHash ← hashField entries "checkpoint_hash"
  let checkpointSequence ← positiveField entries "checkpoint_sequence" conversions
  let headEventHash ← hashField entries "release_key_transparency_head_event_hash"
  let observedAt ← datetimeField conversions entries "observed_at"
  return ⟨witnessId, publicationSha256, releaseId, electionId, manifestSha256, checkpointHash,
    checkpointSequence, headEventHash, observedAt⟩

/-- `SignedWitnessStatement.model_validate_json`, of the document that the text holds. -/
def SignedWitnessStatement.modelValidate (value : Json) : Result SignedWitnessStatement := do
  let entries ← objectOf value
  onlyFields ["payload", "algorithm", "public_key_b64", "witness_key_sha256", "signature_b64",
    "statement_sha256"] entries
  let payload ← readWitnessPayload conversions ((lookup "payload" entries).getD .null)
  literalField entries "algorithm" "Ed25519"
  let publicKeyB64 ← textField entries "public_key_b64"
  let witnessKeySha256 ← hashField entries "witness_key_sha256"
  let signatureB64 ← textField entries "signature_b64"
  let statementSha256 ← hashField entries "statement_sha256"
  return ⟨payload, publicKeyB64, witnessKeySha256, signatureB64, statementSha256⟩

end

structure WitnessVerification where
  valid : Bool
  signatureValid : Bool
  statementHashValid : Bool
  witnessKeySha256 : Option Digest
  witnessTrusted : Option Bool
  publicationSha256 : Option Digest
  error : Option String
  deriving DecidableEq

/-- The text has 64 lower-case hexadecimal digits. -/
def isFingerprint (text : List Char) : Bool :=
  text.length = 64 && text.all fun c => ('0' ≤ c && c ≤ '9') || ('a' ≤ c && c ≤ 'f')

section
variable {Key : Type} (lowering : Lowering) (sha256 : Bytes → Digest) (ed25519 : Ed25519 Key)

def lower (text : String) : String := String.ofList (lowering.lower text.toList)

/-- `_normalize_trusted_fingerprints` -/
def normalizeTrustedFingerprints (values : Option (List String)) : Result (Option (List String)) :=
  match values with
  | none => .ok none
  | some values => do
    raiseIf (∃ value ∈ values, isFingerprint (lower lowering value).toList = false)
      ⟨.valueError, "trusted witness fingerprints must be 64 hexadecimal characters"⟩
    return some (values.map (lower lowering))

/-- The checks of the key and of the signature. -/
def checkWitnessSignature (s : SignedWitnessStatement) : Result Unit := do
  let raw ← b64decode s.publicKeyB64.toList
  raiseIf (raw.length ≠ 32 ∨ sha256 raw ≠ s.witnessKeySha256)
    ⟨.valueError, "witness public-key fingerprint is invalid"⟩
  let signature ← b64decode s.signatureB64.toList
  raiseIf (ed25519.verify raw signature (canonicalJsonBytes s.payload.dict.toJson) = false)
    ⟨.invalidSignature, ""⟩

/-- `hash_valid` -/
def statementHashValid (s : SignedWitnessStatement) : Bool := hashRecord sha256 s.body = s.statementSha256

/-- `verify_witness_statement`; every error is an InvalidSignature or a ValueError. -/
def verifyWitnessStatement (s : SignedWitnessStatement) (trustedWitnessSha256 : Option (List String)) :
    WitnessVerification :=
  let key := some s.witnessKeySha256
  let publication := some s.payload.publicationSha256
  match checkWitnessSignature sha256 ed25519 s with
  | .error error => ⟨false, false, false, key, none, publication, some error.describe⟩
  | .ok () =>
    let hashValid := statementHashValid sha256 s
    match normalizeTrustedFingerprints lowering trustedWitnessSha256 with
    | .error error => ⟨false, true, hashValid, key, none, publication, some error.describe⟩
    | .ok trusted =>
      let witnessTrusted := trusted.map fun values => decide (s.witnessKeySha256.hex ∈ values)
      ⟨hashValid && witnessTrusted ≠ some false, true, hashValid, key, witnessTrusted, publication, none⟩

end

section
variable {conversions : Conversions}

theorem positiveField_int {n : PositiveInt} (h : lookup name entries = some (.int n.1)) :
    positiveField entries name conversions = .ok n := by
  obtain ⟨n, bounds⟩ := n
  have read : conversions.integer (.int (n : Int)) = some (.ofNat n) := conversions.integer_int _
  simp [positiveField, h, positiveOf, read, bounds]

theorem literalField_str (h : lookup name entries = some (.str value)) :
    literalField entries name value = .ok () := by
  simp [literalField, require, h, Json.pyEq]

/-- A statement that pydantic has built. -/
def SignedWitnessStatement.Built (conversions : Conversions) (s : SignedWitnessStatement) : Prop :=
  ∃ value, conversions.datetime value = some s.payload.observedAt

theorem readWitnessPayload_dict {p : WitnessPayload}
    (back : conversions.datetime (.str p.observedAt) = some p.observedAt) :
    readWitnessPayload conversions p.dict.toJson = .ok p := by
  have names : onlyFields ["schema_version", "witness_id", "publication_sha256", "release_id",
      "election_id", "manifest_sha256", "checkpoint_hash", "checkpoint_sequence",
      "release_key_transparency_head_event_hash", "observed_at"] p.dict.entries = .ok () := by
    simp [onlyFields, require, WitnessPayload.dict]
  have version : literalField p.dict.entries "schema_version" "1" = .ok () :=
    literalField_str (by simp [WitnessPayload.dict, lookup])
  have witness : boundedField p.dict.entries "witness_id" 1 256 = .ok p.witnessId :=
    boundedField_str (by simp [WitnessPayload.dict, lookup])
  have publication : hashField p.dict.entries "publication_sha256" = .ok p.publicationSha256 :=
    hashField_hex (by simp [WitnessPayload.dict, lookup])
  have release : textField p.dict.entries "release_id" = .ok p.releaseId :=
    textField_str (by simp [WitnessPayload.dict, lookup])
  have election : textField p.dict.entries "election_id" = .ok p.electionId :=
    textField_str (by simp [WitnessPayload.dict, lookup])
  have manifest : hashField p.dict.entries "manifest_sha256" = .ok p.manifestSha256 :=
    hashField_hex (by simp [WitnessPayload.dict, lookup])
  have checkpoint : hashField p.dict.entries "checkpoint_hash" = .ok p.checkpointHash :=
    hashField_hex (by simp [WitnessPayload.dict, lookup])
  have sequence : positiveField p.dict.entries "checkpoint_sequence" conversions =
      .ok p.checkpointSequence := positiveField_int (by simp [WitnessPayload.dict, lookup])
  have head : hashField p.dict.entries "release_key_transparency_head_event_hash" =
      .ok p.releaseKeyTransparencyHeadEventHash := hashField_hex (by simp [WitnessPayload.dict, lookup])
  have observed : datetimeField conversions p.dict.entries "observed_at" = .ok p.observedAt := by
    simp [datetimeField, WitnessPayload.dict, lookup, back]
  simp only [readWitnessPayload, Dict.toJson, objectOf, ok_bind, names, version, witness, publication,
    release, election, manifest, checkpoint, sequence, head, observed]
  rfl

/-- A built statement is read back from its JSON. -/
theorem readStatement (stable : conversions.Stable) {s : SignedWitnessStatement}
    (built : s.Built conversions) :
    SignedWitnessStatement.modelValidate conversions s.dict.toJson = .ok s := by
  obtain ⟨value, read⟩ := built
  have names : onlyFields ["payload", "algorithm", "public_key_b64", "witness_key_sha256",
      "signature_b64", "statement_sha256"] s.dict.entries = .ok () := by
    simp [onlyFields, require, SignedWitnessStatement.dict]
  have payload : (lookup "payload" s.dict.entries).getD .null = s.payload.dict.toJson := by
    simp [SignedWitnessStatement.dict, lookup]
  have algorithm : literalField s.dict.entries "algorithm" "Ed25519" = .ok () :=
    literalField_str (by simp [SignedWitnessStatement.dict, lookup])
  have publicKey : textField s.dict.entries "public_key_b64" = .ok s.publicKeyB64 :=
    textField_str (by simp [SignedWitnessStatement.dict, lookup])
  have key : hashField s.dict.entries "witness_key_sha256" = .ok s.witnessKeySha256 :=
    hashField_hex (by simp [SignedWitnessStatement.dict, lookup])
  have signature : textField s.dict.entries "signature_b64" = .ok s.signatureB64 :=
    textField_str (by simp [SignedWitnessStatement.dict, lookup])
  have hash : hashField s.dict.entries "statement_sha256" = .ok s.statementSha256 :=
    hashField_hex (by simp [SignedWitnessStatement.dict, lookup])
  simp only [SignedWitnessStatement.modelValidate, Dict.toJson, objectOf, ok_bind, names, algorithm,
    publicKey, key, signature, hash]
  rw [payload, readWitnessPayload_dict (stable.datetime value _ read)]
  rfl

end

section
variable {Key : Type} {lowering : Lowering} {sha256 : Bytes → Digest} {ed25519 : Ed25519 Key}

/-- The signature and the hash of a statement are right. -/
structure SignedWitnessStatement.Sound (sha256 : Bytes → Digest) (ed25519 : Ed25519 Key)
    (s : SignedWitnessStatement) : Prop where
  signed : checkWitnessSignature sha256 ed25519 s = .ok ()
  hashed : statementHashValid sha256 s = true

/-- The trusted fingerprints are well formed and hold the key of the witness. -/
def TrustsWitness (lowering : Lowering) (trusted : List String) (key : Digest) : Prop :=
  (∀ value ∈ trusted, isFingerprint (lower lowering value).toList = true) ∧
    key.hex ∈ trusted.map (lower lowering)

theorem verifyWitnessStatement_valid {s : SignedWitnessStatement} :
    (verifyWitnessStatement lowering sha256 ed25519 s (some trusted)).valid = true ↔
      s.Sound sha256 ed25519 ∧ TrustsWitness lowering trusted s.witnessKeySha256 := by
  unfold verifyWitnessStatement TrustsWitness
  cases signed : checkWitnessSignature sha256 ed25519 s with
  | error e => exact iff_of_false (by simp) fun h => by simp [h.1.signed] at signed
  | ok u =>
    have sound : s.Sound sha256 ed25519 ↔ statementHashValid sha256 s = true :=
      ⟨fun h => h.hashed, fun h => ⟨signed, h⟩⟩
    by_cases wrong : ∃ value ∈ trusted, isFingerprint (lower lowering value).toList = false
    · refine iff_of_false (by simp [normalizeTrustedFingerprints, raiseIf, wrong, bind, Except.bind]) ?_
      obtain ⟨value, member, short⟩ := wrong
      intro h
      have right := h.2.1 value member
      rw [short] at right
      cases right
    · have formed : ∀ value ∈ trusted, isFingerprint (lower lowering value).toList = true := by
        intro value member
        by_contra short
        exact wrong ⟨value, member, Bool.eq_false_iff.mpr short⟩
      simp only [normalizeTrustedFingerprints, raiseIf, wrong, if_false, ok_bind, pure, Except.pure,
        Option.map_some, sound, Bool.and_eq_true, decide_eq_true_eq, ne_eq, Option.some.injEq,
        decide_eq_false_iff_not, not_not]
      exact and_congr_right fun _ => ⟨fun known => ⟨formed, known⟩, fun h => h.2⟩

theorem hexDigit_lower : ∀ n < 16, (hexDigit n).toLower = hexDigit n ∧ (hexDigit n).toNat < 128 ∧
    (('0' ≤ hexDigit n ∧ hexDigit n ≤ '9') ∨ ('a' ≤ hexDigit n ∧ hexDigit n ≤ 'f')) := by decide

theorem hexOf_digit (member : c ∈ hexOf data) : ∃ n < 16, c = hexDigit n := by
  obtain ⟨b, -, member⟩ := List.mem_flatMap.mp member
  have byte := b.toNat_lt
  rcases List.mem_cons.mp member with rfl | member
  · exact ⟨_, by omega, rfl⟩
  · exact ⟨_, by omega, List.mem_singleton.mp member⟩

/-- A fingerprint is lower-case already. -/
theorem lower_hex (lowering : Lowering) (d : Digest) : lower lowering d.hex = d.hex := by
  have digits : ∀ c ∈ hexOf d.bytes, c.toNat < 128 := by
    intro c member
    obtain ⟨n, bound, rfl⟩ := hexOf_digit member
    exact (hexDigit_lower n bound).2.1
  rw [lower, Digest.hex, String.toList_ofList, lowering.ascii _ digits]
  apply congrArg String.ofList
  refine (List.map_congr_left fun c member => ?_).trans (List.map_id _)
  obtain ⟨n, bound, rfl⟩ := hexOf_digit member
  exact (hexDigit_lower n bound).1

theorem isFingerprint_hex (d : Digest) : isFingerprint d.hex.toList = true := by
  rw [Digest.hex, String.toList_ofList, isFingerprint, hexOf_length, d.size]
  simp only [Nat.reduceMul, decide_true, Bool.true_and, List.all_eq_true, Bool.or_eq_true, Bool.and_eq_true,
    decide_eq_true_eq]
  intro c member
  obtain ⟨n, bound, rfl⟩ := hexOf_digit member
  exact (hexDigit_lower n bound).2.2

/-- A key is trusted by its own fingerprint. -/
theorem trustsWitness_self (lowering : Lowering) (key : Digest) :
    TrustsWitness lowering [key.hex] key := by
  refine ⟨?_, ?_⟩
  · intro value member
    rw [List.mem_singleton.mp member, lower_hex]
    exact isFingerprint_hex key
  · simp [lower_hex]

end

end BallotProof
