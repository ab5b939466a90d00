import BallotProof.Requests
import BallotProof.WitnessStatements

/-! The pins of observers: a table that holds one view for an observer, a witness key, an
election and a checkpoint, all of them in one hash chain. Each call of `pin` is one transaction. -/
namespace BallotProof
open Python HashChain Sql

/-- The fields of `_pin_body`. -/
structure PinBody where
  sequence : Nat
  observerId : String
  witnessKeySha256 : Digest
  electionId : String
  checkpointSequence : Nat
  publicationSha256 : Digest
  checkpointHash : Digest
  statementSha256 : Digest
  pinnedAt : Python.Timestamp
  previousPinHash : Option Digest

/-- A pin, with its statement or with what is stored of it. -/
structure PinRecord (σ : Type) extends PinBody where
  statement : σ
  pinHash : Digest

abbrev ObserverPin := PinRecord SignedWitnessStatement

/-- A row of `observer_pins`; the text of `statement_json` is kept as its document. -/
abbrev ObserverPinRow := PinRecord Json

/-- Observer, witness key and election. -/
abbrev PinStream := String × Digest × String

namespace PinBody
variable (p : PinBody)

def stream : PinStream := (p.observerId, p.witnessKeySha256, p.electionId)

/-- The columns of the uniqueness constraint. -/
def view : PinStream × Nat := (p.stream, p.checkpointSequence)

/-- `_pin_body` -/
def json (previous : Option Digest) : Json := .obj [
  ("checkpoint_hash", .str p.checkpointHash.hex),
  ("checkpoint_sequence", .int p.checkpointSequence),
  ("election_id", .str p.electionId),
  ("observer_id", .str p.observerId),
  ("pinned_at", .str p.pinnedAt.isoformat),
  ("previous_pin_hash", optionalHash previous),
  ("publication_sha256", .str p.publicationSha256.hex),
  ("sequence", .int p.sequence),
  ("statement_sha256", .str p.statementSha256.hex),
  ("witness_key_sha256", .str p.witnessKeySha256.hex)]

end PinBody

/-- The row that is inserted for a pin. -/
def ObserverPin.row (p : ObserverPin) : ObserverPinRow := { p with statement := p.statement.dict.toJson }

structure ObserverPinChainVerification where
  valid : Bool
  pinsChecked : Nat
  headPinHash : Option Digest
  error : Option String
  deriving DecidableEq

/-- A call of `pin`, with the clock it reads. -/
structure PinRequest where
  statement : SignedWitnessStatement
  observerId : String
  trustedWitnessSha256 : String
  now : Python.Timestamp

def PinRequest.stream (r : PinRequest) : PinStream :=
  (r.observerId, r.statement.witnessKeySha256, r.statement.payload.electionId)

def PinRequest.view (r : PinRequest) : PinStream × Nat :=
  (r.stream, r.statement.payload.checkpointSequence.1)

section
variable {Key : Type} (conversions : Conversions) (lowering : Lowering) (sha256 : Bytes → Digest)
  (ed25519 : Ed25519 Key)

/-- `_row_to_pin` -/
def ObserverPinRow.toPin (row : ObserverPinRow) : Result ObserverPin := do
  let statement ← SignedWitnessStatement.modelValidate conversions row.statement
  require (1 ≤ row.sequence ∧ 1 ≤ row.checkpointSequence) "Input should be greater than or equal to 1"
  return { row with statement := statement }

/-- `pins()`, ordered by sequence. -/
def observerPins (rows : List ObserverPinRow) : Result (List ObserverPin) := rows.mapM (·.toPin conversions)

/-- The checks of `pin` before its transaction. -/
def checkPinRequest (r : PinRequest) : Result Unit := do
  raiseIf (strip r.observerId.toList = []) ⟨.valueError, "observer_id is required"⟩
  let verification := verifyWitnessStatement lowering sha256 ed25519 r.statement
    (some [lower lowering r.trustedWitnessSha256])
  if verification.valid then .ok ()
  else if verification.witnessTrusted = some false then
    .error ⟨.permissionError, "witness statement does not match the pinned trusted key"⟩
  else .error ⟨.valueError, verification.error.getD "witness statement verification failed"⟩

/-- The body of the pin that extends the chain. -/
def newPinBody (rows : List ObserverPinRow) (r : PinRequest) : PinBody where
  sequence := (rows.getLast?.map (·.sequence + 1)).getD 1
  observerId := r.observerId
  witnessKeySha256 := r.statement.witnessKeySha256
  electionId := r.statement.payload.electionId
  checkpointSequence := r.statement.payload.checkpointSequence.1
  publicationSha256 := r.statement.payload.publicationSha256
  checkpointHash := r.statement.payload.checkpointHash
  statementSha256 := r.statement.statementSha256
  pinnedAt := r.now
  previousPinHash := rows.getLast?.map (·.pinHash)

def newPin (rows : List ObserverPinRow) (r : PinRequest) : ObserverPin :=
  let body := newPinBody rows r
  ⟨body, r.statement, hashRecord sha256 (body.json body.previousPinHash)⟩

/-- `INSERT INTO observer_pins` -/
def insertPin (rows : List ObserverPinRow) (p : ObserverPin) :
    Result (ObserverPin × List ObserverPinRow) := do
  raiseIf (integerLimit ≤ p.sequence)
    ⟨.overflowError, "Python int too large to convert to SQLite INTEGER"⟩
  raiseIf (∃ other ∈ rows, other.sequence = p.sequence ∨ other.pinHash = p.pinHash ∨ other.view = p.view)
    ⟨.integrityError, "UNIQUE constraint failed"⟩
  return (p, rows ++ [p.row])

/-- What `pin` does with a view that is pinned already. -/
def repeatPin (rows : List ObserverPinRow) (r : PinRequest) (existing : ObserverPinRow) :
    Result (ObserverPin × List ObserverPinRow) := do
  let pinned ← existing.toPin conversions
  raiseIf (¬(pinned.statementSha256 = r.statement.statementSha256 ∧
      pinned.publicationSha256 = r.statement.payload.publicationSha256 ∧
      pinned.checkpointHash = r.statement.payload.checkpointHash))
    ⟨.valueError, "observer already pinned a conflicting view for this witness/election/sequence"⟩
  return (pinned, rows)

/-- What `pin` does with a view that is not. -/
def extendPins (rows : List ObserverPinRow) (r : PinRequest) : Result (ObserverPin × List ObserverPinRow) := do
  let latest := ((rows.filter (·.stream = r.stream)).map (·.checkpointSequence)).max?
  raiseIf (∃ sequence ∈ latest, r.statement.payload.checkpointSequence.1 ≤ sequence)
    ⟨.valueError, "observer pins must advance checkpoint sequence monotonically"⟩
  insertPin rows (newPin sha256 rows r)

/-- `ObserverPinStore.pin` -/
def pin (rows : List ObserverPinRow) (r : PinRequest) : Result (ObserverPin × List ObserverPinRow) := do
  checkPinRequest lowering sha256 ed25519 r
  raiseIf (integerLimit ≤ r.statement.payload.checkpointSequence.1)
    ⟨.overflowError, "Python int too large to convert to SQLite INTEGER"⟩
  match rows.find? (·.view = r.view) with
  | some existing => repeatPin conversions rows r existing
  | none => extendPins sha256 rows r

/-- The fields of a pin are those of its statement. -/
def ObserverPin.matchesStatement (p : ObserverPin) : Bool :=
  p.witnessKeySha256 = p.statement.witnessKeySha256 && p.electionId = p.statement.payload.electionId &&
    p.checkpointSequence = p.statement.payload.checkpointSequence.1 &&
    p.publicationSha256 = p.statement.payload.publicationSha256 &&
    p.checkpointHash = p.statement.payload.checkpointHash &&
    p.statementSha256 = p.statement.statementSha256

/-- The loop body of `verify_chain`. -/
def checkPin (expectedSequence : Nat) (previous : Option Digest) (heads : PinStream → Option Nat)
    (p : ObserverPin) : Result Unit := do
  raiseIf (p.sequence ≠ expectedSequence) ⟨.valueError, "observer pin sequence is invalid"⟩
  raiseIf (p.previousPinHash ≠ previous) ⟨.valueError, "observer pin predecessor hash is invalid"⟩
  raiseIf ((verifyWitnessStatement lowering sha256 ed25519 p.statement
      (some [p.witnessKeySha256.hex])).valid = false)
    ⟨.valueError, "observer pin contains an invalid witness statement"⟩
  raiseIf (p.matchesStatement = false)
    ⟨.valueError, "observer pin fields do not match the witness statement"⟩
  raiseIf (∃ prior ∈ heads p.stream, p.checkpointSequence ≤ prior)
    ⟨.valueError, "observer pin checkpoint sequence is not monotonic"⟩
  raiseIf (hashRecord sha256 (p.json previous) ≠ p.pinHash) ⟨.valueError, "observer pin hash is invalid"⟩

/-- The loop of `verify_chain`, whose errors are all ValueErrors. -/
def checkPins (checked : Nat) (previous : Option Digest) (heads : PinStream → Option Nat) :
    List ObserverPin → ObserverPinChainVerification
  | [] => ⟨true, checked, previous, none⟩
  | p :: rest =>
    match checkPin lowering sha256 ed25519 (checked + 1) previous heads p with
    | .error error => ⟨false, checked, previous, some error.describe⟩
    | .ok () => checkPins (checked + 1) (some p.pinHash)
        (Function.update heads p.stream (some p.checkpointSequence)) rest

/-- `ObserverPinStore.verify_chain` -/
def verifyPins (rows : List ObserverPinRow) : Result ObserverPinChainVerification := do
  let pins ← observerPins conversions rows
  return checkPins lowering sha256 ed25519 0 none (fun _ => none) pins

end

section
variable {Key : Type} {conversions : Conversions} {lowering : Lowering} {sha256 : Bytes → Digest}
  {ed25519 : Ed25519 Key}

/-- What `verify_chain` looks at in a pin. -/
def pinLog (sha256 : Bytes → Digest) : Log ObserverPin Digest where
  version := (·.sequence)
  previous := (·.previousPinHash)
  hash := (·.pinHash)
  expected p := hashRecord sha256 (p.json p.previousPinHash)

/-- A pin that states what its statement states, and whose statement is right. -/
structure ObserverPin.Bound (conversions : Conversions) (sha256 : Bytes → Digest) (ed25519 : Ed25519 Key)
    (p : ObserverPin) : Prop where
  fields : p.matchesStatement = true
  sound : p.statement.Sound sha256 ed25519
  built : p.statement.Built conversions

theorem matchesStatement_iff {p : ObserverPin} : p.matchesStatement = true ↔
    p.witnessKeySha256 = p.statement.witnessKeySha256 ∧ p.electionId = p.statement.payload.electionId ∧
      p.checkpointSequence = p.statement.payload.checkpointSequence.1 ∧
      p.publicationSha256 = p.statement.payload.publicationSha256 ∧
      p.checkpointHash = p.statement.payload.checkpointHash ∧
      p.statementSha256 = p.statement.statementSha256 := by
  simp [ObserverPin.matchesStatement, and_assoc]

theorem ObserverPin.Bound.positive {p : ObserverPin} (bound : p.Bound conversions sha256 ed25519) :
    1 ≤ p.checkpointSequence := by
  rw [(matchesStatement_iff.mp bound.fields).2.2.1]
  exact p.statement.payload.checkpointSequence.2.1

/-- The pins of a table, and what holds of them. -/
structure PinChain (conversions : Conversions) (sha256 : Bytes → Digest) (ed25519 : Ed25519 Key)
    (rows : List ObserverPinRow) (pins : List ObserverPin) : Prop where
  rows : rows = pins.map ObserverPin.row
  bound : ∀ p ∈ pins, ObserverPin.Bound conversions sha256 ed25519 p
  numbered : (pinLog sha256).Numbered pins
  linked : (pinLog sha256).Linked none pins
  ascending : pins.Pairwise fun a b => a.stream = b.stream → a.checkpointSequence < b.checkpointSequence

theorem toPin_row (stable : conversions.Stable) {p : ObserverPin}
    (bound : p.Bound conversions sha256 ed25519) (positive : 1 ≤ p.sequence) :
    p.row.toPin conversions = .ok p := by
  have read : SignedWitnessStatement.modelValidate conversions p.row.statement = .ok p.statement :=
    readStatement stable bound.built
  have checked : require (1 ≤ p.row.sequence ∧ 1 ≤ p.row.checkpointSequence)
      "Input should be greater than or equal to 1" = .ok () :=
    require_ok.mpr ⟨positive, bound.positive⟩
  rw [ObserverPinRow.toPin, read, ok_bind, checked, ok_bind]
  rfl

namespace PinChain
variable {rows : List ObserverPinRow} {pins : List ObserverPin}

theorem read (chain : PinChain conversions sha256 ed25519 rows pins) (stable : conversions.Stable) :
    observerPins conversions rows = .ok pins := by
  rw [observerPins, chain.rows]
  refine mapM_map_back fun p member => toPin_row stable (chain.bound p member) ?_
  obtain ⟨front, rest, rfl⟩ := List.append_of_mem member
  have number : p.sequence = front.length + 1 := chain.numbered.at
  omega

end PinChain

/-- What the checks of one pin establish. -/
theorem checkPin_ok {p : ObserverPin} :
    checkPin lowering sha256 ed25519 number previous heads p = .ok () ↔
      p.sequence = number ∧ p.previousPinHash = previous ∧
      (p.statement.Sound sha256 ed25519 ∧
        TrustsWitness lowering [p.witnessKeySha256.hex] p.statement.witnessKeySha256) ∧
      p.matchesStatement = true ∧
      (∀ prior ∈ heads p.stream, prior < p.checkpointSequence) ∧
      hashRecord sha256 (p.json previous) = p.pinHash := by
  rw [← verifyWitnessStatement_valid]
  simp only [checkPin, bind_eq_ok, raiseIf_ok, ne_eq, not_not, not_exists, not_and, not_le,
    Bool.not_eq_false, exists_const]

/-- From the pins in front on, the loop passes every pin. -/
theorem checkPins_rest (bound : ∀ p ∈ front ++ rest, ObserverPin.Bound conversions sha256 ed25519 p)
    (numbered : (pinLog sha256).Numbered (front ++ rest))
    (linked : (pinLog sha256).Linked none (front ++ rest))
    (ascending : (front ++ rest).Pairwise fun a b =>
      a.stream = b.stream → a.checkpointSequence < b.checkpointSequence)
    (seen : ∀ s n, heads s = some n → ∃ p ∈ front, p.stream = s ∧ p.checkpointSequence = n) :
    checkPins lowering sha256 ed25519 front.length ((pinLog sha256).head none front) heads rest =
      ⟨true, (front ++ rest).length, (pinLog sha256).head none (front ++ rest), none⟩ := by
  induction rest generalizing front heads with
  | nil => simp [checkPins]
  | cons p rest ih =>
    have facts := bound p (by simp)
    have fields := matchesStatement_iff.mp facts.fields
    obtain ⟨previous, hash⟩ := linked.at
    have passes : checkPin lowering sha256 ed25519 (front.length + 1) ((pinLog sha256).head none front)
        heads p = .ok () := by
      refine checkPin_ok.mpr ⟨numbered.at, previous, ⟨facts.sound, ?_⟩, facts.fields, ?_, ?_⟩
      · rw [fields.1]
        exact trustsWitness_self lowering _
      · intro prior held
        obtain ⟨q, member, same, rfl⟩ := seen _ _ held
        exact (List.pairwise_append.mp ascending).2.2 q member p List.mem_cons_self same
      · rw [← previous]
        exact hash.symm
    have split : front ++ p :: rest = (front ++ [p]) ++ rest := by simp
    rw [split] at bound numbered linked ascending ⊢
    rw [checkPins, passes]
    have head : (pinLog sha256).head none (front ++ [p]) = some p.pinHash := Log.head_snoc
    have seen' : ∀ s n, Function.update heads p.stream (some p.checkpointSequence) s = some n →
        ∃ q ∈ front ++ [p], q.stream = s ∧ q.checkpointSequence = n := by
      intro s n held
      by_cases same : s = p.stream
      · subst same
        rw [Function.update_self] at held
        exact ⟨p, by simp, rfl, Option.some.inj held⟩
      · rw [Function.update_of_ne same] at held
        obtain ⟨q, member, found⟩ := seen s n held
        exact ⟨q, List.mem_append_left _ member, found⟩
    have after := ih bound numbered linked ascending seen'
    rw [head, List.length_append, List.length_singleton] at after
    exact after

namespace PinChain
variable {rows : List ObserverPinRow} {pins : List ObserverPin}

theorem verified (chain : PinChain conversions sha256 ed25519 rows pins) (stable : conversions.Stable) :
    verifyPins conversions lowering sha256 ed25519 rows =
      .ok ⟨true, rows.length, rows.getLast?.map (·.pinHash), none⟩ := by
  have loop : checkPins lowering sha256 ed25519 ([] : List ObserverPin).length none (fun _ => none) pins =
      ⟨true, pins.length, (pinLog sha256).head none pins, none⟩ :=
    checkPins_rest chain.bound chain.numbered chain.linked chain.ascending (by simp)
  rw [verifyPins, chain.read stable, ok_bind]
  have head : rows.getLast?.map (·.pinHash) = (pinLog sha256).head none pins := by
    rw [Log.head_eq_getLast, chain.rows, List.getLast?_map, Option.map_map]
    rfl
  have size : rows.length = pins.length := by rw [chain.rows, List.length_map]
  rw [head, size]
  exact congrArg Except.ok loop

end PinChain

/-- A view that nobody has pinned, ahead of its stream. -/
structure Extends (sha256 : Bytes → Digest) (rows : List ObserverPinRow) (r : PinRequest) : Prop where
  ahead : ∀ row ∈ rows, row.stream = r.stream →
    row.checkpointSequence < r.statement.payload.checkpointSequence.1
  fresh : ∀ row ∈ rows, row.pinHash ≠ (newPin sha256 rows r).pinHash

theorem repeatPin_ok (h : repeatPin conversions rows r existing = .ok (p, next)) : next = rows := by
  obtain ⟨pinned, -, h⟩ := bind_ok h
  obtain ⟨-, -, h⟩ := bind_ok h
  cases h
  rfl

theorem extendPins_ok (h : extendPins sha256 rows r = .ok (p, next)) :
    Extends sha256 rows r ∧ p = newPin sha256 rows r ∧ next = rows ++ [p.row] := by
  obtain ⟨_, advances, h⟩ := bind_ok h
  obtain ⟨_, _, h⟩ := bind_ok h
  obtain ⟨_, unique, h⟩ := bind_ok h
  cases h
  rw [raiseIf_ok] at advances unique
  refine ⟨⟨?_, ?_⟩, rfl, rfl⟩
  · intro row member same
    by_contra behind
    have listed : row.checkpointSequence ∈ (rows.filter (·.stream = r.stream)).map (·.checkpointSequence) :=
      List.mem_map_of_mem (List.mem_filter.mpr ⟨member, decide_eq_true same⟩)
    cases latest : ((rows.filter (·.stream = r.stream)).map (·.checkpointSequence)).max? with
    | none =>
      rw [List.max?_eq_none_iff.mp latest] at listed
      cases listed
    | some top =>
      have below := (List.max?_eq_some_iff.mp latest).2 _ listed
      exact advances ⟨top, latest, (not_lt.mp behind).trans below⟩
  · intro row member same
    exact unique ⟨row, member, .inr (.inl same)⟩

/-- A call that succeeds finds its view pinned, or pins it at the end. -/
theorem pin_ok (h : pin conversions lowering sha256 ed25519 rows r = .ok (p, next)) :
    (next = rows ∧ ∃ row ∈ rows, row.view = r.view) ∨
      (∀ row ∈ rows, row.view ≠ r.view) ∧ checkPinRequest lowering sha256 ed25519 r = .ok () ∧
        Extends sha256 rows r ∧ p = newPin sha256 rows r ∧ next = rows ++ [p.row] := by
  obtain ⟨u, checked, h⟩ := bind_ok h
  obtain ⟨-, -, h⟩ := bind_ok h
  cases found : rows.find? (·.view = r.view) with
  | some existing =>
    rw [found] at h
    refine .inl ⟨repeatPin_ok h, existing, List.mem_of_find?_eq_some found, ?_⟩
    simpa using List.find?_some found
  | none =>
    rw [found] at h
    refine .inr ⟨?_, checked, extendPins_ok h⟩
    simpa using List.find?_eq_none.mp found

theorem checkPinRequest_sound (h : checkPinRequest lowering sha256 ed25519 r = .ok ()) :
    r.statement.Sound sha256 ed25519 := by
  obtain ⟨-, -, h⟩ := bind_ok h
  dsimp only at h
  split at h
  next valid => exact (verifyWitnessStatement_valid.mp valid).1
  next =>
    split at h
    · cases h
    · cases h

namespace PinChain
variable {rows : List ObserverPinRow} {pins : List ObserverPin}

theorem nil : PinChain conversions sha256 ed25519 [] [] := ⟨rfl, by simp, rfl, trivial, .nil⟩

theorem snoc (chain : PinChain conversions sha256 ed25519 rows pins)
    (built : r.statement.Built conversions) (sound : r.statement.Sound sha256 ed25519)
    (ahead : Extends sha256 rows r) :
    PinChain conversions sha256 ed25519 (rows ++ [(newPin sha256 rows r).row])
      (pins ++ [newPin sha256 rows r]) := by
  have number : (newPin sha256 rows r).sequence = pins.length + 1 := by
    rw [← chain.numbered.next_eq]
    change (rows.getLast?.map (·.sequence + 1)).getD 1 = _
    rw [chain.rows, List.getLast?_map, Option.map_map]
    rfl
  have previous : (newPin sha256 rows r).previousPinHash = (pinLog sha256).head none pins := by
    change rows.getLast?.map (·.pinHash) = _
    rw [Log.head_eq_getLast, chain.rows, List.getLast?_map, Option.map_map]
    rfl
  refine ⟨?_, ?_, chain.numbered.snoc number, chain.linked.snoc previous rfl, ?_⟩
  · rw [List.map_append, chain.rows]
    rfl
  · intro p member
    rcases List.mem_append.mp member with old | new
    · exact chain.bound p old
    · rw [List.mem_singleton.mp new]
      exact ⟨matchesStatement_iff.mpr ⟨rfl, rfl, rfl, rfl, rfl, rfl⟩, sound, built⟩
  · refine List.pairwise_append.mpr ⟨chain.ascending, List.pairwise_singleton _ _, ?_⟩
    intro p member q last same
    rw [List.mem_singleton.mp last] at same ⊢
    refine ahead.ahead p.row ?_ same
    rw [chain.rows]
    exact List.mem_map_of_mem member

end PinChain

/-- Every run of calls of `pin` leaves a chain. -/
theorem run_pinChain {requests : List PinRequest} (built : ∀ r ∈ requests, r.statement.Built conversions) :
    ∃ pins, PinChain conversions sha256 ed25519
      (Requests.run (pin conversions lowering sha256 ed25519) [] requests) pins := by
  have meets : Requests.Meets (pin conversions lowering sha256 ed25519)
      (fun _ r => r.statement.Built conversions) [] requests :=
    Requests.Meets.of_forall fun r member _ => built r member
  have kept (rows : List ObserverPinRow) (r : PinRequest) (p : ObserverPin) (next : List ObserverPinRow) :
      (∃ pins, PinChain conversions sha256 ed25519 rows pins) → r.statement.Built conversions →
      pin conversions lowering sha256 ed25519 rows r = .ok (p, next) →
      ∃ pins, PinChain conversions sha256 ed25519 next pins := by
    rintro ⟨pins, chain⟩ built served
    rcases pin_ok served with ⟨rfl, -⟩ | ⟨-, checked, ahead, rfl, rfl⟩
    · exact ⟨pins, chain⟩
    · exact ⟨_, chain.snoc built (checkPinRequest_sound checked) ahead⟩
  exact Requests.run_keeps kept ⟨[], .nil⟩ meets

/-- What holds of the table after each step. -/
structure PinsHeld (conversions : Conversions) (lowering : Lowering) (sha256 : Bytes → Digest)
    (ed25519 : Ed25519 Key) (rows : List ObserverPinRow) : Prop where
  verified : verifyPins conversions lowering sha256 ed25519 rows =
    .ok ⟨true, rows.length, rows.getLast?.map (·.pinHash), none⟩
  once : Sql.Unique (·.view) rows
  ascending : rows.Pairwise fun a b => a.stream = b.stream → a.checkpointSequence < b.checkpointSequence
  unmoved : ∀ r, (∃ error, pin conversions lowering sha256 ed25519 rows r = .error error) ∨
    (∃ row ∈ rows, row.view = r.view) →
    Requests.next (pin conversions lowering sha256 ed25519) rows r = rows

/-- Whatever statements are pinned by whom, in whatever order, the chain verifies, no view is pinned
twice, each stream advances, and a rejected or repeated call moves nothing. -/
theorem pins_held (stable : conversions.Stable) (requests : List PinRequest)
    (built : ∀ r ∈ requests, r.statement.Built conversions) :
    PinsHeld conversions lowering sha256 ed25519
      (Requests.run (pin conversions lowering sha256 ed25519) [] requests) := by
  obtain ⟨pins, chain⟩ := @run_pinChain Key conversions lowering sha256 ed25519 requests built
  have ascending : (Requests.run (pin conversions lowering sha256 ed25519) [] requests).Pairwise
      fun a b => a.stream = b.stream → a.checkpointSequence < b.checkpointSequence := by
    rw [chain.rows, List.pairwise_map]
    exact chain.ascending
  refine ⟨chain.verified stable, ?_, ascending, ?_⟩
  · unfold Sql.Unique
    rw [List.nodup_iff_pairwise_ne, List.pairwise_map]
    refine ascending.imp fun below same => ?_
    obtain ⟨stream, sequence⟩ := Prod.mk.inj same
    exact absurd (below stream) (by rw [sequence]; exact lt_irrefl _)
  · rintro r (⟨error, rejected⟩ | ⟨row, member, same⟩)
    · exact Requests.next_error rejected
    · cases served : pin conversions lowering sha256 ed25519
          (Requests.run (pin conversions lowering sha256 ed25519) [] requests) r with
      | error e => exact Requests.next_error served
      | ok answer =>
        obtain ⟨p, next⟩ := answer
        rw [Requests.next_ok served]
        rcases pin_ok served with ⟨kept, -⟩ | ⟨free, -⟩
        · exact kept
        · exact absurd same (free row member)

end

def samplePayload (sequence : PositiveInt) : WitnessPayload where
  witnessId := ⟨"w", by decide⟩
  publicationSha256 := checksum [UInt8.ofNat sequence.1]
  releaseId := "r"
  electionId := "e"
  manifestSha256 := checksum [0]
  checkpointHash := checksum [1, UInt8.ofNat sequence.1]
  checkpointSequence := sequence
  releaseKeyTransparencyHeadEventHash := checksum [2]
  observedAt := "t"

def sampleStatement (sequence : PositiveInt) : SignedWitnessStatement :=
  let key := mirrorEd25519.publicKey ()
  let statement : SignedWitnessStatement := {
    payload := samplePayload sequence
    publicKeyB64 := String.ofList (b64encode key)
    witnessKeySha256 := checksum key
    signatureB64 := String.ofList (b64encode (canonicalJsonBytes (samplePayload sequence).dict.toJson))
    statementSha256 := checksum [] }
  { statement with statementSha256 := hashRecord checksum statement.body }

def samplePin (sequence : PositiveInt) : PinRequest where
  statement := sampleStatement sequence
  observerId := "o"
  trustedWitnessSha256 := (checksum (mirrorEd25519.publicKey ())).hex
  now := .aware (Datetime.utc 0 Datetime.epoch_range)

theorem sampleStatement_sound (sequence : PositiveInt) :
    (sampleStatement sequence).Sound checksum mirrorEd25519 := by
  refine ⟨?_, by simp [statementHashValid, sampleStatement, SignedWitnessStatement.body]⟩
  have key : b64decode (sampleStatement sequence).publicKeyB64.toList = .ok (mirrorEd25519.publicKey ()) := by
    simp [sampleStatement]
  have signature : b64decode (sampleStatement sequence).signatureB64.toList =
      .ok (canonicalJsonBytes (samplePayload sequence).dict.toJson) := by
    simp [sampleStatement]
  rw [checkWitnessSignature, key, ok_bind, signature]
  simp [raiseIf, sampleStatement, mirrorEd25519]

theorem samplePin_checked (sequence : PositiveInt) :
    checkPinRequest asciiLowering checksum mirrorEd25519 (samplePin sequence) = .ok () := by
  have named : strip "o".toList ≠ [] := by decide +kernel
  have trusted : TrustsWitness asciiLowering [lower asciiLowering (samplePin sequence).trustedWitnessSha256]
      (samplePin sequence).statement.witnessKeySha256 := by
    have self := trustsWitness_self asciiLowering (checksum (mirrorEd25519.publicKey ()))
    rwa [← lower_hex asciiLowering] at self
  have valid := verifyWitnessStatement_valid.mpr ⟨sampleStatement_sound sequence, trusted⟩
  have observer : raiseIf (strip (samplePin sequence).observerId.toList = [])
      ⟨.valueError, "observer_id is required"⟩ = .ok () := if_neg named
  rw [checkPinRequest, observer, ok_bind]
  exact if_pos valid

/-- Two checkpoints of which the first is pinned on an empty table. -/
theorem samplePins_held :
    pin sampleConversions asciiLowering checksum mirrorEd25519 [] (samplePin ⟨1, by decide⟩) =
        .ok (newPin checksum [] (samplePin ⟨1, by decide⟩),
          [(newPin checksum [] (samplePin ⟨1, by decide⟩)).row]) ∧
      PinsHeld sampleConversions asciiLowering checksum mirrorEd25519
        (Requests.run (pin sampleConversions asciiLowering checksum mirrorEd25519) []
          [samplePin ⟨1, by decide⟩, samplePin ⟨2, by decide⟩, samplePin ⟨1, by decide⟩]) := by
  refine ⟨?_, pins_held ?_ _ ?_⟩
  · rw [pin, samplePin_checked, ok_bind]
    rfl
  · refine ⟨fun value text read => ?_, fun text url other read again => ?_⟩
    · rfl
    · exact (Option.some.inj again).symm
  · intro r member
    refine ⟨.str "t", ?_⟩
    simp only [List.mem_cons, List.not_mem_nil, or_false] at member
    rcases member with rfl | rfl | rfl <;> rfl

end BallotProof
