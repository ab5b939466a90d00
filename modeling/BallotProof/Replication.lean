import BallotProof.Quorum
import BallotProof.ReleaseRecords
import BallotProof.Transition
import Mathlib.Data.List.Sort
import Mathlib.Data.List.SplitOn

/-! The replicated immutable backend over put-if-absent replicas. A call fans out to one
replica after the other, each in a step of its own, and every reply may be lost before or
after it took effect. -/
namespace BallotProof
open Python

structure ImmutableObjectRef where
  path : String
  sha256 : Digest
  sizeBytes : Nat
  deriving DecidableEq

/-- `PurePosixPath(value).parts`, without the root of an absolute path -/
def posixParts (value : String) : List (List Char) :=
  (value.toList.splitOn '/').filter fun part => part ≠ [] ∧ part ≠ ['.']

/-- `PurePosixPath(value).as_posix()` of a relative path -/
def asPosix (parts : List (List Char)) : List Char :=
  if parts = [] then ['.'] else List.intercalate ['/'] parts

/-- `_normalize_relative_path`, and `_relative_path` with another subject in its message. -/
def normalizeRelativePath (subject value : String) : Result String :=
  let error : Error := ⟨.valueError, subject ++ " paths must be normalized relative POSIX paths"⟩
  let parts := posixParts value
  if value.toList.head? = some '/' ∨ ['.', '.'] ∈ parts then .error error
  else if '\\' ∈ value.toList ∨ asPosix parts ≠ value.toList then .error error
  else .ok value

section
variable (sha256 : Bytes → Digest)

/-- `_object_ref` -/
def objectRef (path : String) (data : Bytes) : ImmutableObjectRef := ⟨path, sha256 data, data.length⟩

/-- `FilesystemImmutablePublicationBackend.put_bytes`: the reply, and what is stored then. -/
def putBytes (stored : String → Option Bytes) (path : String) (data : Bytes) :
    Result ImmutableObjectRef × (String → Option Bytes) :=
  if data = [] then (.error ⟨.valueError, "immutable publication objects must not be empty"⟩, stored)
  else match normalizeRelativePath "publication" path with
  | .error e => (.error e, stored)
  | .ok path => match stored path with
    | some old =>
      if old ≠ data then (.error ⟨.fileExistsError, "immutable publication conflict: " ++ path⟩, stored)
      else (.ok (objectRef sha256 path data), stored)
    | none => (.ok (objectRef sha256 path data), Function.update stored path (some data))

/-- `FilesystemImmutablePublicationBackend.read_bytes` -/
def readBytes (stored : String → Option Bytes) (path : String) : Result Bytes :=
  match normalizeRelativePath "publication" path with
  | .error e => .error e
  | .ok path => match stored path with
    | none => .error ⟨.fileNotFoundError, path⟩
    | some data => .ok data

/-- `ReplicatedImmutablePublicationBackend`, as its constructor admits it. -/
structure ReplicatedBackend where
  replicas : List String
  minimumReplicas : Nat
  distinct : replicas.Nodup
  several : 2 ≤ replicas.length
  threshold : 1 ≤ minimumReplicas ∧ minimumReplicas ≤ replicas.length

/-- `__init__`; the names are the keys of a dict, so they are distinct. -/
def ReplicatedBackend.create (replicas : List String) (distinct : replicas.Nodup)
    (minimumReplicas : Option Int) : Result ReplicatedBackend :=
  if several : replicas.length < 2 then
    .error ⟨.valueError, "replicated publication requires at least two backends"⟩
  else if ∃ name ∈ replicas, name.toList.all Char.isWhitespace then
    .error ⟨.valueError, "replica names must not be empty"⟩
  else
    let minimum := minimumReplicas.getD replicas.length
    if threshold : 1 ≤ minimum ∧ minimum ≤ replicas.length then
      .ok ⟨replicas, minimum.toNat, distinct, by omega, by omega⟩
    else .error ⟨.valueError, "minimum_replicas must be between 1 and the replica count"⟩

/-- `", ".join(sorted(failures)) or "unknown"` -/
def failedNames (failures : List String) : String :=
  if failures = [] then "unknown" else ", ".intercalate (failures.insertionSort (· ≤ ·))

/-- The end of `put_bytes`, when every replica was tried. -/
def putResult (minimum : Nat) (path : String) (data : Bytes)
    (successes : List (String × ImmutableObjectRef)) (failures : List String) :
    Result ImmutableObjectRef := do
  raiseIf (successes.length < minimum) ⟨.runtimeError, "immutable publication reached " ++
    toString successes.length ++ "/" ++ toString minimum ++ " required replicas; failed: " ++
    failedNames failures⟩
  let path ← normalizeRelativePath "object-storage" path
  let expected := objectRef sha256 path data
  raiseIf (∃ success ∈ successes, success.2 ≠ expected)
    ⟨.valueError, "publication replicas returned inconsistent immutable references"⟩
  return expected

/-- The end of `read_bytes`, when every replica was tried. -/
def readResult (minimum : Nat) (values : List (String × Bytes)) (failures : List String) :
    Result Bytes :=
  if values.length < minimum then .error ⟨.runtimeError, "immutable publication readable from " ++
    toString values.length ++ "/" ++ toString minimum ++ " required replicas; failed: " ++
    failedNames failures⟩
  else if (values.map fun value => sha256 value.2).dedup.length ≠ 1 then
    .error ⟨.valueError, "immutable publication replicas diverged"⟩
  else match values with
    | [] => .error ⟨.runtimeError, "StopIteration"⟩
    | value :: _ => .ok value.2

end

/-- What the caller of a replica sees: its reply, or an error before or after it took effect. -/
inductive Reply where
  | received | lostBefore | lostAfter
  deriving DecidableEq

/-- A put that returned, with the replicas that confirmed it. -/
structure PutRecord where
  path : String
  data : Bytes
  confirmed : List String
  deriving DecidableEq

/-- A read that ended: the puts that had returned and what each replica stored when it
began, the replicas that replied, and what they replied. -/
structure ReadRecord where
  path : String
  after : List PutRecord
  storedBefore : String → Option Bytes
  reached : List String
  values : List (String × Bytes)
  result : Result Bytes

inductive ReplicatedCall where
  | putting (path : String) (data : Bytes) (remaining : List String)
      (successes : List (String × ImmutableObjectRef)) (failures : List String)
  | reading (path : String) (after : List PutRecord) (storedBefore : String → Option Bytes)
      (remaining reached : List String) (values : List (String × Bytes)) (failures : List String)

/-- `puts` and `reads` are history: the calls that ended, in order. -/
structure ReplicationState where
  stored : String → String → Option Bytes
  calls : Nat → Option ReplicatedCall
  puts : List PutRecord
  reads : List ReadRecord

inductive ReplicationAction where
  | put (call : Nat) (path : String) (data : Bytes)
  | putReplica (call : Nat) (reply : Reply)
  | putReturn (call : Nat)
  | read (call : Nat) (path : String)
  | readReplica (call : Nat) (replies : Bool)
  | readReturn (call : Nat)
  | abort (call : Nat)

namespace ReplicationState

def initial : ReplicationState := ⟨fun _ _ => none, fun _ => none, [], []⟩

def setCall (s : ReplicationState) (call : Nat) (next : Option ReplicatedCall) : ReplicationState :=
  { s with calls := Function.update s.calls call next }

theorem setCall_calls {s : ReplicationState} (h : (s.setCall call next).calls other = some found) :
    s.calls other = some found ∨ next = some found := by
  by_cases same : other = call
  · subst same
    exact .inr (by simpa [setCall] using h)
  · exact .inl (by simpa [setCall, same] using h)

end ReplicationState

section
variable (sha256 : Bytes → Digest) (backend : ReplicatedBackend)

def replicationStep (s : ReplicationState) : ReplicationAction → Option ReplicationState
  | .put call path data =>
    match s.calls call with
    | none => some (s.setCall call (some (.putting path data backend.replicas [] [])))
    | some _ => none
  | .putReplica call reply =>
    match s.calls call with
    | some (.putting path data (name :: remaining) successes failures) =>
      let (result, stored) := putBytes sha256 (s.stored name) path data
      let after := { s with stored := Function.update s.stored name stored }
      match reply, result with
      | .lostBefore, _ =>
        some (s.setCall call (some (.putting path data remaining successes (failures ++ [name]))))
      | .received, .ok reference => some (after.setCall call
          (some (.putting path data remaining (successes ++ [(name, reference)]) failures)))
      | _, _ => some (after.setCall call
          (some (.putting path data remaining successes (failures ++ [name]))))
    | _ => none
  | .putReturn call =>
    match s.calls call with
    | some (.putting path data [] successes failures) =>
      match putResult sha256 backend.minimumReplicas path data successes failures with
      | .ok _ =>
        let ended : PutRecord := ⟨path, data, successes.map Prod.fst⟩
        some ({ s with puts := s.puts ++ [ended] }.setCall call none)
      | .error _ => some (s.setCall call none)
    | _ => none
  | .read call path =>
    match s.calls call with
    | none => some (s.setCall call
        (some (.reading path s.puts (fun name => s.stored name path) backend.replicas [] [] [])))
    | some _ => none
  | .readReplica call replies =>
    match s.calls call with
    | some (.reading path after storedBefore (name :: remaining) reached values failures) =>
      let next := match replies, readBytes (s.stored name) path with
        | true, .ok value =>
          ReplicatedCall.reading path after storedBefore remaining (reached ++ [name])
            (values ++ [(name, value)]) failures
        | true, .error _ =>
          .reading path after storedBefore remaining (reached ++ [name]) values (failures ++ [name])
        | false, _ =>
          .reading path after storedBefore remaining reached values (failures ++ [name])
      some (s.setCall call (some next))
    | _ => none
  | .readReturn call =>
    match s.calls call with
    | some (.reading path after storedBefore [] reached values failures) =>
      let result := readResult sha256 backend.minimumReplicas values failures
      let ended : ReadRecord := ⟨path, after, storedBefore, reached, values, result⟩
      some ({ s with reads := s.reads ++ [ended] }.setCall call none)
    | _ => none
  | .abort call => some (s.setCall call none)

end

end BallotProof
