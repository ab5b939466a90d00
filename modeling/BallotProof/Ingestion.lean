import BallotProof.Files
import BallotProof.Transport

/-! Bounded ingestion: a stream is read chunk by chunk, hashed and counted on the way, into a temporary
file that becomes a content-addressed object, or into memory. -/
namespace BallotProof
open Python Files Process

/-- A size is within a limit, if there is one. -/
def Fits (limit : Option Int) (size : Nat) : Prop := ∀ bound, limit = some bound → (size : Int) ≤ bound

instance : Decidable (Fits limit size) :=
  match limit with
  | none => isTrue nofun
  | some bound => decidable_of_iff ((size : Int) ≤ bound) ⟨fun h _ same => Option.some.inj same ▸ h, fun h => h _ rfl⟩

/-- `objects / sha256[:2] / sha256[2:4] / sha256` -/
def objectPath (objects : Path) (sha256 : Digest) : Path :=
  objects ++ [String.ofList (sha256.hex.toList.take 2), String.ofList ((sha256.hex.toList.drop 2).take 2), sha256.hex]

/-- The loop that fills a temporary file: the size, and what the hash was fed with. -/
def receive (temp : Path) (limit : Option Int) (tooLarge : Error) :
    List Bytes → Nat → Bytes → Process (Nat × Bytes)
  | [], size, fed => return (size, fed)
  | chunk :: chunks, size, fed =>
    if chunk = [] then return (size, fed)
    else do
      let size := size + chunk.length
      lift (raiseIf (¬Fits limit size) tooLarge)
      writeBytes temp chunk
      receive temp limit tooLarge chunks size (fed ++ chunk)

/-- The full temporary file becomes the object, or goes away where the object is there. -/
def settle (temp finalPath : Path) : Process Unit := do
  makeDirectories finalPath.dropLast
  if ← pathExists finalPath then unlink temp
  else replaceWith temp finalPath

/-- A `StoredArtifact`, and what `capture` keeps of an object. -/
structure ReceivedObject where
  sha256 : Digest
  sizeBytes : Nat
  path : Path
  deriving DecidableEq

section
variable (sha256 : Bytes → Digest)

/-- What `put_artifact` and `capture` do with a stream, up to their `finally`. -/
def receiveObject (temp objects : Path) (limit : Option Int) (tooLarge empty : Error) (chunks : List Bytes) :
    Process ReceivedObject := do
  createNew temp
  let (size, fed) ← receive temp limit tooLarge chunks 0 []
  lift (raiseIf (size = 0) empty)
  let finalPath := objectPath objects (sha256 fed)
  settle temp finalPath
  return ⟨sha256 fed, size, finalPath⟩

/-- `EvidenceStore.put_artifact` -/
def putArtifact (root : Path) (uuid : String) (chunks : List Bytes) (maxBytes : Option Int) :
    Process ReceivedObject :=
  let temp := root ++ [".incoming-" ++ uuid]
  ensuring (receiveObject sha256 temp (root ++ ["objects"]) maxBytes
    ⟨.valueError, "Evidence artifact exceeds " ++ toString (maxBytes.getD 0) ++ " byte limit"⟩
    ⟨.valueError, "Evidence artifact is empty"⟩ chunks) (unlinkIfThere temp)

end

theorem Fits.mono (fits : Fits limit large) (smaller : small ≤ large) : Fits limit small :=
  fun bound same => (Int.ofNat_le.mpr smaller).trans (fits bound same)

/-- Only the temporary file differs. -/
def OnlyAt (temp : Path) (fs k : FileSystem) : Prop := ∀ q, q ≠ temp → node k q = node fs q

theorem OnlyAt.trans (first : OnlyAt temp fs s) (second : OnlyAt temp s k) : OnlyAt temp fs k :=
  fun q other => (second q other).trans (first q other)

/-- The loop ends with all bytes, or raises at the chunk that crosses the limit. -/
theorem receive_runs {chunks : List Bytes} (filled : ∀ chunk ∈ chunks, chunk ≠ [])
    (there : node fs temp = some (.file fed)) :
    Runs (receive temp limit tooLarge chunks fed.length fed) fs (fun r fs' => OnlyAt temp fs fs' ∧
      (chunks = [] ∨ Fits limit (fed ++ chunks.flatten).length →
        r = .ok ((fed ++ chunks.flatten).length, fed ++ chunks.flatten) ∧
        node fs' temp = some (.file (fed ++ chunks.flatten))) ∧
      (¬(chunks = [] ∨ Fits limit (fed ++ chunks.flatten).length) →
        r = .error tooLarge ∧ ∃ part, node fs' temp = some (.file part)))
      fun _ => True := by
  induction chunks generalizing fs fed with
  | nil =>
    apply Runs.pure trivial
    refine ⟨fun _ _ => rfl, fun _ => ?_, fun beyond => absurd (.inl rfl) beyond⟩
    rw [List.flatten_nil, List.append_nil]
    exact ⟨rfl, there⟩
  | cons chunk chunks ih =>
    have flat : fed ++ (chunk :: chunks).flatten = (fed ++ chunk) ++ chunks.flatten := by
      rw [List.flatten_cons, List.append_assoc]
    rw [receive, if_neg (filled chunk List.mem_cons_self), flat, ← List.length_append]
    by_cases fits : Fits limit (fed ++ chunk).length
    · have passes : raiseIf (¬Fits limit (fed ++ chunk).length) tooLarge = .ok () :=
        raiseIf_ok.mpr (not_not.mpr fits)
      dsimp only
      rw [passes, lift_ok]
      apply Runs.bind (write_runs there fun _ _ _ _ => trivial)
      · rintro e s ⟨raised, -⟩
        cases raised
      · rintro - s ⟨-, written, only⟩
        apply (ih (fun other member => filled other (List.mem_cons_of_mem _ member)) written).mono _ fun _ => id
        rintro r k ⟨same, within, beyond⟩
        refine ⟨OnlyAt.trans only same, ?_, ?_⟩
        · rintro (none | total)
          · cases none
          · exact within (.inr total)
        · intro exceeded
          apply beyond
          rintro (rfl | total)
          · rw [List.flatten_nil, List.append_nil] at exceeded
            exact exceeded (.inr fits)
          · exact exceeded (.inr total)
    · have raises : raiseIf (¬Fits limit (fed ++ chunk).length) tooLarge = .error tooLarge := if_pos fits
      have ends : (lift (.error tooLarge) >>= fun _ : Unit => writeBytes temp chunk >>= fun _ =>
          receive temp limit tooLarge chunks (fed ++ chunk).length (fed ++ chunk)) fs = ([], .error tooLarge) := rfl
      dsimp only
      rw [raises]
      apply Runs.congr (q := lift (.error tooLarge)) ends
      apply Runs.lift trivial
      refine ⟨fun _ _ => rfl, ?_, fun _ => ⟨rfl, fed, there⟩⟩
      rintro (none | total)
      · cases none
      · refine absurd (total.mono ?_) fits
        simp

/-- A stream is accepted: it is not empty, and within the limit. -/
def Accepts (limit : Option Int) (data : Bytes) : Prop := 1 ≤ data.length ∧ Fits limit data.length

/-- What an accepted stream may add. -/
def AddedObject (path : Path) (data : Bytes) (q : Path) (content : Option Node) : Prop :=
  Ancestor path.dropLast q content ∨ q = path ∧ content = some (.file data)

theorem objectPath_parent (objects : Path) (digest : Digest) : ∃ a b,
    objectPath objects digest = objects ++ [a, b, digest.hex] ∧
      (objectPath objects digest).dropLast = objects ++ [a, b] := by
  refine ⟨_, _, rfl, ?_⟩
  rw [objectPath, List.dropLast_append_of_ne_nil (by simp)]
  rfl

section
variable {sha256 : Bytes → Digest} {temp objects : Path} {limit : Option Int} {chunks : List Bytes}

/-- The temporary file is full: it becomes the object, or the object was there. -/
theorem settle_runs {data : Bytes} {path : Path} (filled : node fs temp = some (.file data)) (long : path ≠ [])
    (clear : Unblocked fs path.dropLast) (apart : ¬temp <+: path) :
    Runs (settle temp path) fs
      (fun r fs' => r = .ok () ∧ node fs' temp = none ∧ node fs' path = some ((node fs path).getD (.file data)) ∧
        ∀ q, q ≠ temp → node fs' q = node fs q ∨ node fs q = none ∧ AddedObject path data q (node fs' q))
      fun _ => True := by
  have parentPrefix : path.dropLast <+: path := List.dropLast_prefix path
  apply Runs.bind ((makeDirectories_runs clear).mono (fun _ _ => id) fun _ _ => trivial)
  · rintro e s ⟨raised, -⟩
    cases raised
  · rintro - s ⟨-, made, parents⟩
    have samePath : node s path = node fs path := made.away fun ancestor => by
      have := ancestor.1.length_le
      have := List.length_pos_of_ne_nil long
      simp at *
      omega
    have sameTemp : node s temp = some (.file data) := made.kept filled
    have different : path ≠ temp := fun same => apart (same ▸ List.prefix_rfl)
    have answer : Runs (pathExists path) s (fun r fs' => r = .ok (node s path).isSome ∧ fs' = s)
      fun _ => True := Runs.read trivial ⟨rfl, rfl⟩
    apply Runs.bind answer
    · rintro e k ⟨raised, -⟩
      cases raised
    · rintro there k ⟨known, rfl⟩
      cases known
      cases found : node fs path with
      | none =>
        rw [samePath, found]
        apply (replaceWith_runs sameTemp (samePath.trans found) (parents _ List.prefix_rfl) trivial
          trivial).mono _ fun _ => id
        rintro r l ⟨done, moved⟩
        refine ⟨done, by rw [moved, if_pos rfl], by rw [moved, if_neg different, if_pos rfl]; rfl, ?_⟩
        intro q other
        rw [moved q, if_neg other]
        split
        · rename_i here
          exact .inr ⟨here ▸ found, .inr ⟨here, rfl⟩⟩
        · exact (made q).imp_right fun ⟨absent, added⟩ => ⟨absent, .inl added⟩
      | some content =>
        rw [samePath, found]
        apply (unlink_runs sameTemp trivial trivial).mono _ fun _ => id
        rintro r l ⟨done, removed⟩
        refine ⟨done, by rw [removed, if_pos rfl], by rw [removed, if_neg different, samePath, found]; rfl, ?_⟩
        intro q other
        rw [removed q, if_neg other]
        exact (made q).imp_right fun ⟨absent, added⟩ => ⟨absent, .inl added⟩

/-- Where a stream may be received: a new temporary file in a directory, and no file on the way to an object. -/
structure ReceivePlace (fs : FileSystem) (temp objects : Path) : Prop where
  inside : node fs temp.dropLast = some .directory
  fresh : node fs temp = none
  clear : ∀ digest, Unblocked fs (objectPath objects digest).dropLast
  apart : ∀ digest, ¬temp <+: objectPath objects digest

theorem receiveObject_runs (place : ReceivePlace fs temp objects) (filled : ∀ chunk ∈ chunks, chunk ≠ []) :
    Runs (receiveObject sha256 temp objects limit tooLarge empty chunks) fs (fun r fs' =>
      (Accepts limit chunks.flatten →
        r = .ok ⟨sha256 chunks.flatten, chunks.flatten.length, objectPath objects (sha256 chunks.flatten)⟩ ∧
        node fs' temp = none ∧
        node fs' (objectPath objects (sha256 chunks.flatten)) =
          some ((node fs (objectPath objects (sha256 chunks.flatten))).getD (.file chunks.flatten)) ∧
        Adds (AddedObject (objectPath objects (sha256 chunks.flatten)) chunks.flatten) fs fs') ∧
      (¬Accepts limit chunks.flatten →
        (r = .error tooLarge ∨ r = .error empty) ∧ OnlyAt temp fs fs' ∧
        ∃ part, node fs' temp = some (.file part))) fun _ => True := by
  apply Runs.bind (createNew_runs place.fresh place.inside trivial trivial)
  · rintro e s ⟨raised, -⟩
    cases raised
  rintro - s ⟨-, created⟩
  have there : node s temp = some (.file []) := by rw [created, if_pos rfl]
  have only : OnlyAt temp fs s := fun q other => by rw [created, if_neg other]
  have loop := @receive_runs s temp [] limit tooLarge chunks filled there
  rw [List.nil_append] at loop
  apply Runs.bind loop
  · rintro e k ⟨same, within, beyond⟩
    by_cases whole : chunks = [] ∨ Fits limit chunks.flatten.length
    · exact absurd (within whole).1 (by simp)
    · obtain ⟨raised, part, partial_⟩ := beyond whole
      cases raised
      refine ⟨fun accepts => absurd (.inr accepts.2) whole, fun _ => ⟨.inl rfl, only.trans same, part, partial_⟩⟩
  · rintro ⟨size, fed⟩ k ⟨same, within, beyond⟩
    by_cases whole : chunks = [] ∨ Fits limit chunks.flatten.length
    · obtain ⟨counted, full⟩ := within whole
      cases counted
      dsimp only
      by_cases none : chunks.flatten.length = 0
      · have raises : raiseIf (chunks.flatten.length = 0) empty = .error empty := if_pos none
        rw [raises]
        apply Runs.congr (q := lift (.error empty)) rfl
        apply Runs.lift trivial
        refine ⟨fun accepts => ?_, fun _ => ⟨.inr rfl, only.trans same, _, full⟩⟩
        have := accepts.1
        omega
      · have passes : raiseIf (chunks.flatten.length = 0) empty = .ok () := raiseIf_ok.mpr none
        have accepts : Accepts limit chunks.flatten := by
          refine ⟨Nat.pos_of_ne_zero none, whole.resolve_left ?_⟩
          rintro rfl
          exact none rfl
        rw [passes, lift_ok]
        have unchanged : OnlyAt temp fs k := only.trans same
        have clear : Unblocked k (objectPath objects (sha256 chunks.flatten)).dropLast := by
          intro q below data found
          have other : q ≠ temp := by
            rintro rfl
            exact place.apart _ (below.trans (List.dropLast_prefix _))
          rw [unchanged q other] at found
          exact place.clear _ q below data found
        have long : objectPath objects (sha256 chunks.flatten) ≠ [] := by simp [objectPath]
        have different : objectPath objects (sha256 chunks.flatten) ≠ temp := by
          intro equal
          apply place.apart (sha256 chunks.flatten)
          rw [equal]
        apply Runs.bind (settle_runs full long clear (place.apart _))
        · rintro e l ⟨raised, -⟩
          cases raised
        · rintro - l ⟨-, gone, object, others⟩
          apply Runs.pure trivial
          refine ⟨fun _ => ⟨rfl, gone, ?_, ?_⟩, fun rejected => absurd accepts rejected⟩
          · rw [object, unchanged _ different]
          · intro q
            by_cases here : q = temp
            · exact .inl (by rw [here, gone, place.fresh])
            · have := others q here
              rwa [unchanged q here] at this
    · exact absurd (beyond whole).1 (by simp)

/-- Without its temporary file the filesystem is the one before. -/
theorem unlink_restores (only : OnlyAt temp fs s) (left : node s temp = some (.file part))
    (fresh : node fs temp = none) :
    Runs (unlinkIfThere temp) s (fun r fs' => r = .ok () ∧ fs' = fs) fun _ => True := by
  apply (unlinkIfThere_runs left trivial trivial).mono _ fun _ => id
  rintro r k ⟨done, removed⟩
  refine ⟨done, ext_node fun q => ?_⟩
  rw [removed q]
  split
  · rename_i here
    rw [here, fresh]
  · rename_i other
    exact only q other

/-- An accepted stream is one object more; a rejected one leaves no trace. -/
theorem received_runs (place : ReceivePlace fs temp objects) (filled : ∀ chunk ∈ chunks, chunk ≠ []) :
    Runs (ensuring (receiveObject sha256 temp objects limit tooLarge empty chunks) (unlinkIfThere temp)) fs
      (fun r fs' =>
        (Accepts limit chunks.flatten →
          r = .ok ⟨sha256 chunks.flatten, chunks.flatten.length, objectPath objects (sha256 chunks.flatten)⟩ ∧
          node fs' (objectPath objects (sha256 chunks.flatten)) =
            some ((node fs (objectPath objects (sha256 chunks.flatten))).getD (.file chunks.flatten)) ∧
          Adds (AddedObject (objectPath objects (sha256 chunks.flatten)) chunks.flatten) fs fs') ∧
        (¬Accepts limit chunks.flatten → (r = .error tooLarge ∨ r = .error empty) ∧ fs' = fs)) fun _ => True := by
  apply Runs.ensuring (receiveObject_runs place filled)
  rintro r s ⟨accepted, rejected⟩
  by_cases accepts : Accepts limit chunks.flatten
  · obtain ⟨rfl, gone, object, adds⟩ := accepted accepts
    apply (unlinkIfThere_absent gone trivial).mono _ fun _ => id
    rintro r k ⟨rfl, rfl⟩
    exact ⟨fun _ => ⟨rfl, object, adds⟩, fun rejected => absurd accepts rejected⟩
  · obtain ⟨raised, only, part, left⟩ := rejected accepts
    apply (unlink_restores only left place.fresh).mono _ fun _ => id
    rintro r k ⟨rfl, restored⟩
    exact ⟨fun accepted => absurd accepted accepts, fun _ => ⟨raised, restored⟩⟩

end

/-- The directories of a store as its constructor leaves them: nothing but directories on the way to an
object, and the name of the next temporary file is new. -/
structure StoreReady (fs : FileSystem) (root temp objects : Path) : Prop where
  root : node fs root = some .directory
  fresh : node fs temp = none
  clear : ∀ digest, Unblocked fs (objectPath objects digest).dropLast

/-- The `mkdir` of a store's constructor, in a place that holds nothing yet. -/
theorem makeDirectories_ready {tempName objectsName : String} (apart : tempName ≠ objectsName)
    (clear : Unblocked fs (root ++ [objectsName])) (fresh : node fs (root ++ [tempName]) = none)
    (nothing : ∀ q, root ++ [objectsName] <+: q → q ≠ root ++ [objectsName] → node fs q = none) :
    StoreReady ((makeDirectories (root ++ [objectsName])).after fs) root (root ++ [tempName])
      (root ++ [objectsName]) := by
  obtain ⟨-, adds, made⟩ := (makeDirectories_runs clear).post
  refine ⟨made root (List.prefix_append root _), ?_, fun digest q below data there => ?_⟩
  · rw [adds.away]
    · exact fresh
    · rintro ⟨below, -⟩
      rw [List.prefix_append_right_inj] at below
      simp [apart] at below
  · rcases adds q with same | ⟨-, -, directory⟩
    · rw [same] at there
      obtain ⟨a, b, -, parent⟩ := objectPath_parent (root ++ [objectsName]) digest
      rw [parent] at below
      by_cases onTheWay : q <+: root ++ [objectsName]
      · exact clear q onTheWay data there
      · have deeper : root ++ [objectsName] <+: q :=
          (List.prefix_or_prefix_of_prefix below (List.prefix_append _ _)).resolve_left onTheWay
        have absent := nothing q deeper fun same => onTheWay (same ▸ List.prefix_rfl)
        rw [there] at absent
        cases absent
    · rw [there] at directory
      cases directory

theorem receivePlace {tempName objectsName : String} (apart : tempName ≠ objectsName)
    (ready : StoreReady fs root (root ++ [tempName]) (root ++ [objectsName])) :
    ReceivePlace fs (root ++ [tempName]) (root ++ [objectsName]) := by
  refine ⟨?_, ready.fresh, ready.clear, fun digest below => ?_⟩
  · rw [List.dropLast_concat]
    exact ready.root
  · obtain ⟨a, b, path, -⟩ := objectPath_parent (root ++ [objectsName]) digest
    rw [path, List.append_assoc, List.prefix_append_right_inj] at below
    simp [apart] at below

theorem dotted_ne (text : String) : ".incoming-" ++ text ≠ "objects" ∧ ".source-" ++ text ≠ "source_objects" := by
  constructor
  · intro same
    have := congrArg (fun s => s.toList.head?) same
    simp at this
  · intro same
    have := congrArg (fun s => s.toList.head?) same
    simp at this

theorem putArtifact_runs {sha256 : Bytes → Digest} {chunks : List Bytes} (filled : ∀ chunk ∈ chunks, chunk ≠ [])
    (ready : StoreReady fs root (root ++ [".incoming-" ++ uuid]) (root ++ ["objects"])) :
    Runs (putArtifact sha256 root uuid chunks maxBytes) fs (fun r fs' =>
      (Accepts maxBytes chunks.flatten →
        r = .ok ⟨sha256 chunks.flatten, chunks.flatten.length,
          objectPath (root ++ ["objects"]) (sha256 chunks.flatten)⟩ ∧
        node fs' (objectPath (root ++ ["objects"]) (sha256 chunks.flatten)) = some ((node fs
          (objectPath (root ++ ["objects"]) (sha256 chunks.flatten))).getD (.file chunks.flatten)) ∧
        Adds (AddedObject (objectPath (root ++ ["objects"]) (sha256 chunks.flatten)) chunks.flatten) fs fs') ∧
      (¬Accepts maxBytes chunks.flatten → (∃ e, r = .error e) ∧ fs' = fs)) fun _ => True := by
  apply (received_runs (receivePlace (dotted_ne uuid).1 ready) filled).mono _ fun _ => id
  rintro r fs' ⟨accepted, rejected⟩
  refine ⟨accepted, fun other => ⟨?_, (rejected other).2⟩⟩
  rcases (rejected other).1 with raised | raised <;> exact ⟨_, raised⟩

/-- No object stands on the way to another one. -/
theorem objects_clear {objects : Path} (clear : ∀ digest, Unblocked fs (objectPath objects digest).dropLast)
    (adds : Adds (AddedObject (objectPath objects stored) data) fs k) (digest : Digest) :
    Unblocked k (objectPath objects digest).dropLast := by
  intro q below content there
  rcases adds q with same | ⟨-, ⟨-, directory⟩ | ⟨isObject, -⟩⟩
  · exact clear digest q below content (same.symm.trans there)
  · rw [there] at directory
    cases directory
  · have short := below.length_le
    obtain ⟨a, b, path, -⟩ := objectPath_parent objects stored
    obtain ⟨c, d, -, parent⟩ := objectPath_parent objects digest
    rw [isObject, path, parent] at short
    simp at short

/-- A call leaves a store that is ready for the next one, once that has drawn a new name. -/
theorem putArtifact_ready {sha256 : Bytes → Digest} {chunks : List Bytes} (filled : ∀ chunk ∈ chunks, chunk ≠ [])
    (ready : StoreReady fs root (root ++ [".incoming-" ++ uuid]) (root ++ ["objects"]))
    (fresh : node ((putArtifact sha256 root uuid chunks maxBytes).after fs) temp = none) :
    StoreReady ((putArtifact sha256 root uuid chunks maxBytes).after fs) root temp (root ++ ["objects"]) := by
  obtain ⟨accepted, rejected⟩ := (@putArtifact_runs _ _ uuid maxBytes sha256 chunks filled ready).post
  by_cases accepts : Accepts maxBytes chunks.flatten
  · obtain ⟨-, -, adds⟩ := accepted accepts
    exact ⟨adds.kept ready.root, fresh, objects_clear ready.clear adds⟩
  · obtain ⟨-, same⟩ := rejected accepts
    rw [same] at fresh ⊢
    exact ⟨ready.root, fresh, ready.clear⟩

structure CaptureRequest where
  sourceId : String
  requestUrl : String
  requestMethod : String
  retrievedAt : Datetime
  statusCode : Nat
  mediaType : Option String
  etag : Option String
  lastModified : Option String
  attempt : Nat
  requestKey : Option String
  reservationId : Option String
  transportId : Option String
  transportVersion : Option String
  transportConfigHash : Option String
  transportProvenanceKind : Option String
  deriving DecidableEq

/-- A row of `source_receipts`: the receipt with all of its fields. -/
structure CapturedReceipt extends ProvenanceReceipt where
  provider : String
  requestMethod : String
  mediaType : Option String
  etag : Option String
  lastModified : Option String
  reservationId : Option String
  transportId : Option String
  transportVersion : Option String
  transportConfigHash : Option String
  transportProvenanceKind : Option String
  rawSha256 : Digest
  rawSizeBytes : Nat
  policyStatus : SourceAccessStatus
  policySnapshotHash : String
  deriving DecidableEq

structure CapturedResponse where
  receipt : CapturedReceipt
  objectPath : Path
  deriving DecidableEq

/-- The checks at the head of `capture`. -/
def captureChecks (policy : SourcePolicy) (request : CaptureRequest) (policySnapshotHash : Option String) :
    Result Unit := do
  raiseIf (policy.sourceId ≠ request.sourceId)
    ⟨.valueError, "request source_id does not match policy source_id"⟩
  raiseIf (policy.accessStatus = .prohibited) ⟨.permissionError, "source policy prohibits capture"⟩
  raiseIf (policy.maxAttempts < request.attempt)
    ⟨.valueError, "request attempt exceeds source policy max_attempts"⟩
  raiseIf (policy.captureRawResponse = false)
    ⟨.valueError, "source policy requires raw-response capture to remain enabled"⟩
  raiseIf (policySnapshotHash.any fun hash => !isHash hash)
    ⟨.valueError, "policy_snapshot_hash must be a lowercase SHA-256 hex digest"⟩

/-- The INSERT, whose key is the receipt's id. -/
def insertReceipt (rows : List CapturedReceipt) (receipt : CapturedReceipt) (objectPath : Path) :
    Result CapturedResponse × List CapturedReceipt :=
  if rows.any (·.receiptId = receipt.receiptId) then
    (.error ⟨.integrityError, "UNIQUE constraint failed: source_receipts.receipt_id"⟩, rows)
  else (.ok ⟨receipt, objectPath⟩, rows ++ [receipt])

section
variable (sha256 : Bytes → Digest) (policyJson : SourcePolicy → Bytes) (upper : String → String)

def captureReceipt (policy : SourcePolicy) (request : CaptureRequest) (policySnapshotHash : Option String)
    (receiptUuid : String) (storedAt : Datetime) (object : ReceivedObject) : CapturedReceipt where
  receiptId := "bp_src_" ++ receiptUuid
  sourceId := policy.sourceId
  provider := policy.provider
  requestUrl := request.requestUrl
  requestMethod := upper request.requestMethod
  retrievedAt := request.retrievedAt
  statusCode := request.statusCode
  mediaType := request.mediaType
  etag := request.etag
  lastModified := request.lastModified
  attempt := request.attempt
  requestKey := request.requestKey
  reservationId := request.reservationId
  transportId := request.transportId
  transportVersion := request.transportVersion
  transportConfigHash := request.transportConfigHash
  transportProvenanceKind := request.transportProvenanceKind
  rawSha256 := object.sha256
  rawSizeBytes := object.sizeBytes
  policyStatus := policy.accessStatus
  policySnapshotHash := policySnapshotHash.getD (sha256 (policyJson policy)).hex
  storedAt := storedAt

/-- What `capture` draws, and the time that it samples. -/
structure CaptureDraws where
  uuid : String
  receiptUuid : String
  storedAt : Datetime

/-- `SourceCaptureStore.capture`, and the files and the rows that it leaves. -/
def capture (root : Path) (draws : CaptureDraws) (chunks : List Bytes) (policy : SourcePolicy)
    (request : CaptureRequest) (policySnapshotHash : Option String) (maxBytes : Int) (fs : FileSystem)
    (rows : List CapturedReceipt) : Result CapturedResponse × FileSystem × List CapturedReceipt :=
  match captureChecks policy request policySnapshotHash with
  | .error e => (.error e, fs, rows)
  | .ok () =>
    let effectiveMaxBytes := min maxBytes policy.maxResponseBytes
    let temp := root ++ [".source-" ++ draws.uuid]
    let received := receiveObject sha256 temp (root ++ ["source_objects"]) (some effectiveMaxBytes)
      ⟨.valueError, "source response exceeds " ++ toString effectiveMaxBytes ++ " byte limit"⟩
      ⟨.valueError, "source response is empty"⟩ chunks
    let inserted : Result CapturedResponse × List CapturedReceipt := match received.result fs with
      | .error e => (.error e, rows)
      | .ok object => insertReceipt rows (captureReceipt sha256 policyJson upper policy request
          policySnapshotHash draws.receiptUuid draws.storedAt object) object.path
    let cleanup := unlinkIfThere temp
    ((cleanup.result (received.after fs)).bind fun _ => inserted.1, cleanup.after (received.after fs), inserted.2)

variable {sha256 policyJson upper}

end

end BallotProof
