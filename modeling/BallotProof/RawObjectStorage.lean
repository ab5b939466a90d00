import BallotProof.ImmutableFiles
import BallotProof.Ingestion
import BallotProof.PublicationPaths

/-! Raw objects in an immutable publication backend: a stream is buffered within its limit, stored under
the path of its digest, and read back. -/
namespace BallotProof
open Python Files Process

inductive RawObjectKind where
  | evidence | source
  deriving DecidableEq

def RawObjectKind.text : RawObjectKind → String
  | .evidence => "evidence"
  | .source => "source"

structure RawObjectRef where
  sha256 : Digest
  sizeBytes : Nat
  objectPath : String
  deriving DecidableEq

/-- `sha256[:2]` and `sha256[2:4]` -/
def firstShard (sha256 : Digest) : String := String.ofList (sha256.hex.toList.take 2)
def secondShard (sha256 : Digest) : String := String.ofList ((sha256.hex.toList.drop 2).take 2)

def contentPath (kind : RawObjectKind) (sha256 : Digest) : String :=
  "raw/" ++ kind.text ++ "/" ++ firstShard sha256 ++ "/" ++ secondShard sha256 ++ "/" ++ sha256.hex

/-- The names in a content path. -/
def contentNames (kind : RawObjectKind) (sha256 : Digest) : List String :=
  ["raw", kind.text, firstShard sha256, secondShard sha256, sha256.hex]

/-- What the code uses of an `ImmutablePublicationBackend`, whose objects are the state. -/
structure ImmutableBackend (σ : Type) where
  putBytes : String → Bytes → σ → Result ImmutableObjectRef × σ
  readBytes : String → σ → Result Bytes

/-- The loop of `_read_bounded`: the size, what the hash was fed with, and the chunks. -/
def readChunks (maxBytes : Option Int) (tooLarge : Error) :
    List Bytes → Nat → Bytes → List Bytes → Result (Nat × Bytes × List Bytes)
  | [], size, fed, kept => .ok (size, fed, kept)
  | chunk :: chunks, size, fed, kept =>
    if chunk = [] then .ok (size, fed, kept)
    else do
      let size := size + chunk.length
      raiseIf (¬Fits maxBytes size) tooLarge
      readChunks maxBytes tooLarge chunks size (fed ++ chunk) (kept ++ [chunk])

section
variable (sha256 : Bytes → Digest)

/-- `_read_bounded` -/
def readBounded (chunks : List Bytes) (maxBytes : Option Int) : Result Bytes := do
  let (size, fed, kept) ← readChunks maxBytes
    ⟨.valueError, "Raw object exceeds " ++ toString (maxBytes.getD 0) ++ " byte limit"⟩ chunks 0 [] []
  raiseIf (size = 0) ⟨.valueError, "Raw object is empty"⟩
  let data := kept.flatten
  raiseIf (sha256 data ≠ sha256 fed) ⟨.runtimeError, "Raw object digest changed while buffering"⟩
  return data

/-- `ImmutableBackendRawObjectStore.put_stream` -/
def putStream (backend : ImmutableBackend σ) (kind : RawObjectKind) (chunks : List Bytes) (maxBytes : Option Int)
    (s : σ) : Result RawObjectRef × σ :=
  match readBounded sha256 chunks maxBytes with
  | .error e => (.error e, s)
  | .ok data =>
    let digest := sha256 data
    let relativePath := contentPath kind digest
    let put := backend.putBytes relativePath data s
    (do
      let stored ← put.1
      raiseIf (stored.sha256 ≠ digest ∨ stored.sizeBytes ≠ data.length)
        ⟨.valueError, "Raw-object backend returned an inconsistent immutable reference"⟩
      let verified ← backend.readBytes relativePath put.2
      raiseIf (verified ≠ data) ⟨.valueError, "Raw-object backend read-after-write verification failed"⟩
      return ⟨digest, data.length, relativePath⟩, put.2)

/-- `ImmutableBackendRawObjectStore.read_bytes` -/
def readObject (backend : ImmutableBackend σ) (ref : RawObjectRef) (s : σ) : Result Bytes := do
  let data ← backend.readBytes ref.objectPath s
  raiseIf (data.length ≠ ref.sizeBytes ∨ sha256 data ≠ ref.sha256)
    ⟨.valueError, "Raw-object content does not match its pinned digest and size"⟩
  return data

/-- `FilesystemImmutablePublicationBackend.put_bytes`, on a filesystem without symbolic links. -/
def putFile (root : Path) (token : Path → String) (path : String) (data : Bytes) : Process ImmutableObjectRef := do
  lift (raiseIf (data = []) ⟨.valueError, "immutable publication objects must not be empty"⟩)
  let relative ← lift (relativePath path)
  let target := root ++ relative.parts.map String.ofList
  immutableWrite target data (token target)
  return objectRef sha256 path data

/-- `FilesystemImmutablePublicationBackend.read_bytes` -/
def readFile (root : Path) (path : String) (fs : FileSystem) : Result Bytes := do
  let relative ← relativePath path
  match node fs (root ++ relative.parts.map String.ofList) with
  | some (.file data) => .ok data
  | _ => .error ⟨.fileNotFoundError, path⟩

def filesystemBackend (root : Path) (token : Path → String) : ImmutableBackend FileSystem where
  putBytes path data fs := ((putFile sha256 root token path data).result fs, (putFile sha256 root token path data).after fs)
  readBytes := readFile root

theorem readChunks_eq {chunks : List Bytes} (filled : ∀ chunk ∈ chunks, chunk ≠ []) (kept : List Bytes) :
    readChunks maxBytes tooLarge chunks kept.flatten.length kept.flatten kept =
      if chunks = [] ∨ Fits maxBytes (kept ++ chunks).flatten.length then
        .ok ((kept ++ chunks).flatten.length, (kept ++ chunks).flatten, kept ++ chunks)
      else .error tooLarge := by
  induction chunks generalizing kept with
  | nil => simp [readChunks]
  | cons chunk chunks ih =>
    have all : (kept ++ [chunk]) ++ chunks = kept ++ chunk :: chunks := by simp
    have next : (kept ++ [chunk]).flatten = kept.flatten ++ chunk := by simp
    have step := ih (fun other member => filled other (List.mem_cons_of_mem _ member)) (kept ++ [chunk])
    rw [all, next, List.length_append] at step
    rw [readChunks, if_neg (filled chunk List.mem_cons_self)]
    dsimp only
    by_cases fits : Fits maxBytes (kept.flatten.length + chunk.length)
    · have passes : raiseIf (¬Fits maxBytes (kept.flatten.length + chunk.length)) tooLarge = .ok () :=
        raiseIf_ok.mpr (not_not.mpr fits)
      rw [passes, Python.ok_bind, step]
      by_cases last : chunks = []
      · subst last
        have whole : Fits maxBytes (kept ++ [chunk]).flatten.length := by
          rw [next, List.length_append]
          exact fits
        rw [if_pos (.inl rfl), if_pos (.inr whole)]
      · simp [last]
    · have raises : raiseIf (¬Fits maxBytes (kept.flatten.length + chunk.length)) tooLarge = .error tooLarge :=
        if_pos fits
      rw [raises, if_neg]
      · rfl
      · rintro (none | total)
        · cases none
        · refine fits (total.mono ?_)
          simp only [List.flatten_append, List.flatten_cons, List.length_append]
          omega

/-- Buffering does not depend on the chunks. -/
theorem readBounded_runs {chunks : List Bytes} (filled : ∀ chunk ∈ chunks, chunk ≠ []) :
    (Accepts maxBytes chunks.flatten → readBounded sha256 chunks maxBytes = .ok chunks.flatten) ∧
    (¬Accepts maxBytes chunks.flatten → ∃ e, readBounded sha256 chunks maxBytes = .error e) := by
  have loop := @readChunks_eq maxBytes
    ⟨.valueError, "Raw object exceeds " ++ toString (maxBytes.getD 0) ++ " byte limit"⟩ chunks filled []
  simp only [List.nil_append, List.flatten_nil, List.length_nil] at loop
  have same : raiseIf (sha256 chunks.flatten ≠ sha256 chunks.flatten)
      ⟨.runtimeError, "Raw object digest changed while buffering"⟩ = .ok () := raiseIf_ok.mpr (not_not.mpr rfl)
  unfold readBounded
  rw [loop]
  by_cases whole : chunks = [] ∨ Fits maxBytes chunks.flatten.length
  · rw [if_pos whole, Python.ok_bind]
    dsimp only
    by_cases none : chunks.flatten.length = 0
    · have raises : raiseIf (chunks.flatten.length = 0) ⟨.valueError, "Raw object is empty"⟩ =
          .error ⟨.valueError, "Raw object is empty"⟩ := if_pos none
      refine ⟨fun accepts => ?_, fun _ => ⟨_, by rw [raises]; rfl⟩⟩
      have := accepts.1
      omega
    · have passes : raiseIf (chunks.flatten.length = 0) ⟨.valueError, "Raw object is empty"⟩ = .ok () :=
        raiseIf_ok.mpr none
      rw [passes, Python.ok_bind, same, Python.ok_bind]
      refine ⟨fun _ => rfl, fun other => absurd ⟨Nat.pos_of_ne_zero none, whole.resolve_left ?_⟩ other⟩
      rintro rfl
      exact none rfl
  · rw [if_neg whole]
    exact ⟨fun accepts => absurd (.inr accepts.2) whole, fun _ => ⟨_, rfl⟩⟩

/-- The contract of an immutable backend for bytes that it takes: it refers to them, and reads them back. -/
structure StoresBytes (backend : ImmutableBackend σ) (path : String) (data : Bytes) (s : σ) : Prop where
  put : (backend.putBytes path data s).1 = .ok (objectRef sha256 path data)
  read : backend.readBytes path (backend.putBytes path data s).2 = .ok data

variable {sha256}

theorem putStream_stores {backend : ImmutableBackend σ} {chunks : List Bytes}
    (filled : ∀ chunk ∈ chunks, chunk ≠ []) (accepts : Accepts maxBytes chunks.flatten)
    (stores : StoresBytes sha256 backend (contentPath kind (sha256 chunks.flatten)) chunks.flatten s) :
    putStream sha256 backend kind chunks maxBytes s =
      (.ok ⟨sha256 chunks.flatten, chunks.flatten.length, contentPath kind (sha256 chunks.flatten)⟩,
        (backend.putBytes (contentPath kind (sha256 chunks.flatten)) chunks.flatten s).2) := by
  rw [putStream, (readBounded_runs sha256 filled).1 accepts]
  dsimp only
  rw [stores.put, Python.ok_bind, stores.read]
  simp [objectRef, raiseIf, Python.ok_bind, pure, Except.pure]

theorem hex_plain {c : Char} (digest : Digest) (member : c ∈ digest.hex.toList) : c ∈ "0123456789abcdef".toList := by
  have digit : ∀ n < 16, hexDigit n ∈ "0123456789abcdef".toList := by decide
  rw [Digest.hex, String.toList_ofList, hexOf, List.mem_flatMap] at member
  obtain ⟨byte, -, member⟩ := member
  have bound := byte.toNat_lt
  simp only [List.mem_cons, List.not_mem_nil, or_false] at member
  rcases member with rfl | rfl
  · exact digit _ (by omega)
  · exact digit _ (by omega)

/-- A name of hexadecimal digits is a segment of a publication path. -/
theorem hex_segment {name : List Char} (filled : name ≠ []) (digits : ∀ c ∈ name, c ∈ "0123456789abcdef".toList) :
    Segment name := by
  have plain : '/' ∉ "0123456789abcdef".toList ∧ '\\' ∉ "0123456789abcdef".toList ∧
      '.' ∉ "0123456789abcdef".toList := by decide
  refine ⟨filled, ?_, ?_, fun slash => plain.1 (digits _ slash), fun back => plain.2.1 (digits _ back)⟩
  · rintro rfl
    exact plain.2.2 (digits _ List.mem_cons_self)
  · rintro rfl
    exact plain.2.2 (digits _ List.mem_cons_self)

theorem hex_length (digest : Digest) : digest.hex.toList.length = 64 := by
  rw [Digest.hex, String.toList_ofList, hexOf_length, digest.size]

theorem contentNames_segments (kind : RawObjectKind) (digest : Digest) :
    ∀ segment ∈ (contentNames kind digest).map String.toList, Segment segment := by
  have long := hex_length digest
  have digits : ∀ c ∈ digest.hex.toList, c ∈ "0123456789abcdef".toList := fun c => hex_plain digest
  have filled {name : List Char} (some : 0 < name.length) : name ≠ [] := List.length_pos_iff.mp some
  intro segment member
  simp only [contentNames, firstShard, secondShard, List.map_cons, List.map_nil, String.toList_ofList, List.mem_cons,
    List.not_mem_nil, or_false] at member
  rcases member with rfl | rfl | rfl | rfl | rfl
  · constructor <;> decide
  · cases kind <;> constructor <;> decide
  · apply hex_segment
    · exact filled (by rw [List.length_take]; omega)
    · exact fun c member => digits c (List.mem_of_mem_take member)
  · apply hex_segment
    · exact filled (by rw [List.length_take, List.length_drop]; omega)
    · exact fun c member => digits c (List.mem_of_mem_drop (List.mem_of_mem_take member))
  · apply hex_segment
    · exact filled (by omega)
    · exact digits

theorem contentPath_relative (kind : RawObjectKind) (digest : Digest) :
    relativePath (contentPath kind digest) = .ok ⟨[], (contentNames kind digest).map String.toList⟩ := by
  refine checkedPath_ok.mpr (.inr ⟨_, ?_, contentNames_segments kind digest, ?_, rfl⟩)
  · simp [contentNames]
  · simp [contentPath, contentNames, List.intercalate, String.toList_append]

/-- Where an object lies in the directory of a filesystem backend. -/
def contentFile (root : Path) (kind : RawObjectKind) (digest : Digest) : Path := root ++ contentNames kind digest

theorem content_target (root : Path) (kind : RawObjectKind) (digest : Digest) :
    root ++ (⟨[], (contentNames kind digest).map String.toList⟩ : PurePosixPath).parts.map String.ofList =
      contentFile root kind digest := by
  simp [PurePosixPath.parts, contentFile]

theorem contentFile_proper (root : Path) (kind : RawObjectKind) (digest : Digest) :
    contentFile root kind digest ≠ [] := by simp [contentFile, contentNames]

theorem putFile_content {root : Path} {token : Path → String} {data : Bytes} (filled : data ≠ [])
    (kind : RawObjectKind) (digest : Digest) : putFile sha256 root token (contentPath kind digest) data = (do
      immutableWrite (contentFile root kind digest) data (token (contentFile root kind digest))
      return objectRef sha256 (contentPath kind digest) data) := by
  have passes : raiseIf (data = []) ⟨.valueError, "immutable publication objects must not be empty"⟩ = .ok () :=
    raiseIf_ok.mpr filled
  unfold putFile
  rw [passes, lift_ok, contentPath_relative, lift_ok, content_target]

theorem readFile_content (root : Path) (kind : RawObjectKind) (digest : Digest)
    (there : node fs (contentFile root kind digest) = some (.file data)) :
    readFile root (contentPath kind digest) fs = .ok data := by
  unfold readFile
  rw [contentPath_relative, Python.ok_bind, content_target, there]

theorem putFile_runs {root : Path} {token : Path → String} {data : Bytes} (filled : data ≠ [])
    (claim : Claimable fs (contentFile root kind digest) data (token (contentFile root kind digest))) :
    Runs (putFile sha256 root token (contentPath kind digest) data) fs (fun r fs' =>
      r = .ok (objectRef sha256 (contentPath kind digest) data) ∧
      Adds (AddedByWrite (contentFile root kind digest) data (temporary (contentFile root kind digest)
        (token (contentFile root kind digest)))) fs fs' ∧
      node fs' (contentFile root kind digest) = some (.file data)) fun _ => True := by
  rw [putFile_content filled]
  apply Runs.bind ((immutableWrite_runs (contentFile_proper root kind digest) claim).mono (fun _ _ => id)
    fun _ _ => trivial)
  · rintro e s ⟨raised, -⟩
    cases raised
  · rintro - s ⟨-, adds, there, -⟩
    exact Runs.pure trivial ⟨rfl, adds, there⟩

theorem putFile_again {root : Path} {token : Path → String} {data : Bytes} (filled : data ≠ [])
    (there : node fs (contentFile root kind digest) = some (.file data)) :
    (putFile sha256 root token (contentPath kind digest) data).after fs = fs := by
  obtain ⟨done, same⟩ :=
    @immutableWrite_again (contentFile root kind digest) data (token (contentFile root kind digest)) fs there
  rw [putFile_content filled, after_bind done, same]
  rfl

theorem putFile_returns {root : Path} {token : Path → String} {data : Bytes} (filled : data ≠ [])
    (h : (putFile sha256 root token (contentPath kind digest) data).result fs = .ok ref) :
    Claimable fs (contentFile root kind digest) data (token (contentFile root kind digest)) := by
  rw [putFile_content filled] at h
  obtain ⟨⟨⟩, written, -⟩ := result_bind.mp h
  exact immutableWrite_returns (contentFile_proper root kind digest) written

/-- A filesystem stores an object where the write can start. -/
theorem filesystemBackend_stores {root : Path} {token : Path → String} {data : Bytes} (filled : data ≠ [])
    (claim : Claimable fs (contentFile root kind (sha256 data)) data (token (contentFile root kind (sha256 data)))) :
    StoresBytes sha256 (filesystemBackend sha256 root token) (contentPath kind (sha256 data)) data fs := by
  obtain ⟨put, -, there⟩ := (@putFile_runs sha256 fs kind _ root token data filled claim).post
  exact ⟨put, readFile_content root kind _ there⟩

end

theorem empty_clear (path : Path) : Unblocked .empty path := by
  intro q _ data there
  by_cases root : q = []
  · rw [root] at there
    cases there
  · rw [node_proper root] at there
    cases there

end BallotProof
