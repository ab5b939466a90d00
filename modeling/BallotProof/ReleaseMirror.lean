import BallotProof.ImmutableFiles
import BallotProof.Json

/-! `publish_release`: a verified release is copied into a mirror tree, file by file, and a checkpoint
is written. The process may be killed between any two of its changes, also between two bytes of a file. -/
namespace BallotProof
open Python Files Process

/-- The files of a release directory. -/
abbrev ReleaseDirectory := String → Option Bytes

structure ReleaseVerification where
  valid : Bool
  error : Option String

/-- What is read of a manifest. -/
structure ReleaseManifest where
  releaseId : String
  electionId : String
  merkleRoot : Digest
  deriving DecidableEq

/-- How a release is read: `verify_release`, and the validation of the two documents, of which the
signature is read for its `signer_key_sha256`. -/
structure ReleaseReader where
  verifyRelease : ReleaseDirectory → Option (Finset String) → ReleaseVerification
  manifest : Bytes → Result ReleaseManifest
  signerKey : Bytes → Result Digest

structure ReleasePublication where
  releaseId : String
  manifestSha256 : Digest
  releasePath : String
  checkpointPath : String
  deriving DecidableEq

/-- `(*EXPECTED_RELEASE_FILES, "manifest.json", "manifest.signature.json")` -/
def releaseNames : List String :=
  ["records.json", "records.csv", "records.parquet", "manifest.json", "manifest.signature.json"]

/-- `(directory / name).read_bytes()` -/
def ReleaseDirectory.readBytes (directory : ReleaseDirectory) (name : String) : Result Bytes :=
  match directory name with
  | some data => .ok data
  | none => .error ⟨.fileNotFoundError, name⟩

/-- `data.rstrip(b"\n")` -/
def rstripNewlines (data : Bytes) : Bytes := (data.reverse.dropWhile (· = 10)).reverse

/-- `{child.name for child in path.iterdir()}` -/
def childNames (fs : FileSystem) (path : Path) : Finset String :=
  (fs.entries.keys.filter fun q => q.dropLast = path).image fun q => q.getLast?.getD ""

def publicationDir (mirrorRoot : Path) (manifestSha256 : Digest) : Path :=
  mirrorRoot ++ ["releases", manifestSha256.hex]

def checkpointFile (mirrorRoot : Path) (manifestSha256 : Digest) : Path :=
  mirrorRoot ++ ["checkpoints", manifestSha256.hex ++ ".json"]

/-- The check of a publication directory that exists. -/
def checkPublication (publicationDir : Path) : Process Unit := read fun fs =>
  match node fs publicationDir with
  | none => .ok ()
  | some (.file _) =>
    .error ⟨.fileExistsError, "immutable publication conflict: " ++ pathText publicationDir⟩
  | some .directory => raiseIf (childNames fs publicationDir \ releaseNames.toFinset ≠ ∅)
      ⟨.fileExistsError, "unexpected files in immutable publication: " ++ pathText publicationDir⟩

/-- The canonical bytes of a `ReleaseCheckpoint` and a newline. -/
def checkpointBytes (manifest : ReleaseManifest) (manifestSha256 signerKey : Digest) : Bytes :=
  canonicalJsonBytes (.obj [
    ("election_id", .str manifest.electionId),
    ("manifest_sha256", .str manifestSha256.hex),
    ("merkle_root", .str manifest.merkleRoot.hex),
    ("release_id", .str manifest.releaseId),
    ("schema_version", .str "1"),
    ("signer_key_sha256", .str signerKey.hex)]) ++ [10]

section
variable (sha256 : Bytes → Digest) (reader : ReleaseReader)

/-- The call, with the token that the write of each path draws. -/
def publishRelease (directory : ReleaseDirectory) (mirrorRoot : Path) (trusted : Option (Finset String))
    (token : Path → String) : Process ReleasePublication := do
  let verification := reader.verifyRelease directory trusted
  lift (raiseIf (verification.valid = false) ⟨.valueError,
    if verification.error.getD "" = "" then "release verification failed" else verification.error.getD ""⟩)
  let manifestRaw ← lift ((directory.readBytes "manifest.json").map rstripNewlines)
  let manifest ← lift (reader.manifest manifestRaw)
  let signatureRaw ← lift (directory.readBytes "manifest.signature.json")
  let signerKey ← lift (reader.signerKey signatureRaw)
  let manifestSha256 := sha256 manifestRaw
  checkPublication (publicationDir mirrorRoot manifestSha256)
  releaseNames.forM fun name => do
    let path := publicationDir mirrorRoot manifestSha256 ++ [name]
    let data ← lift (directory.readBytes name)
    immutableWrite path data (token path)
  let path := checkpointFile mirrorRoot manifestSha256
  immutableWrite path (checkpointBytes manifest manifestSha256 signerKey) (token path)
  return ⟨manifest.releaseId, manifestSha256, "releases/" ++ manifestSha256.hex,
    "checkpoints/" ++ manifestSha256.hex ++ ".json"⟩

/-- What a publication reads of a release directory. -/
structure PublishInputs (directory : ReleaseDirectory) (trusted : Option (Finset String)) where
  manifestRaw : Bytes
  manifest : ReleaseManifest
  signatureRaw : Bytes
  signerKey : Digest
  valid : (reader.verifyRelease directory trusted).valid = true
  raw : (directory.readBytes "manifest.json").map rstripNewlines = .ok manifestRaw
  manifestRead : reader.manifest manifestRaw = .ok manifest
  signature : directory.readBytes "manifest.signature.json" = .ok signatureRaw
  signatureRead : reader.signerKey signatureRaw = .ok signerKey
  files : ∀ name ∈ releaseNames, directory name ≠ none

variable {reader} {directory : ReleaseDirectory} {trusted : Option (Finset String)}

def PublishInputs.digest (inputs : PublishInputs reader directory trusted) : Digest := sha256 inputs.manifestRaw

def PublishInputs.publication (inputs : PublishInputs reader directory trusted) : ReleasePublication :=
  ⟨inputs.manifest.releaseId, inputs.digest sha256, "releases/" ++ (inputs.digest sha256).hex,
    "checkpoints/" ++ (inputs.digest sha256).hex ++ ".json"⟩

/-- The files that a publication writes, in their order. -/
def PublishInputs.writes (inputs : PublishInputs reader directory trusted) (mirrorRoot : Path) :
    List (Path × Bytes) :=
  releaseNames.map (fun name =>
      (publicationDir mirrorRoot (inputs.digest sha256) ++ [name], (directory name).getD [])) ++
    [(checkpointFile mirrorRoot (inputs.digest sha256),
      checkpointBytes inputs.manifest (inputs.digest sha256) inputs.signerKey)]

theorem readBytes_of_ne (there : directory name ≠ none) :
    directory.readBytes name = .ok ((directory name).getD []) := by
  obtain ⟨data, found⟩ := Option.ne_none_iff_exists'.mp there
  rw [ReleaseDirectory.readBytes, found]
  rfl

theorem publishRelease_eq (inputs : PublishInputs reader directory trusted) (mirrorRoot : Path)
    (token : Path → String) : publishRelease sha256 reader directory mirrorRoot trusted token = (do
      checkPublication (publicationDir mirrorRoot (inputs.digest sha256))
      writeAll (inputs.writes sha256 mirrorRoot) token
      return inputs.publication sha256) := by
  have verified : raiseIf ((reader.verifyRelease directory trusted).valid = false)
      ⟨.valueError, if (reader.verifyRelease directory trusted).error.getD "" = "" then
        "release verification failed" else (reader.verifyRelease directory trusted).error.getD ""⟩ = .ok () :=
    raiseIf_ok.mpr (by simp [inputs.valid])
  have loop : (releaseNames.forM fun name => do
      let data ← lift (directory.readBytes name)
      immutableWrite (publicationDir mirrorRoot (sha256 inputs.manifestRaw) ++ [name]) data
        (token (publicationDir mirrorRoot (sha256 inputs.manifestRaw) ++ [name]))) =
      writeAll (releaseNames.map fun name =>
        (publicationDir mirrorRoot (inputs.digest sha256) ++ [name], (directory name).getD [])) token := by
    unfold writeAll
    rw [List.forM_eq_forM, List.forM_eq_forM, List.forM_map]
    apply forM_congr
    intro name member
    rw [readBytes_of_ne (inputs.files name member), lift_ok]
    rfl
  unfold publishRelease
  dsimp only
  rw [verified, lift_ok, inputs.raw, lift_ok, inputs.manifestRead, lift_ok, inputs.signature, lift_ok,
    inputs.signatureRead, lift_ok, loop]
  have last (target : Path × Bytes) (rest : Process ReleasePublication) :
      (writeAll [target] token >>= fun _ => rest) =
        immutableWrite target.1 target.2 (token target.1) >>= fun _ => rest := by
    change ((immutableWrite target.1 target.2 (token target.1) >>= fun _ => pure ()) >>= fun _ => rest) = _
    rw [Process.bind_assoc]
    rfl
  have both (files : List (Path × Bytes)) (target : Path × Bytes) (rest : Process ReleasePublication) :
      (writeAll (files ++ [target]) token >>= fun _ => rest) = writeAll files token >>= fun _ =>
        immutableWrite target.1 target.2 (token target.1) >>= fun _ => rest := by
    rw [writeAll, List.forM_eq_forM, List.forM_append, Process.bind_assoc]
    exact congrArg _ (funext fun _ => last target rest)
  rw [PublishInputs.writes, both]
  rfl

/-- A publication that returns has read what it needs. -/
theorem publishRelease_inputs (h : (publishRelease sha256 reader directory mirrorRoot trusted token).result fs =
    .ok publication) : Nonempty (PublishInputs reader directory trusted) := by
  unfold publishRelease at h
  obtain ⟨⟨⟩, verified, h⟩ := result_bind.mp h
  obtain ⟨manifestRaw, raw, h⟩ := result_bind.mp h
  obtain ⟨manifest, manifestRead, h⟩ := result_bind.mp h
  obtain ⟨signatureRaw, signature, h⟩ := result_bind.mp h
  obtain ⟨signerKey, signatureRead, h⟩ := result_bind.mp h
  obtain ⟨⟨⟩, -, h⟩ := result_bind.mp h
  obtain ⟨⟨⟩, loop, -⟩ := result_bind.mp h
  refine ⟨⟨manifestRaw, manifest, signatureRaw, signerKey, ?_, raw, manifestRead, signature, signatureRead, ?_⟩⟩
  · simpa using raiseIf_ok.mp verified
  · intro name member absent
    obtain ⟨front, back, all⟩ := List.append_of_mem member
    obtain ⟨each, -⟩ := @forM_returns _ _ _ (fun _ _ => True) _ trivial (fun _ _ _ _ _ _ _ => trivial) loop
    obtain ⟨fs', -, returned⟩ := each front name back all
    obtain ⟨data, read, -⟩ := result_bind.mp returned
    change directory.readBytes name = _ at read
    rw [ReleaseDirectory.readBytes, absent] at read
    cases read

theorem mem_childNames : name ∈ childNames fs path ↔ node fs (path ++ [name]) ≠ none := by
  have proper : path ++ [name] ≠ [] := by simp
  rw [node_proper proper, ← Option.isSome_iff_ne_none, Finmap.lookup_isSome, ← Finmap.mem_keys, childNames]
  simp only [Finset.mem_image, Finset.mem_filter]
  constructor
  · rintro ⟨q, ⟨member, parent⟩, last⟩
    have there : q ≠ [] := (fs.grounded q (Finmap.mem_keys.mp member)).1
    have same : path ++ [name] = q := by
      rw [← parent, ← last, List.getLast?_eq_some_getLast there, Option.getD_some]
      exact List.dropLast_append_getLast there
    rw [same]
    exact member
  · intro member
    exact ⟨_, ⟨member, List.dropLast_concat⟩, by simp⟩

/-- The names that a publication directory may hold. -/
theorem checkPublication_ok (directory : node fs dir = some .directory) :
    (checkPublication dir).result fs = .ok () ↔ ∀ name, node fs (dir ++ [name]) ≠ none → name ∈ releaseNames := by
  change (match node fs dir with | none => _ | some (.file _) => _ | some .directory => _ : Result Unit) = _ ↔ _
  rw [directory]
  simp only [raiseIf_ok, ne_eq, not_not, Finset.sdiff_eq_empty_iff_subset, Finset.subset_iff, mem_childNames,
    List.mem_toFinset]

theorem dotted_notMem : "." ++ text ∉ releaseNames := by
  intro member
  have first : ∀ name ∈ releaseNames, name.toList.head? ≠ some '.' := by decide
  apply first _ member
  rw [String.toList_append]
  rfl

theorem Layout.below (layout : Layout paths) (root : Path) : Layout (paths.map (root ++ ·)) := by
  have parent (path) (member : path ∈ paths) : (root ++ path).dropLast = root ++ path.dropLast :=
    List.dropLast_append_of_ne_nil (layout.proper path member)
  have temp (path) (member : path ∈ paths) (token) : temporary (root ++ path) token = root ++ temporary path token := by
    rw [temporary, parent path member, temporary, List.append_assoc,
      List.getLast?_append_of_ne_nil _ (layout.proper path member)]
  constructor
  · exact layout.distinct.map fun _ _ same => List.append_cancel_left same
  · intro path member
    obtain ⟨base, inside, rfl⟩ := List.mem_map.mp member
    exact List.append_ne_nil_of_right_ne_nil _ (layout.proper base inside)
  · intro path member other among
    obtain ⟨base, inside, rfl⟩ := List.mem_map.mp member
    obtain ⟨next, within, rfl⟩ := List.mem_map.mp among
    rw [parent next within, List.prefix_append_right_inj]
    exact layout.apart base inside next within
  · intro path member other among token
    obtain ⟨base, inside, rfl⟩ := List.mem_map.mp member
    obtain ⟨next, within, rfl⟩ := List.mem_map.mp among
    rw [parent next within, temp base inside, List.prefix_append_right_inj]
    exact layout.temporaryApart base inside next within token
  · intro path member other among token
    obtain ⟨base, inside, rfl⟩ := List.mem_map.mp member
    obtain ⟨next, within, rfl⟩ := List.mem_map.mp among
    rw [temp base inside]
    exact fun same => layout.temporaryNew base inside next within token (List.append_cancel_left same)

/-- The paths of a publication below the mirror's root. -/
def publishedBelow (hex : String) : List Path :=
  releaseNames.map (fun name => ["releases", hex, name]) ++ [["checkpoints", hex ++ ".json"]]

def publishedPaths (mirrorRoot : Path) (manifestSha256 : Digest) : List Path :=
  (publishedBelow manifestSha256.hex).map (mirrorRoot ++ ·)

theorem mem_publishedBelow : path ∈ publishedBelow hex ↔
    (∃ name ∈ releaseNames, path = ["releases", hex, name]) ∨ path = ["checkpoints", hex ++ ".json"] := by
  simp [publishedBelow, eq_comm]

theorem publishedBelow_layout (hex : String) : Layout (publishedBelow hex) := by
  constructor
  · simp [publishedBelow, releaseNames]
  · intro path member
    rcases mem_publishedBelow.mp member with ⟨name, -, rfl⟩ | rfl <;> simp
  · intro path member other among
    rcases mem_publishedBelow.mp member with ⟨name, -, rfl⟩ | rfl <;>
      rcases mem_publishedBelow.mp among with ⟨other, -, rfl⟩ | rfl <;> simp
  · intro path member other among token
    rcases mem_publishedBelow.mp member with ⟨name, -, rfl⟩ | rfl <;>
      rcases mem_publishedBelow.mp among with ⟨other, -, rfl⟩ | rfl <;> simp [temporary]
  · intro path member other among token same
    rcases mem_publishedBelow.mp member with ⟨name, -, rfl⟩ | rfl
    · rcases mem_publishedBelow.mp among with ⟨other, named, rfl⟩ | rfl
      · have dotted : "." ++ (name ++ ("." ++ token ++ ".tmp")) = other := by simpa [temporary] using same
        exact dotted_notMem (dotted ▸ named)
      · simp [temporary] at same
    · rcases mem_publishedBelow.mp among with ⟨other, named, rfl⟩ | rfl
      · simp [temporary] at same
      · exact temporary_ne same

theorem writes_paths (inputs : PublishInputs reader directory trusted) (mirrorRoot : Path) :
    (inputs.writes sha256 mirrorRoot).map (·.1) = publishedPaths mirrorRoot (inputs.digest sha256) := by
  simp [PublishInputs.writes, publishedPaths, publishedBelow, publicationDir, checkpointFile]

theorem writes_layout (inputs : PublishInputs reader directory trusted) (mirrorRoot : Path) :
    Layout ((inputs.writes sha256 mirrorRoot).map (·.1)) := by
  rw [writes_paths]
  exact (publishedBelow_layout _).below mirrorRoot

theorem publishRelease_runs {token : Path → String} (inputs : PublishInputs reader directory trusted)
    (checked : (checkPublication (publicationDir mirrorRoot (inputs.digest sha256))).result fs = .ok ())
    (claims : ∀ target ∈ inputs.writes sha256 mirrorRoot, Claimable fs target.1 target.2 (token target.1)) :
    Runs (publishRelease sha256 reader directory mirrorRoot trusted token) fs
      (fun r fs' => r = .ok (inputs.publication sha256) ∧
        ∀ target ∈ inputs.writes sha256 mirrorRoot, node fs' target.1 = some (.file target.2))
      (Adds (AddedByWrites (inputs.writes sha256 mirrorRoot) token) fs) := by
  rw [publishRelease_eq sha256 inputs]
  have check : Runs (checkPublication (publicationDir mirrorRoot (inputs.digest sha256))) fs
      (fun r fs' => r = .ok () ∧ fs' = fs) (Adds (AddedByWrites (inputs.writes sha256 mirrorRoot) token) fs) :=
    Runs.read (.refl _ fs) ⟨checked, rfl⟩
  apply Runs.bind check
  · rintro e s ⟨raised, -⟩
    cases raised
  · rintro - s ⟨-, rfl⟩
    apply Runs.bind (writeAll_runs (writes_layout sha256 inputs mirrorRoot) claims).keep
    · rintro e k ⟨⟨raised, -⟩, -⟩
      cases raised
    · rintro - k ⟨⟨-, written⟩, added⟩
      exact Runs.pure added ⟨rfl, written⟩

theorem publishRelease_returns {token : Path → String} (inputs : PublishInputs reader directory trusted) :
    (publishRelease sha256 reader directory mirrorRoot trusted token).result fs = .ok publication ↔
      (checkPublication (publicationDir mirrorRoot (inputs.digest sha256))).result fs = .ok () ∧
      (∀ target ∈ inputs.writes sha256 mirrorRoot, Claimable fs target.1 target.2 (token target.1)) ∧
      publication = inputs.publication sha256 := by
  constructor
  · intro h
    rw [publishRelease_eq sha256 inputs] at h
    obtain ⟨⟨⟩, checked, h⟩ := result_bind.mp h
    obtain ⟨⟨⟩, written, h⟩ := result_bind.mp h
    cases h
    exact ⟨checked, writeAll_returns (writes_layout sha256 inputs mirrorRoot) written, rfl⟩
  · rintro ⟨checked, claims, rfl⟩
    exact (publishRelease_runs sha256 inputs checked claims).post.1

/-- What a publication promises of a restart in the state that another call was killed in. -/
structure Recovers (reader : ReleaseReader) (directory : ReleaseDirectory) (mirrorRoot : Path)
    (trusted : Option (Finset String)) (again : Path → String) (publication : ReleasePublication)
    (uninterrupted k : FileSystem) : Prop where
  succeeds : (publishRelease sha256 reader directory mirrorRoot trusted again).result k = .ok publication
  same : ∀ path ∈ publishedPaths mirrorRoot publication.manifestSha256,
    node ((publishRelease sha256 reader directory mirrorRoot trusted again).after k) path =
      node uninterrupted path

/-- The killed call left no temporary file of a release file, and the restart draws new names for the
temporary files that it needs. -/
structure NothingLeft (mirrorRoot : Path) (manifestSha256 : Digest) (token again : Path → String)
    (k : FileSystem) : Prop where
  left : ∀ name ∈ releaseNames, node k (temporary (publicationDir mirrorRoot manifestSha256 ++ [name])
    (token (publicationDir mirrorRoot manifestSha256 ++ [name]))) = none
  drawn : ∀ path ∈ publishedPaths mirrorRoot manifestSha256, node k path = none →
    node k (temporary path (again path)) = none

/-- What a killed call leaves in the publication directory beside release files. -/
theorem checkPublication_killed {token : Path → String} (inputs : PublishInputs reader directory trusted)
    (checked : (checkPublication (publicationDir mirrorRoot (inputs.digest sha256))).result fs = .ok ())
    (claims : ∀ target ∈ inputs.writes sha256 mirrorRoot, Claimable fs target.1 target.2 (token target.1))
    (adds : Adds (AddedByWrites (inputs.writes sha256 mirrorRoot) token) fs k) :
    (checkPublication (publicationDir mirrorRoot (inputs.digest sha256))).result k = .ok () ↔
      ∀ name ∈ releaseNames, node k (temporary (publicationDir mirrorRoot (inputs.digest sha256) ++ [name])
        (token (publicationDir mirrorRoot (inputs.digest sha256) ++ [name]))) = none := by
  set dir := publicationDir mirrorRoot (inputs.digest sha256) with named
  have layout := writes_layout sha256 inputs mirrorRoot
  have released (name) (member : name ∈ releaseNames) :
      (dir ++ [name], (directory name).getD []) ∈ inputs.writes sha256 mirrorRoot :=
    List.mem_append_left _ (List.mem_map.mpr ⟨name, member, rfl⟩)
  have parentOf (name token) : (temporary (dir ++ [name]) token).dropLast = dir := by
    rw [temporary_parent, List.dropLast_concat]
  cases found : node k dir with
  | none =>
    have passes : (checkPublication dir).result k = .ok () := by
      change (match node k dir with | none => _ | some (.file _) => _ | some .directory => _ : Result Unit) = _
      rw [found]
    refine ⟨fun _ name member => ?_, fun _ => passes⟩
    by_contra there
    have inside := parent_directory there
    rw [parentOf, found] at inside
    cases inside
  | some content =>
    cases content with
    | file data =>
      have member := released "records.json" (by decide)
      have clear := layout.clear member adds (claims _ member).clear
      refine absurd found (clear dir ?_ data)
      rw [List.dropLast_concat]
    | directory =>
      rw [checkPublication_ok found]
      constructor
      · intro only name member
        by_contra there
        have parts : temporary (dir ++ [name]) (token (dir ++ [name])) =
            dir ++ ["." ++ (name ++ ("." ++ token (dir ++ [name]) ++ ".tmp"))] := by
          rw [temporary, List.dropLast_concat, List.getLast?_concat, Option.getD_some]
        rw [parts] at there
        exact dotted_notMem (only _ there)
      · intro left name there
        have long : (dir ++ [name]).length = mirrorRoot.length + 3 := by simp [named, publicationDir]
        rcases adds (dir ++ [name]) with same | ⟨-, target, member, added⟩
        · have before : node fs (dir ++ [name]) ≠ none := by rwa [← same]
          have inside := parent_directory before
          rw [List.dropLast_concat] at inside
          exact (checkPublication_ok inside).mp checked name before
        · rcases List.mem_append.mp member with file | checkpoint
          · obtain ⟨other, among, rfl⟩ := List.mem_map.mp file
            rcases added with ⟨ancestor, -⟩ | ⟨same, -⟩ | isTemp
            · have := ancestor.length_le
              simp [named, publicationDir] at this
            · obtain rfl : name = other := by simpa using List.append_cancel_left same
              exact among
            · rw [isTemp] at there
              exact absurd (left other among) there
          · rw [List.mem_singleton.mp checkpoint] at added
            dsimp only at added
            have short : (checkpointFile mirrorRoot (inputs.digest sha256)).length = mirrorRoot.length + 2 := by
              simp [checkpointFile]
            have proper : checkpointFile mirrorRoot (inputs.digest sha256) ≠ [] := by simp [checkpointFile]
            rcases added with ⟨ancestor, -⟩ | ⟨same, -⟩ | isTemp
            · have := ancestor.length_le
              rw [List.length_dropLast] at this
              omega
            · have := congrArg List.length same
              omega
            · have := congrArg List.length isTemp
              rw [temporary_length proper] at this
              omega

/-- A restart after a kill completes the publication as if nothing had happened, unless a temporary
file of a release file was left. -/
theorem publishRelease_recovers_iff {token again : Path → String}
    (published : (publishRelease sha256 reader directory mirrorRoot trusted token).result fs = .ok publication)
    (n : Nat) :
    Recovers sha256 reader directory mirrorRoot trusted again publication
        ((publishRelease sha256 reader directory mirrorRoot trusted token).after fs)
        ((publishRelease sha256 reader directory mirrorRoot trusted token).killed fs n) ↔
      NothingLeft mirrorRoot publication.manifestSha256 token again
        ((publishRelease sha256 reader directory mirrorRoot trusted token).killed fs n) := by
  obtain ⟨inputs⟩ := publishRelease_inputs sha256 published
  obtain ⟨checked, claims, rfl⟩ := (publishRelease_returns sha256 inputs).mp published
  have first := publishRelease_runs sha256 inputs checked claims
  have adds := first.during n
  set k := (publishRelease sha256 reader directory mirrorRoot trusted token).killed fs n
  have layout := writes_layout sha256 inputs mirrorRoot
  have check := checkPublication_killed sha256 inputs checked claims adds
  have paths (P : Path → Prop) : (∀ path ∈ publishedPaths mirrorRoot (inputs.digest sha256), P path) ↔
      ∀ target ∈ inputs.writes sha256 mirrorRoot, P target.1 := by
    rw [← writes_paths sha256 inputs]
    simp only [List.forall_mem_map]
  have again_iff : (∀ target ∈ inputs.writes sha256 mirrorRoot, Claimable k target.1 target.2 (again target.1)) ↔
      ∀ path ∈ publishedPaths mirrorRoot (inputs.digest sha256), node k path = none →
        node k (temporary path (again path)) = none := by
    rw [paths]
    constructor
    · exact fun claimed target member => (claimed target member).unused
    · exact fun drawn target member => ⟨layout.clear member adds (claims target member).clear,
        layout.same member adds (claims target member).same, drawn target member⟩
  constructor
  · intro recovers
    obtain ⟨passes, claimed, -⟩ := (publishRelease_returns sha256 inputs).mp recovers.succeeds
    exact ⟨check.mp passes, again_iff.mp claimed⟩
  · intro nothing
    have second := publishRelease_runs sha256 inputs (check.mpr nothing.left) (again_iff.mpr nothing.drawn)
    refine ⟨second.post.1, (paths _).mpr fun target member => ?_⟩
    rw [second.post.2 target member, first.post.2 target member]

end

/-- A reader that accepts every release. -/
def sampleReader : ReleaseReader where
  verifyRelease _ _ := ⟨true, none⟩
  manifest _ := .ok ⟨"release", "election", checksum []⟩
  signerKey _ := .ok (checksum [])

def sampleRelease : ReleaseDirectory := fun name => if name ∈ releaseNames then some [1] else none

def samplePublication : ReleasePublication where
  releaseId := "release"
  manifestSha256 := checksum [1]
  releasePath := "releases/" ++ (checksum [1]).hex
  checkpointPath := "checkpoints/" ++ (checksum [1]).hex ++ ".json"

theorem sampleRelease_published : (publishRelease checksum sampleReader sampleRelease ["mirror"] none fun _ =>
    "0").result .empty = .ok samplePublication := by decide +kernel

theorem sampleRelease_recovers : Recovers checksum sampleReader sampleRelease ["mirror"] none (fun _ => "1")
    samplePublication
    ((publishRelease checksum sampleReader sampleRelease ["mirror"] none fun _ => "0").after .empty)
    ((publishRelease checksum sampleReader sampleRelease ["mirror"] none fun _ => "0").killed .empty 0) := by
  apply (publishRelease_recovers_iff checksum sampleRelease_published 0).mpr
  constructor <;> decide +kernel

/-- The kill falls after the temporary file of `records.json` was created. -/
theorem temporaryFile_blocks :
    (publishRelease checksum sampleReader sampleRelease ["mirror"] none fun _ => "0").result .empty =
      .ok samplePublication ∧
    ¬Recovers checksum sampleReader sampleRelease ["mirror"] none (fun _ => "1") samplePublication
      ((publishRelease checksum sampleReader sampleRelease ["mirror"] none fun _ => "0").after .empty)
      ((publishRelease checksum sampleReader sampleRelease ["mirror"] none fun _ => "0").killed .empty 4) := by
  constructor
  · exact sampleRelease_published
  · intro recovers
    have succeeds := recovers.succeeds
    revert succeeds
    decide +kernel

end BallotProof
