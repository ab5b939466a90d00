import BallotProof.RawObjectStorage
import Mathlib.Data.Finset.Sort
import Mathlib.Data.List.Lex

/-! The migration of legacy raw objects: every file below the legacy roots is hashed, and copied into an
immutable store under the path of its digest. -/
namespace BallotProof
open Python Files Process

inductive MigrationStatus where
  | planned | migrated | corrupt | skipped
  deriving DecidableEq

structure LegacyObjectResult where
  kind : RawObjectKind
  legacyPath : Path
  sha256 : Digest
  sizeBytes : Nat
  status : MigrationStatus
  targetPath : Option String
  error : Option String
  deriving DecidableEq

structure LegacyMigrationReport where
  dryRun : Bool
  results : List LegacyObjectResult
  deriving DecidableEq

def LegacyMigrationReport.ok (report : LegacyMigrationReport) : Bool :=
  report.results.all fun result => result.status = .planned ∨ result.status = .migrated ∨ result.status = .skipped

/-- The files that a report gives a status. -/
def LegacyMigrationReport.files (report : LegacyMigrationReport) (status : MigrationStatus) :
    List (RawObjectKind × Path) :=
  (report.results.filter (·.status = status)).map fun result => (result.kind, result.legacyPath)

/-- `_LEGACY_ROOTS` -/
def legacyName : RawObjectKind → String
  | .evidence => "objects"
  | .source => "source_objects"

def legacyRoot (root : Path) (kind : RawObjectKind) : Path := root ++ [legacyName kind]

/-- The reads of a megabyte each until the end of a file. -/
def reads : Nat → Bytes → List Bytes
  | 0, _ => []
  | fuel + 1, data => if data = [] then [] else data.take 1048576 :: reads fuel (data.drop 1048576)

def fileReads (data : Bytes) : List Bytes := reads data.length data

/-- `path.is_file()` -/
def isFile (fs : FileSystem) (path : Path) : Bool :=
  match node fs path with
  | some (.file _) => true
  | _ => false

/-- The files that `rglob("*")` finds below a directory. -/
def filesBelow (fs : FileSystem) (directory : Path) : Finset Path :=
  fs.entries.keys.filter fun path => directory <+: path ∧ path ≠ directory ∧ isFile fs path

/-- `_legacy_files` -/
def legacyFiles (fs : FileSystem) (root : Path) (kind : RawObjectKind) : List Path :=
  if node fs (legacyRoot root kind) = none then [] else (filesBelow fs (legacyRoot root kind)).sort

/-- The items one after the other, with all that they return. -/
def inTurn (step : α → σ → Result (List β) × σ) : List α → σ → Result (List β) × σ
  | [], s => (.ok [], s)
  | item :: items, s =>
    match (step item s).1 with
    | .error e => (.error e, (step item s).2)
    | .ok found =>
      let rest := inTurn step items (step item s).2
      (rest.1.map (found ++ ·), rest.2)

section
variable (sha256 : Bytes → Digest) (lower : String → String)

/-- `_sha256_file` of a file's content -/
def sha256File (data : Bytes) : Digest × Nat :=
  let fed := (fileReads data).foldl (fun state chunk => (state.1 ++ chunk, state.2 + chunk.length)) ([], 0)
  (sha256 fed.1, fed.2)

/-- A turn of the loop of `migrate_legacy_objects`. -/
def migrateFile (backend : ImmutableBackend FileSystem) (dryRun : Bool) (kind : RawObjectKind) (legacyPath : Path)
    (fs : FileSystem) : Result (List LegacyObjectResult) × FileSystem :=
  match node fs legacyPath with
  | some (.file data) =>
    let digest := (sha256File sha256 data).1
    let size := (sha256File sha256 data).2
    let report (status : MigrationStatus) (targetPath error : Option String) : List LegacyObjectResult :=
      [⟨kind, legacyPath, digest, size, status, targetPath, error⟩]
    if size = 0 then (.ok (report .corrupt none (some "legacy raw object is empty")), fs)
    else if lower (legacyPath.getLast?.getD "") ≠ digest.hex then
      (.ok (report .corrupt none (some "legacy filename does not match computed SHA-256")), fs)
    else if dryRun then (.ok (report .planned (some (contentPath kind digest)) none), fs)
    else
      let put := putStream sha256 backend kind (fileReads data) (some size) fs
      (do
        let stored ← put.1
        if stored.sha256 ≠ digest ∨ stored.sizeBytes ≠ size then
          return report .corrupt (some stored.objectPath)
            (some "target reference does not match legacy digest and size")
        else
          let targetBytes ← readObject sha256 backend stored put.2
          if targetBytes.length ≠ size ∨ sha256 targetBytes ≠ digest then
            return report .corrupt (some stored.objectPath)
              (some "target bytes are not equivalent to legacy object")
          else return report .migrated (some stored.objectPath) none, put.2)
  | some .directory => (.error (wrongNode legacyPath), fs)
  | none => (.error (notFound legacyPath), fs)

/-- `migrate_legacy_objects` -/
def migrateLegacyObjects (root : Path) (backend : ImmutableBackend FileSystem) (dryRun : Bool)
    (kinds : List RawObjectKind) (fs : FileSystem) : Result LegacyMigrationReport × FileSystem :=
  let run := inTurn (fun kind fs => inTurn (migrateFile sha256 lower backend dryRun kind)
    (legacyFiles fs root kind) fs) kinds fs
  (run.1.map fun results => ⟨dryRun, results⟩, run.2)

/-- A legacy file may be migrated: it is not empty, and named by its digest. -/
def Eligible (path : Path) (data : Bytes) : Prop :=
  data ≠ [] ∧ lower (path.getLast?.getD "") = (sha256 data).hex

instance : Decidable (Eligible sha256 lower path data) := instDecidableAnd

/-- What a run reports of a legacy file that it does not migrate. -/
def unmigrated (kind : RawObjectKind) (path : Path) (data : Bytes) : LegacyObjectResult :=
  ⟨kind, path, sha256 data, data.length, .corrupt, none, some (if data = [] then "legacy raw object is empty"
    else "legacy filename does not match computed SHA-256")⟩

/-- What a run reports of a legacy file, with the status that it gives to the eligible ones. -/
def examined (status : MigrationStatus) (kind : RawObjectKind) (path : Path) (data : Bytes) :
    LegacyObjectResult :=
  if Eligible sha256 lower path data then
    ⟨kind, path, sha256 data, data.length, status, some (contentPath kind (sha256 data)), none⟩
  else unmigrated sha256 kind path data

end

/-- Reading a file by the megabyte gives its content, in chunks that are not empty. -/
theorem reads_all (enough : data.length ≤ fuel) :
    (reads fuel data).flatten = data ∧ ∀ chunk ∈ reads fuel data, chunk ≠ [] := by
  induction fuel generalizing data with
  | zero =>
    obtain rfl : data = [] := List.length_eq_zero_iff.mp (Nat.le_zero.mp enough)
    exact ⟨rfl, by simp [reads]⟩
  | succ fuel ih =>
    rw [reads]
    split
    · rename_i none
      exact ⟨none.symm, by simp⟩
    · rename_i filled
      have some := List.length_pos_iff.mpr filled
      obtain ⟨rest, chunks⟩ := @ih (data.drop 1048576) (by rw [List.length_drop]; omega)
      constructor
      · rw [List.flatten_cons, rest, List.take_append_drop]
      · intro chunk member
        rcases List.mem_cons.mp member with rfl | later
        · rw [Ne, List.take_eq_nil_iff]
          simp [filled]
        · exact chunks chunk later

theorem fileReads_flatten (data : Bytes) : (fileReads data).flatten = data := (reads_all le_rfl).1

theorem fileReads_filled (data : Bytes) : ∀ chunk ∈ fileReads data, chunk ≠ [] := (reads_all le_rfl).2

theorem foldl_fed (chunks : List Bytes) (fed : Bytes) (size : Nat) :
    chunks.foldl (fun state chunk => (state.1 ++ chunk, state.2 + chunk.length)) (fed, size) =
      (fed ++ chunks.flatten, size + chunks.flatten.length) := by
  induction chunks generalizing fed size with
  | nil => simp
  | cons chunk chunks ih =>
    rw [List.foldl_cons, ih]
    simp [Nat.add_assoc]

theorem sha256File_eq (sha256 : Bytes → Digest) (data : Bytes) :
    sha256File sha256 data = (sha256 data, data.length) := by
  unfold sha256File
  rw [foldl_fed, fileReads_flatten]
  simp

section
variable {sha256 : Bytes → Digest} {lower : String → String} {root store : Path} {token : Path → String}

theorem migrateFile_rejects {backend : ImmutableBackend FileSystem} (there : node fs path = some (.file data))
    (other : ¬Eligible sha256 lower path data) : migrateFile sha256 lower backend dryRun kind path fs =
      (.ok [examined sha256 lower status kind path data], fs) := by
  unfold migrateFile examined unmigrated
  rw [there, if_neg other]
  simp only [sha256File_eq]
  by_cases empty : data = []
  · rw [if_pos (by rw [empty]; rfl), if_pos empty]
  · rw [if_neg (by rwa [List.length_eq_zero_iff]), if_neg empty, if_pos fun named => other ⟨empty, named⟩]

theorem migrateFile_plans {backend : ImmutableBackend FileSystem} (there : node fs path = some (.file data)) :
    migrateFile sha256 lower backend true kind path fs =
      (.ok [examined sha256 lower .planned kind path data], fs) := by
  by_cases eligible : Eligible sha256 lower path data
  · unfold migrateFile examined
    rw [there, if_pos eligible]
    simp only [sha256File_eq]
    rw [if_neg (by rw [List.length_eq_zero_iff]; exact eligible.1), if_neg (not_not.mpr eligible.2),
      if_pos trivial]
  · exact migrateFile_rejects there eligible

/-- An eligible file is migrated where the write of its object can start. -/
theorem migrateFile_migrates (there : node fs path = some (.file data))
    (eligible : Eligible sha256 lower path data)
    (claim : Claimable fs (contentFile store kind (sha256 data)) data
      (token (contentFile store kind (sha256 data)))) :
    migrateFile sha256 lower (filesystemBackend sha256 store token) false kind path fs =
      (.ok [examined sha256 lower .migrated kind path data],
        (putFile sha256 store token (contentPath kind (sha256 data)) data).after fs) := by
  have accepts : Accepts (some (data.length : Int)) data :=
    ⟨List.length_pos_iff.mpr eligible.1, fun bound same => (Option.some.inj same).le⟩
  have stores := filesystemBackend_stores eligible.1 claim
  have put := @putStream_stores sha256 _ (some (data.length : Int)) kind fs (filesystemBackend sha256 store token)
    (fileReads data) (fileReads_filled data)
  rw [fileReads_flatten] at put
  unfold migrateFile examined
  rw [there, if_pos eligible]
  simp only [sha256File_eq]
  rw [if_neg (by rw [List.length_eq_zero_iff]; exact eligible.1), if_neg (not_not.mpr eligible.2),
    if_neg (by decide), put accepts stores]
  simp only [readObject, stores.read, Python.ok_bind]
  simp [raiseIf, Python.ok_bind, pure, Except.pure, filesystemBackend]

/-- When the turn of an eligible file returns, the write of its object could start. -/
theorem migrateFile_claims (there : node fs path = some (.file data))
    (eligible : Eligible sha256 lower path data)
    (h : (migrateFile sha256 lower (filesystemBackend sha256 store token) false kind path fs).1 = .ok rows) :
    Claimable fs (contentFile store kind (sha256 data)) data (token (contentFile store kind (sha256 data))) := by
  have buffered :=
    (@readBounded_runs sha256 (some (data.length : Int)) (fileReads data) (fileReads_filled data)).1
  rw [fileReads_flatten] at buffered
  have accepts : Accepts (some (data.length : Int)) data :=
    ⟨List.length_pos_iff.mpr eligible.1, fun bound same => (Option.some.inj same).le⟩
  unfold migrateFile at h
  rw [there] at h
  simp only [sha256File_eq] at h
  rw [if_neg (by rw [List.length_eq_zero_iff]; exact eligible.1), if_neg (not_not.mpr eligible.2),
    if_neg (by decide)] at h
  obtain ⟨stored, put, -⟩ := Python.bind_ok h
  rw [putStream, buffered accepts] at put
  obtain ⟨ref, written, -⟩ := Python.bind_ok put
  exact putFile_returns eligible.1 written

/-- Below the legacy roots nothing changed, and what was there stays. -/
structure Preserves (root : Path) (fs k : FileSystem) : Prop where
  originals : ∀ kind q, legacyRoot root kind <+: q → node k q = node fs q
  kept : ∀ q content, node fs q = some content → node k q = some content

theorem Preserves.refl (root : Path) (fs : FileSystem) : Preserves root fs fs := ⟨fun _ _ _ => rfl, fun _ _ => id⟩

theorem Preserves.trans (first : Preserves root fs s) (second : Preserves root s k) : Preserves root fs k :=
  ⟨fun kind q below => (second.originals kind q below).trans (first.originals kind q below),
    fun q content there => second.kept q content (first.kept q content there)⟩

theorem legacyName_foreign (legacy kind : RawObjectKind) (digest : Digest) :
    legacyName legacy ∉ contentNames kind digest := by
  intro member
  have own : (legacyName legacy).toList.length = 7 ∨ (legacyName legacy).toList.length = 14 := by
    cases legacy
    · exact .inl rfl
    · exact .inr rfl
  simp only [contentNames, List.mem_cons, List.not_mem_nil, or_false] at member
  rcases member with same | same | same | same | same
  · rw [same] at own
    exact absurd own (by decide)
  · rw [same] at own
    cases kind <;> exact absurd own (by decide)
  · rw [same, firstShard, String.toList_ofList, List.length_take, hex_length] at own
    omega
  · rw [same, secondShard, String.toList_ofList, List.length_take, List.length_drop, hex_length] at own
    omega
  · rw [same, hex_length] at own
    omega

/-- No object of a store outside the legacy roots lies below one. -/
theorem contentFile_outside (outside : ¬legacyRoot root legacy <+: store) :
    ¬legacyRoot root legacy <+: contentFile store kind digest := by
  intro below
  rcases List.prefix_or_prefix_of_prefix below (List.prefix_append store _) with inside | ⟨names, around⟩
  · exact outside inside
  · by_cases none : names = []
    · rw [none, List.append_nil] at around
      exact outside (around ▸ List.prefix_rfl)
    · have last : legacyName legacy ∈ names := by
        have ends := congrArg List.getLast? around
        rw [legacyRoot, List.getLast?_concat, List.getLast?_append_of_ne_nil _ none] at ends
        exact List.mem_of_getLast? ends
      have front : names <+: contentNames kind digest := by
        rw [← around] at below
        exact (List.prefix_append_right_inj store).mp below
      exact legacyName_foreign legacy kind digest (front.subset last)

/-- A write of an object leaves what lies below the legacy roots. -/
theorem Preserves.of_write (outside : ∀ legacy, ¬legacyRoot root legacy <+: store)
    (adds : Adds (AddedByWrite (contentFile store kind digest) data
      (temporary (contentFile store kind digest) name)) fs k) : Preserves root fs k := by
  refine ⟨fun legacy q below => ?_, fun q content => adds.kept⟩
  have away := @contentFile_outside root store legacy kind digest (outside legacy)
  apply adds.away
  rintro (⟨ancestor, -⟩ | ⟨rfl, -⟩ | rfl)
  · exact away (below.trans (ancestor.trans (List.dropLast_prefix _)))
  · exact away below
  · rcases List.prefix_concat_iff.mp below with same | early
    · have ends := congrArg (fun path => (path.getLast?.getD "").toList.head?) same
      rw [legacyRoot] at ends
      simp only [List.getLast?_concat, Option.getD_some, String.toList_append] at ends
      cases legacy <;> cases ends
    · exact away (early.trans (List.dropLast_prefix _))

theorem mem_filesBelow : path ∈ filesBelow fs directory ↔
    directory <+: path ∧ path ≠ directory ∧ ∃ data, node fs path = some (.file data) := by
  have isFile_iff : isFile fs path = true ↔ ∃ data, node fs path = some (.file data) := by
    unfold isFile
    split <;> simp_all
  rw [filesBelow, Finset.mem_filter, isFile_iff, Finmap.mem_keys]
  refine ⟨fun h => h.2, fun h => ⟨?_, h⟩⟩
  obtain ⟨-, -, data, there⟩ := h
  rw [node_proper (ne_root_of_file there)] at there
  exact Finmap.mem_of_lookup_eq_some there

theorem mem_legacyFiles : path ∈ legacyFiles fs root kind ↔
    legacyRoot root kind <+: path ∧ path ≠ legacyRoot root kind ∧ ∃ data, node fs path = some (.file data) := by
  unfold legacyFiles
  split
  · rename_i absent
    simp only [List.not_mem_nil, false_iff]
    rintro ⟨below, other, data, there⟩
    have directory := ancestor_directory (by rw [there]; simp) below other.symm
    rw [absent] at directory
    cases directory
  · rw [Finset.mem_sort, mem_filesBelow]

theorem legacyFiles_congr (same : ∀ q, legacyRoot root kind <+: q → node k q = node fs q) :
    legacyFiles k root kind = legacyFiles fs root kind := by
  have below : filesBelow k (legacyRoot root kind) = filesBelow fs (legacyRoot root kind) := by
    ext path
    rw [mem_filesBelow, mem_filesBelow]
    constructor
    · rintro ⟨below, other, data, there⟩
      exact ⟨below, other, data, (same path below).symm.trans there⟩
    · rintro ⟨below, other, data, there⟩
      exact ⟨below, other, data, (same path below).trans there⟩
  rw [legacyFiles, legacyFiles, below, same _ List.prefix_rfl]

/-- What a run reports of a legacy path. -/
def inspected (sha256 : Bytes → Digest) (lower : String → String) (status : MigrationStatus) (fs : FileSystem)
    (kind : RawObjectKind) (path : Path) : List LegacyObjectResult :=
  match node fs path with
  | some (.file data) => [examined sha256 lower status kind path data]
  | _ => []

theorem inspected_file (there : node fs path = some (.file data)) :
    inspected sha256 lower status fs kind path = [examined sha256 lower status kind path data] := by
  rw [inspected, there]

/-- An eligible file has its object. -/
def HasObject (sha256 : Bytes → Digest) (lower : String → String) (store : Path) (fs : FileSystem)
    (kind : RawObjectKind) (path : Path) (k : FileSystem) : Prop :=
  ∀ data, node fs path = some (.file data) → Eligible sha256 lower path data →
    node k (contentFile store kind (sha256 data)) = some (.file data)

theorem migrateFile_returns (outside : ∀ legacy, ¬legacyRoot root legacy <+: store)
    (there : node fs path = some (.file data)) (below : legacyRoot root kind <+: path)
    (before : Preserves root fs k)
    (h : (migrateFile sha256 lower (filesystemBackend sha256 store token) false kind path k).1 = .ok rows) :
    rows = [examined sha256 lower .migrated kind path data] ∧
    Preserves root k (migrateFile sha256 lower (filesystemBackend sha256 store token) false kind path k).2 ∧
    HasObject sha256 lower store fs kind path
      (migrateFile sha256 lower (filesystemBackend sha256 store token) false kind path k).2 := by
  have now : node k path = some (.file data) := (before.originals kind path below).trans there
  by_cases eligible : Eligible sha256 lower path data
  · have claim := migrateFile_claims now eligible h
    obtain ⟨-, adds, stored⟩ := (@putFile_runs sha256 k kind _ store token data eligible.1 claim).post
    rw [migrateFile_migrates now eligible claim] at h ⊢
    refine ⟨(Except.ok.inj h).symm, .of_write outside adds, fun other same _ => ?_⟩
    rw [there] at same
    cases same
    exact stored
  · have same : migrateFile sha256 lower (filesystemBackend sha256 store token) false kind path k =
        (.ok [examined sha256 lower .migrated kind path data], k) := migrateFile_rejects now eligible
    rw [same] at h ⊢
    refine ⟨(Except.ok.inj h).symm, .refl root k, fun other same chosen => ?_⟩
    rw [there] at same
    cases same
    exact absurd chosen eligible

theorem migrateFile_again (there : node fs path = some (.file data))
    (done : HasObject sha256 lower store fs kind path fs) :
    migrateFile sha256 lower (filesystemBackend sha256 store token) false kind path fs =
      (.ok [examined sha256 lower .migrated kind path data], fs) := by
  by_cases eligible : Eligible sha256 lower path data
  · have stored := done data there eligible
    rw [migrateFile_migrates there eligible (.of_file stored), putFile_again eligible.1 stored]
  · exact migrateFile_rejects there eligible

end

section
variable {step : α → σ → Result (List β) × σ} {items : List α}

theorem inTurn_settled {rowsOf : α → List β} (turn : ∀ item ∈ items, step item s = (.ok (rowsOf item), s)) :
    inTurn step items s = (.ok (items.flatMap rowsOf), s) := by
  induction items with
  | nil => rfl
  | cons item items ih =>
    rw [inTurn, turn item List.mem_cons_self]
    dsimp only
    rw [ih fun other member => turn other (List.mem_cons_of_mem _ member), List.flatMap_cons]
    rfl

/-- The items one after the other, where each leaves what the earlier ones did. -/
theorem inTurn_returns (rowsOf : α → List β) (keeps : σ → σ → Prop) (done : α → σ → Prop) (refl : ∀ s, keeps s s)
    (trans : ∀ {r s k}, keeps r s → keeps s k → keeps r k)
    (later : ∀ {item s k}, done item s → keeps s k → done item k)
    (turn : ∀ item ∈ items, ∀ k rows, keeps s k → (step item k).1 = .ok rows →
      rows = rowsOf item ∧ keeps k (step item k).2 ∧ done item (step item k).2)
    (h : (inTurn step items s).1 = .ok found) :
    found = items.flatMap rowsOf ∧ keeps s (inTurn step items s).2 ∧
      ∀ item ∈ items, done item (inTurn step items s).2 := by
  induction items generalizing s found with
  | nil =>
    cases h
    exact ⟨rfl, refl s, by simp⟩
  | cons item items ih =>
    rw [inTurn] at h ⊢
    cases first : (step item s).1 with
    | error e =>
      rw [first] at h
      cases h
    | ok rows =>
      rw [first] at h
      dsimp only at h ⊢
      obtain ⟨rfl, kept, made⟩ := turn item List.mem_cons_self s rows (refl s) first
      obtain ⟨rest, returned, rfl⟩ := Python.map_ok h
      obtain ⟨rfl, more, others⟩ := ih (fun other member k rows after =>
        turn other (List.mem_cons_of_mem _ member) k rows (trans kept after)) returned
      refine ⟨(List.flatMap_cons ..).symm, trans kept more, ?_⟩
      rintro other (_ | ⟨_, member⟩)
      · exact later made more
      · exact others other member

end

section
variable {sha256 : Bytes → Digest} {lower : String → String} {root store : Path} {token : Path → String}

theorem migrateKind_returns (outside : ∀ legacy, ¬legacyRoot root legacy <+: store) (before : Preserves root fs k)
    (h : (inTurn (migrateFile sha256 lower (filesystemBackend sha256 store token) false kind)
      (legacyFiles k root kind) k).1 = .ok rows) :
    rows = (legacyFiles fs root kind).flatMap (inspected sha256 lower .migrated fs kind) ∧
    Preserves root k (inTurn (migrateFile sha256 lower (filesystemBackend sha256 store token) false kind)
      (legacyFiles k root kind) k).2 ∧
    ∀ path ∈ legacyFiles fs root kind, HasObject sha256 lower store fs kind path
      (inTurn (migrateFile sha256 lower (filesystemBackend sha256 store token) false kind)
        (legacyFiles k root kind) k).2 := by
  rw [legacyFiles_congr (before.originals kind)] at h ⊢
  apply inTurn_returns _ _ _ (Preserves.refl root) Preserves.trans _ _ h
  · intro path s l made kept data there eligible
    exact kept.kept _ _ (made data there eligible)
  · intro path member s rows kept returned
    obtain ⟨below, -, data, there⟩ := mem_legacyFiles.mp member
    rw [inspected_file there]
    exact migrateFile_returns outside there below (before.trans kept) returned

/-- What a run reports that does not raise. -/
def legacyResults (sha256 : Bytes → Digest) (lower : String → String) (status : MigrationStatus) (root : Path)
    (kinds : List RawObjectKind) (fs : FileSystem) : List LegacyObjectResult :=
  kinds.flatMap fun kind => (legacyFiles fs root kind).flatMap (inspected sha256 lower status fs kind)

/-- Every eligible legacy file has its object. -/
def AllHaveObjects (sha256 : Bytes → Digest) (lower : String → String) (root store : Path)
    (kinds : List RawObjectKind) (fs k : FileSystem) : Prop :=
  ∀ kind ∈ kinds, ∀ path ∈ legacyFiles fs root kind, HasObject sha256 lower store fs kind path k

/-- An apply run that returns: its report, and what it leaves. -/
theorem migrate_returns (outside : ∀ legacy, ¬legacyRoot root legacy <+: store)
    (h : migrateLegacyObjects sha256 lower root (filesystemBackend sha256 store token) false kinds fs =
      (.ok report, k)) : report = ⟨false, legacyResults sha256 lower .migrated root kinds fs⟩ ∧
    Preserves root fs k ∧ AllHaveObjects sha256 lower root store kinds fs k := by
  obtain ⟨run, rfl⟩ := Prod.mk.inj h
  obtain ⟨results, returned, rfl⟩ := Python.map_ok run
  have ends := inTurn_returns
    (fun kind => (legacyFiles fs root kind).flatMap (inspected sha256 lower .migrated fs kind)) (Preserves root)
    (fun kind k => ∀ path ∈ legacyFiles fs root kind, HasObject sha256 lower store fs kind path k)
    (Preserves.refl root) Preserves.trans
    (fun made kept path member data there eligible => kept.kept _ _ (made path member data there eligible))
    (fun kind _ k rows before returned => migrateKind_returns outside before returned) returned
  obtain ⟨rfl, kept, made⟩ := ends
  exact ⟨rfl, kept, made⟩

theorem migrate_settled {backend : ImmutableBackend FileSystem} {status : MigrationStatus}
    (turn : ∀ kind ∈ kinds, ∀ path data, path ∈ legacyFiles fs root kind → node fs path = some (.file data) →
      migrateFile sha256 lower backend dryRun kind path fs =
        (.ok [examined sha256 lower status kind path data], fs)) :
    migrateLegacyObjects sha256 lower root backend dryRun kinds fs =
      (.ok ⟨dryRun, legacyResults sha256 lower status root kinds fs⟩, fs) := by
  have run : inTurn (fun kind fs => inTurn (migrateFile sha256 lower backend dryRun kind)
      (legacyFiles fs root kind) fs) kinds fs = (.ok (legacyResults sha256 lower status root kinds fs), fs) := by
    apply inTurn_settled
    intro kind chosen
    apply inTurn_settled
    intro path member
    obtain ⟨-, -, data, there⟩ := mem_legacyFiles.mp member
    rw [inspected_file there]
    exact turn kind chosen path data member there
  rw [migrateLegacyObjects, run]
  rfl

/-- An apply run where every eligible file has its object reports the same and changes nothing. -/
theorem migrate_again (done : AllHaveObjects sha256 lower root store kinds fs fs) :
    migrateLegacyObjects sha256 lower root (filesystemBackend sha256 store token) false kinds fs =
      (.ok ⟨false, legacyResults sha256 lower .migrated root kinds fs⟩, fs) :=
  migrate_settled fun kind chosen path _ member there => migrateFile_again there (done kind chosen path member)

theorem migrate_dryRun (backend : ImmutableBackend FileSystem) :
    migrateLegacyObjects sha256 lower root backend true kinds fs =
      (.ok ⟨true, legacyResults sha256 lower .planned root kinds fs⟩, fs) :=
  migrate_settled fun _ _ _ _ _ there => migrateFile_plans there

theorem Preserves.results (kept : Preserves root fs k) :
    legacyResults sha256 lower status root kinds k = legacyResults sha256 lower status root kinds fs := by
  apply List.flatMap_congr
  intro kind _
  rw [legacyFiles_congr (kept.originals kind)]
  apply List.flatMap_congr
  intro path member
  rw [inspected, inspected, kept.originals kind path (mem_legacyFiles.mp member).1]

theorem AllHaveObjects.later (done : AllHaveObjects sha256 lower root store kinds fs k) (kept : Preserves root fs k) :
    AllHaveObjects sha256 lower root store kinds k k := by
  intro kind chosen path member data there
  rw [legacyFiles_congr (kept.originals kind)] at member
  rw [kept.originals kind path (mem_legacyFiles.mp member).1] at there
  exact done kind chosen path member data there

/-- The files with the status of the eligible ones do not depend on that status. -/
theorem files_agree :
    LegacyMigrationReport.files ⟨false, legacyResults sha256 lower .migrated root kinds fs⟩ .migrated =
    LegacyMigrationReport.files ⟨true, legacyResults sha256 lower .planned root kinds fs⟩ .planned := by
  unfold LegacyMigrationReport.files legacyResults
  rw [List.filter_flatMap, List.filter_flatMap, List.map_flatMap, List.map_flatMap]
  apply List.flatMap_congr
  intro kind _
  rw [List.filter_flatMap, List.filter_flatMap, List.map_flatMap, List.map_flatMap]
  apply List.flatMap_congr
  intro path member
  obtain ⟨-, -, data, there⟩ := mem_legacyFiles.mp member
  rw [inspected_file there, inspected_file there]
  unfold examined
  split
  · rfl
  · simp [unmigrated]

theorem ok_eligible
    (ok : LegacyMigrationReport.ok ⟨dryRun, legacyResults sha256 lower status root kinds fs⟩ = true)
    (chosen : kind ∈ kinds) (member : path ∈ legacyFiles fs root kind)
    (there : node fs path = some (.file data)) :
    Eligible sha256 lower path data := by
  by_contra other
  have reported : unmigrated sha256 kind path data ∈ legacyResults sha256 lower status root kinds fs := by
    refine List.mem_flatMap.mpr ⟨kind, chosen, List.mem_flatMap.mpr ⟨path, member, ?_⟩⟩
    rw [inspected_file there, examined, if_neg other]
    exact List.mem_singleton_self _
  have status := List.all_eq_true.mp ok _ reported
  simp [unmigrated] at status

/-- Migration of legacy objects into a store outside the legacy roots. An apply run that returns leaves the
originals, an equal second run changes nothing, and dry runs plan the files that it migrated; when its report is
fine, every legacy file has its object. -/
theorem migration_agrees (sha256 : Bytes → Digest) (lower : String → String) (root store : Path)
    (outside : ∀ legacy, ¬legacyRoot root legacy <+: store) (kinds : List RawObjectKind)
    (token again : Path → String) (fs fs' : FileSystem) (report : LegacyMigrationReport)
    (returned : migrateLegacyObjects sha256 lower root (filesystemBackend sha256 store token) false kinds fs =
      (.ok report, fs')) :
    (report.ok = true → ∀ kind ∈ kinds, ∀ path data, legacyRoot root kind <+: path → path ≠ legacyRoot root kind →
      node fs path = some (.file data) →
      node fs' (contentFile store kind (sha256 data)) = some (.file data)) ∧
    (∀ kind path, legacyRoot root kind <+: path → node fs' path = node fs path) ∧
    migrateLegacyObjects sha256 lower root (filesystemBackend sha256 store again) false kinds fs' =
      (.ok report, fs') ∧
    ∃ planned, migrateLegacyObjects sha256 lower root (filesystemBackend sha256 store again) true kinds fs =
        (.ok planned, fs) ∧
      migrateLegacyObjects sha256 lower root (filesystemBackend sha256 store again) true kinds fs' =
        (.ok planned, fs') ∧
      report.files .migrated = planned.files .planned := by
  obtain ⟨rfl, kept, done⟩ := migrate_returns outside returned
  refine ⟨?_, kept.originals, ?_, _, migrate_dryRun _, ?_, files_agree⟩
  · intro ok kind chosen path data below proper there
    have member := mem_legacyFiles.mpr ⟨below, proper, data, there⟩
    exact done kind chosen path member data there (ok_eligible ok chosen member there)
  · rw [migrate_again (done.later kept), kept.results]
  · rw [migrate_dryRun, kept.results]

end

def sampleObject : Path := ["objects", (checksum [1]).hex]

/-- A legacy directory of one object. -/
def sampleLegacy : FileSystem :=
  (FileSystem.empty.store ["objects"] .directory).store sampleObject (.file [1])

theorem sampleLegacy_files : legacyFiles sampleLegacy [] .evidence = [sampleObject] := by
  have below : filesBelow sampleLegacy (legacyRoot [] .evidence) = {sampleObject} := by decide +kernel
  have there : node sampleLegacy (legacyRoot [] .evidence) ≠ none := by decide +kernel
  rw [legacyFiles, if_neg there, below, Finset.sort_singleton]

/-- The object is migrated beside the legacy directory. -/
theorem sampleLegacy_migrated : node (migrateLegacyObjects checksum id []
    (filesystemBackend checksum ["raw_objects"] fun _ => "0") false [.evidence] sampleLegacy).2 (contentFile ["raw_objects"] .evidence (checksum [1])) =
      some (.file [1]) := by
  have outside : ∀ legacy, ¬legacyRoot [] legacy <+: ["raw_objects"] := by
    intro legacy
    cases legacy <;> decide
  have run : (migrateLegacyObjects checksum id [] (filesystemBackend checksum ["raw_objects"] fun _ => "0") false
      [.evidence] sampleLegacy).1 = .ok ⟨false, [examined checksum id .migrated .evidence sampleObject [1]]⟩ := by
    simp only [migrateLegacyObjects, inTurn, sampleLegacy_files]
    decide +kernel
  have agrees := migration_agrees checksum id [] ["raw_objects"] outside [.evidence] (fun _ => "0") (fun _ => "1")
    sampleLegacy _ _ (Prod.ext run rfl)
  exact agrees.1 (by decide +kernel) .evidence (List.mem_singleton_self _) sampleObject [1] (by decide)
    (by decide) (by decide +kernel)

end BallotProof
