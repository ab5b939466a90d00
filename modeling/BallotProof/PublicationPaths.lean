import BallotProof.PosixPath
import BallotProof.Replication

/-! The object names of the publication backends: what `_relative_path` of the filesystem and
`_normalize_relative_path` of the object storage accept, and the objects that the names stand for. -/
namespace BallotProof
open Python

/-- The check of both backends, whose messages differ in their subject. -/
def checkedPath (subject value : String) : Result PurePosixPath :=
  let candidate := PurePosixPath.ofText value.toList
  let error : Error := ⟨.valueError, subject ++ " paths must be normalized relative POSIX paths"⟩
  if candidate.isAbsolute ∨ candidate.parts.any (fun part => part = [] ∨ part = ['.'] ∨ part = ['.', '.']) then
    .error error
  else if '\\' ∈ value.toList ∨ candidate.asPosix ≠ value.toList then .error error
  else .ok candidate

/-- `FilesystemImmutablePublicationBackend._relative_path` -/
def relativePath (value : String) : Result PurePosixPath := checkedPath "publication" value

/-- `object_storage._normalize_relative_path` -/
def ObjectStorage.normalizeRelativePath (value : String) : Result String :=
  (checkedPath "object-storage" value).map fun candidate => String.ofList candidate.asPosix

section
variable (isSymlink : List (List Char) → Bool)

/-- A turn of the loop of `_path`. -/
def enter (current : List (List Char)) (part : List Char) : Result (List (List Char)) := do
  let current := current ++ [part]
  raiseIf (isSymlink current) ⟨.valueError, "publication paths must not traverse symbolic links"⟩
  return current

/-- `FilesystemImmutablePublicationBackend._path`: the names from the top directory down. -/
def publicationPath (root : List (List Char)) (value : String) : Result (List (List Char)) := do
  let relative ← relativePath value
  relative.parts.foldlM (enter isSymlink) root

end

/-- `S3ObjectLockPublicationBackend._key` -/
def objectKey (keyPrefix value : String) : Result String := do
  let relative ← ObjectStorage.normalizeRelativePath value
  return if keyPrefix ≠ "" then keyPrefix ++ "/" ++ relative else relative

/-- A segment of a publication path. -/
structure Segment (segment : List Char) : Prop where
  nonempty : segment ≠ []
  notDot : segment ≠ ['.']
  notParent : segment ≠ ['.', '.']
  noSlash : '/' ∉ segment
  noBackslash : '\\' ∉ segment

/-- Segments joined by slashes, at least one. -/
def IsPublicationPath (value : String) : Prop :=
  ∃ segments, segments ≠ [] ∧ (∀ segment ∈ segments, Segment segment) ∧
    value.toList = ['/'].intercalate segments

theorem Segment.name (segment : Segment text) : PurePosixPath.Name text :=
  ⟨segment.nonempty, segment.notDot, segment.noSlash⟩

theorem mem_intercalate {c : Char} {names : List (List Char)} (other : c ≠ '/') :
    c ∈ ['/'].intercalate names ↔ ∃ name ∈ names, c ∈ name := by
  induction names with
  | nil => simp
  | cons name names ih =>
    cases names with
    | nil => simp
    | cons next names =>
      have joined : ['/'].intercalate (name :: next :: names) =
          name ++ '/' :: ['/'].intercalate (next :: names) := by
        simp [List.intercalate]
      rw [joined, List.mem_append, List.mem_cons, ih]
      simp [other]

/-- The accepted texts: a single dot beside the joined segments. -/
theorem checkedPath_ok : checkedPath subject value = .ok path ↔
    value = "." ∧ path = ⟨[], []⟩ ∨
      ∃ segments, segments ≠ [] ∧ (∀ segment ∈ segments, Segment segment) ∧
        value.toList = ['/'].intercalate segments ∧ path = ⟨[], segments⟩ := by
  simp only [checkedPath]
  constructor
  · intro accepted
    split at accepted
    · cases accepted
    · rename_i inside
      rw [not_or] at inside
      have relative := PurePosixPath.not_isAbsolute.mp inside.1
      split at accepted
      · cases accepted
      · rename_i normal
        rw [not_or, not_not] at normal
        cases accepted
        rcases (PurePosixPath.asPosix_ofText relative).mp normal.2 with dot | ⟨names, filled, kept, joined⟩
        · refine .inl ⟨String.toList_injective dot, ?_⟩
          rw [dot]
          decide +kernel
        · right
          have read : PurePosixPath.ofText value.toList = ⟨[], names⟩ := by
            rw [joined]
            exact PurePosixPath.ofText_intercalate filled kept
          refine ⟨names, filled, fun name member => ?_, joined, read⟩
          obtain ⟨nonempty, notDot, noSlash⟩ := kept name member
          refine ⟨nonempty, notDot, fun parent => inside.2 ?_, noSlash, fun backslash => normal.1 ?_⟩
          · rw [read, List.any_eq_true]
            exact ⟨name, member, by simp [parent]⟩
          · rw [joined, mem_intercalate (by decide)]
            exact ⟨name, member, backslash⟩
  · rintro (⟨rfl, rfl⟩ | ⟨segments, filled, all, joined, rfl⟩)
    · rfl
    · have names (segment) (member : segment ∈ segments) := (all segment member).name
      have read : PurePosixPath.ofText value.toList = ⟨[], segments⟩ := by
        rw [joined]
        exact PurePosixPath.ofText_intercalate filled names
      have relative : value.toList.head? ≠ some '/' := by
        rw [joined]
        exact PurePosixPath.head_intercalate names
      have normal : (PurePosixPath.ofText value.toList).asPosix = value.toList :=
        (PurePosixPath.asPosix_ofText relative).mpr (.inr ⟨segments, filled, names, joined⟩)
      have plain : '\\' ∉ value.toList := by
        rw [joined, mem_intercalate (by decide)]
        rintro ⟨segment, member, backslash⟩
        exact (all segment member).noBackslash backslash
      rw [if_neg, if_neg, read]
      · exact not_or.mpr ⟨plain, not_not.mpr normal⟩
      · rw [not_or]
        refine ⟨PurePosixPath.not_isAbsolute.mpr relative, ?_⟩
        rw [read, List.any_eq_true]
        rintro ⟨part, member, dotted⟩
        obtain ⟨nonempty, notDot, notParent, -, -⟩ := all part member
        simp [nonempty, notDot, notParent] at dotted

/-- The check without the parsed path is the one of the replicated backend. -/
theorem normalizeRelativePath_checked (subject value : String) :
    normalizeRelativePath subject value = (checkedPath subject value).map fun _ => value := by
  by_cases absolute : value.toList.head? = some '/'
  · have root : (PurePosixPath.ofText value.toList).isAbsolute = true := by
      by_contra relative
      exact PurePosixPath.not_isAbsolute.mp relative absolute
    simp [normalizeRelativePath, checkedPath, absolute, root, Except.map]
  · have relative : (PurePosixPath.ofText value.toList).isAbsolute = false :=
      Bool.eq_false_iff.mpr (PurePosixPath.not_isAbsolute.mpr absolute)
    have parts : (PurePosixPath.ofText value.toList).parts = posixParts value := by
      rw [PurePosixPath.ofText_relative absolute]
      rfl
    have names : ∀ name ∈ posixParts value, PurePosixPath.Name name := by
      rw [← parts, PurePosixPath.parts, if_pos (by rw [PurePosixPath.ofText_relative absolute])]
      exact PurePosixPath.ofText_names absolute
    have text : (PurePosixPath.ofText value.toList).asPosix = asPosix (posixParts value) := by
      rw [PurePosixPath.ofText_relative absolute]
      change (if ['/'].intercalate (posixParts value) = [] then ['.'] else _) = _
      by_cases none : posixParts value = []
      · rw [none]
        rfl
      · rw [asPosix, if_neg none, if_neg (PurePosixPath.intercalate_ne_nil none names)]
        rfl
    have dotted : (posixParts value).any (fun part => part = [] ∨ part = ['.'] ∨ part = ['.', '.']) = true ↔
        ['.', '.'] ∈ posixParts value := by
      rw [List.any_eq_true]
      simp only [decide_eq_true_eq]
      constructor
      · rintro ⟨part, member, dots⟩
        have name := names part member
        have : part = ['.', '.'] := by simpa [name.nonempty, name.notDot] using dots
        exact this ▸ member
      · exact fun member => ⟨_, member, by simp⟩
    simp only [normalizeRelativePath, checkedPath, relative, parts, text, dotted, absolute, false_or,
      Bool.false_eq_true]
    split
    · rfl
    · split <;> rfl

theorem IsPublicationPath.ne_dot (valid : IsPublicationPath value) : value ≠ "." := by
  rintro rfl
  obtain ⟨segments, filled, all, joined⟩ := valid
  have names (segment) (member : segment ∈ segments) := (all segment member).name
  have read := PurePosixPath.ofText_intercalate filled names
  rw [← joined] at read
  have : segments = [] := (congrArg PurePosixPath.tail read).symm
  exact filled this

theorem checkedPath_isOk : (∃ path, checkedPath subject value = .ok path) ↔
    value = "." ∨ IsPublicationPath value := by
  simp only [checkedPath_ok]
  constructor
  · rintro ⟨path, ⟨dot, -⟩ | ⟨segments, filled, all, joined, -⟩⟩
    · exact .inl dot
    · exact .inr ⟨segments, filled, all, joined⟩
  · rintro (dot | ⟨segments, filled, all, joined⟩)
    · exact ⟨_, .inl ⟨dot, rfl⟩⟩
    · exact ⟨_, .inr ⟨segments, filled, all, joined, rfl⟩⟩

/-- The names of an accepted path determine its text. -/
theorem checkedPath_injective (left : checkedPath subject a = .ok path)
    (right : checkedPath subject b = .ok path) : a = b := by
  rcases checkedPath_ok.mp left with ⟨rfl, rfl⟩ | ⟨segments, filled, -, joined, rfl⟩
  · rcases checkedPath_ok.mp right with ⟨rfl, -⟩ | ⟨others, filled, -, -, same⟩
    · rfl
    · exact absurd (congrArg PurePosixPath.tail same).symm filled
  · rcases checkedPath_ok.mp right with ⟨-, same⟩ | ⟨others, -, -, joined', same⟩
    · exact absurd (congrArg PurePosixPath.tail same) filled
    · obtain rfl : segments = others := congrArg PurePosixPath.tail same
      exact String.toList_injective (joined.trans joined'.symm)

theorem normalizeRelativePath_eq (h : ObjectStorage.normalizeRelativePath value = .ok key) : key = value := by
  obtain ⟨path, accepted, rfl⟩ := map_ok h
  simp only [checkedPath] at accepted
  split at accepted
  · cases accepted
  · split at accepted
    · cases accepted
    · rename_i normal
      cases accepted
      rw [not_or, not_not] at normal
      rw [normal.2, String.ofList_toList]

theorem enter_walk {names current : List (List Char)}
    (h : names.foldlM (enter isSymlink) current = .ok target) : target = current ++ names := by
  induction names generalizing current with
  | nil =>
    cases h
    exact (List.append_nil _).symm
  | cons name names ih =>
    obtain ⟨next, step, h⟩ := bind_ok h
    obtain ⟨-, -, step⟩ := bind_ok step
    cases step
    rw [ih h, List.append_assoc]
    rfl

/-- No link on the way: the path is the root with the names below it. -/
theorem publicationPath_ok (h : publicationPath isSymlink root value = .ok target) :
    ∃ path, relativePath value = .ok path ∧ target = root ++ path.parts := by
  obtain ⟨path, accepted, walked⟩ := bind_ok h
  exact ⟨path, accepted, enter_walk walked⟩

theorem objectKey_ok (h : objectKey keyPrefix value = .ok key) :
    key = if keyPrefix ≠ "" then keyPrefix ++ "/" ++ value else value := by
  obtain ⟨relative, accepted, rest⟩ := bind_ok h
  cases rest
  rw [normalizeRelativePath_eq accepted]

/-- What both backends promise of a text, whatever directory or key prefix they store under. -/
structure PathPromise (value : String) : Prop where
  filesystem : (∃ path, relativePath value = .ok path) ↔ IsPublicationPath value
  objectStorage : (∃ key, ObjectStorage.normalizeRelativePath value = .ok key) ↔ IsPublicationPath value
  below : ∀ root isSymlink target, publicationPath isSymlink root value = .ok target →
    ∃ names, names ≠ [] ∧ target = root ++ names ∧ ∀ name ∈ names, Segment name
  ownFile : ∀ root isSymlink other target, publicationPath isSymlink root value = .ok target →
    publicationPath isSymlink root other = .ok target → other = value
  ownKey : ∀ keyPrefix other key, objectKey keyPrefix value = .ok key →
    objectKey keyPrefix other = .ok key → other = value

/-- Both backends accept the joined segments and, beside them, the single dot, which is the root. -/
theorem pathPromise_iff (value : String) : PathPromise value ↔ value ≠ "." := by
  constructor
  · rintro promise rfl
    have accepted : ∃ path, relativePath "." = .ok path := checkedPath_isOk.mpr (.inl rfl)
    exact (promise.filesystem.mp accepted).ne_dot rfl
  · intro other
    have grammar (subject : String) : (∃ path, checkedPath subject value = .ok path) ↔
        IsPublicationPath value := by
      rw [checkedPath_isOk, or_iff_right other]
    refine ⟨grammar _, ?_, ?_, ?_, ?_⟩
    · rw [← grammar "object-storage"]
      constructor
      · rintro ⟨key, accepted⟩
        obtain ⟨path, accepted, -⟩ := map_ok accepted
        exact ⟨path, accepted⟩
      · rintro ⟨path, accepted⟩
        exact ⟨_, by rw [ObjectStorage.normalizeRelativePath, accepted]; rfl⟩
    · intro root isSymlink target walked
      obtain ⟨path, accepted, rfl⟩ := publicationPath_ok walked
      rcases checkedPath_ok.mp accepted with ⟨dot, -⟩ | ⟨segments, filled, all, -, rfl⟩
      · exact absurd dot other
      · exact ⟨segments, filled, rfl, all⟩
    · intro root isSymlink second target left right
      obtain ⟨path, accepted, rfl⟩ := publicationPath_ok left
      obtain ⟨path', accepted', same⟩ := publicationPath_ok right
      have same := List.append_cancel_left same
      rcases checkedPath_ok.mp accepted with ⟨dot, -⟩ | ⟨segments, filled, all, -, rfl⟩
      · exact absurd dot other
      · rcases checkedPath_ok.mp accepted' with ⟨-, rfl⟩ | ⟨others, -, -, -, rfl⟩
        · exact absurd same filled
        · obtain rfl : segments = others := same
          exact checkedPath_injective accepted' accepted
    · intro keyPrefix second key left right
      have same := (objectKey_ok left).symm.trans (objectKey_ok right)
      split at same
      · exact (String.append_right_inj _).mp same.symm
      · exact same.symm

/-- The single dot is accepted by both backends and names the directory of the backend itself. -/
theorem dot_namesRoot : relativePath "." = .ok ⟨[], []⟩ ∧ ObjectStorage.normalizeRelativePath "." = .ok "." ∧
    (∀ root isSymlink, publicationPath isSymlink root "." = .ok root) ∧ ¬IsPublicationPath "." :=
  ⟨rfl, rfl, fun _ _ => rfl, fun valid => valid.ne_dot rfl⟩

end BallotProof
