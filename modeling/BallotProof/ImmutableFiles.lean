import BallotProof.Files

/-! A file that is written once: through a temporary file beside it, which is linked to the path
and removed. -/
namespace BallotProof
open Python Files Process

/-- `path.parent / f".{path.name}.{token}.tmp"` -/
def temporary (path : Path) (token : String) : Path :=
  path.dropLast ++ ["." ++ (path.getLast?.getD "" ++ ("." ++ token ++ ".tmp"))]

/-- `if not path.is_file() or path.read_bytes() != data: raise` -/
def checkSame (path : Path) (data : Bytes) : Process Unit := read fun fs =>
  raiseIf (node fs path ≠ some (.file data))
    ⟨.fileExistsError, "immutable publication conflict: " ++ pathText path⟩

/-- `_immutable_write`, with the token that it draws. -/
def immutableWrite (path : Path) (data : Bytes) (token : String) : Process Unit := do
  makeDirectories path.dropLast
  if ← pathExists path then checkSame path data
  else
    let temp := temporary path token
    ensuring (do
      createNew temp
      writeBytes temp data
      exceptFileExists (linkTo temp path) (checkSame path data)) (unlinkIfThere temp)

/-- What a write may add. -/
def AddedByWrite (path : Path) (data : Bytes) (temp q : Path) (content : Option Node) : Prop :=
  Ancestor path.dropLast q content ∨ q = path ∧ content = some (.file data) ∨ q = temp

/-- The write returns: no file stands on the way, and the path holds the data or nothing, and then
the temporary file is new. -/
structure Claimable (fs : FileSystem) (path : Path) (data : Bytes) (token : String) : Prop where
  clear : Unblocked fs path.dropLast
  same : node fs path = none ∨ node fs path = some (.file data)
  unused : node fs path = none → node fs (temporary path token) = none

theorem temporary_length (proper : path ≠ []) : (temporary path token).length = path.length := by
  have := List.length_pos_of_ne_nil proper
  simp [temporary]
  omega

theorem temporary_parent : (temporary path token).dropLast = path.dropLast := by
  simp [temporary]

theorem not_ancestor (proper : path ≠ []) (same : q.length = path.length) : ¬q <+: path.dropLast := by
  intro below
  have := below.length_le
  have := List.length_pos_of_ne_nil proper
  simp at *
  omega

theorem temporary_ne : temporary path token ≠ path := by
  intro same
  have name : path.getLast?.getD "" = "." ++ (path.getLast?.getD "" ++ ("." ++ token ++ ".tmp")) := by
    nth_rewrite 1 [← same]
    simp only [temporary, List.getLast?_concat, Option.getD_some]
  have longer := congrArg String.length name
  have dot : ".".length = 1 := rfl
  simp only [String.length_append, dot] at longer
  omega

section
variable {path : Path} {data : Bytes} {token : String}

theorem temporary_not_ancestor (proper : path ≠ []) : ¬temporary path token <+: path.dropLast :=
  not_ancestor proper (temporary_length proper)

/-- The file is filled and linked, and its temporary file is removed. -/
theorem claim_runs {fs : FileSystem} (parent : node fs path.dropLast = some .directory)
    (absent : node fs path = none) (unused : node fs (temporary path token) = none) :
    Runs (ensuring (do
      createNew (temporary path token)
      writeBytes (temporary path token) data
      exceptFileExists (linkTo (temporary path token) path) (checkSame path data))
      (unlinkIfThere (temporary path token))) fs
      (fun r fs' => r = .ok () ∧ Adds (AddedByWrite path data (temporary path token)) fs fs' ∧
        node fs' path = some (.file data) ∧ node fs' (temporary path token) = none)
      (Adds (AddedByWrite path data (temporary path token)) fs) := by
  set temp := temporary path token with named
  have apart : temp ≠ path := temporary_ne
  -- between the first and the last change only the temporary file and the path differ
  have adds {k : FileSystem} (others : ∀ q, q ≠ temp → q ≠ path → node k q = node fs q)
      (here : node k path = none ∨ node k path = some (.file data)) :
      Adds (AddedByWrite path data temp) fs k := by
    intro q
    by_cases isTemp : q = temp
    · exact .inr ⟨isTemp ▸ unused, .inr (.inr isTemp)⟩
    · by_cases isPath : q = path
      · rcases here with none | file
        · exact .inl (by rw [isPath, none, absent])
        · exact .inr ⟨isPath ▸ absent, .inr (.inl ⟨isPath, isPath ▸ file⟩)⟩
      · exact .inl (others q isTemp isPath)
  have parentOfTemp : node fs temp.dropLast = some .directory := by
    rw [named, temporary_parent]
    exact parent
  have body : Runs (do
      createNew temp
      writeBytes temp data
      exceptFileExists (linkTo temp path) (checkSame path data)) fs
      (fun r fs' => r = .ok () ∧ node fs' temp = some (.file data) ∧ node fs' path = some (.file data) ∧
        ∀ q, q ≠ temp → q ≠ path → node fs' q = node fs q)
      (Adds (AddedByWrite path data temp) fs) := by
    have created (q) : node (Change.apply fs (.create temp)) q = if q = temp then some (.file []) else node fs q :=
      node_store (.of_absent unused parentOfTemp)
    apply Runs.bind (createNew_runs unused parentOfTemp (.refl _ fs) ?_)
    · rintro e s ⟨raised, -⟩
      cases raised
    · rintro - s ⟨-, created⟩
      have started : node s temp = some (.file []) := by rw [created, if_pos rfl]
      have rest (q) (other : q ≠ temp) : node s q = node fs q := by rw [created, if_neg other]
      have waiting {k : FileSystem} (only : ∀ q, q ≠ temp → node k q = node s q) : node k path = none := by
        rw [only path apart.symm, rest path apart.symm, absent]
      have filling (k) (part : Bytes) (_ : node k temp = some (.file part))
          (only : ∀ q, q ≠ temp → node k q = node s q) : Adds (AddedByWrite path data temp) fs k := by
        apply adds
        · intro q other _
          rw [only q other, rest q other]
        · exact .inl (waiting only)
      apply Runs.bind (write_runs started filling)
      · rintro e k ⟨raised, -⟩
        cases raised
      · rintro - k ⟨-, filled, only⟩
        have linked : node k path = none := waiting only
        have inside : node k path.dropLast = some .directory := by
          rw [← temporary_parent]
          exact parent_directory (by rw [← named, filled]; simp)
        have new {l : FileSystem} (done : ∀ q, node l q = if q = path then some (.file data) else node k q) :
            node l temp = some (.file data) ∧ node l path = some (.file data) ∧
              ∀ q, q ≠ temp → q ≠ path → node l q = node fs q := by
          refine ⟨?_, ?_, ?_⟩
          · rw [done, if_neg apart]
            exact filled
          · rw [done, if_pos rfl]
          · intro q other otherPath
            rw [done, if_neg otherPath, only q other, rest q other]
        have link := @linkTo_runs k temp _ path (Adds (AddedByWrite path data temp) fs) filled linked
          inside (filling k _ filled only) ?_
        · apply Runs.unhandled
          · apply link.mono _ fun _ => id
            rintro r l ⟨done, linked⟩
            exact ⟨done, new linked⟩
          · intro message raised
            rw [link.post.1] at raised
            cases raised
        · obtain ⟨-, here, others⟩ := new (l := Change.apply k (.link temp path)) fun q =>
            node_apply_link filled linked inside
          exact adds others (.inr here)
    · apply adds
      · intro q other _
        exact (created q).trans (if_neg other)
      · left
        exact ((created path).trans (if_neg apart.symm)).trans absent
  apply Runs.ensuring body
  rintro r s ⟨rfl, filled, linked, others⟩
  have removed {k : FileSystem} (done : ∀ q, node k q = if q = temp then none else node s q) :
      node k path = some (.file data) ∧ Adds (AddedByWrite path data temp) fs k := by
    have here : node k path = some (.file data) := by rw [done, if_neg apart.symm, linked]
    refine ⟨here, adds ?_ (.inr here)⟩
    intro q other otherPath
    rw [done, if_neg other, others q other otherPath]
  have unlink := @unlinkIfThere_runs s temp _ (Adds (AddedByWrite path data temp) fs) filled (adds others (.inr linked))
    (removed fun q => node_apply_unlink filled).2
  apply unlink.mono _ fun _ => id
  rintro r k ⟨rfl, done⟩
  obtain ⟨here, added⟩ := removed done
  exact ⟨rfl, added, here, by rw [done, if_pos rfl]⟩

theorem pathExists_runs {fs : FileSystem} {during : FileSystem → Prop} (start : during fs) :
    Runs (pathExists path) fs (fun r fs' => r = .ok (node fs path).isSome ∧ fs' = fs) during :=
  Runs.read start ⟨rfl, rfl⟩

theorem immutableWrite_runs {fs : FileSystem} (proper : path ≠ []) (claim : Claimable fs path data token) :
    Runs (immutableWrite path data token) fs
      (fun r fs' => r = .ok () ∧ Adds (AddedByWrite path data (temporary path token)) fs fs' ∧
        node fs' path = some (.file data) ∧ node fs' (temporary path token) = node fs (temporary path token))
      (Adds (AddedByWrite path data (temporary path token)) fs) := by
  have widen {s : FileSystem} (made : Adds (Ancestor path.dropLast) fs s) :
      Adds (AddedByWrite path data (temporary path token)) fs s := made.mono fun _ _ => .inl
  apply Runs.bind ((makeDirectories_runs claim.clear).mono (fun _ _ => id) fun _ => widen)
  · rintro e s ⟨raised, -⟩
    cases raised
  · rintro - s ⟨-, made, parents⟩
    have samePath : node s path = node fs path :=
      made.away fun ancestor => not_ancestor proper rfl ancestor.1
    have sameTemp : node s (temporary path token) = node fs (temporary path token) :=
      made.away fun ancestor => temporary_not_ancestor proper ancestor.1
    apply Runs.bind (pathExists_runs (widen made))
    · rintro e s ⟨raised, -⟩
      cases raised
    · rintro there k ⟨answer, rfl⟩
      cases answer
      rcases claim.same with absent | same
      · rw [samePath, absent]
        apply (claim_runs (parents _ List.prefix_rfl) (samePath.trans absent)
          (sameTemp.trans (claim.unused absent))).mono
        · rintro r l ⟨done, added, here, gone⟩
          exact ⟨done, (widen made).trans added, here, gone.trans (claim.unused absent).symm⟩
        · exact fun l added => (widen made).trans added
      · rw [samePath, same]
        apply Runs.read (widen made)
        exact ⟨raiseIf_ok.mpr (not_not.mpr (samePath.trans same)), widen made, samePath.trans same, sameTemp⟩

theorem Claimable.of_file {fs : FileSystem} (there : node fs path = some (.file data)) :
    Claimable fs path data token := by
  refine ⟨?_, .inr there, fun absent => ?_⟩
  · intro q below other file
    have parent : node fs path.dropLast = some .directory := parent_directory (by rw [there]; simp)
    have directory : node fs q = some .directory := by
      by_cases last : q = path.dropLast
      · rw [last, parent]
      · exact ancestor_directory (by rw [parent]; simp) below last
    rw [file] at directory
    cases directory
  · rw [there] at absent
    cases absent

/-- A second write of the same data changes nothing. -/
theorem immutableWrite_again {fs : FileSystem} (there : node fs path = some (.file data)) :
    (immutableWrite path data token).result fs = .ok () ∧ (immutableWrite path data token).after fs = fs := by
  obtain ⟨done, adds, -, own⟩ :=
    (immutableWrite_runs (ne_root_of_file there) (@Claimable.of_file path data token fs there)).post
  refine ⟨done, ext_node fun q => ?_⟩
  rcases adds q with same | ⟨absent, ⟨ancestor, -⟩ | ⟨rfl, -⟩ | rfl⟩
  · exact same
  · have directory : node fs q = some .directory := by
      apply ancestor_directory
      · rw [there]
        simp
      · exact ancestor.trans (List.dropLast_prefix path)
      · rintro rfl
        exact not_ancestor (ne_root_of_file there) rfl ancestor
    rw [absent] at directory
    cases directory
  · rw [there] at absent
    cases absent
  · exact own

theorem immutableWrite_returns {fs : FileSystem} (proper : path ≠ [])
    (h : (immutableWrite path data token).result fs = .ok ()) : Claimable fs path data token := by
  obtain ⟨⟨⟩, made, h⟩ := result_bind.mp h
  have clear := makeDirectories_returns made
  obtain ⟨-, added, -⟩ := (makeDirectories_runs clear).post
  set s := (makeDirectories path.dropLast).after fs
  have samePath : node s path = node fs path := added.away fun ancestor => not_ancestor proper rfl ancestor.1
  obtain ⟨there, answer, h⟩ := result_bind.mp h
  obtain rfl : (node s path).isSome = there := Except.ok.inj answer
  change (if (node s path).isSome = true then checkSame path data else _ : Process Unit).result s = _ at h
  rw [samePath] at h
  cases found : node fs path with
  | none =>
    refine ⟨clear, .inl found, fun _ => ?_⟩
    rw [found] at h
    obtain ⟨⟨⟩, created, -⟩ := result_bind.mp (ensuring_returns h)
    exact added.absent (createNew_returns created)
  | some content =>
    rw [found] at h
    have same : node s path = some (.file data) := not_not.mp (raiseIf_ok.mp h)
    refine ⟨clear, .inr (samePath.symm.trans same), fun absent => ?_⟩
    rw [found] at absent
    cases absent

end

/-- Paths that are written one after the other: none is on the way to another, nor is the temporary file
of one, whatever token it draws. -/
structure Layout (paths : List Path) : Prop where
  distinct : paths.Nodup
  proper : ∀ path ∈ paths, path ≠ []
  apart : ∀ path ∈ paths, ∀ other ∈ paths, ¬path <+: other.dropLast
  temporaryApart : ∀ path ∈ paths, ∀ other ∈ paths, ∀ token, ¬temporary path token <+: other.dropLast
  temporaryNew : ∀ path ∈ paths, ∀ other ∈ paths, ∀ token, temporary path token ≠ other

section
variable {writes : List (Path × Bytes)} {token : Path → String} {fs : FileSystem}

def writeAll (writes : List (Path × Bytes)) (token : Path → String) : Process Unit :=
  writes.forM fun target => immutableWrite target.1 target.2 (token target.1)

/-- What the writes may add. -/
def AddedByWrites (writes : List (Path × Bytes)) (token : Path → String) (q : Path) (content : Option Node) :
    Prop :=
  ∃ target ∈ writes, AddedByWrite target.1 target.2 (temporary target.1 (token target.1)) q content

theorem Layout.eq_of_path (layout : Layout (writes.map (·.1))) (left : a ∈ writes) (right : b ∈ writes)
    (same : a.1 = b.1) : a = b := List.inj_on_of_nodup_map layout.distinct left right same

/-- A target is added as its own write adds it. -/
theorem Layout.added (layout : Layout (writes.map (·.1))) (member : target ∈ writes)
    (added : AddedByWrites writes token target.1 content) : content = some (.file target.2) := by
  obtain ⟨other, among, ⟨ancestor, -⟩ | ⟨same, file⟩ | isTemp⟩ := added
  · exact absurd ancestor (layout.apart _ (List.mem_map_of_mem member) _ (List.mem_map_of_mem among))
  · obtain rfl := layout.eq_of_path member among same
    exact file
  · exact absurd isTemp.symm (layout.temporaryNew _ (List.mem_map_of_mem among) _ (List.mem_map_of_mem member) _)

/-- On the way to a target only directories are added. -/
theorem Layout.added_ancestor (layout : Layout (writes.map (·.1))) (member : target ∈ writes)
    (below : q <+: target.1.dropLast) (added : AddedByWrites writes token q content) :
    content = some .directory := by
  obtain ⟨other, among, ⟨-, directory⟩ | ⟨rfl, -⟩ | rfl⟩ := added
  · exact directory
  · exact absurd below (layout.apart _ (List.mem_map_of_mem among) _ (List.mem_map_of_mem member))
  · exact absurd below
      (layout.temporaryApart _ (List.mem_map_of_mem among) _ (List.mem_map_of_mem member) _)

/-- Where the writes added what they may, a target's way is as clear as before. -/
theorem Layout.clear (layout : Layout (writes.map (·.1))) (member : target ∈ writes)
    (adds : Adds (AddedByWrites writes token) fs k) (clear : Unblocked fs target.1.dropLast) :
    Unblocked k target.1.dropLast := by
  intro q below data there
  rcases adds q with same | ⟨-, added⟩
  · exact clear q below data (same.symm.trans there)
  · have directory := layout.added_ancestor member below added
    rw [there] at directory
    cases directory

theorem Layout.same (layout : Layout (writes.map (·.1))) (member : target ∈ writes)
    (adds : Adds (AddedByWrites writes token) fs k)
    (same : node fs target.1 = none ∨ node fs target.1 = some (.file target.2)) :
    node k target.1 = none ∨ node k target.1 = some (.file target.2) := by
  rcases adds target.1 with kept | ⟨-, added⟩
  · rw [kept]
    exact same
  · exact .inr (layout.added member added)

/-- What a write does at the paths of another one. -/
theorem Layout.frame (layout : Layout (writes.map (·.1))) (member : target ∈ writes) (among : other ∈ writes)
    (different : other ≠ target)
    (adds : Adds (AddedByWrite target.1 target.2 (temporary target.1 (token target.1))) fs k) :
    node k other.1 = node fs other.1 := by
  apply adds.away
  rintro (⟨ancestor, -⟩ | ⟨same, -⟩ | isTemp)
  · exact layout.apart _ (List.mem_map_of_mem among) _ (List.mem_map_of_mem member) ancestor
  · exact different (layout.eq_of_path among member same)
  · exact layout.temporaryNew _ (List.mem_map_of_mem member) _ (List.mem_map_of_mem among) _ isTemp.symm

theorem Layout.frame_temporary (layout : Layout (writes.map (·.1))) (member : target ∈ writes)
    (among : other ∈ writes)
    (adds : Adds (AddedByWrite target.1 target.2 (temporary target.1 (token target.1))) fs k)
    (own : node k (temporary target.1 (token target.1)) = node fs (temporary target.1 (token target.1))) :
    node k (temporary other.1 (token other.1)) = node fs (temporary other.1 (token other.1)) := by
  by_cases same : temporary other.1 (token other.1) = temporary target.1 (token target.1)
  · rw [same, own]
  · apply adds.away
    rintro (⟨ancestor, -⟩ | ⟨isPath, -⟩ | isTemp)
    · exact layout.temporaryApart _ (List.mem_map_of_mem among) _ (List.mem_map_of_mem member) _ ancestor
    · exact layout.temporaryNew _ (List.mem_map_of_mem among) _ (List.mem_map_of_mem member) _ isPath
    · exact same isTemp

theorem writeAll_runs (layout : Layout (writes.map (·.1)))
    (claims : ∀ target ∈ writes, Claimable fs target.1 target.2 (token target.1)) :
    Runs (writeAll writes token) fs
      (fun r fs' => r = .ok () ∧ ∀ target ∈ writes, node fs' target.1 = some (.file target.2))
      (Adds (AddedByWrites writes token) fs) := by
  have ends := @Runs.forM _ (Adds (AddedByWrites writes token) fs) fs
    (fun target : Path × Bytes => immutableWrite target.1 target.2 (token target.1))
    (fun front fs' => Adds (AddedByWrites writes token) fs fs' ∧
      (∀ target ∈ front, node fs' target.1 = some (.file target.2)) ∧
      (∀ target ∈ writes, target ∉ front → node fs' target.1 = node fs target.1) ∧
      ∀ target ∈ writes, node fs' (temporary target.1 (token target.1)) =
        node fs (temporary target.1 (token target.1))) writes
    ⟨.refl _ fs, by simp, fun _ _ _ => rfl, fun _ _ => rfl⟩ (fun _ _ holds => holds.1) ?_
  · apply ends.mono _ fun _ => id
    rintro r fs' ⟨done, -, written, -⟩
    exact ⟨done, written⟩
  · rintro front target back fs' all ⟨adds, written, waiting, temps⟩
    have member : target ∈ writes := all ▸ by simp
    have fresh : target ∉ front := by
      have distinct : writes.Nodup := List.Nodup.of_map _ layout.distinct
      rw [all] at distinct
      intro early
      exact (List.disjoint_of_nodup_append distinct) early List.mem_cons_self
    have claim := claims target member
    have next : Claimable fs' target.1 target.2 (token target.1) := by
      refine ⟨layout.clear member adds claim.clear, layout.same member adds claim.same, fun absent => ?_⟩
      rw [temps target member]
      rw [waiting target member fresh] at absent
      exact claim.unused absent
    have widen {k : FileSystem}
        (step : Adds (AddedByWrite target.1 target.2 (temporary target.1 (token target.1))) fs' k) :
        Adds (AddedByWrites writes token) fs k :=
      adds.trans (step.mono fun q content added => ⟨target, member, added⟩)
    apply (immutableWrite_runs (layout.proper _ (List.mem_map_of_mem member)) next).mono _ fun _ => widen
    rintro r k ⟨done, step, here, own⟩
    refine ⟨done, widen step, ?_, ?_, ?_⟩
    · intro other early
      rcases List.mem_append.mp early with before | now
      · exact step.kept (written other before)
      · exact (List.mem_singleton.mp now) ▸ here
    · intro other among late
      have different : other ≠ target := by
        rintro rfl
        exact late (by simp)
      rw [layout.frame member among different step]
      exact waiting other among fun early => late (List.mem_append_left _ early)
    · intro other among
      rw [layout.frame_temporary member among step own]
      exact temps other among

/-- When the writes return, each of them could start with. -/
theorem writeAll_returns (layout : Layout (writes.map (·.1)))
    (h : (writeAll writes token).result fs = .ok ()) :
    ∀ target ∈ writes, Claimable fs target.1 target.2 (token target.1) := by
  have distinct : writes.Nodup := List.Nodup.of_map _ layout.distinct
  have loop := @forM_returns _ fs
    (fun target : Path × Bytes => immutableWrite target.1 target.2 (token target.1))
    (fun front fs' => Adds (AddedByWrites writes token) fs fs' ∧
      ∀ target ∈ writes, target ∉ front → node fs' target.1 = node fs target.1) writes
    ⟨.refl _ fs, fun _ _ _ => rfl⟩ ?_ h
  · intro target member
    obtain ⟨front, back, all⟩ := List.append_of_mem member
    obtain ⟨fs', ⟨adds, waiting⟩, returned⟩ := loop.1 front target back all
    have claim := immutableWrite_returns (layout.proper _ (List.mem_map_of_mem member)) returned
    have fresh : target ∉ front := by
      rw [all] at distinct
      intro early
      exact (List.disjoint_of_nodup_append distinct) early List.mem_cons_self
    have same := waiting target member fresh
    exact ⟨adds.clear claim.clear, same ▸ claim.same,
      fun absent => adds.absent (claim.unused (same.trans absent))⟩
  · rintro front target back fs' all ⟨adds, waiting⟩ returned
    have member : target ∈ writes := all ▸ by simp
    have proper := layout.proper _ (List.mem_map_of_mem member)
    obtain ⟨-, step, -⟩ := (immutableWrite_runs proper (immutableWrite_returns proper returned)).post
    refine ⟨adds.trans (step.mono fun q content added => ⟨target, member, added⟩), ?_⟩
    intro other among late
    have different : other ≠ target := by
      rintro rfl
      exact late (by simp)
    rw [layout.frame member among different step]
    exact waiting other among fun early => late (List.mem_append_left _ early)

end

end BallotProof
