import BallotProof.RawObjectStorage

/-! Immutable files over whole histories of writes of which any may be killed: what a path holds is never
changed and never a part of something, and a write that returned is there for good. -/
namespace BallotProof
open Python Files Process

/-- Outside the temporary file only the path and its directories are added. -/
def Spares (path : Path) (data : Bytes) (temp : Path) (fs k : FileSystem) : Prop :=
  ∀ q, q ≠ temp → node k q = node fs q ∨
    node fs q = none ∧ (Ancestor path.dropLast q (node k q) ∨ q = path ∧ node k q = some (.file data))

theorem Spares.of_adds (adds : Adds (AddedByWrite path data temp) fs k) : Spares path data temp fs k := by
  intro q other
  rcases adds q with same | ⟨absent, ancestor | here | isTemp⟩
  · exact .inl same
  · exact .inr ⟨absent, .inl ancestor⟩
  · exact .inr ⟨absent, .inr here⟩
  · exact absurd isTemp other

theorem Spares.after_adds (made : Adds (Ancestor path.dropLast) fs s) (spares : Spares path data temp s k) :
    Spares path data temp fs k := by
  intro q other
  rcases spares q other with same | ⟨absent, added⟩
  · rw [same]
    exact (made q).imp_right fun new => ⟨new.1, .inl new.2⟩
  · exact .inr ⟨made.absent absent, added⟩

/-- A loop whose turns keep an invariant, however they end. -/
theorem forM_within {inv : FileSystem → Prop} {body : α → Process PUnit} {items : List α} (start : inv fs)
    (turn : ∀ item ∈ items, ∀ s, inv s → Runs (body item) s (fun _ k => inv k) inv) :
    Runs (items.forM body) fs (fun _ k => inv k) inv := by
  induction items generalizing fs with
  | nil => exact Runs.pure start start
  | cons item items ih =>
    apply Runs.bind (turn item List.mem_cons_self fs start)
    · exact fun _ _ => id
    · exact fun _ s holds => ih holds fun other member => turn other (List.mem_cons_of_mem _ member)

/-- `mkdir` adds directories on the way only, also where it meets a file. -/
theorem makeDirectories_adds (path : Path) (fs : FileSystem) :
    Runs (makeDirectories path) fs (fun _ k => Adds (Ancestor path) fs k) (Adds (Ancestor path) fs) := by
  apply forM_within (.refl _ fs)
  intro ancestor member s made
  have below : ancestor <+: path := (List.mem_inits ancestor path).mp member
  cases found : node s ancestor with
  | some content =>
    have same : ∃ result, makeDirectory ancestor path s = read (fun _ => result) s := by
      rw [makeDirectory, found]
      cases content <;> exact ⟨_, rfl⟩
    obtain ⟨result, same⟩ := same
    exact Runs.congr same (Runs.read made made)
  | none =>
    have same : makeDirectory ancestor path s = perform (.makeDirectory ancestor) s := by
      rw [makeDirectory, found]
      rfl
    have step : Adds (Ancestor path) fs (Change.apply s (.makeDirectory ancestor)) := by
      apply made.trans
      intro q
      by_cases free : Free s ancestor
      · by_cases here : q = ancestor
        · subst here
          exact .inr ⟨found, below, (node_store free).trans (if_pos rfl)⟩
        · exact .inl ((node_store free).trans (if_neg here))
      · left
        rw [Change.apply, FileSystem.store, dif_neg free]
    exact Runs.congr same (Runs.perform made step step)

/-- A temporary name that is taken: the write fails, and removes what has the name. -/
theorem taken_runs (path : Path) (data : Bytes) (taken : node fs temp ≠ none) (program : Process Unit) :
    Runs (ensuring (do
      createNew temp
      program) (unlinkIfThere temp)) fs (fun _ k => Spares path data temp fs k) (Spares path data temp fs) := by
  have start : Spares path data temp fs fs := fun _ _ => .inl rfl
  obtain ⟨content, found⟩ := Option.ne_none_iff_exists'.mp taken
  have raises : createNew temp fs = read (fun _ => .error (alreadyThere temp)) fs := by
    rw [createNew, found]
    rfl
  have body : Runs (do
      createNew temp
      program) fs (fun _ k => k = fs) (Spares path data temp fs) := by
    have create : Runs (createNew temp) fs (fun r k => r = .error (alreadyThere temp) ∧ k = fs)
        (Spares path data temp fs) := Runs.congr raises (Runs.read start ⟨rfl, rfl⟩)
    apply Runs.bind create
    · exact fun _ _ ends => ends.2
    · rintro a s ⟨returned, -⟩
      cases returned
  apply Runs.ensuring body
  rintro r s rfl
  cases content with
  | directory =>
    have same : unlinkIfThere temp s = read (fun _ => .error (wrongNode temp)) s := by
      rw [unlinkIfThere, found]
      rfl
    exact Runs.congr same (Runs.read start start)
  | file old =>
    have removed {k : FileSystem} (done : ∀ q, node k q = if q = temp then none else node s q) :
        Spares path data temp s k := fun q other => .inl ((done q).trans (if_neg other))
    apply (unlinkIfThere_runs found start (removed fun q => node_apply_unlink found)).mono _ fun _ => id
    exact fun _ _ ends => removed ends.2

/-- Every change of a write is one that it may make, from any filesystem and whether it returns, raises or is
killed. -/
theorem immutableWrite_spares (path : Path) (data : Bytes) (token : String) (fs : FileSystem) :
    Runs (immutableWrite path data token) fs (fun _ k => Spares path data (temporary path token) fs k)
      (Spares path data (temporary path token) fs) := by
  have widen {k : FileSystem} (made : Adds (Ancestor path.dropLast) fs k) :
      Spares path data (temporary path token) fs k := .of_adds (made.mono fun _ _ => .inl)
  by_cases clear : Unblocked fs path.dropLast
  · apply Runs.bind ((makeDirectories_runs clear).mono (fun _ _ => id) fun _ => widen)
    · rintro e s ⟨raised, -⟩
      cases raised
    · rintro - s ⟨-, made, parents⟩
      apply Runs.bind (pathExists_runs (widen made))
      · rintro e k ⟨raised, -⟩
        cases raised
      · rintro there k ⟨answer, rfl⟩
        cases answer
        cases found : node k path with
        | some content => exact Runs.read (widen made) (widen made)
        | none =>
          by_cases unused : node k (temporary path token) = none
          · apply (claim_runs (parents _ List.prefix_rfl) found unused).mono
            · exact fun _ _ ends => (Spares.of_adds ends.2.1).after_adds made
            · exact fun _ added => (Spares.of_adds added).after_adds made
          · apply (taken_runs path data unused _).mono
            · exact fun _ _ spares => spares.after_adds made
            · exact fun _ spares => spares.after_adds made
  · have raises : ∀ u, (makeDirectories path.dropLast).result fs ≠ .ok u := fun _ returned =>
      clear (makeDirectories_returns returned)
    have stops : Runs (makeDirectories path.dropLast) fs
        (fun r k => (∀ u, r ≠ .ok u) ∧ Adds (Ancestor path.dropLast) fs k) (Adds (Ancestor path.dropLast) fs) :=
      ⟨(makeDirectories_adds _ fs).during, raises, (makeDirectories_adds _ fs).post⟩
    apply Runs.bind (stops.mono (fun _ _ => id) fun _ => widen)
    · exact fun _ _ ends => widen ends.2
    · exact fun u _ ends => absurd rfl (ends.1 u)

/-- A call of `put_bytes`, and after how many of its changes it is killed, if it is. -/
structure Put where
  path : String
  data : Bytes
  token : Path → String
  killed : Option Nat

/-- Where the object of a path lies. -/
def objectFile (root : Path) (path : String) : Option Path :=
  match relativePath path with
  | .ok relative => some (root ++ relative.parts.map String.ofList)
  | .error _ => none

/-- The path of a temporary file. -/
def Temporary (q : Path) : Prop := ∃ path token, q = temporary path token

section
variable (sha256 : Bytes → Digest) (root : Path)

def Put.call (put : Put) : Process ImmutableObjectRef := putFile sha256 root put.token put.path put.data

/-- The filesystem that a call leaves. -/
def Put.next (fs : FileSystem) (put : Put) : FileSystem :=
  match put.killed with
  | none => (put.call sha256 root).after fs
  | some n => (put.call sha256 root).killed fs n

/-- The call was not killed, and returned. -/
def Put.Returned (fs : FileSystem) (put : Put) : Prop :=
  put.killed = none ∧ (put.call sha256 root).result fs = .ok (objectRef sha256 put.path put.data)

def putAll (puts : List Put) (fs : FileSystem) : FileSystem := puts.foldl (Put.next sha256 root) fs

end

section
variable {sha256 : Bytes → Digest} {root : Path}

theorem readFile_ok : readFile root path fs = .ok data ↔
    ∃ target, objectFile root path = some target ∧ node fs target = some (.file data) := by
  unfold readFile objectFile
  cases relativePath path with
  | error e => exact iff_of_false (fun raised => by cases raised) (by simp)
  | ok relative =>
    rw [Python.ok_bind]
    dsimp only
    split
    · rename_i found there
      simp [there]
    · rename_i other
      exact iff_of_false (fun raised => by cases raised) (by simpa using other data)

theorem relativePath_names (checked : relativePath path = .ok relative) : relative = ⟨[], relative.parts⟩ := by
  rcases checkedPath_ok.mp checked with ⟨-, rfl⟩ | ⟨segments, -, -, -, rfl⟩ <;> rfl

theorem objectFile_injective (one : objectFile root a = some target) (two : objectFile root b = some target) :
    a = b := by
  unfold objectFile at one two
  split at one
  · rename_i relative checked
    split at two
    · rename_i relative' checked'
      have both := (Option.some.inj one).trans (Option.some.inj two).symm
      have parts : relative.parts = relative'.parts :=
        List.map_injective_iff.mpr (fun _ _ => String.ofList_injective) (List.append_cancel_left both)
      have same : relative = relative' := by
        rw [relativePath_names checked, relativePath_names checked', parts]
      exact checkedPath_injective checked (same ▸ checked')
    · cases two
  · cases one

/-- What a call may have changed at the paths that are no temporary files. -/
def Reaches (root : Path) (put : Put) (fs k : FileSystem) : Prop :=
  ∀ q, ¬Temporary q → node k q = node fs q ∨ node fs q = none ∧ ∃ target, objectFile root put.path = some target ∧
    (Ancestor target.dropLast q (node k q) ∨ q = target ∧ node k q = some (.file put.data))

theorem lift_error (e : Error) (f : α → Process β) : (lift (.error e) >>= f) = raise e := rfl

theorem Put.call_eq {put : Put} (filled : put.data ≠ []) (checked : relativePath put.path = .ok relative) :
    put.call sha256 root = (do
      let target := root ++ relative.parts.map String.ofList
      immutableWrite target put.data (put.token target)
      return objectRef sha256 put.path put.data) := by
  have passes : raiseIf (put.data = []) ⟨.valueError, "immutable publication objects must not be empty"⟩ = .ok () :=
    raiseIf_ok.mpr filled
  rw [Put.call, putFile, passes, lift_ok, checked, lift_ok]

theorem Put.call_spares (put : Put) (fs : FileSystem) : (∃ e, put.call sha256 root = raise e) ∨
    ∃ target, objectFile root put.path = some target ∧ Runs (put.call sha256 root) fs
      (fun _ k => Spares target put.data (temporary target (put.token target)) fs k)
      (Spares target put.data (temporary target (put.token target)) fs) := by
  by_cases filled : put.data = []
  · have raises : raiseIf (put.data = []) ⟨.valueError, "immutable publication objects must not be empty"⟩ =
        .error ⟨.valueError, "immutable publication objects must not be empty"⟩ := if_pos filled
    exact .inl ⟨_, by rw [Put.call, putFile, raises, lift_error]⟩
  · cases checked : relativePath put.path with
    | error e =>
      have passes : raiseIf (put.data = []) ⟨.valueError, "immutable publication objects must not be empty"⟩ =
          .ok () := raiseIf_ok.mpr filled
      exact .inl ⟨e, by rw [Put.call, putFile, passes, lift_ok, checked, lift_error]⟩
    | ok relative =>
      right
      refine ⟨root ++ relative.parts.map String.ofList, by rw [objectFile, checked], ?_⟩
      rw [Put.call_eq filled checked]
      apply Runs.bind (immutableWrite_spares _ put.data _ fs)
      · exact fun _ _ => id
      · exact fun _ k spares => Runs.pure spares spares

theorem Put.next_spares (put : Put) (fs : FileSystem) : put.next sha256 root fs = fs ∨
    ∃ target, objectFile root put.path = some target ∧
      Spares target put.data (temporary target (put.token target)) fs (put.next sha256 root fs) := by
  rcases put.call_spares fs with ⟨e, raises⟩ | ⟨target, named, runs⟩
  · left
    unfold Put.next
    rw [raises]
    split
    · rfl
    · change applyAll fs (List.take _ []) = fs
      rw [List.take_nil]
      rfl
  · refine .inr ⟨target, named, ?_⟩
    unfold Put.next
    split
    · exact runs.finish
    · exact runs.during _

/-- What one call may have changed at a path that is no temporary file. -/
theorem Put.next_reaches (put : Put) (fs : FileSystem) : Reaches root put fs (put.next sha256 root fs) := by
  intro q plain
  rcases put.next_spares fs with same | ⟨target, named, spares⟩
  · exact .inl (congrArg (node · q) same)
  · rcases spares q (fun same => plain ⟨_, _, same⟩) with same | ⟨absent, added⟩
    · exact .inl same
    · exact .inr ⟨absent, target, named, added⟩

theorem putAll_append (front back : List Put) (fs : FileSystem) :
    putAll sha256 root (front ++ back) fs = putAll sha256 root back (putAll sha256 root front fs) :=
  List.foldl_append

/-- What is at a path stays there. -/
theorem putAll_kept (puts : List Put) (object : ¬Temporary q) (there : node fs q = some content) :
    node (putAll sha256 root puts fs) q = some content := by
  induction puts generalizing fs with
  | nil => exact there
  | cons put puts ih =>
    apply ih
    rcases put.next_reaches fs q object with same | ⟨absent, -⟩
    · rw [same, there]
    · rw [absent] at there
      cases there

/-- A file that was not there is one that some call was to put there. -/
theorem putAll_origin (puts : List Put) (object : ¬Temporary q)
    (there : node (putAll sha256 root puts fs) q = some (.file data)) :
    node fs q = some (.file data) ∨ ∃ put ∈ puts, objectFile root put.path = some q ∧ put.data = data := by
  induction puts generalizing fs with
  | nil => exact .inl there
  | cons put puts ih =>
    rcases ih there with now | ⟨other, member, origin⟩
    · rcases put.next_reaches fs q object with same | ⟨-, target, named, ⟨-, directory⟩ | ⟨rfl, file⟩⟩
      · exact .inl (same.symm.trans now)
      · rw [now] at directory
        cases directory
      · rw [now] at file
        cases file
        exact .inr ⟨put, List.mem_cons_self, named, rfl⟩
    · exact .inr ⟨other, List.mem_cons_of_mem _ member, origin⟩

/-- Nothing is written at the root directory. -/
theorem immutableWrite_root (returned : (immutableWrite [] data token).result fs = .ok ()) : False := by
  obtain ⟨⟨⟩, -, returned⟩ := result_bind.mp returned
  obtain ⟨there, answer, returned⟩ := result_bind.mp returned
  cases answer
  change (checkSame [] data).result _ = _ at returned
  have same : node ((pathExists []).after ((makeDirectories [].dropLast).after fs)) [] = some (.file data) :=
    not_not.mp (raiseIf_ok.mp returned)
  cases same

theorem Put.returned_there {put : Put} (returned : put.Returned sha256 root fs) :
    ∃ target, objectFile root put.path = some target ∧
      node (put.next sha256 root fs) target = some (.file put.data) := by
  obtain ⟨alive, returned⟩ := returned
  have next : put.next sha256 root fs = (put.call sha256 root).after fs := by
    rw [Put.next, alive]
  obtain ⟨filled, relative, checked⟩ : put.data ≠ [] ∧ ∃ relative, relativePath put.path = .ok relative := by
    obtain ⟨⟨⟩, filled, rest⟩ := result_bind.mp returned
    obtain ⟨relative, checked, -⟩ := result_bind.mp rest
    exact ⟨raiseIf_ok.mp filled, relative, checked⟩
  rw [next]
  rw [Put.call_eq filled checked] at returned ⊢
  set target := root ++ relative.parts.map String.ofList
  obtain ⟨⟨⟩, written, -⟩ := result_bind.mp returned
  have proper : target ≠ [] := by
    intro top
    rw [top] at written
    exact immutableWrite_root written
  obtain ⟨done, -, there, -⟩ := (immutableWrite_runs proper (immutableWrite_returns proper written)).post
  refine ⟨target, by rw [objectFile, checked], ?_⟩
  rw [after_bind done]
  exact there

/-- A history of calls, each of which may be killed: what is read of a path never changes, it is what was there
before or the whole of what some call was to put, and what a call that returned has put is there ever after. -/
theorem putHistory_safe (puts : List Put) (fs : FileSystem)
    (object : ∀ target, objectFile root path = some target → ¬Temporary target) :
    (∀ front back data, puts = front ++ back → readFile root path (putAll sha256 root front fs) = .ok data →
      readFile root path (putAll sha256 root puts fs) = .ok data) ∧
    (∀ data, readFile root path (putAll sha256 root puts fs) = .ok data →
      readFile root path fs = .ok data ∨ ∃ put ∈ puts, put.path = path ∧ put.data = data) ∧
    ∀ front put back, puts = front ++ put :: back → put.path = path →
      put.Returned sha256 root (putAll sha256 root front fs) →
      readFile root path (putAll sha256 root puts fs) = .ok put.data := by
  have kept (back : List Put) (s : FileSystem) (data : Bytes) (read : readFile root path s = .ok data) :
      readFile root path (putAll sha256 root back s) = .ok data := by
    obtain ⟨target, named, there⟩ := readFile_ok.mp read
    exact readFile_ok.mpr ⟨target, named, putAll_kept back (object target named) there⟩
  refine ⟨?_, ?_, ?_⟩
  · rintro front back data rfl read
    rw [putAll_append]
    exact kept back _ data read
  · intro data read
    obtain ⟨target, named, there⟩ := readFile_ok.mp read
    rcases putAll_origin puts (object target named) there with before | ⟨put, member, origin, same⟩
    · exact .inl (readFile_ok.mpr ⟨target, named, before⟩)
    · exact .inr ⟨put, member, objectFile_injective origin named, same⟩
  · rintro front put back rfl rfl returned
    obtain ⟨target, named, there⟩ := Put.returned_there returned
    have split : putAll sha256 root (front ++ put :: back) fs =
        putAll sha256 root back (put.next sha256 root (putAll sha256 root front fs)) := putAll_append front _ fs
    rw [split]
    exact kept back _ _ (readFile_ok.mpr ⟨target, named, there⟩)

theorem objectFile_content (root : Path) (kind : RawObjectKind) (digest : Digest) :
    objectFile root (contentPath kind digest) = some (contentFile root kind digest) := by
  rw [objectFile, contentPath_relative]
  dsimp only
  rw [content_target]

theorem contentFile_length (root : Path) (kind : RawObjectKind) (digest : Digest) :
    (contentFile root kind digest).length = root.length + 5 := by
  simp [contentFile, contentNames]

theorem contentFile_digest (same : contentFile root kind digest = contentFile root kind' digest') :
    digest = digest' := by
  have names : contentNames kind digest = contentNames kind' digest' := List.append_cancel_left same
  simp only [contentNames, List.cons.injEq, and_true, true_and] at names
  exact Digest.hex_injective names.2.2.2

/-- The name of an object is no name of a temporary file. -/
theorem contentFile_object (root : Path) (kind : RawObjectKind) (digest : Digest) :
    ¬Temporary (contentFile root kind digest) := by
  rintro ⟨path, token, same⟩
  have last := congrArg List.getLast? same
  have hex : (contentFile root kind digest).getLast? = some digest.hex := by
    simp [contentFile, contentNames]
  rw [hex, temporary, List.getLast?_concat, Option.some.injEq] at last
  have dot : '.' ∈ digest.hex.toList := by
    rw [last]
    simp [String.toList_append]
  exact absurd (hex_plain digest dot) (by decide)

/-- What a history of raw puts has left: directories above the objects, and under the path of a digest at most the
data of a put with this digest. -/
structure RawLeft (sha256 : Bytes → Digest) (root : Path) (puts : List Put) (fs s : FileSystem) : Prop where
  above : ∀ q : Path, q.length < root.length + 5 → node s q = node fs q ∨ node fs q = none ∧ node s q = some .directory
  objects : ∀ kind digest, node s (contentFile root kind digest) = none ∨
    ∃ put ∈ puts, sha256 put.data = digest ∧ node s (contentFile root kind digest) = some (.file put.data)

theorem RawLeft.next {put : Put} (left : RawLeft sha256 root puts fs s)
    (content : ∃ kind, put.path = contentPath kind (sha256 put.data)) :
    RawLeft sha256 root (puts ++ [put]) fs (put.next sha256 root s) := by
  obtain ⟨kind, content⟩ := content
  have more {kind digest} (there : node s (contentFile root kind digest) = none ∨
      ∃ put ∈ puts, sha256 put.data = digest ∧ node s (contentFile root kind digest) = some (.file put.data)) :
      node s (contentFile root kind digest) = none ∨ ∃ other ∈ puts ++ [put], sha256 other.data = digest ∧
        node s (contentFile root kind digest) = some (.file other.data) :=
    there.imp_right fun ⟨other, member, same⟩ => ⟨other, List.mem_append_left _ member, same⟩
  rcases put.next_spares s with same | ⟨target, named, spares⟩
  · rw [same]
    exact ⟨left.above, fun kind digest => more (left.objects kind digest)⟩
  · obtain rfl : contentFile root kind (sha256 put.data) = target := by
      rw [content, objectFile_content] at named
      exact Option.some.inj named
    constructor
    · intro q short
      have notTemp : q ≠ temporary (contentFile root kind (sha256 put.data))
          (put.token (contentFile root kind (sha256 put.data))) := by
        rintro rfl
        rw [temporary_length (contentFile_proper _ _ _), contentFile_length] at short
        omega
      rcases spares q notTemp with same | ⟨absent, ⟨-, directory⟩ | ⟨rfl, -⟩⟩
      · rw [same]
        exact left.above q short
      · exact .inr ⟨(left.above q short).elim (fun same => same.symm.trans absent) And.left, directory⟩
      · rw [contentFile_length] at short
        omega
    · intro kind' digest
      rcases spares (contentFile root kind' digest)
        (fun same => contentFile_object root kind' digest ⟨_, _, same⟩) with same | ⟨absent, ⟨below, -⟩ | ⟨same, file⟩⟩
      · rw [same]
        exact more (left.objects kind' digest)
      · have := below.length_le
        rw [List.length_dropLast, contentFile_length, contentFile_length] at this
        omega
      · exact .inr ⟨put, by simp, (contentFile_digest same).symm, file⟩

theorem putAll_left (puts : List Put) (content : ∀ put ∈ puts, ∃ kind, put.path = contentPath kind (sha256 put.data))
    (fresh : ∀ kind digest, node fs (contentFile root kind digest) = none) :
    RawLeft sha256 root puts fs (putAll sha256 root puts fs) := by
  induction puts using List.reverseRecOn with
  | nil => exact ⟨fun _ _ => .inl rfl, fun kind digest => .inl (fresh kind digest)⟩
  | append_singleton puts put ih =>
    rw [putAll_append]
    exact (ih fun other member => content other (List.mem_append_left _ member)).next (content put (by simp))

theorem content_unblocked (clear : Unblocked fs root) (fresh : ∀ names, node fs (root ++ "raw" :: names) = none) :
    Unblocked fs (contentFile root kind digest).dropLast := by
  intro q below data there
  have parent : (contentFile root kind digest).dropLast =
      root ++ ["raw", kind.text, firstShard digest, secondShard digest] := by
    rw [contentFile, contentNames, List.dropLast_append_of_ne_nil (by simp)]
    rfl
  rw [parent] at below
  rcases List.prefix_or_prefix_of_prefix below (List.prefix_append root _) with above | ⟨names, rfl⟩
  · exact clear q above data there
  · cases names with
    | nil => exact clear root List.prefix_rfl data (by rwa [List.append_nil] at there)
    | cons name names =>
      have first : name = "raw" := (List.cons_prefix_cons.mp ((List.prefix_append_right_inj root).mp below)).1
      rw [first, fresh] at there
      cases there

/-- After any history of raw puts, of which any were killed, an object is stored and read back, if the directory was
clear before. -/
theorem rawStore_recovers (puts : List Put) (chunks : List Bytes) (filled : ∀ chunk ∈ chunks, chunk ≠ [])
    (content : ∀ put ∈ puts, ∃ kind, put.path = contentPath kind (sha256 put.data))
    (clear : Unblocked fs root) (fresh : ∀ names, node fs (root ++ "raw" :: names) = none)
    (accepts : Accepts maxBytes chunks.flatten)
    (free : CollisionFree sha256 (chunks.flatten :: puts.map (·.data)))
    (new : node (putAll sha256 root puts fs) (temporary (contentFile root kind (sha256 chunks.flatten))
      (token (contentFile root kind (sha256 chunks.flatten)))) = none) :
    ∃ s, putStream sha256 (filesystemBackend sha256 root token) kind chunks maxBytes (putAll sha256 root puts fs) =
        (.ok ⟨sha256 chunks.flatten, chunks.flatten.length, contentPath kind (sha256 chunks.flatten)⟩, s) ∧
      readObject sha256 (filesystemBackend sha256 root token)
        ⟨sha256 chunks.flatten, chunks.flatten.length, contentPath kind (sha256 chunks.flatten)⟩ s =
          .ok chunks.flatten := by
  have left := putAll_left puts content fun kind digest => fresh _
  have some : chunks.flatten ≠ [] := List.length_pos_iff.mp accepts.1
  have claim : Claimable (putAll sha256 root puts fs) (contentFile root kind (sha256 chunks.flatten)) chunks.flatten
      (token (contentFile root kind (sha256 chunks.flatten))) := by
    refine ⟨?_, ?_, fun _ => new⟩
    · intro q below data there
      have short : q.length < root.length + 5 := by
        have := below.length_le
        rw [List.length_dropLast, contentFile_length] at this
        omega
      rcases left.above q short with same | ⟨-, directory⟩
      · exact content_unblocked clear fresh q below data (same.symm.trans there)
      · rw [directory] at there
        cases there
    · rcases left.objects kind (sha256 chunks.flatten) with absent | ⟨put, member, same, there⟩
      · exact .inl absent
      · have equal : put.data = chunks.flatten :=
          free _ (List.mem_cons_of_mem _ (List.mem_map_of_mem member)) _ List.mem_cons_self same
        exact .inr (equal ▸ there)
  have stores := filesystemBackend_stores some claim
  refine ⟨_, putStream_stores filled accepts stores, ?_⟩
  rw [readObject, stores.read, Python.ok_bind]
  simp [raiseIf, Python.ok_bind, pure, Except.pure]

end

/-- A put of `o` that is killed at its second change, and the one that repeats it. -/
def repeatedPut : List Put := [⟨"o", [1], fun _ => "0", some 2⟩, ⟨"o", [1], fun _ => "1", none⟩]

theorem putHistory_safe_example : readFile [] "o" (putAll checksum [] repeatedPut .empty) = .ok [1] := by
  have object (target) (named : objectFile [] "o" = some target) : ¬Temporary target := by
    have here : objectFile [] "o" = some ["o"] := by decide +kernel
    cases here.symm.trans named
    rintro ⟨path, token, same⟩
    have last := congrArg List.getLast? same
    rw [temporary, List.getLast?_concat] at last
    have head := congrArg (List.head? ∘ String.toList) (Option.some.inj last)
    simp [String.toList_append] at head
  have safe := @putHistory_safe checksum [] "o" repeatedPut .empty object
  exact safe.2.2 [⟨"o", [1], fun _ => "0", some 2⟩] ⟨"o", [1], fun _ => "1", none⟩ [] rfl rfl ⟨rfl, by decide +kernel⟩

/-- A put of two bytes that is killed after the first. -/
def killedRawPut : Put := ⟨contentPath .evidence (checksum [1, 2]), [1, 2], fun _ => "0", some 6⟩

theorem rawStore_recovers_example : ∃ s,
    putStream checksum (filesystemBackend checksum [] fun _ => "1") .evidence [[1], [2]] (some 2)
      (putAll checksum [] [killedRawPut] .empty) =
        (.ok ⟨checksum [1, 2], 2, contentPath .evidence (checksum [1, 2])⟩, s) ∧
    readObject checksum (filesystemBackend checksum [] fun _ => "1")
      ⟨checksum [1, 2], 2, contentPath .evidence (checksum [1, 2])⟩ s = .ok [1, 2] :=
  @rawStore_recovers checksum [] .empty (some 2) .evidence (fun _ => "1") [killedRawPut] [[1], [2]] (by decide)
    (fun _ member => ⟨.evidence, by rw [List.mem_singleton.mp member]; rfl⟩) (empty_clear _) (fun _ => rfl)
    ⟨by decide, by decide⟩ (by decide +kernel) (by decide +kernel)

end BallotProof
