import BallotProof.Bytes
import Mathlib.Data.Finmap

/-! A filesystem of directories and files, and programs over it. A program makes its changes one
by one and may be killed between any two of them. -/
namespace Files
open Python

/-- The names from the root directory down. -/
abbrev Path := List String

inductive Node where
  | directory
  | file (data : Bytes)
  deriving DecidableEq

/-- What the root directory holds at its paths, of which each is in a directory. -/
structure FileSystem where
  entries : Finmap fun _ : Path => Node
  grounded : ∀ path ∈ entries, path ≠ [] ∧
    (path.dropLast = [] ∨ entries.lookup path.dropLast = some .directory)

def FileSystem.empty : FileSystem := ⟨∅, fun _ member => absurd member Finmap.notMem_empty⟩

/-- What a path holds; the root directory is always there. -/
def node (fs : FileSystem) (path : Path) : Option Node :=
  if path = [] then some .directory else fs.entries.lookup path

@[simp] theorem node_root : node fs [] = some .directory := rfl

theorem node_proper (proper : path ≠ []) : node fs path = fs.entries.lookup path := if_neg proper

theorem ne_root (other : node fs path ≠ some .directory) : path ≠ [] := by
  rintro rfl
  exact other rfl

theorem ne_root_of_file (there : node fs path = some (.file data)) : path ≠ [] := by
  rintro rfl
  cases there

theorem parent_directory (there : node fs path ≠ none) : node fs path.dropLast = some .directory := by
  by_cases root : path = []
  · rw [root]
    rfl
  · rw [node_proper root] at there
    rcases (fs.grounded path (Finmap.lookup_isSome.mp (Option.isSome_iff_ne_none.mpr there))).2 with top | inside
    · rw [top]
      rfl
    · by_cases top : path.dropLast = []
      · rw [top]
        rfl
      · rw [node_proper top, inside]

/-- What lies on the way to a path that is there is a directory. -/
theorem ancestor_directory (there : node fs path ≠ none) (below : q <+: path) (proper : q ≠ path) :
    node fs q = some .directory := by
  obtain ⟨names, rfl⟩ := below
  induction names using List.reverseRecOn with
  | nil => exact absurd (List.append_nil q).symm proper
  | append_singleton names name ih =>
    have parent := parent_directory there
    rw [← List.append_assoc, List.dropLast_concat] at parent
    by_cases top : names = []
    · rw [top, List.append_nil] at parent
      exact parent
    · apply ih
      · rw [parent]
        simp
      · intro same
        exact top (List.append_right_eq_self.mp same.symm)

/-- Two filesystems are the same when they hold the same at every path. -/
theorem ext_node (same : ∀ path, node fs path = node fs' path) : fs = fs' := by
  obtain ⟨entries, grounded⟩ := fs
  obtain ⟨entries', grounded'⟩ := fs'
  have equal : entries = entries' := by
    apply Finmap.ext_lookup
    intro path
    by_cases root : path = []
    · have absent : path ∉ entries := fun member => (grounded path member).1 root
      have absent' : path ∉ entries' := fun member => (grounded' path member).1 root
      rw [Finmap.lookup_eq_none.mpr absent, Finmap.lookup_eq_none.mpr absent']
    · simpa only [node, if_neg root] using same path
  subst equal
  rfl

/-- A path may get a content: it is in a directory, and is none itself. -/
structure Free (fs : FileSystem) (path : Path) : Prop where
  inside : node fs path.dropLast = some .directory
  notDirectory : node fs path ≠ some .directory

instance : Decidable (Free fs path) :=
  decidable_of_iff (node fs path.dropLast = some .directory ∧ node fs path ≠ some .directory)
    ⟨fun h => ⟨h.1, h.2⟩, fun h => ⟨h.inside, h.notDirectory⟩⟩

theorem Free.of_absent (absent : node fs path = none) (inside : node fs path.dropLast = some .directory) :
    Free fs path := ⟨inside, fun directory => by rw [absent] at directory; cases directory⟩

theorem Free.of_file (there : node fs path = some (.file data)) : Free fs path := by
  refine ⟨parent_directory fun absent => ?_, fun directory => ?_⟩
  · rw [there] at absent
    cases absent
  · rw [there] at directory
    cases directory

theorem grounded_insert (free : Free fs path) : ∀ q ∈ fs.entries.insert path content, q ≠ [] ∧
    (q.dropLast = [] ∨ (fs.entries.insert path content).lookup q.dropLast = some .directory) := by
  have proper := ne_root free.notDirectory
  have inside (q : Path) (directory : node fs q = some .directory) :
      q = [] ∨ (fs.entries.insert path content).lookup q = some .directory := by
    by_cases top : q = []
    · exact .inl top
    · have other : q ≠ path := fun same => free.notDirectory (same ▸ directory)
      rw [node_proper top] at directory
      exact .inr ((Finmap.lookup_insert_of_ne _ other).trans directory)
  intro q member
  rcases Finmap.mem_insert.mp member with rfl | old
  · exact ⟨proper, inside _ free.inside⟩
  · have there : node fs q ≠ none := by
      rw [node_proper (fs.grounded q old).1]
      exact Option.isSome_iff_ne_none.mp (Finmap.lookup_isSome.mpr old)
    exact ⟨(fs.grounded q old).1, inside _ (parent_directory there)⟩

theorem grounded_erase (there : node fs path = some (.file data)) : ∀ q ∈ fs.entries.erase path, q ≠ [] ∧
    (q.dropLast = [] ∨ (fs.entries.erase path).lookup q.dropLast = some .directory) := by
  intro q member
  obtain ⟨-, old⟩ := Finmap.mem_erase.mp member
  refine ⟨(fs.grounded q old).1, (fs.grounded q old).2.imp_right fun inside => ?_⟩
  rw [Finmap.lookup_erase_ne]
  · exact inside
  · intro same
    by_cases top : path = []
    · rw [top] at there
      cases there
    · rw [node_proper top, ← same, inside] at there
      cases there

def FileSystem.store (fs : FileSystem) (path : Path) (content : Node) : FileSystem :=
  if free : Free fs path then ⟨fs.entries.insert path content, grounded_insert free⟩ else fs

def FileSystem.remove (fs : FileSystem) (path : Path) : FileSystem :=
  match there : node fs path with
  | some (.file _) => ⟨fs.entries.erase path, grounded_erase there⟩
  | _ => fs

theorem node_store (free : Free fs path) :
    node (fs.store path content) q = if q = path then some content else node fs q := by
  have proper := ne_root free.notDirectory
  rw [FileSystem.store, dif_pos free]
  by_cases same : q = path
  · rw [if_pos same, same, node_proper proper]
    exact Finmap.lookup_insert fs.entries
  · rw [if_neg same]
    by_cases top : q = []
    · rw [top]
      rfl
    · rw [node_proper top, node_proper top]
      exact Finmap.lookup_insert_of_ne fs.entries same

theorem node_remove (there : node fs path = some (.file data)) :
    node (fs.remove path) q = if q = path then none else node fs q := by
  have proper : path ≠ [] := ne_root_of_file there
  have erased : (fs.remove path).entries = fs.entries.erase path := by
    unfold FileSystem.remove
    split
    · rfl
    · rename_i other
      exact absurd there (other data)
  by_cases same : q = path
  · rw [if_pos same, same, node_proper proper, erased]
    exact Finmap.lookup_erase path fs.entries
  · rw [if_neg same]
    by_cases top : q = []
    · rw [top]
      rfl
    · rw [node_proper top, node_proper top, erased]
      exact Finmap.lookup_erase_ne same

inductive Change where
  | makeDirectory (path : Path)
  | create (path : Path)
  | append (path : Path) (byte : UInt8)
  | link (source target : Path)
  | replace (source target : Path)
  | unlink (path : Path)
  deriving DecidableEq

def Change.apply (fs : FileSystem) : Change → FileSystem
  | .makeDirectory path => fs.store path .directory
  | .create path => fs.store path (.file [])
  | .append path byte => match node fs path with
    | some (.file data) => fs.store path (.file (data ++ [byte]))
    | _ => fs
  | .link source target => match node fs source with
    | some (.file data) => fs.store target (.file data)
    | _ => fs
  | .replace source target => match node fs source with
    | some (.file data) => (fs.store target (.file data)).remove source
    | _ => fs
  | .unlink path => fs.remove path

def applyAll (fs : FileSystem) (changes : List Change) : FileSystem := changes.foldl Change.apply fs

/-- A program over a filesystem: its changes, and how it ends. -/
def Process (α : Type u) := FileSystem → List Change × Result α

namespace Process

/-- A step that reads. -/
def read (f : FileSystem → Result α) : Process α := fun fs => ([], f fs)

/-- A step outside the filesystem. -/
def lift (result : Result α) : Process α := read fun _ => result

def perform (change : Change) : Process Unit := fun _ => ([change], .ok ())

def bind (p : Process α) (f : α → Process β) : Process β := fun fs =>
  match (p fs).2 with
  | .error e => ((p fs).1, .error e)
  | .ok a =>
    let rest := f a (applyAll fs (p fs).1)
    ((p fs).1 ++ rest.1, rest.2)

instance : Monad Process where
  pure a := read fun _ => .ok a
  bind := bind

def raise (error : Error) : Process α := read fun _ => .error error

/-- `try: p finally: last` -/
def ensuring (p : Process α) (last : Process Unit) : Process α := fun fs =>
  let rest := last (applyAll fs (p fs).1)
  ((p fs).1 ++ rest.1, rest.2.bind fun _ => (p fs).2)

/-- `try: p except FileExistsError: handler` -/
def exceptFileExists (p handler : Process α) : Process α := fun fs =>
  match (p fs).2 with
  | .error ⟨.fileExistsError, _⟩ =>
    let rest := handler (applyAll fs (p fs).1)
    ((p fs).1 ++ rest.1, rest.2)
  | result => ((p fs).1, result)

def result (p : Process α) (fs : FileSystem) : Result α := (p fs).2

def after (p : Process α) (fs : FileSystem) : FileSystem := applyAll fs (p fs).1

/-- The filesystem when the program is killed after `n` of its changes. -/
def killed (p : Process α) (fs : FileSystem) (n : Nat) : FileSystem := applyAll fs ((p fs).1.take n)

theorem killed_all (p : Process α) (fs : FileSystem) : ∃ n, p.killed fs n = p.after fs :=
  ⟨(p fs).1.length, by rw [killed, List.take_length, after]⟩

theorem bind_error {p : Process α} (f : α → Process β) (h : p.result fs = .error e) :
    (p >>= f) fs = ((p fs).1, .error e) := by
  change bind p f fs = _
  unfold result at h
  rw [bind, h]

theorem bind_ok {p : Process α} (f : α → Process β) (h : p.result fs = .ok a) :
    (p >>= f) fs = ((p fs).1 ++ (f a (p.after fs)).1, (f a (p.after fs)).2) := by
  change bind p f fs = _
  unfold result at h
  rw [bind, h]
  rfl

theorem result_bind {p : Process α} {f : α → Process β} :
    (p >>= f).result fs = .ok b ↔ ∃ a, p.result fs = .ok a ∧ (f a).result (p.after fs) = .ok b := by
  cases first : p.result fs with
  | error e =>
    rw [result, bind_error f first]
    simp
  | ok a =>
    rw [result, bind_ok f first]
    simp [result]

theorem after_bind {p : Process α} {f : α → Process β} (h : p.result fs = .ok a) :
    (p >>= f).after fs = (f a).after (p.after fs) := by
  rw [after, bind_ok f h, applyAll, List.foldl_append]
  rfl

theorem pure_bind (a : α) (f : α → Process β) : ((Pure.pure a : Process α) >>= f) = f a := rfl

theorem lift_ok (a : α) (f : α → Process β) : (lift (.ok a) >>= f) = f a := rfl

theorem bind_pure (p : Process α) : (p >>= fun a => Pure.pure a) = p := by
  funext fs
  cases first : p.result fs with
  | error e =>
    rw [bind_error _ first, ← first]
    rfl
  | ok a =>
    rw [bind_ok _ first]
    change ((p fs).1 ++ [], .ok a) = p fs
    rw [List.append_nil, ← first]
    rfl

theorem bind_assoc (p : Process α) (f : α → Process β) (g : β → Process γ) :
    (p >>= f) >>= g = p >>= fun a => f a >>= g := by
  funext fs
  cases first : p.result fs with
  | error e =>
    have both : (p >>= f).result fs = .error e := by
      rw [result, bind_error f first]
    rw [bind_error g both, bind_error f first, bind_error _ first]
  | ok a =>
    rw [bind_ok _ first]
    cases second : (f a).result (p.after fs) with
    | error e =>
      have both : (p >>= f).result fs = .error e := by
        rw [result, bind_ok f first]
        exact second
      rw [bind_error g both, bind_ok f first, bind_error g second]
    | ok b =>
      have both : (p >>= f).result fs = .ok b := by
        rw [result, bind_ok f first]
        exact second
      rw [bind_ok g both, after_bind first, bind_ok f first, bind_ok g second, List.append_assoc]

instance : LawfulMonad Process := LawfulMonad.mk' Process bind_pure pure_bind bind_assoc

theorem forM_congr {f g : α → Process PUnit} {items : List α} (same : ∀ item ∈ items, f item = g item) :
    items.forM f = items.forM g := by
  induction items with
  | nil => rfl
  | cons item items ih =>
    change (f item >>= fun _ => items.forM f) = g item >>= fun _ => items.forM g
    rw [same item List.mem_cons_self, ih fun other member => same other (List.mem_cons_of_mem _ member)]

/-- How a program ends from a filesystem, and what holds whenever it is killed. -/
structure Runs (p : Process α) (fs : FileSystem) (post : Result α → FileSystem → Prop)
    (during : FileSystem → Prop) : Prop where
  during : ∀ n, during (p.killed fs n)
  post : post (p.result fs) (p.after fs)

variable {post mid : Result α → FileSystem → Prop} {during : FileSystem → Prop}

theorem Runs.start (h : Runs p fs post during) : during fs := h.during 0

theorem Runs.finish (h : Runs p fs post during) : during (p.after fs) := by
  obtain ⟨n, all⟩ := killed_all p fs
  exact all ▸ h.during n

theorem Runs.keep (h : Runs p fs post during) : Runs p fs (fun r fs' => post r fs' ∧ during fs') during :=
  ⟨h.during, h.post, h.finish⟩

theorem Runs.mono {weaker : Result α → FileSystem → Prop} {wider : FileSystem → Prop}
    (h : Runs p fs post during) (ends : ∀ r fs', post r fs' → weaker r fs')
    (within : ∀ k, during k → wider k) : Runs p fs weaker wider :=
  ⟨fun n => within _ (h.during n), ends _ _ h.post⟩

theorem Runs.congr {p q : Process α} (same : p fs = q fs) (h : Runs q fs post during) :
    Runs p fs post during := by
  constructor
  · intro n
    rw [killed, same]
    exact h.during n
  · rw [result, after, same]
    exact h.post

theorem Runs.read {f : FileSystem → Result α} (start : during fs) (ends : post (f fs) fs) :
    Runs (.read f) fs post during := by
  refine ⟨fun n => ?_, ends⟩
  rw [killed, Process.read, List.take_nil]
  exact start

theorem Runs.pure (start : during fs) (ends : post (.ok a) fs) :
    Runs (Pure.pure a) fs post during := Runs.read start ends

theorem Runs.lift {result : Result α} (start : during fs) (ends : post result fs) :
    Runs (lift result) fs post during := Runs.read start ends

theorem Runs.perform {post : Result Unit → FileSystem → Prop} (start : during fs)
    (finish : during (change.apply fs)) (ends : post (.ok ()) (change.apply fs)) :
    Runs (.perform change) fs post during := by
  refine ⟨fun n => ?_, ends⟩
  cases n with
  | zero => exact start
  | succ n =>
    rw [killed, Process.perform, List.take_succ_cons, List.take_nil]
    exact finish

/-- Two programs in sequence, the second of which depends on how the first ended. -/
theorem Runs.sequence {p : Process α} {q : Process β} {r : Process γ} {post : Result γ → FileSystem → Prop}
    (first : Runs p fs mid during) (second : Runs q (p.after fs) next during)
    (changes : (r fs).1 = (p fs).1 ++ (q (p.after fs)).1)
    (ends : post (r.result fs) (q.after (p.after fs))) : Runs r fs post during := by
  constructor
  · intro n
    rw [killed, changes, List.take_append, applyAll, List.foldl_append]
    by_cases early : n ≤ (p fs).1.length
    · rw [Nat.sub_eq_zero_of_le early, List.take_zero]
      exact first.during n
    · rw [List.take_of_length_le (Nat.le_of_not_le early)]
      exact second.during (n - (p fs).1.length)
  · have : r.after fs = q.after (p.after fs) := by
      rw [after, changes, applyAll, List.foldl_append]
      rfl
    rw [this]
    exact ends

theorem Runs.bind {p : Process α} {f : α → Process β} {post : Result β → FileSystem → Prop}
    (first : Runs p fs mid during) (raised : ∀ e fs', mid (.error e) fs' → post (.error e) fs')
    (next : ∀ a fs', mid (.ok a) fs' → Runs (f a) fs' post during) : Runs (p >>= f) fs post during := by
  have ends := first.post
  cases done : p.result fs with
  | error e =>
    rw [done] at ends
    have same : (p >>= f) fs = ((p fs).1, .error e) := bind_error f done
    constructor
    · intro n
      rw [killed, same]
      exact first.during n
    · rw [result, after, same]
      exact raised e _ ends
  | ok a =>
    rw [done] at ends
    have second := next a _ ends
    have same := bind_ok f done
    apply Runs.sequence first second
    · rw [same]
    · rw [result, same]
      exact second.post

theorem Runs.ensuring {p : Process α} {last : Process Unit} (body : Runs p fs mid during)
    (cleanup : ∀ r fs', mid r fs' → Runs last fs' (fun s fs'' => post (s.bind fun _ => r) fs'') during) :
    Runs (p.ensuring last) fs post during := by
  have second := cleanup _ _ body.post
  exact Runs.sequence body second rfl second.post

theorem ensuring_returns {p : Process α} (h : (p.ensuring last).result fs = .ok a) : p.result fs = .ok a := by
  change (last.result (p.after fs)).bind (fun _ => p.result fs) = _ at h
  cases done : last.result (p.after fs) with
  | error e =>
    rw [done] at h
    cases h
  | ok u =>
    rw [done] at h
    exact h

/-- No FileExistsError: the handler is not needed. -/
theorem Runs.unhandled {p handler : Process α} (body : Runs p fs post during)
    (other : ∀ message, p.result fs ≠ .error ⟨.fileExistsError, message⟩) :
    Runs (p.exceptFileExists handler) fs post during := by
  have same : p.exceptFileExists handler fs = p fs := by
    unfold exceptFileExists
    split
    · rename_i message raised
      exact absurd raised (other message)
    · rfl
  exact body.congr same

/-- A loop that does not raise keeps its invariant. -/
theorem Runs.forM {body : α → Process PUnit} {Invariant : List α → FileSystem → Prop} {items : List α}
    (initial : Invariant [] fs) (within : ∀ front fs', Invariant front fs' → during fs')
    (turn : ∀ front item back fs', items = front ++ item :: back → Invariant front fs' →
      Runs (body item) fs' (fun r fs'' => r = .ok ⟨⟩ ∧ Invariant (front ++ [item]) fs'') during) :
    Runs (items.forM body) fs (fun r fs' => r = .ok ⟨⟩ ∧ Invariant items fs') during := by
  have loop : ∀ rest front fs', items = front ++ rest → Invariant front fs' →
      Runs (rest.forM body) fs' (fun r fs'' => r = .ok ⟨⟩ ∧ Invariant items fs'') during := by
    intro rest
    induction rest with
    | nil =>
      intro front fs' all holds
      rw [List.append_nil] at all
      exact Runs.pure (within front fs' holds) ⟨rfl, all ▸ holds⟩
    | cons item rest ih =>
      intro front fs' all holds
      apply Runs.bind (turn front item rest fs' all holds)
      · rintro e fs'' ⟨raised, -⟩
        cases raised
      · rintro - fs'' ⟨-, kept⟩
        exact ih (front ++ [item]) fs'' (by simpa using all) kept
  exact loop items [] fs rfl initial

/-- When a loop returns, each of its turns does, from a filesystem that meets the invariant. -/
theorem forM_returns {body : α → Process PUnit} {Invariant : List α → FileSystem → Prop} {items : List α}
    (initial : Invariant [] fs)
    (kept : ∀ front item back fs', items = front ++ item :: back → Invariant front fs' →
      (body item).result fs' = .ok ⟨⟩ → Invariant (front ++ [item]) ((body item).after fs'))
    (h : (items.forM body).result fs = .ok ⟨⟩) :
    (∀ front item back, items = front ++ item :: back →
      ∃ fs', Invariant front fs' ∧ (body item).result fs' = .ok ⟨⟩) ∧
    Invariant items ((items.forM body).after fs) := by
  have loop : ∀ rest done fs', items = done ++ rest → Invariant done fs' → (rest.forM body).result fs' = .ok ⟨⟩ →
      (∀ front item back, rest = front ++ item :: back →
        ∃ fs'', Invariant (done ++ front) fs'' ∧ (body item).result fs'' = .ok ⟨⟩) ∧
      Invariant items ((rest.forM body).after fs') := by
    intro rest
    induction rest with
    | nil =>
      intro done fs' all holds h
      rw [List.append_nil] at all
      exact ⟨fun front item back none => by simp at none, all ▸ holds⟩
    | cons first rest ih =>
      intro done fs' all holds h
      obtain ⟨⟨⟩, returned, h⟩ := result_bind.mp h
      have next := kept done first rest fs' all holds returned
      obtain ⟨each, last⟩ := ih (done ++ [first]) _ (by simpa using all) next h
      refine ⟨?_, ?_⟩
      · intro front item back parts
        cases front with
        | nil =>
          obtain ⟨rfl, -⟩ := List.cons.inj parts
          exact ⟨fs', by simpa using holds, returned⟩
        | cons head front =>
          obtain ⟨rfl, tail⟩ := List.cons.inj parts
          obtain ⟨fs'', before, returned⟩ := each front item back tail
          exact ⟨fs'', by simpa using before, returned⟩
      · change Invariant items ((body first >>= fun _ => rest.forM body).after fs')
        rw [after_bind returned]
        exact last
  obtain ⟨each, last⟩ := loop items [] fs rfl initial h
  exact ⟨each, last⟩

end Process

open Process

section
variable (path : Path)

def pathText : String := "/" ++ "/".intercalate path

def alreadyThere : Error := ⟨.fileExistsError, pathText path⟩
def notFound : Error := ⟨.fileNotFoundError, pathText path⟩

/-- NotADirectoryError or IsADirectoryError -/
def wrongNode : Error := ⟨.osError, pathText path⟩

/-- `path.exists()` -/
def pathExists : Process Bool := read fun fs => .ok (node fs path).isSome

/-- A turn of `mkdir`, whose last turn is at `target`. -/
def makeDirectory (target : Path) : Process Unit := fun fs => match node fs path with
  | some .directory => ([], .ok ())
  | some (.file _) => ([], .error (if path = target then alreadyThere path else wrongNode path))
  | none => ([.makeDirectory path], .ok ())

/-- `path.mkdir(parents=True, exist_ok=True)`: from the root directory down. -/
def makeDirectories : Process Unit := path.inits.forM fun ancestor => makeDirectory ancestor path

/-- `path.open("xb")` -/
def createNew : Process Unit := fun fs => match node fs path, node fs path.dropLast with
  | some _, _ => ([], .error (alreadyThere path))
  | none, some .directory => ([.create path], .ok ())
  | none, some (.file _) => ([], .error (wrongNode path))
  | none, none => ([], .error (notFound path))

/-- `handle.write(data)` -/
def writeBytes (data : Bytes) : Process Unit := data.forM fun byte => perform (.append path byte)

/-- `os.link(path, target)` -/
def linkTo (target : Path) : Process Unit := fun fs =>
  match node fs path, node fs target, node fs target.dropLast with
  | none, _, _ => ([], .error (notFound path))
  | some .directory, _, _ => ([], .error ⟨.permissionError, pathText path⟩)
  | some (.file _), some _, _ => ([], .error (alreadyThere target))
  | some (.file _), none, some .directory => ([.link path target], .ok ())
  | some (.file _), none, _ => ([], .error (notFound target))

/-- `os.replace(path, target)`, where the target is no directory. -/
def replaceWith (target : Path) : Process Unit := fun fs =>
  match node fs path, node fs target, node fs target.dropLast with
  | none, _, _ => ([], .error (notFound path))
  | _, some .directory, _ => ([], .error (wrongNode target))
  | some .directory, _, _ => ([], .error (wrongNode path))
  | some (.file _), _, some .directory => ([.replace path target], .ok ())
  | some (.file _), _, _ => ([], .error (notFound target))

/-- `path.unlink()` -/
def unlink : Process Unit := fun fs => match node fs path with
  | none => ([], .error (notFound path))
  | some .directory => ([], .error (wrongNode path))
  | some (.file _) => ([.unlink path], .ok ())

/-- `path.unlink(missing_ok=True)` -/
def unlinkIfThere : Process Unit := fun fs => match node fs path with
  | none => ([], .ok ())
  | some .directory => ([], .error (wrongNode path))
  | some (.file _) => ([.unlink path], .ok ())

end

/-- No file stands on the way to a path or at it. -/
def Unblocked (fs : FileSystem) (path : Path) : Prop := ∀ q, q <+: path → ∀ data, node fs q ≠ some (.file data)

/-- Nothing changed but paths that held nothing, and those to what is allowed there. -/
def Adds (allowed : Path → Option Node → Prop) (fs k : FileSystem) : Prop :=
  ∀ q, node k q = node fs q ∨ node fs q = none ∧ allowed q (node k q)

section
variable {allowed : Path → Option Node → Prop}

theorem Adds.refl (allowed : Path → Option Node → Prop) (fs : FileSystem) : Adds allowed fs fs := fun _ => .inl rfl

theorem Adds.trans (first : Adds allowed fs s) (second : Adds allowed s k) : Adds allowed fs k := by
  intro q
  rcases second q with same | ⟨absent, added⟩
  · rw [same]
    exact first q
  · rcases first q with same | ⟨absent, -⟩
    · exact .inr ⟨same ▸ absent, added⟩
    · exact .inr ⟨absent, added⟩

theorem Adds.mono {wider : Path → Option Node → Prop} (adds : Adds allowed fs k)
    (within : ∀ q content, allowed q content → wider q content) : Adds wider fs k :=
  fun q => (adds q).imp_right fun ⟨absent, added⟩ => ⟨absent, within q _ added⟩

theorem Adds.away (adds : Adds allowed fs k) (away : ¬allowed q (node k q)) : node k q = node fs q :=
  (adds q).resolve_right fun added => away added.2

/-- What was there stays. -/
theorem Adds.kept (adds : Adds allowed fs k) (there : node fs q = some content) : node k q = some content := by
  rcases adds q with same | ⟨absent, -⟩
  · rw [same, there]
  · rw [there] at absent
    cases absent

theorem Adds.absent (adds : Adds allowed fs k) (absent : node k q = none) : node fs q = none := by
  cases before : node fs q with
  | none => rfl
  | some content =>
    rw [adds.kept before] at absent
    cases absent

theorem Adds.clear (adds : Adds allowed fs k) (clear : Unblocked k path) : Unblocked fs path :=
  fun q below data there => clear q below data (adds.kept there)

end

/-- The directories on the way to a path. -/
def Ancestor (path q : Path) (content : Option Node) : Prop := q <+: path ∧ content = some .directory

theorem node_apply_makeDirectory (absent : node fs path = none) (inside : node fs path.dropLast = some .directory) :
    node (Change.apply fs (.makeDirectory path)) q = if q = path then some .directory else node fs q :=
  node_store (.of_absent absent inside)

/-- A turn of `mkdir` where no file stands: the directory is there then, and nothing else changed. -/
theorem makeDirectory_runs {during : FileSystem → Prop} (noFile : ∀ data, node fs path ≠ some (.file data))
    (inside : node fs path.dropLast = some .directory) (start : during fs)
    (finish : node fs path = none → during (Change.apply fs (.makeDirectory path))) :
    Runs (makeDirectory path target) fs (fun r fs' => r = .ok () ∧
      ∀ q, node fs' q = if q = path then some .directory else node fs q) during := by
  cases found : node fs path with
  | none =>
    have same : makeDirectory path target fs = perform (.makeDirectory path) fs := by
      rw [makeDirectory, found]
      rfl
    apply Runs.congr same
    exact Runs.perform start (finish found) ⟨rfl, fun q => node_apply_makeDirectory found inside⟩
  | some content =>
    cases content with
    | file data => exact absurd found (noFile data)
    | directory =>
      have same : makeDirectory path target fs = read (fun _ => .ok ()) fs := by
        rw [makeDirectory, found]
        rfl
      apply Runs.congr same
      refine Runs.read start ⟨rfl, fun q => ?_⟩
      split
      · rename_i here
        rw [here, found]
      · rfl

theorem inits_before {path a : Path} {front back : List Path} (all : path.inits = front ++ a :: back) :
    a = [] ∨ a.dropLast ∈ front := by
  induction path generalizing front a back with
  | nil =>
    cases front with
    | nil => exact .inl (List.cons.inj all).1.symm
    | cons _ front => simp at all
  | cons name path ih =>
    rw [List.inits_cons] at all
    cases front with
    | nil => exact .inl (List.cons.inj all).1.symm
    | cons first front =>
      obtain ⟨rfl, rest⟩ := List.cons.inj all
      right
      obtain ⟨front, tail, inits, rfl, mapped⟩ := List.map_eq_append_iff.mp rest
      obtain ⟨a, back, rfl, rfl, -⟩ := List.map_eq_cons_iff.mp mapped
      rcases ih inits with rfl | before
      · exact List.mem_cons_self
      · by_cases top : a = []
        · rw [top]
          exact List.mem_cons_self
        · rw [List.dropLast_cons_of_ne_nil top]
          exact List.mem_cons_of_mem _ (List.mem_map_of_mem before)

/-- `mkdir` with no file on the way. -/
theorem makeDirectories_runs (clear : Unblocked fs path) : Runs (makeDirectories path) fs
    (fun r fs' => r = .ok () ∧ Adds (Ancestor path) fs fs' ∧ ∀ q, q <+: path → node fs' q = some .directory)
    (Adds (Ancestor path) fs) := by
  have ends := @Runs.forM _ (Adds (Ancestor path) fs) fs (fun ancestor => makeDirectory ancestor path)
    (fun front fs' => Adds (Ancestor path) fs fs' ∧ ∀ q ∈ front, node fs' q = some .directory) path.inits
    ⟨.refl _ fs, by simp⟩ (fun _ _ holds => holds.1) ?_
  · apply ends.mono _ fun _ => id
    rintro r fs' ⟨done, prepared, made⟩
    exact ⟨done, prepared, fun q ancestor => made q ((List.mem_inits q path).mpr ancestor)⟩
  · rintro front ancestor back fs' all ⟨prepared, made⟩
    have below : ancestor <+: path := (List.mem_inits ancestor path).mp (all ▸ by simp)
    have inside : node fs' ancestor.dropLast = some .directory := by
      rcases inits_before all with rfl | before
      · rfl
      · exact made _ before
    have extend {k : FileSystem} (new : ∀ q, node k q = if q = ancestor then some .directory else node fs' q) :
        Adds (Ancestor path) fs k := by
      intro q
      rw [new q]
      split
      · rename_i here
        subst here
        rcases prepared q with old | ⟨absent, -⟩
        · cases before : node fs q with
          | none => exact .inr ⟨rfl, below, rfl⟩
          | some content =>
            cases content with
            | directory => exact .inl rfl
            | file data => exact absurd before (clear q below data)
        · exact .inr ⟨absent, below, rfl⟩
      · exact prepared q
    have noFile (data) : node fs' ancestor ≠ some (.file data) := by
      rcases prepared ancestor with old | ⟨-, -, now⟩
      · rw [old]
        exact clear ancestor below data
      · rw [now]
        simp
    apply (makeDirectory_runs noFile inside prepared fun absent =>
      extend fun q => node_apply_makeDirectory absent inside).mono _ fun _ => id
    rintro r fs'' ⟨done, new⟩
    refine ⟨done, extend new, fun q member => ?_⟩
    rw [new q]
    split
    · rfl
    · rename_i other
      rcases List.mem_append.mp member with old | here
      · exact made q old
      · exact absurd (List.mem_singleton.mp here) other

theorem makeDirectory_returns (h : (makeDirectory path target).result fs = .ok ()) (data : Bytes) :
    node fs path ≠ some (.file data) := by
  intro found
  rw [result, makeDirectory, found] at h
  cases h

/-- When `mkdir` returns, no file was on the way. -/
theorem makeDirectories_returns (h : (makeDirectories path).result fs = .ok ()) : Unblocked fs path := by
  intro q below data found
  have member : q ∈ path.inits := (List.mem_inits q path).mpr below
  obtain ⟨front, back, all⟩ := List.append_of_mem member
  have loop := @forM_returns _ fs (fun ancestor => makeDirectory ancestor path)
    (fun _ fs' => node fs' q = some (.file data)) path.inits found
  have kept (ancestor : Path) (fs' : FileSystem) (there : node fs' q = some (.file data))
      (returned : (makeDirectory ancestor path).result fs' = .ok ()) :
      node ((makeDirectory ancestor path).after fs') q = some (.file data) := by
    unfold after makeDirectory
    split
    · exact there
    · exact there
    · rename_i absent
      have other : q ≠ ancestor := fun same => by rw [← same, there] at absent; cases absent
      change node (fs'.store ancestor .directory) q = _
      by_cases free : Free fs' ancestor
      · rw [node_store free, if_neg other]
        exact there
      · rw [FileSystem.store, dif_neg free]
        exact there
  obtain ⟨fs', there, returned⟩ := (loop (fun _ ancestor _ fs' _ => kept ancestor fs') h).1 front q back all
  exact makeDirectory_returns returned data there

theorem node_apply_append (there : node fs path = some (.file data)) :
    node (Change.apply fs (.append path byte)) q = if q = path then some (.file (data ++ [byte])) else node fs q := by
  rw [Change.apply, there]
  exact node_store (.of_file there)

/-- A file is filled byte by byte. -/
theorem write_runs {during : FileSystem → Prop} (there : node fs path = some (.file old))
    (within : ∀ k part, node k path = some (.file part) → (∀ q, q ≠ path → node k q = node fs q) → during k) :
    Runs (writeBytes path data) fs (fun r fs' => r = .ok () ∧ node fs' path = some (.file (old ++ data)) ∧
      ∀ q, q ≠ path → node fs' q = node fs q) during := by
  apply @Runs.forM _ during fs (fun byte => perform (.append path byte)) (fun front fs' =>
    node fs' path = some (.file (old ++ front)) ∧ ∀ q, q ≠ path → node fs' q = node fs q) data
  · exact ⟨by rw [List.append_nil]; exact there, fun _ _ => rfl⟩
  · rintro front fs' ⟨part, others⟩
    exact within fs' _ part others
  · rintro front byte back fs' - ⟨part, others⟩
    have here : node (Change.apply fs' (.append path byte)) path = some (.file (old ++ (front ++ [byte]))) := by
      rw [node_apply_append part, if_pos rfl, List.append_assoc]
    have rest (q) (other : q ≠ path) : node (Change.apply fs' (.append path byte)) q = node fs q := by
      rw [node_apply_append part, if_neg other, others q other]
    exact Runs.perform (within fs' _ part others) (within _ _ here rest) ⟨rfl, here, rest⟩

theorem createNew_runs {during : FileSystem → Prop} (absent : node fs path = none)
    (parent : node fs path.dropLast = some .directory) (start : during fs)
    (finish : during (Change.apply fs (.create path))) : Runs (createNew path) fs
      (fun r fs' => r = .ok () ∧ ∀ q, node fs' q = if q = path then some (.file []) else node fs q) during := by
  have same : createNew path fs = perform (.create path) fs := by
    rw [createNew, absent, parent]
    rfl
  apply Runs.congr same
  exact Runs.perform start finish ⟨rfl, fun q => node_store (.of_absent absent parent)⟩

theorem createNew_returns (h : (createNew path).result fs = .ok ()) : node fs path = none := by
  cases found : node fs path with
  | none => rfl
  | some content =>
    rw [result, createNew, found] at h
    cases h

theorem node_apply_link (there : node fs path = some (.file data)) (absent : node fs target = none)
    (inside : node fs target.dropLast = some .directory) :
    node (Change.apply fs (.link path target)) q = if q = target then some (.file data) else node fs q := by
  rw [Change.apply, there]
  exact node_store (.of_absent absent inside)

theorem linkTo_runs {during : FileSystem → Prop} (there : node fs path = some (.file data))
    (absent : node fs target = none) (inside : node fs target.dropLast = some .directory) (start : during fs)
    (finish : during (Change.apply fs (.link path target))) : Runs (linkTo path target) fs (fun r fs' => r = .ok () ∧
      ∀ q, node fs' q = if q = target then some (.file data) else node fs q) during := by
  have same : linkTo path target fs = perform (.link path target) fs := by
    rw [linkTo, there, absent, inside]
    rfl
  apply Runs.congr same
  exact Runs.perform start finish ⟨rfl, fun q => node_apply_link there absent inside⟩

theorem node_apply_unlink (there : node fs path = some (.file data)) :
    node (Change.apply fs (.unlink path)) q = if q = path then none else node fs q :=
  node_remove there

theorem unlink_runs {during : FileSystem → Prop} (there : node fs path = some (.file data)) (start : during fs)
    (finish : during (Change.apply fs (.unlink path))) : Runs (unlink path) fs
      (fun r fs' => r = .ok () ∧ ∀ q, node fs' q = if q = path then none else node fs q) during := by
  have same : unlink path fs = perform (.unlink path) fs := by
    rw [unlink, there]
    rfl
  apply Runs.congr same
  exact Runs.perform start finish ⟨rfl, fun q => node_apply_unlink there⟩

theorem unlinkIfThere_absent {during : FileSystem → Prop} (absent : node fs path = none) (start : during fs) :
    Runs (unlinkIfThere path) fs (fun r fs' => r = .ok () ∧ fs' = fs) during := by
  have same : unlinkIfThere path fs = read (fun _ => .ok ()) fs := by
    rw [unlinkIfThere, absent]
    rfl
  apply Runs.congr same
  exact Runs.read start ⟨rfl, rfl⟩

theorem unlinkIfThere_runs {during : FileSystem → Prop} (there : node fs path = some (.file data)) (start : during fs)
    (finish : during (Change.apply fs (.unlink path))) : Runs (unlinkIfThere path) fs
      (fun r fs' => r = .ok () ∧ ∀ q, node fs' q = if q = path then none else node fs q) during := by
  have same : unlinkIfThere path fs = perform (.unlink path) fs := by
    rw [unlinkIfThere, there]
    rfl
  apply Runs.congr same
  exact Runs.perform start finish ⟨rfl, fun q => node_apply_unlink there⟩

theorem node_apply_replace (there : node fs path = some (.file data)) (absent : node fs target = none)
    (inside : node fs target.dropLast = some .directory) :
    node (Change.apply fs (.replace path target)) q =
      if q = path then none else if q = target then some (.file data) else node fs q := by
  have other : path ≠ target := by
    rintro rfl
    rw [there] at absent
    cases absent
  have moved (p) : node (fs.store target (.file data)) p = if p = target then some (.file data) else node fs p :=
    node_store (.of_absent absent inside)
  have still : node (fs.store target (.file data)) path = some (.file data) := by
    rw [moved, if_neg other, there]
  rw [Change.apply, there]
  exact (node_remove still).trans (by rw [moved])

theorem replaceWith_runs {during : FileSystem → Prop} (there : node fs path = some (.file data))
    (absent : node fs target = none) (inside : node fs target.dropLast = some .directory) (start : during fs)
    (finish : during (Change.apply fs (.replace path target))) : Runs (replaceWith path target) fs
      (fun r fs' => r = .ok () ∧ ∀ q, node fs' q =
        if q = path then none else if q = target then some (.file data) else node fs q) during := by
  have same : replaceWith path target fs = perform (.replace path target) fs := by
    rw [replaceWith, there, absent, inside]
    rfl
  apply Runs.congr same
  exact Runs.perform start finish ⟨rfl, fun q => node_apply_replace there absent inside⟩

end Files
