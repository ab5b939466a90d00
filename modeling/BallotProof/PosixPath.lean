import Mathlib.Data.List.Basic

/-! `pathlib.PurePosixPath`: how a text is split into a root and names, and written back. -/
namespace Python

/-- `posixpath.splitroot`: exactly two leading slashes are a root of their own. -/
def splitroot : List Char → List Char × List Char
  | '/' :: '/' :: '/' :: rest => (['/'], '/' :: '/' :: rest)
  | '/' :: '/' :: rest => (['/', '/'], rest)
  | '/' :: rest => (['/'], rest)
  | rest => ([], rest)

@[ext] structure PurePosixPath where
  root : List Char
  tail : List (List Char)
  deriving DecidableEq

namespace PurePosixPath

/-- `PurePosixPath(text)`: empty names and single dots are dropped. -/
def ofText (text : List Char) : PurePosixPath :=
  let (root, relative) := splitroot text
  ⟨root, (relative.splitOn '/').filter fun name => name ≠ [] ∧ name ≠ ['.']⟩

def isAbsolute (path : PurePosixPath) : Bool := path.root ≠ []

def parts (path : PurePosixPath) : List (List Char) :=
  if path.root = [] then path.tail else path.root :: path.tail

/-- `path.as_posix()` -/
def asPosix (path : PurePosixPath) : List Char :=
  let text := path.root ++ ['/'].intercalate path.tail
  if text = [] then ['.'] else text

/-- A name between two slashes that a path keeps as it is. -/
structure Name (name : List Char) : Prop where
  nonempty : name ≠ []
  notDot : name ≠ ['.']
  noSlash : '/' ∉ name

theorem splitroot_relative : (splitroot text).1 = [] ↔ text.head? ≠ some '/' := by
  unfold splitroot
  split
  · simp
  · simp
  · simp
  · rename_i other
    cases text with
    | nil => simp
    | cons c rest =>
      have : c ≠ '/' := fun same => other rest (by rw [same])
      simpa using this

theorem splitroot_rest (relative : text.head? ≠ some '/') : splitroot text = ([], text) := by
  unfold splitroot
  split
  · simp at relative
  · simp at relative
  · simp at relative
  · rfl

theorem not_isAbsolute : ¬(ofText text).isAbsolute ↔ text.head? ≠ some '/' := by
  simp [isAbsolute, ofText, splitroot_relative]

theorem ofText_relative (relative : text.head? ≠ some '/') :
    ofText text = ⟨[], (text.splitOn '/').filter fun name => name ≠ [] ∧ name ≠ ['.']⟩ := by
  rw [ofText, splitroot_rest relative]

theorem not_mem_splitOn {text name : List Char} (member : name ∈ text.splitOn '/') : '/' ∉ name := by
  induction text generalizing name with
  | nil =>
    rw [List.splitOn_nil, List.mem_singleton] at member
    simp [member]
  | cons c text ih =>
    rw [List.splitOn_cons_eq_if_modifyHead] at member
    split at member
    · rcases List.mem_cons.mp member with rfl | member
      · simp
      · exact ih member
    · rename_i other
      obtain ⟨first, rest, names⟩ := List.exists_cons_of_ne_nil (List.splitOn_ne_nil '/' text)
      rw [names, List.modifyHead_cons] at member
      rcases List.mem_cons.mp member with rfl | member
      · have := ih (names ▸ List.mem_cons_self)
        simp only [beq_iff_eq] at other
        simp [this, Ne.symm other]
      · exact ih (names ▸ List.mem_cons_of_mem _ member)

/-- The names that are kept. -/
theorem ofText_names (relative : text.head? ≠ some '/') : ∀ name ∈ (ofText text).tail, Name name := by
  intro name member
  rw [ofText_relative relative] at member
  obtain ⟨among, kept⟩ := List.mem_filter.mp member
  have kept : name ≠ [] ∧ name ≠ ['.'] := by simpa using kept
  exact ⟨kept.1, kept.2, not_mem_splitOn among⟩

theorem head_intercalate {names : List (List Char)} (kept : ∀ name ∈ names, Name name) :
    (['/'].intercalate names).head? ≠ some '/' := by
  cases names with
  | nil => simp
  | cons name names =>
    obtain ⟨c, rest, rfl⟩ := List.exists_cons_of_ne_nil (kept name List.mem_cons_self).nonempty
    have other : c ≠ '/' := fun same => (kept _ List.mem_cons_self).noSlash (by simp [same])
    cases names <;> simpa [List.intercalate] using other

/-- Names joined by slashes are read back. -/
theorem ofText_intercalate {names : List (List Char)} (filled : names ≠ []) (kept : ∀ name ∈ names, Name name) :
    ofText (['/'].intercalate names) = ⟨[], names⟩ := by
  rw [ofText_relative (head_intercalate kept),
    List.splitOn_intercalate '/' (fun name member => (kept name member).noSlash) filled]
  congr 1
  rw [List.filter_eq_self]
  intro name member
  simpa using ⟨(kept name member).nonempty, (kept name member).notDot⟩

theorem intercalate_ne_nil {names : List (List Char)} (filled : names ≠ []) (kept : ∀ name ∈ names, Name name) :
    ['/'].intercalate names ≠ [] := by
  intro empty
  have read := ofText_intercalate filled kept
  rw [empty] at read
  have : names = [] := by simpa [ofText, splitroot] using (congrArg tail read).symm
  exact filled this

/-- A relative text that is its own normal form: a single dot, or names joined by slashes. -/
theorem asPosix_ofText (relative : text.head? ≠ some '/') :
    (ofText text).asPosix = text ↔
      text = ['.'] ∨ ∃ names, names ≠ [] ∧ (∀ name ∈ names, Name name) ∧ text = ['/'].intercalate names := by
  constructor
  · intro same
    have names := ofText_names relative
    by_cases none : (ofText text).tail = []
    · left
      rw [← same, asPosix, none, ofText_relative relative]
      rfl
    · right
      refine ⟨(ofText text).tail, none, names, ?_⟩
      have root : (ofText text).root = [] := by rw [ofText_relative relative]
      nth_rewrite 1 [← same]
      simp only [asPosix, root, List.nil_append, if_neg (intercalate_ne_nil none names)]
  · rintro (rfl | ⟨names, filled, kept, rfl⟩)
    · decide +kernel
    · rw [ofText_intercalate filled kept, asPosix, List.nil_append]
      exact if_neg (intercalate_ne_nil filled kept)

end PurePosixPath

end Python
