import Mathlib.Data.List.Induction
import Mathlib.Data.List.Basic
import Mathlib.Data.List.Sort
import Mathlib.Tactic

/-! Logs whose entries carry a number, the hash of the entry before and their own hash.
A reader walks a log and recomputes each hash; the hash of the last entry stands for the
whole log. -/
namespace HashChain

variable {ρ : Type u} {δ : Type v}

/-- What an entry states, and the hash a reader recomputes from it. -/
structure Log (ρ : Type u) (δ : Type v) where
  version : ρ → Nat
  previous : ρ → Option δ
  hash : ρ → δ
  expected : ρ → δ

namespace Log
variable (log : Log ρ δ)

/-- The hash that the next entry has to name. -/
def head (before : Option δ) : List ρ → Option δ
  | [] => before
  | row :: rest => head (some (log.hash row)) rest

/-- The first entry at which a reader stops. -/
def firstBroken [DecidableEq δ] (before : Option δ) : List ρ → Option ρ
  | [] => none
  | row :: rest =>
    if log.previous row ≠ before ∨ log.hash row ≠ log.expected row then some row
    else firstBroken (some (log.hash row)) rest

/-- Every entry names the hash before it, and has the hash that is recomputed. -/
def Linked (before : Option δ) : List ρ → Prop
  | [] => True
  | row :: rest => (log.previous row = before ∧ log.hash row = log.expected row) ∧
    Linked (some (log.hash row)) rest

/-- The entries are numbered from one. -/
def Numbered (rows : List ρ) : Prop := rows.map log.version = List.range' 1 rows.length

variable {log}

@[simp] theorem head_snoc : log.head before (rows ++ [row]) = some (log.hash row) := by
  induction rows generalizing before with
  | nil => rfl
  | cons first rest ih => exact ih

theorem head_eq_getLast (rows : List ρ) : log.head none rows = rows.getLast?.map log.hash := by
  induction rows using List.reverseRecOn with
  | nil => rfl
  | append_singleton rows row _ => simp

theorem firstBroken_none [DecidableEq δ] : log.firstBroken before rows = none ↔ log.Linked before rows := by
  induction rows generalizing before with
  | nil => simp [firstBroken, Linked]
  | cons row rest ih =>
    rw [firstBroken, Linked]
    by_cases broken : log.previous row ≠ before ∨ log.hash row ≠ log.expected row
    · rw [if_pos broken]
      refine iff_of_false (by simp) fun linked => ?_
      rcases broken with apart | apart
      · exact apart linked.1.1
      · exact apart linked.1.2
    · rw [if_neg broken, ih]
      simp only [ne_eq, not_or, not_not] at broken
      exact ⟨fun linked => ⟨broken, linked⟩, fun linked => linked.2⟩

theorem linked_snoc : log.Linked before (rows ++ [row]) ↔
    log.Linked before rows ∧ log.previous row = log.head before rows ∧
      log.hash row = log.expected row := by
  induction rows generalizing before with
  | nil => simp [Linked, head]
  | cons first rest ih =>
    simp only [List.cons_append, Linked, head, ih, and_assoc]

/-- An entry that takes the next number and names the head keeps the log. -/
theorem Linked.snoc (linked : log.Linked before rows) (previous : log.previous row = log.head before rows)
    (hash : log.hash row = log.expected row) : log.Linked before (rows ++ [row]) :=
  linked_snoc.mpr ⟨linked, previous, hash⟩

theorem Numbered.snoc (numbered : log.Numbered rows) (next : log.version row = rows.length + 1) :
    log.Numbered (rows ++ [row]) := by
  unfold Numbered at *
  rw [List.map_append, numbered, List.length_append, List.length_singleton, List.range'_concat]
  simp [next, Nat.add_comm]

theorem Numbered.at (numbered : log.Numbered (front ++ row :: rest)) :
    log.version row = front.length + 1 := by
  unfold Numbered at numbered
  have entry := congrArg (fun numbers => numbers[front.length]?) numbered
  simpa [List.getElem?_range', Nat.add_comm] using entry

theorem Linked.at (linked : log.Linked before (front ++ row :: rest)) :
    log.previous row = log.head before front ∧ log.hash row = log.expected row := by
  induction front generalizing before with
  | nil => exact linked.1
  | cons first front ih => exact ih linked.2

theorem Linked.hash_mem (linked : log.Linked before rows) (member : row ∈ rows) :
    log.hash row = log.expected row := by
  obtain ⟨front, back, rfl⟩ := List.append_of_mem member
  exact linked.at.2

/-- Every entry has the next number, is linked, and is good. -/
def Checked (log : Log ρ δ) (good : ρ → Prop) (number : Nat) (before : Option δ) : List ρ → Prop
  | [] => True
  | row :: rest => (log.version row = number ∧ log.previous row = before ∧
      log.hash row = log.expected row ∧ good row) ∧
    Checked log good (number + 1) (some (log.hash row)) rest

theorem checked_iff {good : ρ → Prop} : log.Checked good number before rows ↔
    rows.map log.version = List.range' number rows.length ∧ log.Linked before rows ∧
      ∀ row ∈ rows, good row := by
  induction rows generalizing number before with
  | nil => simp [Checked, Linked]
  | cons row rest ih =>
    simp only [Checked, Linked, ih, List.map_cons, List.length_cons, List.range'_succ, List.cons.injEq,
      List.mem_cons, forall_eq_or_imp]
    tauto

/-- Where equal recomputed hashes belong to equal entries, logs with one last hash are one log. -/
theorem linked_unique {rows others : List ρ}
    (separates : ∀ a ∈ rows, ∀ b ∈ others, log.expected a = log.expected b → log.hash a = log.hash b → a = b)
    (first : log.Linked none rows) (second : log.Linked none others)
    (same : log.head none rows = log.head none others) : rows = others := by
  induction rows using List.reverseRecOn generalizing others with
  | nil =>
    rcases List.eq_nil_or_concat others with rfl | ⟨front, last, rfl⟩
    · rfl
    · simp [head] at same
  | append_singleton rows row ih =>
    rcases List.eq_nil_or_concat others with rfl | ⟨front, last, rfl⟩
    · simp [head] at same
    · rw [List.concat_eq_append] at *
      rw [head_snoc, head_snoc, Option.some.injEq] at same
      obtain ⟨lower, previous, hash⟩ := linked_snoc.mp first
      obtain ⟨lower', previous', hash'⟩ := linked_snoc.mp second
      have rowEq : row = last := by
        apply separates row (by simp) last (by simp) _ same
        rw [← hash, ← hash', same]
      subst rowEq
      have rest := ih (fun a ha b hb => separates a (by simp [ha]) b (by simp [hb])) lower lower'
        (previous.symm.trans previous')
      rw [rest]

/-- The number that the next entry takes. -/
def next (log : Log ρ δ) (rows : List ρ) : Nat := (rows.getLast?.map (log.version · + 1)).getD 1

theorem Numbered.next_eq (numbered : log.Numbered rows) : log.next rows = rows.length + 1 := by
  rcases List.eq_nil_or_concat rows with rfl | ⟨front, last, rfl⟩
  · rfl
  · rw [List.concat_eq_append] at *
    unfold Numbered at numbered
    rw [List.map_append, List.length_append, List.length_singleton, List.range'_concat] at numbered
    have version := List.append_inj_right numbered (by simp)
    simp only [List.map_singleton, List.cons.injEq, and_true, mul_one] at version
    simp [next, version, Nat.add_comm]

theorem Numbered.ascending (numbered : log.Numbered rows) :
    (rows.map log.version).Pairwise (· ≤ ·) := by
  rw [numbered]
  exact List.pairwise_le_range'

/-- Each number is taken once. -/
theorem Numbered.unique (numbered : log.Numbered rows) : (rows.map log.version).Nodup := by
  rw [numbered]
  exact List.nodup_range'

section
variable {κ : Type w} [DecidableEq κ]

/-- One chain for each key. -/
structure Keyed (log : Log ρ δ) (key : ρ → κ) (rows : List ρ) : Prop where
  numbered : ∀ k, log.Numbered (rows.filter (key · = k))
  linked : ∀ k, log.Linked none (rows.filter (key · = k))

theorem Keyed.nil {key : ρ → κ} : Keyed log key [] := ⟨fun _ => rfl, fun _ => trivial⟩

theorem Keyed.snoc {key : ρ → κ} (valid : Keyed log key rows)
    (version : log.version row = log.next (rows.filter (key · = key row)))
    (previous : log.previous row = (rows.filter (key · = key row)).getLast?.map log.hash)
    (hash : log.hash row = log.expected row) : Keyed log key (rows ++ [row]) := by
  have split (k : κ) : (rows ++ [row]).filter (key · = k) =
      rows.filter (key · = k) ++ if key row = k then [row] else [] := by
    by_cases same : key row = k <;> simp [same]
  refine ⟨fun k => ?_, fun k => ?_⟩
  · rw [split]
    by_cases same : key row = k
    · subst same
      rw [if_pos rfl]
      exact (valid.numbered _).snoc (version.trans (valid.numbered _).next_eq)
    · rw [if_neg same, List.append_nil]
      exact valid.numbered k
  · rw [split]
    by_cases same : key row = k
    · subst same
      rw [if_pos rfl]
      exact (valid.linked _).snoc (previous.trans (head_eq_getLast _).symm) hash
    · rw [if_neg same, List.append_nil]
      exact valid.linked k

end

end Log

end HashChain
