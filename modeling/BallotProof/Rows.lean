import Mathlib.Data.List.Nodup
import Mathlib.Data.List.Basic
import Mathlib.Data.List.Sort
import Mathlib.Data.List.Pairwise

/-! Database tables as lists of rows, with a key that a uniqueness constraint keeps apart. -/
namespace Sql

universe u v w
variable {α : Type u} {κ : Type v} (key : α → κ)

/-- No two rows share a key. -/
def Unique (rows : List α) : Prop := (rows.map key).Nodup

section
variable {key}

theorem Unique.snoc (unique : Unique key rows) (fresh : key row ∉ rows.map key) :
    Unique key (rows ++ [row]) := by
  unfold Unique
  rw [List.map_append, List.map_singleton]
  exact List.nodup_append.mpr ⟨unique, List.nodup_singleton _,
    fun k member other same => by rw [List.mem_singleton.mp same]; rintro rfl; exact fresh member⟩

/-- Rows of a table agree as soon as their keys do. -/
theorem Unique.eq (unique : Unique key rows) (left : a ∈ rows) (right : b ∈ rows)
    (same : key a = key b) : a = b :=
  List.inj_on_of_nodup_map unique left right same

/-- `SELECT ... WHERE chosen ORDER BY` some columns that end in the key. -/
def selectSorted (chosen : α → Bool) (before : α → α → Bool) (rows : List α) : List α :=
  (rows.filter chosen).insertionSort fun a b => before a b

/-- `ORDER BY` columns of which the last is the key. -/
structure KeyedOrder (key : α → κ) (before : α → α → Bool) : Prop where
  total : ∀ a b, before a b ∨ before b a
  trans : ∀ a b c, before a b → before b c → before a c
  key_eq : ∀ a b, before a b → before b a → key a = key b

/-- `ORDER BY column, key` -/
theorem KeyedOrder.lexicographic {β : Type w} [LinearOrder β] [LinearOrder κ] (column : α → β) {key : α → κ}
    {before : α → α → Bool} (lex : ∀ a b, before a b ↔ column a < column b ∨ column a = column b ∧ key a ≤ key b) :
    KeyedOrder key before := by
  refine ⟨fun a b => ?_, fun a b c => ?_, fun a b => ?_⟩
  all_goals simp only [lex]
  · rcases lt_trichotomy (column a) (column b) with less | same | more
    · exact .inl (.inl less)
    · rcases le_total (key a) (key b) with first | second
      · exact .inl (.inr ⟨same, first⟩)
      · exact .inr (.inr ⟨same.symm, second⟩)
    · exact .inr (.inl more)
  · rintro (less | ⟨same, first⟩) (less' | ⟨same', second⟩)
    · exact .inl (less.trans less')
    · exact .inl (same' ▸ less)
    · exact .inl (same ▸ less')
    · exact .inr ⟨same.trans same', first.trans second⟩
  · rintro (less | ⟨same, first⟩) (less' | ⟨same', second⟩)
    · exact absurd (less.trans less') (lt_irrefl _)
    · exact absurd less (same' ▸ lt_irrefl _)
    · exact absurd less' (same ▸ lt_irrefl _)
    · exact le_antisymm first second

theorem mem_selectSorted {chosen : α → Bool} {before : α → α → Bool} :
    row ∈ selectSorted chosen before rows ↔ row ∈ rows ∧ chosen row := by
  simp [selectSorted, List.mem_insertionSort]

theorem selectSorted_pairwise {chosen : α → Bool} {before : α → α → Bool} (order : KeyedOrder key before) :
    (selectSorted chosen before rows).Pairwise fun a b => before a b := by
  have total : Std.Total fun a b : α => (before a b : Prop) := ⟨order.total⟩
  have transitive : IsTrans α fun a b => (before a b : Prop) := ⟨order.trans⟩
  exact List.pairwise_insertionSort _ _

/-- Two such queries return the same rows of a table exactly when they choose the same ones, and
order any two of these alike. -/
theorem selectSorted_eq_iff {chosen other : α → Bool} {before earlier : α → α → Bool}
    (unique : Unique key rows) (left : KeyedOrder key before) (right : KeyedOrder key earlier) :
    selectSorted chosen before rows = selectSorted other earlier rows ↔
      (∀ a ∈ rows, chosen a = other a) ∧
        ∀ a ∈ rows, ∀ b ∈ rows, other a → other b → before a b = earlier a b := by
  constructor
  · intro same
    have sameRows : ∀ a ∈ rows, chosen a = other a := by
      intro a member
      have both := @mem_selectSorted _ rows a chosen before
      rw [same, mem_selectSorted] at both
      exact Bool.eq_iff_iff.mpr ⟨fun h => (both.mpr ⟨member, h⟩).2, fun h => (both.mp ⟨member, h⟩).2⟩
    refine ⟨sameRows, ?_⟩
    have first : (selectSorted other earlier rows).Pairwise fun a b => before a b :=
      same ▸ selectSorted_pairwise left
    have second : (selectSorted other earlier rows).Pairwise fun a b => earlier a b := selectSorted_pairwise right
    have apart : (selectSorted other earlier rows).Pairwise fun a b => key a ≠ key b := by
      have kept : ((rows.filter other).map key).Nodup := unique.sublist (List.filter_sublist.map key)
      have moved := ((List.perm_insertionSort (fun a b => (earlier a b : Prop)) (rows.filter other)).map key).nodup_iff
      exact List.pairwise_map.mp (moved.mpr kept)
    have alike : (selectSorted other earlier rows).Pairwise fun a b =>
        before a b = earlier a b ∧ before b a = earlier b a := by
      refine (first.and (second.and apart)).imp ?_
      rintro a b ⟨ab, ab', keys⟩
      have ba : before b a = false := Bool.eq_false_iff.mpr fun ba => keys (left.key_eq a b ab ba)
      have ba' : earlier b a = false := Bool.eq_false_iff.mpr fun ba => keys (right.key_eq a b ab' ba)
      exact ⟨ab.trans ab'.symm, ba.trans ba'.symm⟩
    have symmetric : Std.Symm fun a b => before a b = earlier a b ∧ before b a = earlier b a := ⟨fun _ _ h => h.symm⟩
    have everywhere := alike.forall_of_forall fun a _ => by
      have own : before a a = true := (left.total a a).elim id id
      have own' : earlier a a = true := (right.total a a).elim id id
      exact ⟨own.trans own'.symm, own.trans own'.symm⟩
    intro a member b member' chosen picked
    exact (everywhere (mem_selectSorted.mpr ⟨member, chosen⟩) (mem_selectSorted.mpr ⟨member', picked⟩)).1
  · rintro ⟨sameRows, sameOrder⟩
    unfold selectSorted
    rw [List.filter_congr sameRows]
    have sorts := List.map_insertionSort (fun a b => (before a b : Prop)) (fun a b => (earlier a b : Prop)) id
      (rows.filter other) fun a first b second => by
        obtain ⟨first, chosen⟩ := List.mem_filter.mp first
        obtain ⟨second, picked⟩ := List.mem_filter.mp second
        simp [sameOrder a first b second chosen picked]
    simpa using sorts

end

variable [DecidableEq κ]

/-- `INSERT`, or none when the uniqueness constraint rejects the row. -/
def insertRow (row : α) (rows : List α) : Option (List α) :=
  if key row ∈ rows.map key then none else some (rows ++ [row])

/-- `INSERT ... ON CONFLICT (key) DO NOTHING RETURNING key` -/
def insertOrIgnore (row : α) (rows : List α) : List α × Option κ :=
  if key row ∈ rows.map key then (rows, none) else (rows ++ [row], some (key row))

/-- `SELECT ... WHERE key = k` -/
def selectRow (k : κ) (rows : List α) : Option α := rows.find? (key · = k)

/-- `UPDATE ... WHERE key = k` -/
def updateRow (k : κ) (change : α → α) (rows : List α) : List α :=
  rows.map fun row => if key row = k then change row else row

variable {key}

theorem insertRow_some : insertRow key row rows = some after ↔
    key row ∉ rows.map key ∧ after = rows ++ [row] := by
  unfold insertRow
  split
  · rename_i taken
    simp [taken]
  · rename_i free
    simp [free, eq_comm]

theorem insertRow_none : insertRow key row rows = none ↔ key row ∈ rows.map key := by
  unfold insertRow
  split <;> simp [*]

theorem selectRow_mem (h : selectRow key k rows = some row) : row ∈ rows ∧ key row = k :=
  ⟨List.mem_of_find?_eq_some h, by simpa using List.find?_some h⟩

theorem selectRow_none : selectRow key k rows = none ↔ k ∉ rows.map key := by
  simp [selectRow, List.find?_eq_none]

theorem Unique.select (unique : Unique key rows) (member : row ∈ rows) :
    selectRow key (key row) rows = some row := by
  cases found : selectRow key (key row) rows with
  | none => exact absurd (List.mem_map_of_mem member) (selectRow_none.mp found)
  | some other =>
    have other_spec := selectRow_mem found
    rw [unique.eq other_spec.1 member other_spec.2]

/-- An update keeps every column that its change keeps. -/
theorem updateRow_map {β : Type w} {column : α → β} {change : α → α}
    (kept : ∀ row, column (change row) = column row) :
    (updateRow key k change rows).map column = rows.map column := by
  rw [updateRow, List.map_map]
  refine List.map_congr_left fun row _ => ?_
  simp only [Function.comp_apply]
  split
  · exact kept row
  · rfl

theorem updateRow_keys {change : α → α} (kept : ∀ row, key (change row) = key row) :
    (updateRow key k change rows).map key = rows.map key := updateRow_map kept

/-- An update of a table is the update of its view, when the view keeps the key. -/
theorem map_updateRow {β : Type w} {view : α → β} {viewKey : β → κ} {change : α → α} {viewed : β → β}
    (keys : ∀ row, viewKey (view row) = key row) (changes : ∀ row, view (change row) = viewed (view row)) :
    (updateRow key k change rows).map view = updateRow viewKey k viewed (rows.map view) := by
  rw [updateRow, updateRow, List.map_map, List.map_map]
  refine List.map_congr_left fun row _ => ?_
  simp only [Function.comp_apply, keys]
  split
  · exact changes row
  · rfl

theorem Unique.update (unique : Unique key rows) {change : α → α}
    (kept : ∀ row, key (change row) = key row) : Unique key (updateRow key k change rows) := by
  unfold Unique
  rw [updateRow_keys kept]
  exact unique

theorem select_update {change : α → α} (kept : ∀ row, key (change row) = key row) :
    selectRow key k (updateRow key k change rows) = (selectRow key k rows).map change := by
  induction rows with
  | nil => rfl
  | cons row rows ih =>
    by_cases here : key row = k
    · simp [selectRow, updateRow, here, kept]
    · simpa [selectRow, updateRow, here] using ih

theorem mem_updateRow {change : α → α} (h : row ∈ updateRow key k change rows) :
    ∃ old ∈ rows, (key old = k ∧ row = change old) ∨ (key old ≠ k ∧ row = old) := by
  obtain ⟨old, member, rfl⟩ := List.mem_map.mp h
  refine ⟨old, member, ?_⟩
  by_cases same : key old = k
  · exact .inl ⟨same, if_pos same⟩
  · exact .inr ⟨same, if_neg same⟩

/-- What an INTEGER column takes of a natural number. -/
def integerLimit : Nat := Nat.pow 2 63

theorem one_lt_integerLimit : 1 < integerLimit := by decide

/-- `SELECT ... ORDER BY column` -/
def orderBy (column : α → Nat) (rows : List α) : List α :=
  rows.insertionSort fun a b => column a ≤ column b

/-- `SELECT ... ORDER BY columns`, for columns of texts. -/
def orderByTexts {β : Type w} [LinearOrder β] (columns : α → β) (rows : List α) : List α :=
  rows.insertionSort fun a b => columns a ≤ columns b

theorem mem_orderByTexts {β : Type w} [LinearOrder β] {columns : α → β} :
    row ∈ orderByTexts columns rows ↔ row ∈ rows := List.mem_insertionSort _

/-- `SELECT ... WHERE key = k ORDER BY column` -/
def selectOrdered (key : α → κ) (column : α → Nat) (k : κ) (rows : List α) : List α :=
  orderBy column (rows.filter (key · = k))

theorem mem_selectOrdered {column : α → Nat} :
    row ∈ selectOrdered key column k rows ↔ row ∈ rows ∧ key row = k := by
  simp [selectOrdered, orderBy, List.mem_insertionSort]

/-- Rows that were inserted in order come back in the order of insertion. -/
theorem orderBy_of_ascending {column : α → Nat} (ascending : (rows.map column).Pairwise (· ≤ ·)) :
    orderBy column rows = rows :=
  List.Pairwise.insertionSort_eq (List.pairwise_map.mp ascending)

end Sql
