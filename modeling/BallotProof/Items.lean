import BallotProof.Table

/-! Dicts with string keys as Python lists them: an item keeps the place its key was put in
first. Sorted by key they are the items of a table. -/
namespace Python

/-- `dict[key] = value` on items in the order of insertion. -/
def put (key : String) (value : α) : List (String × α) → List (String × α)
  | [] => [(key, value)]
  | (k, v) :: rest => if k = key then (k, value) :: rest else (k, v) :: put key value rest

theorem mem_keys_put {entries : List (String × α)} :
    other ∈ (put key value entries).map (·.1) ↔ other = key ∨ other ∈ entries.map (·.1) := by
  induction entries with
  | nil => simp [put]
  | cons first rest ih =>
    obtain ⟨k, v⟩ := first
    rw [put]
    split_ifs with same
    · subst same
      simp
    · rw [List.map_cons, List.mem_cons, ih, List.map_cons, List.mem_cons]
      tauto

theorem keys_put_nodup {entries : List (String × α)} (distinct : (entries.map (·.1)).Nodup) :
    ((put key value entries).map (·.1)).Nodup := by
  induction entries with
  | nil => simp [put]
  | cons first rest ih =>
    obtain ⟨k, v⟩ := first
    rw [List.map_cons, List.nodup_cons] at distinct
    rw [put]
    split_ifs with same
    · exact List.nodup_cons.mpr distinct
    · refine List.nodup_cons.mpr ⟨fun again => ?_, ih distinct.2⟩
      rcases mem_keys_put.mp again with eq | again
      · exact same eq
      · exact distinct.1 again

theorem lookup_put {entries : List (String × α)} :
    lookup other (put key value entries) = if other = key then some value else lookup other entries := by
  induction entries with
  | nil =>
    simp only [put, lookup]
    split_ifs <;> simp_all
  | cons first rest ih =>
    obtain ⟨k, v⟩ := first
    rw [put]
    split_ifs with same eq eq
    · simp [lookup, same, eq]
    · simp [lookup, same, Ne.symm eq]
    · rw [lookup, if_neg fun again => same (again.trans eq), ih, if_pos eq]
    · rw [lookup, lookup, ih, if_neg eq]

theorem put_fresh {entries : List (String × α)} (fresh : key ∉ entries.map (·.1)) :
    put key value entries = entries ++ [(key, value)] := by
  induction entries with
  | nil => rfl
  | cons first rest ih =>
    obtain ⟨k, v⟩ := first
    rw [List.map_cons, List.mem_cons, not_or] at fresh
    rw [put, if_neg (Ne.symm fresh.1), ih fresh.2, List.cons_append]

theorem lookup_eq_some {entries : List (String × α)} (distinct : (entries.map (·.1)).Nodup) :
    lookup key entries = some value ↔ (key, value) ∈ entries := by
  refine ⟨lookup_mem, fun member => ?_⟩
  induction entries with
  | nil => cases member
  | cons first rest ih =>
    obtain ⟨k, v⟩ := first
    rw [List.map_cons, List.nodup_cons] at distinct
    rcases List.mem_cons.mp member with eq | member
    · cases eq
      simp [lookup]
    · have apart : k ≠ key := by
        rintro rfl
        exact distinct.1 (List.mem_map.mpr ⟨_, member, rfl⟩)
      rw [lookup, if_neg apart, ih distinct.2 member]

theorem keysAscend_of_pairwise {entries : List (String × α)}
    (ordered : (entries.map (·.1)).Pairwise (· < ·)) : keysAscend entries = true := by
  induction entries with
  | nil => rfl
  | cons first rest ih =>
    rw [List.map_cons, List.pairwise_cons] at ordered
    exact keysAscend_cons (fun entry member => ordered.1 _ (List.mem_map_of_mem member)) (ih ordered.2)

theorem keysAscend_pairwise {entries : List (String × α)} (h : keysAscend entries = true) :
    (entries.map (·.1)).Pairwise (· < ·) := by
  induction entries with
  | nil => exact .nil
  | cons first rest ih =>
    refine List.pairwise_cons.mpr ⟨fun key member => ?_, ih (keysAscend_tail h)⟩
    obtain ⟨entry, inside, rfl⟩ := List.mem_map.mp member
    exact keysAscend_lt h entry inside

/-- A dict with string keys and the order of its items. -/
structure Items (α : Type u) where
  entries : List (String × α)
  distinct : (entries.map (·.1)).Nodup
  deriving DecidableEq

namespace Items

def empty : Items α := ⟨[], List.nodup_nil⟩

def get (d : Items α) (key : String) : Option α := lookup key d.entries

def set (d : Items α) (key : String) (value : α) : Items α :=
  ⟨put key value d.entries, keys_put_nodup d.distinct⟩

def keys (d : Items α) : List String := d.entries.map (·.1)

/-- `{key: value for ...}` -/
def ofList (pairs : List (String × α)) : Items α :=
  pairs.foldl (fun d pair => d.set pair.1 pair.2) empty

/-- `dict(sorted(d.items()))`: no two keys are equal, so the values are never compared. -/
def sorted (d : Items α) : Items α where
  entries := d.entries.insertionSort fun a b => a.1 ≤ b.1
  distinct := ((List.perm_insertionSort _ d.entries).map _).nodup_iff.mpr d.distinct

theorem ext {a b : Items α} (same : a.entries = b.entries) : a = b := by
  cases a
  cases b
  cases same
  rfl

/-- The dict without the order of its items. -/
def toTable (d : Items α) : Table α := Table.ofList d.entries

@[simp] theorem get_toTable (d : Items α) (key : String) : d.toTable.get key = d.get key := by
  apply Option.ext
  intro value
  rw [toTable, Table.get_ofList d.distinct, get, lookup_eq_some d.distinct]

@[simp] theorem toTable_empty : (empty : Items α).toTable = Table.empty := rfl

@[simp] theorem toTable_set (d : Items α) (key : String) (value : α) :
    (d.set key value).toTable = d.toTable.set key value := by
  apply Table.ext
  intro other
  rw [get_toTable, Table.get_set, get_toTable]
  exact lookup_put

@[simp] theorem toTable_ofList (pairs : List (String × α)) :
    (ofList pairs).toTable = Table.ofList pairs := by
  have step (pairs : List (String × α)) (d : Items α) :
      (pairs.foldl (fun d pair => d.set pair.1 pair.2) d).toTable =
        pairs.foldl (fun t pair => t.set pair.1 pair.2) d.toTable := by
    induction pairs generalizing d with
    | nil => rfl
    | cons pair rest ih => rw [List.foldl_cons, ih, toTable_set, List.foldl_cons]
  have built (pairs : List (String × α)) (t : Table α) :
      (pairs.foldl (fun t pair => t.set pair.1 pair.2) t).entries =
        pairs.foldl (fun entries pair => insert pair.1 pair.2 entries) t.entries := by
    induction pairs generalizing t with
    | nil => rfl
    | cons pair rest ih => rw [List.foldl_cons, ih, List.foldl_cons, Table.set]
  rw [ofList, step]
  have same := built pairs Table.empty
  rw [toTable_empty]
  generalize pairs.foldl (fun t pair => t.set pair.1 pair.2) Table.empty = t at same
  obtain ⟨entries, ascending⟩ := t
  cases same
  rfl

@[simp] theorem mem_keys_toTable {d : Items α} : key ∈ d.toTable.keys ↔ key ∈ d.keys := by
  rw [Table.mem_keys]
  constructor
  · rintro ⟨value, found⟩
    rw [get_toTable] at found
    exact List.mem_map_of_mem (lookup_mem found)
  · intro member
    obtain ⟨⟨k, value⟩, inside, rfl⟩ := List.mem_map.mp member
    exact ⟨value, (get_toTable d k).trans ((lookup_eq_some d.distinct).mpr inside)⟩

theorem keys_perm (d : Items α) : d.keys.Perm d.toTable.keys :=
  (List.perm_ext_iff_of_nodup d.distinct d.toTable.keys_nodup).mpr fun _ => mem_keys_toTable.symm

theorem perm_toTable {d other : Items α} (perm : d.entries.Perm other.entries) :
    d.toTable = other.toTable := Table.ofList_perm d.distinct perm

end Items

namespace Table

/-- A table as a dict in key order. -/
def items (t : Table α) : Items α := ⟨t.entries, t.keys_nodup⟩

theorem keys_ordered (t : Table α) : t.keys.Pairwise (· < ·) := keysAscend_pairwise t.ascending

@[simp] theorem get_items (t : Table α) (key : String) : t.items.get key = t.get key := rfl

end Table

/-- Sorting forgets the order of insertion. -/
theorem Items.sorted_eq (d : Items α) : d.sorted = d.toTable.items := by
  apply Items.ext
  have ordered : keysAscend d.sorted.entries = true := by
    apply keysAscend_of_pairwise
    have weak : (d.sorted.entries.map (·.1)).Pairwise (· ≤ ·) :=
      List.pairwise_map.mpr (List.pairwise_insertionSort _ d.entries)
    exact weak.imp₂ (fun _ _ low apart => lt_of_le_of_ne low apart) d.sorted.distinct
  apply entries_ext ordered d.toTable.ascending
  intro key
  apply Option.ext
  intro value
  have listed := (List.perm_insertionSort (fun a b : String × α => a.1 ≤ b.1) d.entries).mem_iff (a := (key, value))
  rw [lookup_eq_some d.sorted.distinct, Items.sorted, listed, ← lookup_eq_some d.distinct]
  exact (congrArg (· = some value) (d.get_toTable key)).to_iff.symm

end Python
