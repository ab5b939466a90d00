import Mathlib.Data.List.Induction
import Mathlib.Data.String.Basic
import Mathlib.Tactic

/-! Dicts with string keys, kept as lists of items in key order, so that equal dicts are
equal lists. -/
namespace Python

/-- `dict[key] = value` on items in key order. -/
def insert (key : String) (value : α) : List (String × α) → List (String × α)
  | [] => [(key, value)]
  | (k, v) :: rest =>
    if key < k then (key, value) :: (k, v) :: rest
    else if key = k then (key, value) :: rest
    else (k, v) :: insert key value rest

/-- `dict(pairs)`: the last item of a key wins. -/
def dictOf (pairs : List (String × α)) : List (String × α) :=
  pairs.foldl (fun entries pair => insert pair.1 pair.2 entries) []

/-- `entries.get(key)` -/
def lookup (key : String) : List (String × α) → Option α
  | [] => none
  | (k, v) :: rest => if k = key then some v else lookup key rest

/-- `entries` without `key` -/
def remove (key : String) (entries : List (String × α)) : List (String × α) :=
  entries.filter fun entry => entry.1 ≠ key

/-- Strictly increasing keys. -/
def keysAscend : List (String × α) → Bool
  | [] => true
  | [_] => true
  | (a, _) :: (b, y) :: rest => decide (a < b) && keysAscend ((b, y) :: rest)

theorem keysAscend_insert {entries : List (String × α)} (h : keysAscend entries = true) :
    keysAscend (insert key value entries) = true := by
  induction entries with
  | nil => rfl
  | cons first rest ih =>
    obtain ⟨k, v⟩ := first
    rw [insert]
    split_ifs with before same
    · simp [keysAscend, before, h]
    · subst same
      cases rest with
      | nil => rfl
      | cons second rest => simpa [keysAscend] using h
    · have after : k < key := lt_of_le_of_ne (not_lt.mp before) fun eq => same eq.symm
      cases rest with
      | nil => simp [insert, keysAscend, after]
      | cons second rest =>
        obtain ⟨l, w⟩ := second
        simp only [keysAscend, Bool.and_eq_true, decide_eq_true_eq] at h
        have tail := ih h.2
        rw [insert] at tail ⊢
        split_ifs at tail ⊢ <;> simp_all [keysAscend]

@[simp] theorem lookup_insert_same (entries : List (String × α)) :
    lookup key (insert key value entries) = some value := by
  induction entries with
  | nil => simp [insert, lookup]
  | cons first rest ih =>
    obtain ⟨k, v⟩ := first
    rw [insert]
    split_ifs with before same
    · simp [lookup]
    · simp [lookup]
    · have apart : k ≠ key := fun eq => same eq.symm
      simp [lookup, apart, ih]

theorem lookup_insert_other {entries : List (String × α)} (h : other ≠ key) :
    lookup other (insert key value entries) = lookup other entries := by
  induction entries with
  | nil => simp [insert, lookup, h.symm]
  | cons first rest ih =>
    obtain ⟨k, v⟩ := first
    rw [insert]
    split_ifs with before same
    · simp [lookup, h.symm]
    · subst same
      simp [lookup, h.symm]
    · simp [lookup, ih]

/-- Every later key is larger. -/
theorem keysAscend_lt {entries : List (String × α)} (h : keysAscend ((k, v) :: entries) = true) :
    ∀ entry ∈ entries, k < entry.1 := by
  induction entries generalizing k v with
  | nil => simp
  | cons first rest ih =>
    obtain ⟨l, w⟩ := first
    simp only [keysAscend, Bool.and_eq_true, decide_eq_true_eq] at h
    rintro entry (_ | ⟨_, member⟩)
    · exact h.1
    · exact lt_trans h.1 (ih h.2 entry member)

theorem keysAscend_tail {first : String × α} {entries : List (String × α)}
    (h : keysAscend (first :: entries) = true) : keysAscend entries = true := by
  cases entries with
  | nil => rfl
  | cons second rest =>
    obtain ⟨l, w⟩ := second
    simp only [keysAscend, Bool.and_eq_true] at h
    exact h.2

theorem keysAscend_cons {entries : List (String × α)} (h : ∀ entry ∈ entries, k < entry.1)
    (sorted : keysAscend entries = true) : keysAscend ((k, v) :: entries) = true := by
  cases entries with
  | nil => rfl
  | cons second rest =>
    obtain ⟨l, w⟩ := second
    simp [keysAscend, sorted, h (l, w) (by simp)]

theorem keysAscend_filter {entries : List (String × α)} (p : String × α → Bool)
    (h : keysAscend entries = true) : keysAscend (entries.filter p) = true := by
  induction entries with
  | nil => rfl
  | cons first rest ih =>
    obtain ⟨k, v⟩ := first
    rw [List.filter_cons]
    split
    · exact keysAscend_cons (fun entry he => keysAscend_lt h entry (List.mem_filter.mp he).1)
        (ih (keysAscend_tail h))
    · exact ih (keysAscend_tail h)

theorem lookup_remove_same (key : String) (entries : List (String × α)) :
    lookup key (remove key entries) = none := by
  induction entries with
  | nil => rfl
  | cons first rest ih =>
    obtain ⟨k, v⟩ := first
    by_cases same : k = key
    · simpa [remove, same] using ih
    · simpa [remove, same, lookup] using ih

theorem lookup_remove_other {entries : List (String × α)} (h : other ≠ key) :
    lookup other (remove key entries) = lookup other entries := by
  induction entries with
  | nil => rfl
  | cons first rest ih =>
    obtain ⟨k, v⟩ := first
    by_cases same : k = key
    · subst same
      simpa [remove, lookup, h.symm] using ih
    · simp only [remove, ne_eq, same, not_false_eq_true, decide_true, List.filter_cons_of_pos,
        lookup] at ih ⊢
      rw [ih]

theorem lookup_cons_congr {a b : List (String × α)} (h : lookup key a = lookup key b) (entry : String × α) :
    lookup key (entry :: a) = lookup key (entry :: b) := by
  simp only [lookup, h]

theorem lookup_cons_other {a b : List (String × α)} (h : lookup key a = lookup key b)
    (apart : ¬key = name) (value other : α) :
    lookup key ((name, value) :: a) = lookup key ((name, other) :: b) := by
  simp only [lookup, Ne.symm apart, if_false, h]

theorem lookup_mem {entries : List (String × α)} (h : lookup key entries = some value) :
    (key, value) ∈ entries := by
  induction entries with
  | nil => cases h
  | cons first rest ih =>
    obtain ⟨k, v⟩ := first
    by_cases same : k = key
    · simp only [lookup, same, if_true, Option.some.injEq] at h
      simp [same, h]
    · simp only [lookup, same, if_false] at h
      exact List.mem_cons_of_mem _ (ih h)

theorem lookup_none {entries : List (String × α)} (h : ∀ entry ∈ entries, entry.1 ≠ key) :
    lookup key entries = none := by
  induction entries with
  | nil => rfl
  | cons first rest ih =>
    obtain ⟨k, v⟩ := first
    simp only [List.mem_cons, forall_eq_or_imp] at h
    simp [lookup, h.1, ih h.2]

/-- A dict is determined by what its keys hold. -/
theorem entries_ext {a b : List (String × α)} (ha : keysAscend a = true) (hb : keysAscend b = true)
    (same : ∀ key, lookup key a = lookup key b) : a = b := by
  induction a generalizing b with
  | nil =>
    rcases b with _ | ⟨⟨k, v⟩, b⟩
    · rfl
    · simpa [lookup] using same k
  | cons first a ih =>
    obtain ⟨k, v⟩ := first
    rcases b with _ | ⟨⟨l, w⟩, b⟩
    · simpa [lookup] using same k
    · have above := keysAscend_lt ha
      have above' := keysAscend_lt hb
      have keys : k = l := by
        rcases lt_trichotomy k l with less | eq | more
        · have missing : lookup k b = none :=
            lookup_none fun entry he eq => absurd (eq ▸ above' entry he) (not_lt_of_gt less)
          have := same k
          simp [lookup, less.ne', missing] at this
        · exact eq
        · have missing : lookup l a = none :=
            lookup_none fun entry he eq => absurd (eq ▸ above entry he) (not_lt_of_gt more)
          have := same l
          simp [lookup, more.ne', missing] at this
      subst keys
      have values : v = w := by simpa [lookup] using same k
      subst values
      rw [ih (keysAscend_tail ha) (keysAscend_tail hb)]
      intro key
      by_cases eq : k = key
      · subst eq
        rw [lookup_none fun entry he => (above entry he).ne',
          lookup_none fun entry he => (above' entry he).ne']
      · simpa [lookup, eq] using same key

theorem keysAscend_dictOf (pairs : List (String × α)) : keysAscend (dictOf pairs) = true := by
  induction pairs using List.reverseRecOn with
  | nil => rfl
  | append_singleton pairs last ih =>
    rw [dictOf, List.foldl_append]
    exact keysAscend_insert ih

theorem insert_last {entries : List (String × α)} (h : keysAscend (entries ++ [(key, value)])) :
    insert key value entries = entries ++ [(key, value)] := by
  induction entries with
  | nil => rfl
  | cons first rest ih =>
    obtain ⟨k, v⟩ := first
    have below : k < key ∧ keysAscend (rest ++ [(key, value)]) = true := by
      clear ih
      induction rest generalizing k v with
      | nil => simpa [keysAscend] using h
      | cons second rest ih =>
        obtain ⟨l, w⟩ := second
        simp only [List.cons_append, keysAscend, Bool.and_eq_true, decide_eq_true_eq] at h ⊢
        exact ⟨lt_trans h.1 (ih l w h.2).1, h.2⟩
    have apart : key ≠ k := fun same => absurd below.1 (same ▸ lt_irrefl _)
    simp [insert, not_lt_of_gt below.1, apart, ih below.2]

theorem keysAscend_append_left {a b : List (String × α)} (h : keysAscend (a ++ b) = true) :
    keysAscend a = true := by
  induction a with
  | nil => rfl
  | cons first a ih =>
    cases a with
    | nil => rfl
    | cons second a =>
      simp only [List.cons_append, keysAscend, Bool.and_eq_true] at h ⊢
      exact ⟨h.1, ih h.2⟩

/-- Items already in key order are the dict they build. -/
theorem dictOf_sorted {entries : List (String × α)} (h : keysAscend entries = true) :
    dictOf entries = entries := by
  induction entries using List.reverseRecOn with
  | nil => rfl
  | append_singleton entries last ih =>
    rw [dictOf, List.foldl_append] at *
    rw [ih (keysAscend_append_left h)]
    exact insert_last h

/-- A dict with string keys. -/
structure Table (α : Type u) where
  entries : List (String × α)
  ascending : keysAscend entries = true
  deriving DecidableEq

namespace Table

def empty : Table α := ⟨[], rfl⟩

def get (t : Table α) (key : String) : Option α := lookup key t.entries

def set (t : Table α) (key : String) (value : α) : Table α :=
  ⟨insert key value t.entries, keysAscend_insert t.ascending⟩

def keys (t : Table α) : List String := t.entries.map (·.1)

/-- `{key: value for ...}` -/
def ofList (pairs : List (String × α)) : Table α := ⟨dictOf pairs, keysAscend_dictOf pairs⟩

@[simp] theorem get_empty (key : String) : (empty : Table α).get key = none := rfl

@[simp] theorem get_set_same (t : Table α) (key : String) (value : α) :
    (t.set key value).get key = some value := lookup_insert_same _

theorem get_set_other (t : Table α) (apart : other ≠ key) (value : α) :
    (t.set key value).get other = t.get other := lookup_insert_other apart

theorem get_set (t : Table α) (key other : String) (value : α) :
    (t.set key value).get other = if other = key then some value else t.get other := by
  split
  · rename_i same
    rw [same, get_set_same]
  · rename_i apart
    exact get_set_other t apart value

theorem mem_keys (t : Table α) : key ∈ t.keys ↔ ∃ value, t.get key = some value := by
  obtain ⟨entries, ascending⟩ := t
  simp only [keys, get]
  induction entries with
  | nil => simp [lookup]
  | cons first rest ih =>
    obtain ⟨k, v⟩ := first
    by_cases same : k = key
    · simp [lookup, same]
    · simp only [List.map_cons, List.mem_cons, lookup, same, if_false,
        ih (keysAscend_tail ascending), Ne.symm same, false_or]

theorem mem_entries (t : Table α) (h : t.get key = some value) : (key, value) ∈ t.entries :=
  lookup_mem h

theorem get_of_mem (t : Table α) (h : (key, value) ∈ t.entries) : t.get key = some value := by
  obtain ⟨entries, ascending⟩ := t
  simp only [get] at h ⊢
  induction entries with
  | nil => cases h
  | cons first rest ih =>
    obtain ⟨k, v⟩ := first
    rcases List.mem_cons.mp h with same | member
    · cases same
      simp [lookup]
    · have below : k < key := keysAscend_lt ascending _ member
      simp [lookup, below.ne, ih (keysAscend_tail ascending) member]

theorem mem_keys_set (t : Table α) (value : α) :
    other ∈ (t.set key value).keys ↔ other = key ∨ other ∈ t.keys := by
  rw [mem_keys, get_set]
  by_cases same : other = key
  · simp [same]
  · simp [same, mem_keys]

theorem keys_nodup (t : Table α) : t.keys.Nodup := by
  obtain ⟨entries, ascending⟩ := t
  simp only [keys]
  induction entries with
  | nil => simp
  | cons first rest ih =>
    obtain ⟨k, v⟩ := first
    rw [List.map_cons, List.nodup_cons]
    refine ⟨fun member => ?_, ih (keysAscend_tail ascending)⟩
    obtain ⟨entry, he, eq⟩ := List.mem_map.mp member
    exact absurd (keysAscend_lt ascending entry he) (eq ▸ lt_irrefl _)

/-- The last pair of a key decides. -/
theorem get_ofList_append (pairs : List (String × α)) (pair : String × α) (key : String) :
    (ofList (pairs ++ [pair])).get key =
      if key = pair.1 then some pair.2 else (ofList pairs).get key := by
  have step : ofList (pairs ++ [pair]) = (ofList pairs).set pair.1 pair.2 := by
    simp [ofList, set, dictOf]
  rw [step, get_set]

/-- With distinct keys every pair is found under its key. -/
theorem get_ofList {pairs : List (String × α)} (distinct : (pairs.map (·.1)).Nodup) :
    (ofList pairs).get key = some value ↔ (key, value) ∈ pairs := by
  induction pairs using List.reverseRecOn with
  | nil => simp [ofList, dictOf, get, lookup]
  | append_singleton pairs pair ih =>
    obtain ⟨k, v⟩ := pair
    simp only [List.map_append, List.map_cons, List.map_nil, List.nodup_append, List.mem_map,
      List.mem_singleton] at distinct
    rw [get_ofList_append, List.mem_append, List.mem_singleton, Prod.mk.injEq]
    split
    · rename_i same
      subst same
      have fresh : (key, value) ∉ pairs := fun member =>
        distinct.2.2 key ⟨_, member, rfl⟩ key rfl rfl
      simp [fresh, eq_comm]
    · rename_i apart
      simp [apart, ih distinct.1]

theorem ext {a b : Table α} (same : ∀ key, a.get key = b.get key) : a = b := by
  obtain ⟨entries, ascending⟩ := a
  obtain ⟨others, ascending'⟩ := b
  have eq : entries = others := entries_ext ascending ascending' same
  subst eq
  rfl

/-- With distinct keys the order of the pairs does not matter. -/
theorem ofList_perm {pairs others : List (String × α)} (distinct : (pairs.map (·.1)).Nodup)
    (perm : pairs.Perm others) : ofList pairs = ofList others := by
  have distinct' : (others.map (·.1)).Nodup := (perm.map _).nodup_iff.mp distinct
  apply ext
  intro key
  apply Option.ext
  intro value
  rw [get_ofList distinct, get_ofList distinct', perm.mem_iff]

end Table

end Python
