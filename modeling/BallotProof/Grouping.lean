import Mathlib.Data.Finset.Sort
import Mathlib.Data.List.Sort

/-! Items grouped by a key: the keys in the order of their first items, the items of a key in theirs. -/
namespace Grouping

section
variable {α : Type u} {κ : Type v} [DecidableEq κ] (key : α → κ)

/-- `groups.setdefault(key(x), []).append(x)` -/
def add (groups : List (κ × List α)) (x : α) : List (κ × List α) :=
  match groups with
  | [] => [(key x, [x])]
  | (k, group) :: rest => if k = key x then (k, group ++ [x]) :: rest else (k, group) :: add rest x

def collect (items : List α) : List (κ × List α) := items.foldl (add key) []

/-- The items of a key. -/
def ofKey (items : List α) (k : κ) : List α := items.filter fun x => key x = k

variable {key}

theorem add_fresh {keys : List κ} {members : κ → List α} (fresh : key x ∉ keys) :
    add key (keys.map fun k => (k, members k)) x = (keys.map fun k => (k, members k)) ++ [(key x, [x])] := by
  induction keys with
  | nil => rfl
  | cons k rest ih =>
    obtain ⟨other, fresh⟩ := not_or.mp (mt List.mem_cons.mpr fresh)
    rw [List.map_cons, add, if_neg (Ne.symm other), ih fresh]
    rfl

theorem add_known {keys : List κ} {members : κ → List α} (distinct : keys.Nodup) (known : key x ∈ keys) :
    add key (keys.map fun k => (k, members k)) x =
      keys.map fun k => (k, if k = key x then members k ++ [x] else members k) := by
  induction keys with
  | nil => cases known
  | cons k rest ih =>
    obtain ⟨first, distinct⟩ := List.nodup_cons.mp distinct
    rw [List.map_cons, add, List.map_cons]
    by_cases here : k = key x
    · subst here
      rw [if_pos rfl, if_pos rfl]
      congr 1
      apply List.map_congr_left
      intro k member
      have other : k ≠ key x := by
        rintro rfl
        exact first member
      rw [if_neg other]
    · rw [if_neg here, if_neg here, ih distinct ((List.mem_cons.mp known).resolve_left (Ne.symm here))]

theorem ofKey_snoc (items : List α) (x : α) (k : κ) :
    ofKey key (items ++ [x]) k = if k = key x then ofKey key items k ++ [x] else ofKey key items k := by
  rw [ofKey, List.filter_append]
  by_cases here : k = key x
  · rw [if_pos here, List.filter_singleton, decide_eq_true here.symm]
    rfl
  · rw [if_neg here, List.filter_singleton, decide_eq_false (Ne.symm here)]
    exact List.append_nil _

/-- Every key stands once, with all of its items. -/
theorem collect_eq (items : List α) : ∃ keys : List κ, keys.Nodup ∧ (∀ k, k ∈ keys ↔ k ∈ items.map key) ∧
    collect key items = keys.map fun k => (k, ofKey key items k) := by
  induction items using List.reverseRecOn with
  | nil => exact ⟨[], List.nodup_nil, by simp, rfl⟩
  | append_singleton items x ih =>
    obtain ⟨keys, distinct, listed, collected⟩ := ih
    have step : collect key (items ++ [x]) = add key (collect key items) x := by
      rw [collect, List.foldl_append]
      rfl
    have extended : (fun k => (k, ofKey key (items ++ [x]) k)) =
        fun k => (k, if k = key x then ofKey key items k ++ [x] else ofKey key items k) := by
      funext k
      rw [ofKey_snoc]
    by_cases known : key x ∈ keys
    · refine ⟨keys, distinct, ?_, by rw [step, collected, add_known distinct known, extended]⟩
      intro k
      rw [listed, List.map_append, List.mem_append, List.map_singleton, List.mem_singleton]
      exact ⟨Or.inl, fun member => member.elim id fun same => same ▸ (listed _).mp known⟩
    · refine ⟨keys ++ [key x], List.nodup_append.mpr ⟨distinct, List.nodup_singleton _, ?_⟩, ?_, ?_⟩
      · rintro k member _ last rfl
        exact known (List.mem_singleton.mp last ▸ member)
      · intro k
        rw [List.mem_append, listed, List.map_append, List.mem_append, List.map_singleton]
      · have none : ofKey key items (key x) = [] := by
          rw [ofKey, List.filter_eq_nil_iff]
          intro y member same
          exact known ((listed _).mpr (of_decide_eq_true same ▸ List.mem_map_of_mem member))
        rw [step, collected, add_fresh known, extended, List.map_append, List.map_singleton, if_pos rfl, none]
        congr 1
        apply List.map_congr_left
        intro k member
        have other : k ≠ key x := by
          rintro rfl
          exact known member
        rw [if_neg other]

end

section
variable {α : Type u} {κ : Type v} [LinearOrder κ] {key : α → κ}

theorem eq_of_ascending {a b : List κ} (left : a.Pairwise (· ≤ ·)) (right : b.Pairwise (· ≤ ·)) (perm : a.Perm b) :
    a = b :=
  @List.Perm.eq_of_pairwise _ (· ≤ ·) _ _ (fun _ _ _ _ => le_antisymm) left right perm

theorem insertionSort_perm {a b : List κ} (perm : a.Perm b) : a.insertionSort (· ≤ ·) = b.insertionSort (· ≤ ·) := by
  apply eq_of_ascending (List.pairwise_insertionSort _ a) (List.pairwise_insertionSort _ b)
  exact (List.perm_insertionSort _ a).trans (perm.trans (List.perm_insertionSort _ b).symm)

/-- Groups in the order of their keys depend on the order of the items only inside a group. -/
theorem sorted_collect (items : List α) : (collect key items).insertionSort (fun a b => a.1 ≤ b.1) =
    ((items.map key).toFinset.sort (· ≤ ·)).map fun k => (k, ofKey key items k) := by
  obtain ⟨keys, distinct, listed, collected⟩ := @collect_eq _ _ _ key items
  have sorted : keys.insertionSort (· ≤ ·) = (items.map key).toFinset.sort (· ≤ ·) := by
    apply eq_of_ascending (List.pairwise_insertionSort _ keys) (Finset.pairwise_sort _ _)
    apply (List.perm_insertionSort _ keys).trans
    apply (List.perm_ext_iff_of_nodup distinct (Finset.sort_nodup _ _)).mpr
    intro k
    rw [listed, Finset.mem_sort, List.mem_toFinset]
  have mapped : (keys.insertionSort (· ≤ ·)).map (fun k => (k, ofKey key items k)) =
      (keys.map fun k => (k, ofKey key items k)).insertionSort fun a b => a.1 ≤ b.1 :=
    List.map_insertionSort _ _ _ _ fun _ _ _ _ => Iff.rfl
  rw [collected, ← sorted, mapped]

end

end Grouping
