import Mathlib.Data.List.Basic
import Mathlib.Data.Nat.Bitwise
import Mathlib.Tactic.Cases

/-! Binary hash trees whose odd levels repeat their last node. The node function is
arbitrary; where a result needs it to be injective, it asks so only of the pairs that
the tree and the path actually combine. -/
namespace MerkleTree

variable {α : Type u} (node : α → α → α)

/-- A level with its last node repeated when the count is odd. -/
def pad (level : List α) : List α :=
  if level.length % 2 = 1 then level ++ level.getLast?.toList else level

/-- Neighbours two by two. -/
def pairs : List α → List (α × α)
  | a :: b :: rest => (a, b) :: pairs rest
  | _ => []

def levelUp (level : List α) : List α := (pairs (pad level)).map fun p => node p.1 p.2

/-- Level after level while there is more than one node. -/
def climb : Nat → List α → List α
  | 0, level => level
  | fuel + 1, level => if level.length ≤ 1 then level else climb fuel (levelUp node level)

/-- The pairs hashed by `climb`. -/
def combined : Nat → List α → List (α × α)
  | 0, _ => []
  | fuel + 1, level =>
    if level.length ≤ 1 then [] else pairs (pad level) ++ combined fuel (levelUp node level)

def root (level : List α) : Option α := (climb node level.length level).head?

inductive Side where
  | left | right
  deriving DecidableEq, Repr

/-- A sibling and the side it stands on. -/
structure Step (α : Type u) where
  side : Side
  sibling : α

def Step.pair (step : Step α) (current : α) : α × α :=
  match step.side with
  | .left => (step.sibling, current)
  | .right => (current, step.sibling)

def Step.apply (step : Step α) (current : α) : α :=
  node (step.pair current).1 (step.pair current).2

/-- The digest a path ends in. -/
def walk (current : α) (steps : List (Step α)) : α :=
  steps.foldl (fun current step => step.apply node current) current

/-- The pairs hashed along a path. -/
def walked : α → List (Step α) → List (α × α)
  | _, [] => []
  | current, step :: steps => step.pair current :: walked (step.apply node current) steps

/-- The node function tells apart the pairs of a list. -/
def Separates (occurring : List (α × α)) : Prop :=
  ∀ p ∈ occurring, ∀ q ∈ occurring, node p.1 p.2 = node q.1 q.2 → p = q

theorem mem_pad {level : List α} (h : x ∈ pad level) : x ∈ level := by
  unfold pad at h
  split at h
  · rcases List.mem_append.mp h with h | h
    · exact h
    · exact List.mem_of_getLast? (by simpa using h)
  · exact h

theorem mem_pairs {level : List α} (h : p ∈ pairs level) : p.1 ∈ level ∧ p.2 ∈ level := by
  induction level using pairs.induct with
  | case1 a b rest ih =>
    rcases List.mem_cons.mp h with rfl | h
    · simp
    · exact ⟨by simp [(ih h).1], by simp [(ih h).2]⟩
  | case2 level short =>
    rcases level with _ | ⟨a, _ | ⟨b, rest⟩⟩
    · cases h
    · cases h
    · exact absurd rfl (short a b rest)

theorem length_pairs (level : List α) : (pairs level).length = level.length / 2 := by
  induction level using pairs.induct with
  | case1 a b rest ih => simp [pairs, ih]; omega
  | case2 level short =>
    rcases level with _ | ⟨a, _ | ⟨b, rest⟩⟩
    · simp [pairs]
    · simp [pairs]
    · exact absurd rfl (short a b rest)

theorem length_levelUp (level : List α) :
    (levelUp node level).length = (level.length + 1) / 2 := by
  rw [levelUp, List.length_map, length_pairs, pad]
  split
  · cases level with
    | nil => simp at *
    | cons a rest => simp [List.getLast?_cons]
  · omega

/-- Enough rounds leave a single node, the root. -/
theorem length_climb : ∀ fuel (level : List α), level ≠ [] → level.length ≤ fuel →
    (climb node fuel level).length = 1
  | 0, level, nonempty, enough => by simp_all
  | fuel + 1, level, nonempty, enough => by
    have pos : 0 < level.length := List.length_pos_iff.mpr nonempty
    rw [climb]
    split
    · omega
    · have up := length_levelUp node level
      exact length_climb fuel _ (by rw [← List.length_pos_iff]; omega) (by omega)

theorem walk_concat (start : α) (front : List (Step α)) (step : Step α) :
    walk node start (front ++ [step]) = step.apply node (walk node start front) := by
  simp [walk]

theorem mem_walked : ∀ (front : List (Step α)) (step : Step α) (rest : List (Step α)) (start : α),
    step.pair (walk node start front) ∈ walked node start (front ++ [step] ++ rest)
  | [], step, rest, start => by simp [walk, walked]
  | first :: front, step, rest, start => by
    simp only [List.cons_append, walked]
    exact List.mem_cons_of_mem _ (mem_walked front step rest (first.apply node start))

/-- A path that reaches the top of the tree passes through its lowest level, unless it
starts at an inner node. Peeling the path from its end, each digest of the tree gives up
its two children. -/
theorem walk_meets_level (start : α) (steps : List (Step α)) : ∀ fuel (level : List α),
    Separates node (combined node fuel level ++ walked node start steps) →
    walk node start steps ∈ climb node fuel level →
    (∃ front rest, steps = front ++ rest ∧ walk node start front ∈ level) ∨
      ∃ p ∈ combined node fuel level, start = node p.1 p.2
  | 0, level, _, reached => Or.inl ⟨steps, [], by simp, reached⟩
  | fuel + 1, level, separates, reached => by
    rw [climb] at reached
    rw [combined] at separates ⊢
    split at reached
    · exact Or.inl ⟨steps, [], by simp, reached⟩
    · rename_i long
      rw [if_neg long] at separates ⊢
      have above := walk_meets_level start steps fuel (levelUp node level)
        (fun p hp q hq => separates p
          (by rw [List.append_assoc]; exact List.mem_append_right _ hp) q
          (by rw [List.append_assoc]; exact List.mem_append_right _ hq)) reached
      rcases above with ⟨front, rest, split, member⟩ | ⟨p, hp, eq⟩
      · obtain ⟨p, hp, eq⟩ := List.mem_map.mp member
        have inTree : p ∈ pairs (pad level) ++ combined node fuel (levelUp node level) :=
          List.mem_append_left _ hp
        rcases List.eq_nil_or_concat front with rfl | ⟨front', step, rfl⟩
        · exact Or.inr ⟨p, inTree, eq.symm⟩
        · rw [List.concat_eq_append] at split eq
          refine Or.inl ⟨front', step :: rest, by simp [split], ?_⟩
          have hashed := split ▸ mem_walked node front' step rest start
          rw [walk_concat] at eq
          have same := separates p (List.mem_append_left _ inTree) _
            (List.mem_append_right _ hashed) eq
          have children := mem_pairs hp
          rw [same] at children
          have : walk node start front' ∈ pad level := by
            cases side : step.side
            · simpa [Step.pair, side] using children.2
            · simpa [Step.pair, side] using children.1
          exact mem_pad this
      · exact Or.inr ⟨p, List.mem_append_right _ hp, eq⟩

/-- Soundness of a path against a tree: where no digest of the lowest level, and not the
start of the path, is an inner node, reaching the root proves membership. -/
theorem walk_sound {start : α} {steps : List (Step α)} {fuel : Nat} {level : List α}
    (separates : Separates node (combined node fuel level ++ walked node start steps))
    (leaf : ∀ x ∈ start :: level, ∀ p ∈ combined node fuel level ++ walked node start steps,
      x ≠ node p.1 p.2)
    (reached : walk node start steps ∈ climb node fuel level) : start ∈ level := by
  rcases walk_meets_level node start steps fuel level separates reached with
    ⟨front, rest, split, member⟩ | ⟨p, hp, eq⟩
  · rcases List.eq_nil_or_concat front with rfl | ⟨front', step, rfl⟩
    · exact member
    · rw [List.concat_eq_append] at split member
      have hashed := split ▸ mem_walked node front' step rest start
      have last := walk_concat node start front' step
      exact absurd last (leaf _ (List.mem_cons_of_mem _ member) _ (List.mem_append_right _ hashed))
  · exact absurd eq (leaf _ (List.mem_cons_self ..) p (List.mem_append_left _ hp))

/-- The siblings on the way up from an index, unless one is missing. -/
def path : Nat → List α → Nat → Option (List (Step α))
  | 0, _, _ => some []
  | fuel + 1, level, index =>
    if level.length ≤ 1 then some []
    else do
      let sibling ← (pad level)[index ^^^ 1]?
      let steps ← path fuel (levelUp node level) (index / 2)
      return ⟨if index ^^^ 1 < index then .left else .right, sibling⟩ :: steps

theorem length_pad_even (level : List α) : (pad level).length % 2 = 0 := by
  unfold pad
  split
  · rename_i odd
    cases level with
    | nil => simp at odd
    | cons a rest => simp [List.getLast?_cons] at odd ⊢; omega
  · omega

theorem getElem?_pad {level : List α} {index : Nat} (h : level[index]? = some x) : (pad level)[index]? = some x := by
  unfold pad
  split
  · rw [List.getElem?_append_left (List.getElem?_eq_some_iff.mp h).1, h]
  · exact h

theorem getElem?_pairs (level : List α) (i : Nat) :
    (pairs level)[i]? = do return (← level[2 * i]?, ← level[2 * i + 1]?) := by
  induction level using pairs.induct generalizing i with
  | case1 a b rest ih =>
    cases i with
    | zero => rfl
    | succ i => simp only [pairs, List.getElem?_cons_succ, ih, Nat.mul_succ]
  | case2 level short =>
    rcases level with _ | ⟨a, _ | ⟨b, rest⟩⟩
    · rfl
    · cases i <;> simp [pairs, Nat.mul_succ]
    · exact absurd rfl (short a b rest)

/-- The parent of a node is the node of its pair with the sibling. -/
theorem getElem?_levelUp {level : List α} {index : Nat} (h : level[index]? = some x) :
    ∃ sibling, (pad level)[index ^^^ 1]? = some sibling ∧
      (levelUp node level)[index / 2]? =
        some (Step.apply node ⟨if index ^^^ 1 < index then .left else .right, sibling⟩ x) := by
  have here := getElem?_pad h
  have even := length_pad_even level
  have bound := (List.getElem?_eq_some_iff.mp here).1
  rcases Nat.even_or_odd index with parity | parity
  · have next : index ^^^ 1 = index + 1 := Nat.xor_one_of_even parity
    obtain ⟨k, rfl⟩ := parity
    have inside : k + k + 1 < (pad level).length := by omega
    refine ⟨(pad level)[k + k + 1], by rw [next, List.getElem?_eq_getElem inside], ?_⟩
    have double : 2 * ((k + k) / 2) = k + k := by omega
    have right : ¬k + k + 1 < k + k := by omega
    simp [right, levelUp, getElem?_pairs, double, here, inside, next, Step.apply, Step.pair]
  · have next : index ^^^ 1 = index - 1 := Nat.xor_one_of_odd parity
    obtain ⟨k, rfl⟩ := parity
    have inside : 2 * k < (pad level).length := by omega
    refine ⟨(pad level)[2 * k], by rw [next]; simp [inside], ?_⟩
    have double : 2 * ((2 * k + 1) / 2) = 2 * k := by omega
    simp [levelUp, getElem?_pairs, double, here, inside, next, Step.apply, Step.pair]

/-- The path from any node of a level leads to the root. -/
theorem walk_path : ∀ (fuel : Nat) (level : List α) (index : Nat) (x : α), level[index]? = some x →
    level.length ≤ fuel → ∃ steps, path node fuel level index = some steps ∧
      climb node fuel level = [walk node x steps]
  | 0, level, index, x, h, enough => by
    have := (List.getElem?_eq_some_iff.mp h).1
    omega
  | fuel + 1, level, index, x, h, enough => by
    have bound := (List.getElem?_eq_some_iff.mp h).1
    by_cases single : level.length ≤ 1
    · obtain ⟨y, rfl⟩ := List.length_eq_one_iff.mp (by omega : level.length = 1)
      have zero : index = 0 := by simpa using bound
      subst zero
      cases h
      exact ⟨[], by simp [path], by simp [climb, walk]⟩
    · have up := length_levelUp node level
      obtain ⟨sibling, found, parent⟩ := getElem?_levelUp node h
      obtain ⟨steps, rest, top⟩ := walk_path fuel (levelUp node level) (index / 2) _ parent (by omega)
      refine ⟨_ :: steps, by simp only [path, if_neg single, found, rest]; rfl, ?_⟩
      rw [climb, if_neg single, top]
      rfl

/-- Lists of pairs with the same nodes are equal where the node function separates them. -/
theorem map_node_injective {a b : List (α × α)} (separates : Separates node (a ++ b))
    (same : (a.map fun p => node p.1 p.2) = b.map fun p => node p.1 p.2) : a = b := by
  induction a generalizing b with
  | nil => exact (List.map_eq_nil_iff.mp same.symm).symm
  | cons p rest ih =>
    cases b with
    | nil => cases same
    | cons q rest' =>
      obtain ⟨first, others⟩ := List.cons.inj same
      have tails : Separates node (rest ++ rest') := fun x hx y hy =>
        separates x (by grind) y (by grind)
      rw [separates p (by simp) q (by simp) first, ih tails others]

theorem pairs_injective {a b : List α} (even : a.length % 2 = 0) (length : a.length = b.length)
    (same : pairs a = pairs b) : a = b := by
  induction a using pairs.induct generalizing b with
  | case1 x y rest ih =>
    rcases b with _ | ⟨x', _ | ⟨y', rest'⟩⟩
    · simp at length
    · simp at length
    · simp only [pairs, List.cons.injEq, Prod.mk.injEq] at same
      simp only [List.length_cons] at even length
      obtain ⟨⟨rfl, rfl⟩, tail⟩ := same
      rw [ih (by omega) (by omega) tail]
  | case2 level short =>
    rcases level with _ | ⟨x, _ | ⟨y, rest⟩⟩
    · exact (List.length_eq_zero_iff.mp length.symm).symm
    · simp at even
    · exact absurd rfl (short x y rest)

/-- The repeated last node hides nothing once the length is known. -/
theorem pad_injective {a b : List α} (length : a.length = b.length) (same : pad a = pad b) : a = b := by
  unfold pad at same
  rw [length] at same
  split at same
  · exact (List.append_inj same length).1
  · exact same

/-- Two levels of the same length under one root are equal, level by level from the top. -/
theorem climb_injective : ∀ (fuel : Nat) (a b : List α), a.length = b.length →
    Separates node (combined node fuel a ++ combined node fuel b) →
    climb node fuel a = climb node fuel b → a = b
  | 0, _, _, _, _, same => same
  | fuel + 1, a, b, length, separates, same => by
    simp only [climb, combined, length] at same separates
    split at same
    · exact same
    · rename_i many
      rw [if_neg many, if_neg many] at separates
      have below : Separates node (combined node fuel (levelUp node a) ++
          combined node fuel (levelUp node b)) := fun p hp q hq => separates p
        ((List.mem_append.mp hp).elim (by simp +contextual) (by simp +contextual)) q
        ((List.mem_append.mp hq).elim (by simp +contextual) (by simp +contextual))
      have up := climb_injective fuel _ _ (by simp only [length_levelUp, length]) below same
      have top : Separates node (pairs (pad a) ++ pairs (pad b)) := fun p hp q hq =>
        separates p (by grind) q (by grind)
      have padLength : (pad a).length = (pad b).length := by
        unfold pad
        rw [length]
        split
        · rename_i odd
          have filled {l : List α} (odd : l.length % 2 = 1) : l.getLast?.toList.length = 1 := by
            cases l with
            | nil => simp at odd
            | cons x rest => simp [List.getLast?_cons]
          rw [List.length_append, List.length_append, filled odd, filled (length ▸ odd), length]
        · exact length
      have pairsEq := map_node_injective node top up
      exact pad_injective length (pairs_injective (length_pad_even a) padLength pairsEq)

/-- Trees of one size under one root have the same leaves. -/
theorem root_injective {a b : List α} (length : a.length = b.length)
    (separates : Separates node (combined node a.length a ++ combined node b.length b))
    (left : root node a = some top) (right : root node b = some top) : a = b := by
  have reaches {leaves : List α} (found : root node leaves = some top) :
      climb node leaves.length leaves = [top] := by
    have filled : leaves ≠ [] := by
      rintro rfl
      cases found
    obtain ⟨d, only⟩ := List.length_eq_one_iff.mp (length_climb node _ leaves filled le_rfl)
    rw [root, only] at found
    rw [only, Option.some.inj found]
  apply climb_injective node a.length a b length
  · rw [← length] at separates
    exact separates
  · rw [reaches left, length, reaches right]

end MerkleTree
