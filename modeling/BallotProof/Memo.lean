import Mathlib.Data.List.Nodup
import Mathlib.Tactic

/-! Memoised evaluation of nodes that depend on at most one other node each: a cache, and
a stack that stops a cycle. Evaluation returns the value that the dependencies define. -/
namespace Memo

variable {κ : Type u} {β : Type v} {ε : Type w}

/-- The next node, if any, and the value of a node from the value of the next. -/
abbrev Node (κ : Type u) (β : Type v) := Option κ × (Option β → β)

/-- Evaluation from a cache, below the nodes of a stack. -/
def evaluate [DecidableEq κ] (node : κ → Except ε (Node κ β)) (cyclic deep : ε) :
    Nat → (κ → Option β) → List κ → κ → Except ε (β × (κ → Option β))
  | 0, _, _, _ => .error deep
  | fuel + 1, cache, stack, k =>
    match cache k with
    | some value => .ok (value, cache)
    | none =>
      if k ∈ stack then .error cyclic
      else
        match node k with
        | .error e => .error e
        | .ok (none, build) => .ok (build none, Function.update cache k (some (build none)))
        | .ok (some next, build) =>
          match evaluate node cyclic deep fuel cache (k :: stack) next with
          | .error e => .error e
          | .ok (value, cache) =>
            .ok (build (some value), Function.update cache k (some (build (some value))))

/-- The value of a node, with the number of nodes below it. -/
inductive Value (node : κ → Except ε (Node κ β)) : Nat → κ → β → Prop where
  | last : node k = .ok (none, build) → Value node 0 k (build none)
  | step : node k = .ok (some next, build) → Value node n next value →
      Value node (n + 1) k (build (some value))

variable {node : κ → Except ε (Node κ β)} {cyclic deep : ε}

theorem Value.unique (first : Value node n k value) (second : Value node m k other) :
    n = m ∧ value = other := by
  induction first generalizing m other with
  | last found =>
    cases second with
    | last again => rw [found] at again; cases again; exact ⟨rfl, rfl⟩
    | step again => rw [found] at again; cases again
  | step found _ ih =>
    cases second with
    | last again => rw [found] at again; cases again
    | step again below =>
      rw [found] at again
      cases again
      obtain ⟨rfl, rfl⟩ := ih below
      exact ⟨rfl, rfl⟩

/-- The nodes below a value are as many as its depth says, and all are known. -/
theorem Value.depth_lt (found : Value node n k value) {known : List κ}
    (complete : ∀ k r, node k = .ok r → k ∈ known) : n < known.length := by
  have path : ∃ path : List κ, path.Nodup ∧ path.length = n + 1 ∧ path ⊆ known ∧
      ∀ x ∈ path, ∃ m w, m ≤ n ∧ Value node m x w := by
    induction found with
    | last here =>
      refine ⟨[_], List.nodup_singleton _, rfl, by simpa using complete _ _ here, ?_⟩
      intro x member
      rw [List.mem_singleton.mp member]
      exact ⟨0, _, le_rfl, .last here⟩
    | step here below ih =>
      obtain ⟨path, distinct, length, within, lower⟩ := ih
      refine ⟨_ :: path, List.nodup_cons.mpr ⟨fun member => ?_, distinct⟩, by simp [length],
        List.cons_subset.mpr ⟨complete _ _ here, within⟩, fun x member => ?_⟩
      · obtain ⟨m, w, less, again⟩ := lower _ member
        have := (again.unique (.step here below)).1
        omega
      · rcases List.mem_cons.mp member with rfl | member
        · exact ⟨_, _, le_rfl, .step here below⟩
        · obtain ⟨m, w, less, again⟩ := lower x member
          exact ⟨m, w, by omega, again⟩
  obtain ⟨path, distinct, length, within, -⟩ := path
  have := (List.subperm_of_subset distinct within).length_le
  omega

/-- Two families of nodes that match along a renaming have the same values. -/
theorem Value.transfer {node' : κ → Except ε (Node κ β)} {original : κ → κ} {known : κ → Prop}
    (matching : ∀ k, known k → ∀ r, node (original k) = .ok r → ∃ next,
      node' k = .ok (next, r.2) ∧ next.map original = r.1 ∧ ∀ x ∈ next, known x)
    (found : Value node n (original k) value) (here : known k) : Value node' n k value := by
  generalize renamed : original k = j at found
  induction found generalizing k with
  | last stops =>
    subst renamed
    obtain ⟨next, again, same, -⟩ := matching k here _ stops
    rw [Option.map_eq_none_iff] at same
    subst same
    exact .last again
  | step goes below ih =>
    subst renamed
    obtain ⟨next, again, same, inside⟩ := matching k here _ goes
    obtain ⟨x, rfl, eq⟩ := Option.map_eq_some_iff.mp same
    exact .step again (ih (inside x rfl) eq)

/-- Every cached value is the value of its node. -/
def CacheValid (node : κ → Except ε (Node κ β)) (cache : κ → Option β) : Prop :=
  ∀ k value, cache k = some value → ∃ n, Value node n k value

theorem CacheValid.empty : CacheValid node fun _ => none := fun _ _ hit => by cases hit

section
variable [DecidableEq κ]

theorem CacheValid.update (valid : CacheValid node cache) (found : Value node n k value) :
    CacheValid node (Function.update cache k (some value)) := by
  intro other cached hit
  by_cases same : other = k
  · subst same
    rw [Function.update_self, Option.some.injEq] at hit
    exact ⟨n, hit ▸ found⟩
  · rw [Function.update_of_ne same] at hit
    exact valid other cached hit

theorem evaluate_sound (valid : CacheValid node cache)
    (h : evaluate node cyclic deep fuel cache stack k = .ok (value, cache')) :
    (∃ n, Value node n k value) ∧ CacheValid node cache' := by
  induction fuel generalizing cache stack k value cache' with
  | zero => cases h
  | succ fuel ih =>
    simp only [evaluate] at h
    split at h
    · rename_i hit
      cases h
      exact ⟨valid k _ hit, valid⟩
    · split at h
      · cases h
      · split at h
        · cases h
        · rename_i build found
          cases h
          exact ⟨⟨0, .last found⟩, valid.update (.last found)⟩
        · rename_i next build found
          split at h
          · cases h
          · rename_i below cache below_ok
            cases h
            obtain ⟨⟨n, under⟩, valid⟩ := ih valid below_ok
            exact ⟨⟨n + 1, .step found under⟩, valid.update (.step found under)⟩

/-- A node with a value is evaluated, below a stack of nodes that lie higher. -/
theorem evaluate_complete (valid : CacheValid node cache) (found : Value node n k value)
    (higher : ∀ s ∈ stack, ∃ m w, n < m ∧ Value node m s w) (enough : n < fuel) :
    ∃ cache', evaluate node cyclic deep fuel cache stack k = .ok (value, cache') := by
  induction found generalizing fuel cache stack with
  | last here =>
    obtain ⟨fuel, rfl⟩ := Nat.exists_eq_succ_of_ne_zero (by omega : fuel ≠ 0)
    rename_i k build
    have outside : k ∉ stack := fun member => by
      obtain ⟨m, w, less, above⟩ := higher k member
      have := (above.unique (.last here)).1
      omega
    simp only [evaluate]
    cases hit : cache k with
    | some cached =>
      obtain ⟨m, known⟩ := valid k cached hit
      obtain ⟨-, rfl⟩ := known.unique (.last here)
      exact ⟨cache, rfl⟩
    | none => simp only [if_neg outside, here, Except.ok.injEq, Prod.mk.injEq, true_and, exists_eq']
  | step here below ih =>
    obtain ⟨fuel, rfl⟩ := Nat.exists_eq_succ_of_ne_zero (by omega : fuel ≠ 0)
    rename_i k next build n value
    have outside : k ∉ stack := fun member => by
      obtain ⟨m, w, less, above⟩ := higher k member
      have := (above.unique (.step here below)).1
      omega
    simp only [evaluate]
    cases hit : cache k with
    | some cached =>
      obtain ⟨m, known⟩ := valid k cached hit
      obtain ⟨-, rfl⟩ := known.unique (.step here below)
      exact ⟨cache, rfl⟩
    | none =>
      obtain ⟨cache', under⟩ := @ih cache (k :: stack) fuel valid (fun s member => by
        rcases List.mem_cons.mp member with rfl | member
        · exact ⟨n + 1, _, by omega, .step here below⟩
        · obtain ⟨m, w, less, above⟩ := higher s member
          exact ⟨m, w, by omega, above⟩) (by omega)
      simp only [if_neg outside, here, under, Except.ok.injEq, Prod.mk.injEq, true_and, exists_eq']

end

end Memo
