import Mathlib.Data.List.Perm.Subperm
import Mathlib.Data.List.Nodup

/-! Quorums of replicas that store each key once. -/
namespace Quorum

universe u v w

/-- Two quorums that are together larger than the whole share a replica. -/
theorem shared {all left right : List ρ} (leftDistinct : left.Nodup) (rightDistinct : right.Nodup)
    (leftWithin : left ⊆ all) (rightWithin : right ⊆ all)
    (large : all.length < left.length + right.length) : ∃ r ∈ left, r ∈ right := by
  by_contra apart
  push Not at apart
  have distinct : (left ++ right).Nodup :=
    List.nodup_append.mpr ⟨leftDistinct, rightDistinct,
      fun r inLeft other inRight same => apart r inLeft (same ▸ inRight)⟩
  have within : left ++ right ⊆ all := List.append_subset.mpr ⟨leftWithin, rightWithin⟩
  have bound := (List.subperm_of_subset distinct within).length_le
  rw [List.length_append] at bound
  omega

/-- What is stored stays stored. -/
def Grows {κ : Type u} {V : Type v} (before after : κ → Option V) : Prop :=
  ∀ k v, before k = some v → after k = some v

theorem Grows.refl (stored : κ → Option V) : Grows stored stored := fun _ _ h => h

theorem Grows.trans {a b c : κ → Option V} (first : Grows a b) (second : Grows b c) : Grows a c :=
  fun k v h => second k v (first k v h)

end Quorum
