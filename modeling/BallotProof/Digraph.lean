import Mathlib.Logic.Relation
import Mathlib.Order.WellFounded
import Mathlib.Data.List.Nodup

/-! Directed graphs given by the children of each node: what stands below a node, cycles,
and nodes that every way down from leaves after finitely many steps. -/
namespace Digraph

variable {κ : Type u} {children : κ → List κ} {node parent child a b c : κ}

/-- One step down. -/
def Child (children : κ → List κ) (parent child : κ) : Prop := child ∈ children parent

/-- Some steps down, at least one. -/
def Below (children : κ → List κ) : κ → κ → Prop := Relation.TransGen (Child children)

def Acyclic (children : κ → List κ) : Prop := ∀ node, ¬Below children node node

/-- Every way down from the node ends. -/
def Grounded (children : κ → List κ) (node : κ) : Prop :=
  Acc (fun child parent => child ∈ children parent) node

theorem below_of_child (step : child ∈ children parent) : Below children parent child :=
  Relation.TransGen.single step

theorem Below.trans (upper : Below children a b) (lower : Below children b c) : Below children a c :=
  Relation.TransGen.trans upper lower

theorem grounded_of_children (below : ∀ child ∈ children node, Grounded children child) :
    Grounded children node := .intro _ below

theorem Grounded.below (grounded : Grounded children node) :
    ∀ child ∈ children node, Grounded children child := fun _ step => grounded.inv step

/-- A grounded node does not stand below itself. -/
theorem Grounded.not_below (grounded : Grounded children node) : ¬Below children node node := by
  induction grounded with
  | intro node _ ih =>
    intro cycle
    obtain ⟨child, step, back⟩ := Relation.TransGen.head'_iff.mp cycle
    exact ih child step (Relation.TransGen.tail' back step)

/-- Among grounded nodes one has no child among them. -/
theorem exists_lowest {pending : List κ} (grounded : ∀ node ∈ pending, Grounded children node)
    (nonempty : pending ≠ []) :
    ∃ node ∈ pending, ∀ child ∈ children node, child ∉ pending := by
  have descend (node : κ) (ground : Grounded children node) (member : node ∈ pending) :
      ∃ lowest ∈ pending, ∀ child ∈ children lowest, child ∉ pending := by
    induction ground with
    | intro node _ ih =>
      by_cases low : ∀ child ∈ children node, child ∉ pending
      · exact ⟨node, member, low⟩
      · push Not at low
        obtain ⟨child, step, inside⟩ := low
        exact ih child step inside
  obtain ⟨node, member⟩ := List.exists_mem_of_ne_nil pending nonempty
  exact descend node (grounded node member) member

end Digraph
