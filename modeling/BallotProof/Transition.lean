import Mathlib.Logic.Function.Basic
import Mathlib.Data.List.Basic

/-! Transition systems with a partial step function: an action that carries every choice
of the environment, and the states that a list of actions leads to. -/
namespace Transition

variable {σ : Type u} {α : Type v} (step : σ → α → Option σ)

/-- The state after the actions, when each was enabled in its turn. -/
def run : σ → List α → Option σ
  | s, [] => some s
  | s, a :: rest => (step s a).bind fun t => run t rest

/-- Every step of the run meets a condition on the state before it. -/
def Meets (good : σ → α → Prop) : σ → List α → Prop
  | _, [] => True
  | s, a :: rest => good s a ∧ ∀ t ∈ step s a, Meets good t rest

instance decidableMeets {good : σ → α → Prop} [∀ s a, Decidable (good s a)] :
    ∀ s actions, Decidable (Meets step good s actions)
  | _, [] => isTrue trivial
  | s, a :: rest =>
    have : ∀ t, Decidable (Meets step good t rest) := fun t => decidableMeets t rest
    inferInstanceAs (Decidable (good s a ∧ ∀ t ∈ step s a, Meets step good t rest))

variable {step}

theorem run_cons (h : run step s (a :: rest) = some t) :
    ∃ m, step s a = some m ∧ run step m rest = some t := by
  simpa [run, Option.bind_eq_some_iff] using h

theorem run_append : run step s (front ++ back) = (run step s front).bind fun m => run step m back := by
  induction front generalizing s with
  | nil => rfl
  | cons a rest ih =>
    simp only [List.cons_append, run]
    cases step s a with
    | none => rfl
    | some t => simp [ih]

/-- A condition on the actions alone joins a condition on the steps. -/
theorem Meets.and {good : σ → α → Prop} {each : α → Prop} (meets : Meets step good s actions)
    (all : ∀ a ∈ actions, each a) : Meets step (fun s a => each a ∧ good s a) s actions := by
  induction actions generalizing s with
  | nil => trivial
  | cons a rest ih =>
    exact ⟨⟨all a List.mem_cons_self, meets.1⟩, fun t step =>
      ih (meets.2 t step) fun b member => all b (List.mem_cons_of_mem a member)⟩

theorem Meets.append {good : σ → α → Prop} (first : Meets step good s front)
    (then_ : ∀ m, run step s front = some m → Meets step good m back) :
    Meets step good s (front ++ back) := by
  induction front generalizing s with
  | nil => exact then_ s rfl
  | cons a rest ih =>
    refine ⟨first.1, fun t stepped => ih (first.2 t stepped) fun m reached => then_ m ?_⟩
    rw [run, Option.mem_def.mp stepped]
    exact reached

/-- A condition that the actions meet in every state. -/
theorem Meets.of_forall {good : σ → α → Prop} (all : ∀ a ∈ actions, ∀ s, good s a) :
    Meets step good s actions := by
  induction actions generalizing s with
  | nil => trivial
  | cons a rest ih =>
    exact ⟨all a List.mem_cons_self s, fun t _ => ih fun b member => all b (List.mem_cons_of_mem a member)⟩

/-- What a good step preserves, a run of good steps preserves. -/
theorem run_invariant {good : σ → α → Prop} {Invariant : σ → Prop}
    (preserved : ∀ s a t, Invariant s → good s a → step s a = some t → Invariant t)
    (initial : Invariant s) (meets : Meets step good s actions)
    (reached : run step s actions = some t) : Invariant t := by
  induction actions generalizing s with
  | nil => cases reached; exact initial
  | cons a rest ih =>
    obtain ⟨m, first, others⟩ := run_cons reached
    exact ih (preserved s a m initial meets.1 first) (meets.2 m first) others

/-- A run whose last state passes a test ends in a state with the tested property. -/
theorem run_test {test : σ → Bool} (h : (run step s actions).map test = some true) :
    ∃ t, run step s actions = some t ∧ test t = true := by
  simpa [Option.map_eq_some_iff] using h

/-- What every step preserves, every run preserves. -/
theorem run_preserves {Invariant : σ → Prop}
    (preserved : ∀ s a t, Invariant s → step s a = some t → Invariant t)
    (initial : Invariant s) (reached : run step s actions = some t) : Invariant t := by
  induction actions generalizing s with
  | nil => cases reached; exact initial
  | cons a rest ih =>
    obtain ⟨m, first, others⟩ := run_cons reached
    exact ih (preserved s a m initial first) others

/-- As `run_preserves`, for what relates the state to the actions taken so far. -/
theorem run_history {Invariant : List α → σ → Prop}
    (preserved : ∀ done s a t, Invariant done s → step s a = some t → Invariant (done ++ [a]) t)
    (initial : Invariant [] s) (reached : run step s actions = some t) : Invariant actions t := by
  have rest : ∀ actions done s, Invariant done s → run step s actions = some t →
      Invariant (done ++ actions) t := by
    intro actions
    induction actions with
    | nil =>
      intro done s holds reached
      cases reached
      rwa [List.append_nil]
    | cons a rest ih =>
      intro done s holds reached
      obtain ⟨m, first, others⟩ := run_cons reached
      have later := ih (done ++ [a]) m (preserved done s a m holds first) others
      rwa [List.append_assoc] at later
  exact rest actions [] s initial reached

end Transition
