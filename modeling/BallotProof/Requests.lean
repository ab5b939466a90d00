import Mathlib.Data.List.Basic

/-! Requests that are served one at a time. A request is answered and moves the state, or it
fails and what it did is rolled back. -/
namespace Requests

universe u v w x
variable {σ : Type u} {ρ : Type v} {α : Type w} {ε : Type x}
variable (serve : σ → ρ → Except ε (α × σ))

/-- The state after a request. -/
def next (s : σ) (request : ρ) : σ :=
  match serve s request with
  | .ok (_, t) => t
  | .error _ => s

/-- The state after the requests. -/
def run (s : σ) (requests : List ρ) : σ := requests.foldl (next serve) s

/-- The answers of the requests that did not fail. -/
def accepted (s : σ) : List ρ → List α
  | [] => []
  | request :: rest =>
    match serve s request with
    | .ok (a, t) => a :: accepted t rest
    | .error _ => accepted s rest

/-- Every request meets a condition in the state in which it is served. -/
def Meets (good : σ → ρ → Prop) : σ → List ρ → Prop
  | _, [] => True
  | s, request :: rest => good s request ∧ Meets good (next serve s request) rest

variable {serve}

theorem next_ok (h : serve s request = .ok (a, t)) : next serve s request = t := by
  simp [next, h]

/-- A request that fails leaves the state as it is. -/
theorem next_error (h : serve s request = .error e) : next serve s request = s := by
  simp [next, h]

@[simp] theorem run_cons : run serve s (request :: rest) = run serve (next serve s request) rest := rfl

theorem run_append : run serve s (front ++ back) = run serve (run serve s front) back :=
  List.foldl_append

theorem accepted_append : accepted serve s (front ++ back) =
    accepted serve s front ++ accepted serve (run serve s front) back := by
  induction front generalizing s with
  | nil => rfl
  | cons request rest ih =>
    cases h : serve s request with
    | error e => simp only [List.cons_append, accepted, h, run_cons, next_error h, ih]
    | ok served => simp only [List.cons_append, accepted, h, run_cons, next_ok h, ih]

theorem Meets.mono {good better : σ → ρ → Prop} (weaker : ∀ s request, better s request → good s request)
    (meets : Meets serve better s requests) : Meets serve good s requests := by
  induction requests generalizing s with
  | nil => trivial
  | cons request rest ih => exact ⟨weaker s request meets.1, ih meets.2⟩

theorem Meets.and {good fit : σ → ρ → Prop} (left : Meets serve good s requests)
    (right : Meets serve fit s requests) :
    Meets serve (fun s request => good s request ∧ fit s request) s requests := by
  induction requests generalizing s with
  | nil => trivial
  | cons request rest ih => exact ⟨⟨left.1, right.1⟩, ih left.2 right.2⟩

/-- A condition that the requests meet in every state. -/
theorem Meets.of_forall {good : σ → ρ → Prop} (all : ∀ request ∈ requests, ∀ s, good s request) :
    Meets serve good s requests := by
  induction requests generalizing s with
  | nil => trivial
  | cons request rest ih =>
    exact ⟨all request List.mem_cons_self s, ih fun r member => all r (List.mem_cons_of_mem _ member)⟩

/-- What relates the state to the answers given so far, and is kept by each good request that
is answered, holds after every run of good requests. -/
theorem run_invariant {good : σ → ρ → Prop} {Invariant : List α → σ → Prop}
    (kept : ∀ given s request a t, Invariant given s → good s request → serve s request = .ok (a, t) →
      Invariant (given ++ [a]) t)
    (initial : Invariant given s) (meets : Meets serve good s requests) :
    Invariant (given ++ accepted serve s requests) (run serve s requests) := by
  induction requests generalizing given s with
  | nil => simpa [accepted, run] using initial
  | cons request rest ih =>
    obtain ⟨first, others⟩ := meets
    cases h : serve s request with
    | error e =>
      rw [next_error h] at others
      simpa only [accepted, h, run_cons, next_error h] using ih initial others
    | ok served =>
      obtain ⟨a, t⟩ := served
      rw [next_ok h] at others
      have after := ih (kept given s request a t initial first h) others
      simpa only [accepted, h, run_cons, next_ok h, List.append_assoc, List.singleton_append] using after

/-- What each good request keeps of the state alone, every run of good requests keeps. -/
theorem run_keeps {good : σ → ρ → Prop} {Invariant : σ → Prop}
    (kept : ∀ s request a t, Invariant s → good s request → serve s request = .ok (a, t) → Invariant t)
    (initial : Invariant s) (meets : Meets serve good s requests) : Invariant (run serve s requests) :=
  @run_invariant σ ρ α ε serve [] s requests good (fun _ => Invariant)
    (fun _ s request a t => kept s request a t) initial meets

end Requests
