import Mathlib.Data.List.Basic
import Mathlib.Tactic

/-! Calls of several processes on one store. A call makes transactions one after another, each
chosen from the answers before it, and other calls' transactions come in between. -/
namespace Calls

universe u v w x y

/-- A call that returns or raises in the end. -/
inductive Call {τ : Type u} (answer : τ → Type v) (ε : Type w) (α : Type x) where
  | done (result : Except ε α)
  | transact (t : τ) (next : answer t → Call answer ε α)

section
variable {τ : Type u} {answer : τ → Type v} {ε : Type w} {α : Type x} {β : Type y} {σ : Type z}

/-- The call goes on with what it has, or raises. -/
def Call.bind (call : Call answer ε α) (f : α → Call answer ε β) : Call answer ε β :=
  match call with
  | .done (.ok a) => f a
  | .done (.error e) => .done (.error e)
  | .transact t next => .transact t fun a => (next a).bind f

theorem Call.bind_assoc {γ : Type*} (call : Call answer ε α) (f : α → Call answer ε β)
    (g : β → Call answer ε γ) : (call.bind f).bind g = call.bind fun a => (f a).bind g := by
  induction call with
  | done result => cases result <;> rfl
  | transact t next ih =>
    simp only [Call.bind]
    exact congrArg _ (funext ih)

/-- The answer of the call as one of several kinds of answers. -/
def Call.map (f : α → β) (call : Call answer ε α) : Call answer ε β :=
  call.bind fun a => .done (.ok (f a))

/-- A call, and the states before and after each transaction it has made. -/
structure Running {τ : Type u} (answer : τ → Type v) (ε : Type w) (α : Type x) (σ : Type z) where
  call : Call answer ε α
  history : List (σ × σ)

structure Pool {τ : Type u} (answer : τ → Type v) (ε : Type w) (α : Type x) (σ : Type z) where
  store : σ
  calls : List (Running answer ε α σ)

/-- A call is started, or makes its next transaction. -/
inductive Event {τ : Type u} (answer : τ → Type v) (ε : Type w) (α : Type x) where
  | start (call : Call answer ε α)
  | advance (index : Nat)

variable (exec : (t : τ) → σ → answer t × σ)

/-- The next transaction of a call; a call that is done stays so. -/
def Running.advance (running : Running answer ε α σ) (s : σ) : Running answer ε α σ × σ :=
  match running.call with
  | .done _ => (running, s)
  | .transact t next =>
    (⟨next (exec t s).1, running.history ++ [(s, (exec t s).2)]⟩, (exec t s).2)

def step (pool : Pool answer ε α σ) : Event answer ε α → Pool answer ε α σ
  | .start call => { pool with calls := pool.calls ++ [⟨call, []⟩] }
  | .advance index =>
    match pool.calls[index]? with
    | none => pool
    | some running =>
      let next := running.advance exec pool.store
      ⟨next.2, pool.calls.set index next.1⟩

def run (pool : Pool answer ε α σ) (events : List (Event answer ε α)) : Pool answer ε α σ :=
  events.foldl (step exec) pool

/-- The transaction that an event makes meets a condition on the state before it. -/
def Event.Good (good : τ → σ → Prop) (pool : Pool answer ε α σ) : Event answer ε α → Prop
  | .start _ => True
  | .advance index => ∀ running ∈ pool.calls[index]?, ∀ t next, running.call = .transact t next →
    good t pool.store

/-- Every transaction of the run meets a condition on the state before it. -/
def Meets (good : τ → σ → Prop) : Pool answer ε α σ → List (Event answer ε α) → Prop
  | _, [] => True
  | pool, event :: rest => event.Good good pool ∧ Meets good (step exec pool event) rest

/-- From a state on, in which other calls may do what `rely` allows, each transaction of a call
keeps the invariant and does what `rely` allows, and the call ends as `post` says. -/
def Follows (good : τ → σ → Prop) (invariant : σ → Prop) (rely : σ → σ → Prop)
    (post : List (σ × σ) → Except ε α → Prop) : Call answer ε α → List (σ × σ) → σ → Prop
  | .done result, history, _ => post history result
  | .transact t next, history, seen => ∀ s, invariant s → rely seen s → good t s →
    invariant (exec t s).2 ∧ rely s (exec t s).2 ∧
      Follows good invariant rely post (next (exec t s).1) (history ++ [(s, (exec t s).2)]) (exec t s).2

instance decidableGood {good : τ → σ → Prop} [∀ t s, Decidable (good t s)] (pool : Pool answer ε α σ) :
    (event : Event answer ε α) → Decidable (event.Good good pool)
  | .start _ => isTrue trivial
  | .advance index =>
    match found : pool.calls[index]? with
    | none => isTrue fun running member => by rw [found] at member; cases member
    | some ⟨.done _, _⟩ => isTrue fun running member t next same => by
        rw [found] at member
        cases member
        cases same
    | some ⟨.transact t _, _⟩ =>
      decidable_of_iff (good t pool.store) (by
        constructor
        · intro meets running member t' next same
          rw [found] at member
          cases member
          cases same
          exact meets
        · intro all
          exact all _ found t _ rfl)

instance decidableMeets {good : τ → σ → Prop} [∀ t s, Decidable (good t s)] :
    ∀ (pool : Pool answer ε α σ) events, Decidable (Meets exec good pool events)
  | _, [] => isTrue trivial
  | pool, event :: rest =>
    have : Decidable (Meets exec good (step exec pool event) rest) := decidableMeets _ rest
    inferInstanceAs (Decidable (_ ∧ _))

variable {exec} {good : τ → σ → Prop} {invariant : σ → Prop} {rely : σ → σ → Prop}
  {post : List (σ × σ) → Except ε α → Prop}

theorem step_missing {pool : Pool answer ε α σ} (missing : pool.calls[index]? = none) :
    step exec pool (.advance index) = pool := by
  simp [step, missing]

theorem step_done {pool : Pool answer ε α σ} {history : List (σ × σ)}
    (found : pool.calls[index]? = some ⟨.done result, history⟩) : step exec pool (.advance index) = pool := by
  have same : pool.calls.set index ⟨.done result, history⟩ = pool.calls := by
    obtain ⟨inside, eq⟩ := List.getElem?_eq_some_iff.mp found
    rw [← eq, List.set_getElem_self]
  simp [step, found, Running.advance, same]

theorem step_transact {pool : Pool answer ε α σ} {history : List (σ × σ)}
    (found : pool.calls[index]? = some ⟨.transact t next, history⟩) :
    step exec pool (.advance index) = ⟨(exec t pool.store).2, pool.calls.set index
      ⟨next (exec t pool.store).1, history ++ [(pool.store, (exec t pool.store).2)]⟩⟩ := by
  simp [step, found, Running.advance]

theorem Follows.later (trans : ∀ a b c, rely a b → rely b c → rely a c)
    (follows : Follows exec good invariant rely post call history seen) (step : rely seen s) :
    Follows exec good invariant rely post call history s := by
  cases call with
  | done result => exact follows
  | transact t next => exact fun s' inv after meets => follows s' inv (trans _ _ _ step after) meets

/-- The calls of a pool follow their contracts from the present state on. -/
structure Kept (exec : (t : τ) → σ → answer t × σ) (good : τ → σ → Prop) (invariant : σ → Prop)
    (rely : σ → σ → Prop) (post : List (σ × σ) → Except ε α → Prop) (pool : Pool answer ε α σ) :
    Prop where
  store : invariant pool.store
  calls : ∀ running ∈ pool.calls,
    Follows exec good invariant rely post running.call running.history pool.store

theorem Kept.step (refl : ∀ s, rely s s) (trans : ∀ a b c, rely a b → rely b c → rely a c)
    {pool : Pool answer ε α σ} (kept : Kept exec good invariant rely post pool)
    (starts : ∀ call, event = .start call → ∀ s, invariant s →
      Follows exec good invariant rely post call [] s)
    (meets : event.Good good pool) : Kept exec good invariant rely post (step exec pool event) := by
  cases event with
  | start call =>
    refine ⟨kept.store, fun running member => ?_⟩
    rcases List.mem_append.mp member with old | new
    · exact kept.calls running old
    · rw [List.mem_singleton.mp new]
      exact starts call rfl _ kept.store
  | advance index =>
    cases found : pool.calls[index]? with
    | none =>
      rw [step_missing found]
      exact kept
    | some running =>
      obtain ⟨call, history⟩ := running
      have follows := kept.calls _ (List.mem_of_getElem? found)
      cases call with
      | done result =>
        rw [step_done found]
        exact kept
      | transact t next =>
        rw [step_transact found]
        obtain ⟨store, moved, rest⟩ := follows _ kept.store (refl _) (meets _ found t next rfl)
        refine ⟨store, fun other member => ?_⟩
        rcases List.mem_or_eq_of_mem_set member with old | rfl
        · exact (kept.calls other old).later trans moved
        · exact rest

/-- What every call keeps on its own, every interleaving of the calls keeps. -/
theorem run_kept (refl : ∀ s, rely s s) (trans : ∀ a b c, rely a b → rely b c → rely a c)
    {pool : Pool answer ε α σ} {events : List (Event answer ε α)}
    (kept : Kept exec good invariant rely post pool)
    (starts : ∀ call, .start call ∈ events → ∀ s, invariant s →
      Follows exec good invariant rely post call [] s)
    (meets : Meets exec good pool events) : Kept exec good invariant rely post (run exec pool events) := by
  induction events generalizing pool with
  | nil => exact kept
  | cons event rest ih =>
    refine ih (kept.step refl trans ?_ meets.1) (fun call member => ?_) meets.2
    · rintro call rfl
      exact starts call List.mem_cons_self
    · exact starts call (List.mem_cons_of_mem _ member)

/-- A transaction of the call that makes a condition true. -/
def Flips (holds : σ → Prop) (running : Running answer ε α σ) : Prop :=
  ∃ pair ∈ running.history, ¬holds pair.1 ∧ holds pair.2

/-- A condition that stays true has been made true by at most one call. -/
structure FlippedOnce (holds : σ → Prop) (pool : Pool answer ε α σ) : Prop where
  store : ∀ running ∈ pool.calls, Flips holds running → holds pool.store
  once : ∀ (i j : Nat) (first second : Running answer ε α σ), pool.calls[i]? = some first →
    pool.calls[j]? = some second → Flips holds first → Flips holds second → i = j

theorem FlippedOnce.step {holds : σ → Prop} (stays : ∀ t s, holds s → holds (exec t s).2)
    {pool : Pool answer ε α σ} (flipped : FlippedOnce holds pool) (event : Event answer ε α) :
    FlippedOnce holds (step exec pool event) := by
  cases event with
  | start call =>
    have fresh (i : Nat) (running : Running answer ε α σ)
        (found : (pool.calls ++ [⟨call, []⟩])[i]? = some running) (flips : Flips holds running) :
        pool.calls[i]? = some running := by
      by_cases inside : i < pool.calls.length
      · rwa [List.getElem?_append_left inside] at found
      · have last := List.mem_of_getElem? (List.getElem?_append_right (not_lt.mp inside) ▸ found)
        rw [List.mem_singleton.mp last] at flips
        obtain ⟨pair, member, -⟩ := flips
        cases member
    refine ⟨fun running member flips => ?_, fun i j first second hi hj fi fj => ?_⟩
    · obtain ⟨i, found⟩ := List.getElem?_of_mem member
      exact flipped.store running (List.mem_of_getElem? (fresh i running found flips)) flips
    · exact flipped.once i j first second (fresh i first hi fi) (fresh j second hj fj) fi fj
  | advance index =>
    cases found : pool.calls[index]? with
    | none =>
      rw [step_missing found]
      exact flipped
    | some running =>
      obtain ⟨call, history⟩ := running
      cases call with
      | done result =>
        rw [step_done found]
        exact flipped
      | transact t next =>
        rw [step_transact found]
        -- a call that flips has flipped before, or it makes this transaction
        have origin (i : Nat) (other : Running answer ε α σ)
            (at_i : (pool.calls.set index ⟨next (exec t pool.store).1,
              history ++ [(pool.store, (exec t pool.store).2)]⟩)[i]? = some other)
            (flips : Flips holds other) :
            (∃ before, pool.calls[i]? = some before ∧ Flips holds before) ∨
              i = index ∧ ¬holds pool.store ∧ holds (exec t pool.store).2 := by
          by_cases same : index = i
          · subst same
            obtain ⟨inside, -⟩ := List.getElem?_eq_some_iff.mp found
            rw [List.getElem?_set_self inside] at at_i
            cases at_i
            obtain ⟨pair, member, before, after⟩ := flips
            rcases List.mem_append.mp member with old | new
            · exact .inl ⟨_, found, pair, old, before, after⟩
            · rw [List.mem_singleton.mp new] at before after
              exact .inr ⟨rfl, before, after⟩
          · rw [List.getElem?_set_ne same] at at_i
            exact .inl ⟨other, at_i, flips⟩
        refine ⟨fun other member flips => ?_, fun i j first second hi hj fi fj => ?_⟩
        · obtain ⟨i, at_i⟩ := List.getElem?_of_mem member
          rcases origin i other at_i flips with ⟨before, was, flipped'⟩ | ⟨-, -, now⟩
          · exact stays t _ (flipped.store before (List.mem_of_getElem? was) flipped')
          · exact now
        · rcases origin i first hi fi with ⟨a, wasA, flipsA⟩ | ⟨rfl, notYet, -⟩
          · rcases origin j second hj fj with ⟨b, wasB, flipsB⟩ | ⟨rfl, notYet, -⟩
            · exact flipped.once i j a b wasA wasB flipsA flipsB
            · exact absurd (flipped.store a (List.mem_of_getElem? wasA) flipsA) notYet
          · rcases origin j second hj fj with ⟨b, wasB, flipsB⟩ | ⟨rfl, -, -⟩
            · exact absurd (flipped.store b (List.mem_of_getElem? wasB) flipsB) notYet
            · rfl

/-- In every interleaving, at most one call makes a condition true that no transaction undoes. -/
theorem run_flippedOnce {holds : σ → Prop} (stays : ∀ t s, holds s → holds (exec t s).2)
    (events : List (Event answer ε α)) {pool : Pool answer ε α σ} (flipped : FlippedOnce holds pool) :
    FlippedOnce holds (run exec pool events) := by
  induction events generalizing pool with
  | nil => exact flipped
  | cons event rest ih => exact ih (flipped.step stays event)

/-- A pool in which no call has been started. -/
def Pool.initial (s : σ) : Pool answer ε α σ := ⟨s, []⟩

theorem kept_initial {s : σ} (initial : invariant s) :
    Kept exec good invariant rely post (Pool.initial s) := ⟨initial, fun _ member => by cases member⟩

theorem flippedOnce_initial {holds : σ → Prop} {s : σ} :
    FlippedOnce holds (Pool.initial s : Pool answer ε α σ) where
  store _ member := by cases member
  once _ _ _ _ found := by simp [Pool.initial] at found

end

end Calls
