import BallotProof.Bytes

/-! Rules for loops that may raise: an invariant over the items already done by a `for` loop,
and when a `for` or a `while` loop runs to its end. -/
namespace Python

/-- What the body keeps while one more item is done holds after the loop. -/
theorem foldlM_invariant {body : σ → α → Result σ} {Invariant : List α → σ → Prop}
    {items : List α} (initial : Invariant [] start)
    (kept : ∀ front item back s t, items = front ++ item :: back → Invariant front s →
      body s item = .ok t → Invariant (front ++ [item]) t)
    (h : items.foldlM body start = .ok last) : Invariant items last := by
  have loop : ∀ rest front s, items = front ++ rest → Invariant front s →
      rest.foldlM body s = .ok last → Invariant items last := by
    intro rest
    induction rest with
    | nil =>
      intro front s all holds done
      cases done
      simpa [all] using holds
    | cons item rest ih =>
      intro front s all holds done
      obtain ⟨t, step, done⟩ := bind_ok done
      exact ih (front ++ [item]) t (by simpa using all) (kept front item rest s t all holds step) done
  exact loop items [] start rfl initial h

/-- A loop whose body never raises runs to its end and keeps its invariant. -/
theorem foldlM_total {body : σ → α → Result σ} {Invariant : List α → σ → Prop}
    {items : List α} (initial : Invariant [] start)
    (kept : ∀ front item back s, items = front ++ item :: back → Invariant front s →
      ∃ t, body s item = .ok t ∧ Invariant (front ++ [item]) t) :
    ∃ last, items.foldlM body start = .ok last ∧ Invariant items last := by
  have loop : ∀ rest front s, items = front ++ rest → Invariant front s →
      ∃ last, rest.foldlM body s = .ok last ∧ Invariant items last := by
    intro rest
    induction rest with
    | nil =>
      intro front s all holds
      exact ⟨s, rfl, by simpa [all] using holds⟩
    | cons item rest ih =>
      intro front s all holds
      obtain ⟨t, step, holds⟩ := kept front item rest s all holds
      obtain ⟨last, done, holds⟩ := ih (front ++ [item]) t (by simpa using all) holds
      exact ⟨last, bind_eq_ok.mpr ⟨t, step, done⟩, holds⟩
  exact loop items [] start rfl initial

theorem foldlM_runs {body : σ → α → Result σ} {items : List α}
    (runs : ∀ item ∈ items, ∀ s, ∃ t, body s item = .ok t) (start : σ) :
    ∃ last, items.foldlM body start = .ok last := by
  induction items generalizing start with
  | nil => exact ⟨start, rfl⟩
  | cons item rest ih =>
    obtain ⟨t, step⟩ := runs item List.mem_cons_self start
    obtain ⟨last, done⟩ := ih (fun x member => runs x (List.mem_cons_of_mem _ member)) t
    exact ⟨last, bind_eq_ok.mpr ⟨t, step, done⟩⟩

/-- Loops over lists whose items the body does not tell apart. -/
theorem foldlM_forall₂ {body : σ → α → Result σ} {same : α → α → Prop} {items others : List α}
    (h : List.Forall₂ same items others) (agree : ∀ s a b, same a b → body s b = body s a) (start : σ) :
    others.foldlM body start = items.foldlM body start := by
  induction h generalizing start with
  | nil => rfl
  | cons first _ ih =>
    simp only [List.foldlM_cons, agree start _ _ first]
    exact congrArg _ (funext ih)

/-- `while guard(s): s = body(s)`, up to a number of tests of the guard. -/
def whileLoop (guard : σ → Result Bool) (body : σ → Result σ) : Nat → σ → Option (Result σ)
  | 0, _ => none
  | tests + 1, s =>
    match guard s with
    | .error e => some (.error e)
    | .ok false => some (.ok s)
    | .ok true =>
      match body s with
      | .error e => some (.error e)
      | .ok t => whileLoop guard body tests t

/-- The loop comes to an end, and so it does under every larger bound. -/
def Ends (guard : σ → Result Bool) (body : σ → Result σ) (s : σ) (outcome : Result σ) : Prop :=
  ∃ enough, ∀ tests, enough ≤ tests → whileLoop guard body tests s = some outcome

section
variable {guard : σ → Result Bool} {body : σ → Result σ} {s t : σ} {outcome : Result σ}

theorem Ends.done (left : guard s = .ok false) : Ends guard body s (.ok s) := by
  refine ⟨1, fun tests enough => ?_⟩
  obtain ⟨tests, rfl⟩ := Nat.exists_eq_add_of_le' enough
  simp [whileLoop, left]

theorem Ends.guard_raises (raised : guard s = .error e) : Ends guard body s (.error e) := by
  refine ⟨1, fun tests enough => ?_⟩
  obtain ⟨tests, rfl⟩ := Nat.exists_eq_add_of_le' enough
  simp [whileLoop, raised]

theorem Ends.body_raises (again : guard s = .ok true) (raised : body s = .error e) :
    Ends guard body s (.error e) := by
  refine ⟨1, fun tests enough => ?_⟩
  obtain ⟨tests, rfl⟩ := Nat.exists_eq_add_of_le' enough
  simp [whileLoop, again, raised]

theorem Ends.turn (again : guard s = .ok true) (step : body s = .ok t) (rest : Ends guard body t outcome) :
    Ends guard body s outcome := by
  obtain ⟨enough, rest⟩ := rest
  refine ⟨enough + 1, fun tests bound => ?_⟩
  obtain ⟨more, rfl⟩ := Nat.exists_eq_add_of_le bound
  rw [show enough + 1 + more = enough + more + 1 by omega, whileLoop, again]
  simp only [step]
  exact rest _ (Nat.le_add_right _ _)

theorem Ends.unique {other : Result σ} (left : Ends guard body s outcome) (right : Ends guard body s other) :
    outcome = other := by
  obtain ⟨m, left⟩ := left
  obtain ⟨n, right⟩ := right
  have same := (left _ (Nat.le_max_left m n)).symm.trans (right _ (Nat.le_max_right m n))
  exact Option.some.inj same

end

/-- A run ends with a result or with an error of a kind. -/
def RaisesOnly (E : Error → Prop) (x : Result α) : Prop := ∀ e, x = .error e → E e

theorem RaisesOnly.ok (a : α) : RaisesOnly E (.ok a : Result α) := fun _ h => by cases h

theorem RaisesOnly.error (h : E e) : RaisesOnly E (.error e : Result α) := fun _ same => by
  cases same
  exact h

theorem RaisesOnly.bind {x : Result α} {f : α → Result β} (first : RaisesOnly E x)
    (next : ∀ a, x = .ok a → RaisesOnly E (f a)) : RaisesOnly E (x >>= f) := by
  cases x with
  | error e => exact fun e' h => first e' (by cases h; rfl)
  | ok a => exact next a rfl

theorem RaisesOnly.map {x : Result α} (f : α → β) (first : RaisesOnly E x) :
    RaisesOnly E (x.map f) := by
  cases x with
  | error e => exact fun e' h => first e' (by cases h; rfl)
  | ok a => exact .ok (f a)

theorem raisesOnly_of_ok {x : Result α} (runs : ∃ a, x = .ok a) : RaisesOnly E x := by
  obtain ⟨a, rfl⟩ := runs
  exact .ok a

/-- What raises nothing returns. -/
theorem returns_of_raisesOnly {x : Result α} (none : RaisesOnly (fun _ => False) x) :
    ∃ a, x = .ok a := by
  cases x with
  | error e => exact (none e rfl).elim
  | ok a => exact ⟨a, rfl⟩

end Python
