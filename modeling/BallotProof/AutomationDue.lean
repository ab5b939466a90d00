import BallotProof.Automation

/-! `due_plans` of the two automation stores. SQLite compares `next_run_at` as a text, Postgres as
an instant. -/
namespace BallotProof
open Python Sql

/-- The rows of Postgres in the order of `next_run_at, plan_id`. -/
def instantBefore (a b : SourceAutomationPlan) : Bool :=
  a.nextRunAt.instant < b.nextRunAt.instant ∨
    a.nextRunAt.instant = b.nextRunAt.instant ∧ a.planId ≤ b.planId

/-- The WHERE clauses of SQLite and of Postgres. -/
def textDue (evaluatedAt : Datetime) (plan : SourceAutomationPlan) : Bool :=
  plan.enabled ∧ plan.nextRunAt.isoformat ≤ evaluatedAt.isoformat

def instantDue (evaluatedAt : Datetime) (plan : SourceAutomationPlan) : Bool :=
  plan.enabled ∧ plan.nextRunAt.instant ≤ evaluatedAt.instant

/-- `PostgresSourceAutomationStore.due_plans` -/
def duePlansPostgres (rows : List SourceAutomationPlan) (evaluatedAt : Datetime) (limit : Nat) :
    List SourceAutomationPlan := (selectSorted (instantDue evaluatedAt) instantBefore rows).take limit

theorem duePlans_eq (rows : List SourceAutomationPlan) (evaluatedAt : Datetime) (limit : Nat) :
    duePlans rows evaluatedAt limit = (selectSorted (textDue evaluatedAt) dueBefore rows).take limit := by
  have natural : ¬(limit : Int) < 0 := by omega
  simp only [duePlans, natural, if_false, Int.toNat_natCast]
  rfl

theorem dueBefore_keyed : KeyedOrder SourceAutomationPlan.planId dueBefore :=
  .lexicographic (fun plan => plan.nextRunAt.isoformat) fun a b => by
    unfold dueBefore
    exact decide_eq_true_iff

theorem instantBefore_keyed : KeyedOrder SourceAutomationPlan.planId instantBefore :=
  .lexicographic (fun plan => plan.nextRunAt.instant) fun a b => by
    unfold instantBefore
    exact decide_eq_true_iff

/-- What Postgres returns: due plans, in the order of instants and ids. -/
theorem duePlansPostgres_spec (rows : List SourceAutomationPlan) (evaluatedAt : Datetime) (limit : Nat) :
    (duePlansPostgres rows evaluatedAt limit).Pairwise (fun a b => instantBefore a b) ∧
      (∀ plan ∈ duePlansPostgres rows evaluatedAt limit, plan ∈ rows ∧ instantDue evaluatedAt plan) ∧
      ∀ plan ∈ rows, instantDue evaluatedAt plan → plan ∉ duePlansPostgres rows evaluatedAt limit →
        (duePlansPostgres rows evaluatedAt limit).length = limit ∧
          ∀ first ∈ duePlansPostgres rows evaluatedAt limit, instantBefore first plan := by
  have sorted : (selectSorted (instantDue evaluatedAt) instantBefore rows).Pairwise fun a b => instantBefore a b :=
    selectSorted_pairwise instantBefore_keyed
  unfold duePlansPostgres
  refine ⟨sorted.sublist (List.take_sublist _ _), fun plan member => ?_, fun plan member due left => ?_⟩
  · exact mem_selectSorted.mp (List.mem_of_mem_take member)
  · have member : plan ∈ selectSorted (instantDue evaluatedAt) instantBefore rows :=
      mem_selectSorted.mpr ⟨member, due⟩
    rw [← List.take_append_drop limit (selectSorted _ _ rows)] at member sorted
    have later : plan ∈ (selectSorted (instantDue evaluatedAt) instantBefore rows).drop limit :=
      (List.mem_append.mp member).resolve_left left
    have more := List.length_pos_of_mem later
    rw [List.length_drop] at more
    refine ⟨by rw [List.length_take]; omega, fun first earlier => ?_⟩
    exact (List.pairwise_append.mp sorted).2.2 first earlier plan later

/-- The texts of the column stand for its instants: against the time of the call, and between any
two plans that are due. -/
structure TextsAgree (rows : List SourceAutomationPlan) (evaluatedAt : Datetime) : Prop where
  due : ∀ plan ∈ rows, plan.enabled = true →
    (plan.nextRunAt.isoformat ≤ evaluatedAt.isoformat ↔ plan.nextRunAt.instant ≤ evaluatedAt.instant)
  order : ∀ a ∈ rows, ∀ b ∈ rows, instantDue evaluatedAt a → instantDue evaluatedAt b →
    dueBefore a b = instantBefore a b

/-- `due_plans` of SQLite returns the first plans of those that are due, for every limit, as Postgres
does, exactly when the texts agree with the instants. -/
theorem duePlans_exact_iff (rows : List SourceAutomationPlan) (evaluatedAt : Datetime)
    (unique : Sql.Unique SourceAutomationPlan.planId rows) :
    (∀ limit : Nat, duePlans rows evaluatedAt limit = duePlansPostgres rows evaluatedAt limit) ↔
      TextsAgree rows evaluatedAt := by
  have all : (∀ limit : Nat, duePlans rows evaluatedAt limit = duePlansPostgres rows evaluatedAt limit) ↔
      selectSorted (textDue evaluatedAt) dueBefore rows = selectSorted (instantDue evaluatedAt) instantBefore rows := by
    simp only [duePlans_eq, duePlansPostgres]
    constructor
    · intro same
      have long := same ((selectSorted (textDue evaluatedAt) dueBefore rows).length +
        (selectSorted (instantDue evaluatedAt) instantBefore rows).length)
      rwa [List.take_of_length_le (Nat.le_add_right _ _), List.take_of_length_le (Nat.le_add_left _ _)] at long
    · intro same limit
      rw [same]
  rw [all, selectSorted_eq_iff unique dueBefore_keyed instantBefore_keyed]
  constructor
  · rintro ⟨due, order⟩
    refine ⟨fun plan member enabled => ?_, order⟩
    have same := due plan member
    simpa only [textDue, instantDue, enabled, true_and, decide_eq_decide] using same
  · intro agree
    refine ⟨fun plan member => ?_, agree.order⟩
    cases enabled : plan.enabled with
    | false => simp [textDue, instantDue, enabled]
    | true =>
      simp only [textDue, instantDue, enabled, true_and, decide_eq_decide]
      exact agree.due plan member enabled

/-- Plans that were all given in the offset of the call. -/
theorem TextsAgree.of_offset (shared : ∀ plan ∈ rows, plan.nextRunAt.offset = evaluatedAt.offset) :
    TextsAgree rows evaluatedAt := by
  refine ⟨fun plan member _ => ?_, fun a first b second _ _ => ?_⟩
  · rw [← not_lt, ← not_lt, Datetime.isoformat_lt_of_offset (shared plan member).symm]
  · have offset := (shared a first).trans (shared b second).symm
    have texts : a.nextRunAt.isoformat = b.nextRunAt.isoformat ↔ a.nextRunAt.instant = b.nextRunAt.instant := by
      constructor
      · exact fun same => congrArg Datetime.instant (Datetime.isoformat_injective same)
      · intro same
        simp only [Datetime.isoformat, same, offset]
    simp only [dueBefore, instantBefore, Datetime.isoformat_lt_of_offset offset, texts]

/-- Noon of the first of January 2026 in Lagos, an hour before the one in UTC. -/
def lagosNoon : Datetime := ⟨1767265200000000, 3600000000, by decide, by decide⟩

/-- A plan as `create_plan` stores it. -/
def planStarting (planId : String) (startAt : Datetime) : SourceAutomationPlan :=
  ⟨planId, "inec", 1, checksum [], "https://example.org/results", "GET", 300, startAt, true, noon, noon⟩

/-- Two plans in UTC, the later one first in the table. -/
def utcPlans : List SourceAutomationPlan := [planStarting "bp_auto_a" minuteLater, planStarting "bp_auto_b" noon]

theorem utcPlans_exact : duePlans utcPlans minuteLater 20 = duePlansPostgres utcPlans minuteLater 20 := by
  refine (duePlans_exact_iff utcPlans minuteLater ?_).mpr (.of_offset ?_) 20
  · simp [Sql.Unique, utcPlans, planStarting]
  · simp [utcPlans, planStarting, noon, minuteLater]

/-- At noon UTC the plan that was due at noon in Lagos is not found. -/
theorem lagosPlan_missed : ¬∀ limit : Nat, duePlans [planStarting "bp_auto_a" lagosNoon] noon limit =
    duePlansPostgres [planStarting "bp_auto_a" lagosNoon] noon limit := by
  intro exactly
  have missed : duePlans [planStarting "bp_auto_a" lagosNoon] noon 20 = [] := by decide +kernel
  have found : duePlansPostgres [planStarting "bp_auto_a" lagosNoon] noon 20 =
      [planStarting "bp_auto_a" lagosNoon] := by decide +kernel
  have same := missed.symm.trans ((exactly 20).trans found)
  cases same

end BallotProof
