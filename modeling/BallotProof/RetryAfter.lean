import BallotProof.RateLimit
import Mathlib.Algebra.Order.Floor.Ring
import Mathlib.Data.Rat.Floor
import Mathlib.Tactic.Linarith
import Mathlib.Tactic.Positivity

/-! When a denied call may come back: the waiting times that both rate limiters report, against the
end of the window that was full. -/
namespace Python

/-- `int(x)` -/
def truncate (x : ℚ) : Int := if 0 ≤ x then ⌊x⌋ else ⌈x⌉

theorem truncate_mono {x y : ℚ} (le : x ≤ y) : truncate x ≤ truncate y := by
  unfold truncate
  split <;> split
  · exact Int.floor_mono le
  · linarith
  · rename_i negative nonneg
    have below : ⌈x⌉ ≤ 0 := Int.ceil_le.mpr (by push_cast; linarith)
    have above : 0 ≤ ⌊y⌋ := Int.floor_nonneg.mpr nonneg
    omega
  · exact Int.ceil_mono le

/-- Whole units added to a number stay added, unless the sum crosses zero. -/
theorem truncate_add {x : ℚ} (n : Nat) (oneSide : 0 ≤ x ∨ truncate x + n ≤ 0) :
    truncate x + n ≤ truncate (x + n) := by
  by_cases nonneg : 0 ≤ x
  · have sum : 0 ≤ x + n := by positivity
    rw [truncate, truncate, if_pos nonneg, if_pos sum, Int.floor_add_natCast]
  · have low := oneSide.resolve_left nonneg
    by_cases sum : 0 ≤ x + n
    · apply low.trans
      rw [truncate, if_pos sum]
      exact Int.floor_nonneg.mpr sum
    · rw [truncate, truncate, if_neg nonneg, if_neg sum, Int.ceil_add_natCast]

end Python

namespace BallotProof
open Python

/-- `LocalFixedWindowRateLimiter`, as its constructor admits it. -/
structure LocalLimiter where
  windowSeconds : Nat
  positive : 1 ≤ windowSeconds

/-- `_counts`, by scope key and window; zero where the dict has no entry. -/
abbrev LocalCounts := String → Int → Nat

/-- What a call of either limiter is given. -/
structure ConsumeCall (clock : Type) where
  scopeKey : String
  limit : Nat
  clock : clock

namespace LocalLimiter
variable (limiter : LocalLimiter)

def window (clock : ℚ) : Int := truncate clock / limiter.windowSeconds

/-- One more call in a window; windows before the previous one are stale. -/
def counted (counts : LocalCounts) (scopeKey : String) (window : Int) : LocalCounts := fun key w =>
  if w < window - 1 then 0
  else if key = scopeKey ∧ w = window then counts key w + 1 else counts key w

/-- `consume`, when `time.time()` is `clock` -/
def consume (counts : LocalCounts) (scopeKey : String) (limit : Nat) (clock : ℚ) :
    Result (RateLimitDecision × LocalCounts) := do
  raiseIf (limit < 1) ⟨.valueError, "rate limit must be positive"⟩
  let now := truncate clock
  let window := now / limiter.windowSeconds
  let count := counts scopeKey window + 1
  let retryAfter := max 1 (limiter.windowSeconds - now % limiter.windowSeconds)
  return (⟨count ≤ limit, limit, limit - count, retryAfter.toNat⟩, counted counts scopeKey window)

/-- The counts after more calls; one that raises counts nothing. -/
def after (counts : LocalCounts) (calls : List (ConsumeCall ℚ)) : LocalCounts :=
  calls.foldl (fun counts call =>
    match limiter.consume counts call.scopeKey call.limit call.clock with
    | .ok (_, next) => next
    | .error _ => counts) counts

/-- A denial with `retry_after_seconds` keeps its word: from then on the key is in a later window,
and is admitted unless something was counted there. -/
def Honest (counts : LocalCounts) (call : ConsumeCall ℚ) : Prop :=
  ∀ decision next, limiter.consume counts call.scopeKey call.limit call.clock = .ok (decision, next) →
    decision.allowed = false → ∀ later : ℚ, call.clock + decision.retryAfterSeconds ≤ later →
      limiter.window call.clock < limiter.window later ∧
      ∀ between limit, 1 ≤ limit → counts call.scopeKey (limiter.window later) = 0 →
        (∀ other ∈ between, other.scopeKey = call.scopeKey →
          limiter.window other.clock ≠ limiter.window later) →
        ∃ admitted last, limiter.consume (limiter.after next between) call.scopeKey limit later =
          .ok (admitted, last) ∧ admitted.allowed = true

/-- The call is denied. -/
def Denies (counts : LocalCounts) (call : ConsumeCall ℚ) : Prop :=
  1 ≤ call.limit ∧ call.limit ≤ counts call.scopeKey (limiter.window call.clock)

variable {limiter} {counts : LocalCounts} {key : String} {w : Int}

theorem consume_ok (h : limiter.consume counts key limit clock = .ok (decision, next)) :
    1 ≤ limit ∧ (decision.allowed = true ↔ counts key (limiter.window clock) < limit) ∧
      (decision.retryAfterSeconds : Int) =
        limiter.windowSeconds - truncate clock % limiter.windowSeconds ∧
      next = counted counts key (limiter.window clock) := by
  obtain ⟨_, admitted, h⟩ := bind_ok h
  rw [raiseIf_ok] at admitted
  cases h
  have positive : (0 : Int) < limiter.windowSeconds := by exact_mod_cast limiter.positive
  have below := Int.emod_lt_of_pos (truncate clock) positive
  refine ⟨not_lt.mp admitted, ?_, ?_, rfl⟩
  · simp only [window, decide_eq_true_eq]
    exact Nat.succ_le_iff
  · rw [Int.toNat_of_nonneg] <;> omega

theorem consume_returns (positive : 1 ≤ limit) (counts : LocalCounts) (key : String) (clock : ℚ) :
    ∃ decision, limiter.consume counts key limit clock =
      .ok (decision, counted counts key (limiter.window clock)) := by
  have admitted : raiseIf (limit < 1) ⟨.valueError, "rate limit must be positive"⟩ = .ok () :=
    raiseIf_ok.mpr (not_lt.mpr positive)
  rw [consume, admitted]
  exact ⟨_, rfl⟩

theorem counted_zero {other : String} {v : Int} (zero : counts key w = 0) (apart : key = other → v ≠ w) :
    counted counts other v key w = 0 := by
  unfold counted
  split
  · rfl
  · rw [if_neg fun here => apart here.1 here.2.symm]
    exact zero

/-- A window in which nothing is counted stays empty. -/
theorem after_zero {between : List (ConsumeCall ℚ)} (zero : counts key w = 0)
    (apart : ∀ other ∈ between, other.scopeKey = key → limiter.window other.clock ≠ w) :
    limiter.after counts between key w = 0 := by
  induction between generalizing counts with
  | nil => exact zero
  | cons call between ih =>
    rw [after, List.foldl_cons]
    apply ih _ fun other member => apart other (List.mem_cons_of_mem _ member)
    cases consumed : limiter.consume counts call.scopeKey call.limit call.clock with
    | error e => exact zero
    | ok result =>
      obtain ⟨-, -, -, next⟩ := consume_ok consumed
      dsimp only
      rw [next]
      exact counted_zero zero fun same => apart call List.mem_cons_self same.symm

/-- From the reported time on, the clock is past the window. -/
theorem window_later {clock later : ℚ} {wait : Nat} (outside : ¬(-1 < clock ∧ clock < 0))
    (waited : (wait : Int) = limiter.windowSeconds - truncate clock % limiter.windowSeconds)
    (after : clock + wait ≤ later) : limiter.window clock < limiter.window later := by
  have positive : (0 : Int) < limiter.windowSeconds := by exact_mod_cast limiter.positive
  have parts := Int.mul_ediv_add_emod (truncate clock) limiter.windowSeconds
  have edge : truncate clock + wait = (truncate clock / limiter.windowSeconds + 1) * limiter.windowSeconds := by
    rw [waited]
    linarith
  have oneSide : 0 ≤ clock ∨ truncate clock + wait ≤ 0 := by
    by_cases nonneg : 0 ≤ clock
    · exact .inl nonneg
    · right
      have low : clock ≤ -1 := by
        by_contra high
        exact outside ⟨not_le.mp high, not_le.mp nonneg⟩
      have before : truncate clock ≤ -1 := by
        rw [truncate, if_neg nonneg]
        exact Int.ceil_le.mpr (by exact_mod_cast low)
      have quotient : truncate clock / limiter.windowSeconds < 0 :=
        Int.ediv_neg_of_neg_of_pos (by omega) positive
      rw [edge]
      exact mul_nonpos_of_nonpos_of_nonneg (by omega) positive.le
  have reached := (truncate_add wait oneSide).trans (truncate_mono after)
  rw [edge] at reached
  exact Int.lt_of_add_one_le ((Int.le_ediv_iff_mul_le positive).mpr reached)

/-- In the second before zero the clock is taken for zero, and the wait ends before the window. -/
theorem honest_iff (counts : LocalCounts) (call : ConsumeCall ℚ) :
    limiter.Honest counts call ↔ (limiter.Denies counts call → ¬(-1 < call.clock ∧ call.clock < 0)) := by
  constructor
  · rintro honest ⟨positive, full⟩ ⟨low, high⟩
    obtain ⟨decision, consumed⟩ := consume_returns positive counts call.scopeKey call.clock
    obtain ⟨-, allowed, waited, -⟩ := consume_ok consumed
    have denied : decision.allowed = false := by
      rw [Bool.eq_false_iff, ne_eq, allowed]
      exact not_lt.mpr full
    have now : truncate call.clock = 0 := by
      rw [truncate, if_neg (not_le.mpr high), Int.ceil_eq_zero_iff]
      exact ⟨low, high.le⟩
    have later := (honest decision _ consumed denied _ le_rfl).1
    rw [now, Int.zero_emod, sub_zero] at waited
    have seconds : (decision.retryAfterSeconds : ℚ) = limiter.windowSeconds := by exact_mod_cast waited
    have positive : (1 : ℚ) ≤ limiter.windowSeconds := by exact_mod_cast limiter.positive
    have early : truncate (call.clock + limiter.windowSeconds) < limiter.windowSeconds := by
      rw [truncate, if_pos (by linarith), Int.floor_lt]
      push_cast
      linarith
    rw [window, window, now, seconds, Int.zero_ediv] at later
    rw [← one_mul (limiter.windowSeconds : Int)] at early
    have first := Int.ediv_lt_of_lt_mul (by exact_mod_cast limiter.positive) early
    omega
  · intro outside decision next consumed denied later after
    obtain ⟨positive, allowed, waited, rfl⟩ := consume_ok consumed
    rw [denied] at allowed
    have full : limiter.Denies counts call :=
      ⟨positive, not_lt.mp fun room => Bool.noConfusion (allowed.mpr room)⟩
    have apart := window_later (outside full) waited after
    refine ⟨apart, fun between limit some zero others => ?_⟩
    have empty : limiter.after (counted counts call.scopeKey (limiter.window call.clock)) between
        call.scopeKey (limiter.window later) = 0 :=
      after_zero (counted_zero zero fun _ => apart.ne) others
    obtain ⟨admitted, consumed⟩ := consume_returns some (limiter.after _ between) call.scopeKey later
    refine ⟨admitted, _, consumed, (consume_ok consumed).2.1.mpr ?_⟩
    rw [empty]
    exact some

end LocalLimiter

/-- `PostgresFixedWindowRateLimiter.consume`, with the check of its limit -/
def postgresConsume (windows : RateWindows) (call : ConsumeCall (Option ClockReadings)) :
    Result (RateLimitDecision × RateWindows) := do
  raiseIf (call.limit < 1) ⟨.valueError, "rate limit must be positive"⟩
  match consume windows call.scopeKey call.limit call.clock with
  | none => .error ⟨.dataError, "the statement failed"⟩
  | some result => .ok result

/-- The table after more calls; one that raises is rolled back. -/
def windowsAfter (windows : RateWindows) (calls : List (ConsumeCall (Option ClockReadings))) : RateWindows :=
  calls.foldl (fun windows call =>
    match postgresConsume windows call with
    | .ok (_, next) => next
    | .error _ => windows) windows

/-- The call counts in the window. -/
def ConsumeCall.CountsIn (call : ConsumeCall (Option ClockReadings)) (key : String)
    (window : RateWindow) : Prop :=
  call.scopeKey = key ∧ call.clock.map (fun readings => windowOf readings.inserted) = some window

/-- As `LocalLimiter.Honest`; a denial happens at the second reading of the clock, and a later call
reaches its window with the first one. -/
def PostgresHonest (windows : RateWindows) (key : String) (limit : Nat) (clock : ClockReadings) : Prop :=
  ∀ decision next, postgresConsume windows ⟨key, limit, clock⟩ = .ok (decision, next) →
    decision.allowed = false →
    ∀ later : ClockReadings, clock.returned + decision.retryAfterSeconds * 1000000 ≤ later.inserted →
      windowOf clock.inserted < windowOf later.inserted ∧
      ∀ between limit, 1 ≤ limit → windows key (windowOf later.inserted) = 0 →
        (∀ other ∈ between, ¬other.CountsIn key (windowOf later.inserted)) →
        ∃ admitted last, postgresConsume (windowsAfter next between) ⟨key, limit, later⟩ =
          .ok (admitted, last) ∧ admitted.allowed = true

/-- What is left of the window at the second reading, in microseconds. -/
def ClockReadings.remaining (clock : ClockReadings) : Nat :=
  (windowOf clock.inserted + 1) * 60000000 - clock.returned

/-- The call is denied. -/
def PostgresDenies (windows : RateWindows) (key : String) (limit : Nat) (clock : ClockReadings) : Prop :=
  1 ≤ limit ∧ limit ≤ windows key (windowOf clock.inserted) ∧
    windows key (windowOf clock.inserted) < maxInteger

theorem postgresConsume_ok (h : postgresConsume windows call = .ok (decision, next)) :
    ∃ clock, call.clock = some clock ∧ 1 ≤ call.limit ∧
      windows call.scopeKey (windowOf clock.inserted) < maxInteger ∧
      (decision.allowed = true ↔ windows call.scopeKey (windowOf clock.inserted) < call.limit) ∧
      decision.retryAfterSeconds = max 1 (clock.remaining / 1000000) ∧
      next = windows.set call.scopeKey (windowOf clock.inserted)
        (windows call.scopeKey (windowOf clock.inserted) + 1) := by
  obtain ⟨_, positive, h⟩ := bind_ok h
  rw [raiseIf_ok] at positive
  cases readings : call.clock with
  | none => simp [readings, consume] at h
  | some clock =>
    rw [readings] at h
    simp only [consume] at h
    split at h
    · cases h
    · rename_i _ result found
      split at found
      · cases found
      · rename_i fits
        cases found
        cases h
        refine ⟨clock, rfl, not_lt.mp positive, Nat.succ_le_iff.mp (not_lt.mp fits), ?_, rfl, rfl⟩
        rw [decide_eq_true_eq]
        exact Nat.succ_le_iff

theorem postgresConsume_returns (positive : 1 ≤ limit)
    (fits : windows key (windowOf clock.inserted) < maxInteger) :
    ∃ result, postgresConsume windows ⟨key, limit, some clock⟩ = .ok result := by
  have admitted : raiseIf (limit < 1) ⟨.valueError, "rate limit must be positive"⟩ = .ok () :=
    raiseIf_ok.mpr (not_lt.mpr positive)
  simp only [postgresConsume, admitted, ok_bind, consume, if_neg (not_lt.mpr (Nat.succ_le_iff.mpr fits))]
  exact ⟨_, rfl⟩

/-- In an empty window every call is admitted. -/
theorem postgresConsume_admits {clock : ClockReadings} (positive : 1 ≤ limit)
    (empty : windows key (windowOf clock.inserted) = 0) :
    ∃ admitted last, postgresConsume windows ⟨key, limit, some clock⟩ = .ok (admitted, last) ∧
      admitted.allowed = true := by
  have fits : windows key (windowOf clock.inserted) < maxInteger := by
    rw [empty]
    decide
  obtain ⟨⟨admitted, last⟩, consumed⟩ := postgresConsume_returns positive fits
  refine ⟨admitted, last, consumed, ?_⟩
  obtain ⟨readings, same, -, -, allowed, -, -⟩ := postgresConsume_ok consumed
  cases same
  rw [allowed, empty]
  exact positive

theorem windowsAfter_zero {between : List (ConsumeCall (Option ClockReadings))} (zero : windows key w = 0)
    (apart : ∀ other ∈ between, ¬other.CountsIn key w) : windowsAfter windows between key w = 0 := by
  induction between generalizing windows with
  | nil => exact zero
  | cons call between ih =>
    rw [windowsAfter, List.foldl_cons]
    apply ih _ fun other member => apart other (List.mem_cons_of_mem _ member)
    cases consumed : postgresConsume windows call with
    | error e => exact zero
    | ok result =>
      obtain ⟨clock, readings, -, -, -, -, next⟩ := postgresConsume_ok consumed
      dsimp only
      rw [next, RateWindows.set, if_neg]
      · exact zero
      · rintro ⟨rfl, rfl⟩
        exact apart call List.mem_cons_self ⟨rfl, by rw [readings]; rfl⟩

/-- The wait reaches the end of the window if it is not cut down to whole seconds. -/
theorem wait_reaches (clock : ClockReadings) :
    (∀ later : Nat, clock.returned + max 1 (clock.remaining / 1000000) * 1000000 ≤ later →
      windowOf clock.inserted < windowOf later) ↔
    clock.remaining ≤ 1000000 ∨ clock.remaining % 1000000 = 0 := by
  have arithmetic (inserted returned : Nat) :
      (∀ later : Nat, returned + max 1 (((inserted / 60000000 + 1) * 60000000 - returned) / 1000000) * 1000000 ≤
        later → inserted / 60000000 < later / 60000000) ↔
      (inserted / 60000000 + 1) * 60000000 - returned ≤ 1000000 ∨
        ((inserted / 60000000 + 1) * 60000000 - returned) % 1000000 = 0 := by
    constructor
    · intro reaches
      have := reaches _ le_rfl
      omega
    · intro whole later after
      omega
  exact arithmetic clock.inserted clock.returned

theorem postgresHonest_iff (windows : RateWindows) (key : String) (limit : Nat) (clock : ClockReadings) :
    PostgresHonest windows key limit clock ↔ (PostgresDenies windows key limit clock →
      clock.remaining ≤ 1000000 ∨ clock.remaining % 1000000 = 0) := by
  constructor
  · rintro honest ⟨positive, full, fits⟩
    obtain ⟨⟨decision, next⟩, consumed⟩ := postgresConsume_returns positive fits
    obtain ⟨readings, same, -, -, allowed, wait, -⟩ := postgresConsume_ok consumed
    cases same
    have denied : decision.allowed = false := by
      rw [Bool.eq_false_iff, ne_eq, allowed]
      exact not_lt.mpr full
    rw [← wait_reaches]
    intro later after
    rw [← wait] at after
    exact (honest decision next consumed denied ⟨later, later⟩ after).1
  · intro whole decision next consumed denied later after
    obtain ⟨readings, same, positive, fits, allowed, wait, rfl⟩ := postgresConsume_ok consumed
    cases same
    rw [denied] at allowed
    have full : PostgresDenies windows key limit clock :=
      ⟨positive, not_lt.mp fun room => Bool.noConfusion (allowed.mpr room), fits⟩
    rw [wait] at after
    have apart := (wait_reaches clock).mpr (whole full) _ after
    refine ⟨apart, fun between limit some zero others => ?_⟩
    have start : windows.set key (windowOf clock.inserted) (windows key (windowOf clock.inserted) + 1) key
        (windowOf later.inserted) = 0 := by
      rw [RateWindows.set, if_neg fun here => apart.ne here.2.symm]
      exact zero
    exact postgresConsume_admits some (windowsAfter_zero start others)

/-- The local limiter is honest but for clocks in the second before 1970, the limiter over the
database where at most one second or a whole number of seconds of the window is left. -/
theorem retryAfter_honest_iff (limiter : LocalLimiter) (counts : LocalCounts) (call : ConsumeCall ℚ)
    (windows : RateWindows) (key : String) (limit : Nat) (clock : ClockReadings) :
    (limiter.Honest counts call ↔ (limiter.Denies counts call → ¬(-1 < call.clock ∧ call.clock < 0))) ∧
    (PostgresHonest windows key limit clock ↔ (PostgresDenies windows key limit clock →
      clock.remaining ≤ 1000000 ∨ clock.remaining % 1000000 = 0)) :=
  ⟨limiter.honest_iff counts call, postgresHonest_iff windows key limit clock⟩

/-- The first minute is full for one caller, whose limit is one. -/
def fullMinute : RateWindows := fun _ window => if window = 0 then 1 else 0

def halfPastOne : ClockReadings := ⟨1500000, 1500000⟩
def halfPastSixty : ClockReadings := ⟨59500000, 59500000⟩

/-- One and a half seconds into a full window the reported wait is 58 seconds; the call that comes
then meets the same full window. -/
theorem halfSecond_early : ∃ decision next again last,
    postgresConsume fullMinute ⟨"read:ip", 1, halfPastOne⟩ = .ok (decision, next) ∧
      decision.allowed = false ∧
      halfPastOne.returned + decision.retryAfterSeconds * 1000000 = halfPastSixty.inserted ∧
      windowOf halfPastSixty.inserted = windowOf halfPastOne.inserted ∧
      postgresConsume next ⟨"read:ip", 1, halfPastSixty⟩ = .ok (again, last) ∧ again.allowed = false := by
  have first : windowOf halfPastOne.inserted = 0 := by decide
  have second : windowOf halfPastSixty.inserted = 0 := by decide
  refine ⟨⟨false, 1, 0, 58⟩, fullMinute.set "read:ip" 0 2, ⟨false, 1, 0, 1⟩,
    (fullMinute.set "read:ip" 0 2).set "read:ip" 0 3, ?_, rfl, ?_, second.trans first.symm, ?_, rfl⟩
  · simp [postgresConsume, consume, raiseIf, maxInteger, fullMinute, halfPastOne]
    rfl
  · norm_num [halfPastOne, halfPastSixty]
  · simp [postgresConsume, consume, raiseIf, maxInteger, halfPastSixty]
    rfl

end BallotProof
