import BallotProof.Datetime
import Mathlib.Tactic

/-! The date printed for a day grows with the day. Eras of 400 years begin in March, so the
leap day is the last day of its year. -/
namespace Python

/-- Day of the era less its leap days: 365 for each whole year. -/
def eraYears (day : Nat) : Nat := day - day / 1460 + day / 36524 - day / 146096

/-- Days of the era before its `year`. -/
def yearStart (year : Nat) : Nat := 365 * year + year / 4 - year / 100

theorem eraYears_mono (le : d ≤ e) (era : e < 146097) : eraYears d ≤ eraYears e := by
  induction e, le using Nat.le_induction with
  | base => exact le_rfl
  | succ e le ih =>
    refine (ih (by omega)).trans ?_
    unfold eraYears
    omega

theorem eraYears_start : ∀ year < 400, 365 * year ≤ eraYears (yearStart year) ∧
    (0 < year → eraYears (yearStart year - 1) < 365 * year) := by decide +kernel

theorem yearStart_bound : ∀ year < 400, yearStart year < 146097 := by decide +kernel

/-- The year of a day of the era. -/
theorem yearOfEra_spec (era : day < 146097) : eraYears day / 365 < 400 ∧
    yearStart (eraYears day / 365) ≤ day ∧ day < yearStart (eraYears day / 365) + 366 := by
  set year := eraYears day / 365 with hy
  have below : 365 * year ≤ eraYears day := Nat.mul_div_le _ _
  have above : eraYears day < 365 * (year + 1) := Nat.lt_mul_div_succ _ (by norm_num)
  have inEra : year < 400 := by unfold eraYears at hy; omega
  refine ⟨inEra, ?_, ?_⟩
  · by_contra less
    have positive : 0 < year := by
      by_contra zero
      have : year = 0 := by omega
      simp [this, yearStart] at less
    have := eraYears_mono (show day ≤ yearStart year - 1 by omega)
      (by have := yearStart_bound year inEra; omega)
    have := (eraYears_start year inEra).2 positive
    omega
  · rcases Nat.lt_or_ge (year + 1) 400 with next | last
    · by_contra more
      have step : yearStart (year + 1) ≤ yearStart year + 366 := by unfold yearStart; omega
      have := eraYears_mono (show yearStart (year + 1) ≤ day by omega) era
      have := (eraYears_start (year + 1) next).1
      omega
    · have : year = 399 := by omega
      simp only [this, yearStart]
      omega

/-- The digits of a date, read as one number. -/
def Civil.number (date : Civil) : Nat := date.year * 10000 + date.month * 100 + date.day

theorem civil_bounds (days : Nat) : 1 ≤ (civil days).month ∧ (civil days).month ≤ 12 ∧
    1 ≤ (civil days).day ∧ (civil days).day ≤ 31 := by
  have spec := yearOfEra_spec (Nat.mod_lt (days + 719468) (show 0 < 146097 by norm_num))
  unfold eraYears yearStart at spec
  simp only [civil]
  split_ifs <;> omega

/-- The digits of the month and the day, for years that begin in March. -/
def marchNumber (dayOfYear : Nat) : Nat :=
  let shifted := (5 * dayOfYear + 2) / 153
  (if shifted < 10 then (shifted + 3) * 100 else 10000 + (shifted - 9) * 100) +
    (dayOfYear - (153 * shifted + 2) / 5 + 1)

theorem marchNumber_succ : ∀ day < 365, marchNumber day < marchNumber (day + 1) := by decide +kernel

theorem marchNumber_lt (less : d < e) (year : e ≤ 365) : marchNumber d < marchNumber e := by
  induction e, less using Nat.le_induction with
  | base => exact marchNumber_succ d (by omega)
  | succ e less ih => exact (ih (by omega)).trans (marchNumber_succ e (by omega))

theorem marchNumber_bounds : ∀ day ≤ 365, 301 ≤ marchNumber day ∧ marchNumber day ≤ 10231 := by
  decide +kernel

/-- The date of a day of a year that begins in March. -/
def marchDate (year dayOfYear : Nat) : Civil :=
  let shifted := (5 * dayOfYear + 2) / 153
  let month := if shifted < 10 then shifted + 3 else shifted - 9
  ⟨if month ≤ 2 then year + 1 else year, month, dayOfYear - (153 * shifted + 2) / 5 + 1⟩

theorem marchDate_number (year : Nat) (within : day ≤ 365) :
    (marchDate year day).number = year * 10000 + marchNumber day := by
  simp only [marchDate, Civil.number, marchNumber]
  by_cases early : (5 * day + 2) / 153 < 10
  · simp only [early, if_true]
    split_ifs <;> omega
  · simp only [early, if_false]
    split_ifs <;> omega

theorem civil_eq (days : Nat) : civil days =
    marchDate (eraYears ((days + 719468) % 146097) / 365 + (days + 719468) / 146097 * 400)
      ((days + 719468) % 146097 - yearStart (eraYears ((days + 719468) % 146097) / 365)) := rfl

theorem civil_number_lt (less : d < e) : (civil d).number < (civil e).number := by
  have left := yearOfEra_spec (Nat.mod_lt (d + 719468) (show 0 < 146097 by norm_num))
  have right := yearOfEra_spec (Nat.mod_lt (e + 719468) (show 0 < 146097 by norm_num))
  have mono := @eraYears_mono ((d + 719468) % 146097) ((e + 719468) % 146097)
  rw [civil_eq, civil_eq, marchDate_number _ (by omega), marchDate_number _ (by omega)]
  set dayOfEra := (d + 719468) % 146097
  set dayOfEra' := (e + 719468) % 146097
  set year := eraYears dayOfEra / 365
  set year' := eraYears dayOfEra' / 365
  have low := marchNumber_bounds (dayOfEra - yearStart year) (by omega)
  have high := marchNumber_bounds (dayOfEra' - yearStart year') (by omega)
  rcases Nat.lt_or_ge ((d + 719468) / 146097) ((e + 719468) / 146097) with era | era
  · omega
  · have within : dayOfEra < dayOfEra' := by omega
    have years : year ≤ year' := Nat.div_le_div_right (mono within.le (by omega))
    rcases years.lt_or_eq with years | years
    · omega
    · have := marchNumber_lt (show dayOfEra - yearStart year < dayOfEra' - yearStart year' by
        rw [years] at left ⊢; omega) (by omega)
      omega

theorem civil_number_le (le : d ≤ e) : (civil d).number ≤ (civil e).number := by
  rcases le.eq_or_lt with rfl | less
  · exact le_rfl
  · exact (civil_number_lt less).le

end Python
