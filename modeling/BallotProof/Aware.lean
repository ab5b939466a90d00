import BallotProof.Bytes
import BallotProof.Calendar
import Mathlib.Data.String.Basic

/-! Timezone-aware datetimes: the instant, the offset of the timezone, and `isoformat`. -/
namespace Python

/-- Local times of the years 1 to 9999, in microseconds since 1970-01-01. -/
def minLocal : Int := -62135596800000000
def maxLocal : Int := 253402300800000000

def microsPerDay : Int := 86400000000

/-- `instant` is in microseconds since 1970 UTC, `offset` is `utcoffset()` in microseconds. -/
@[ext] structure Datetime where
  instant : Int
  offset : Int
  offset_day : -microsPerDay < offset ∧ offset < microsPerDay
  local_range : minLocal ≤ instant + offset ∧ instant + offset < maxLocal
  deriving DecidableEq

namespace Datetime

/-- `t + timedelta(microseconds=delta)` -/
def add (t : Datetime) (delta : Int) : Result Datetime :=
  if range : minLocal ≤ t.instant + delta + t.offset ∧ t.instant + delta + t.offset < maxLocal then
    .ok ⟨t.instant + delta, t.offset, t.offset_day, range⟩
  else .error ⟨.overflowError, "date value out of range"⟩

theorem add_ok {t next : Datetime} (h : t.add delta = .ok next) :
    next.instant = t.instant + delta ∧ next.offset = t.offset := by
  unfold add at h
  split at h
  · cases h
    exact ⟨rfl, rfl⟩
  · cases h

theorem utc_offset : -microsPerDay < (0 : Int) ∧ (0 : Int) < microsPerDay := by decide

theorem epoch_range : minLocal ≤ 0 ∧ 0 < maxLocal := by decide

/-- `datetime.now(UTC)` when the clock reads `instant`. -/
def utc (instant : Int) (range : minLocal ≤ instant ∧ instant < maxLocal) : Datetime :=
  ⟨instant, 0, utc_offset, by simpa using range⟩

/-- Date of a day count since 1970-01-01; the calendar repeats every 400 years. -/
def civilOf (day : Int) : Civil :=
  let date := civil (day + 730485).toNat
  { date with year := date.year - 2000 }

def dateText (date : Civil) : List Char :=
  padded 4 date.year ++ '-' :: padded 2 date.month ++ '-' :: padded 2 date.day

def timeText (seconds : Nat) : List Char :=
  padded 2 (seconds / 3600) ++ ':' :: padded 2 (seconds / 60 % 60) ++ ':' :: padded 2 (seconds % 60)

/-- Microseconds, when there are any. -/
def fractionText (micros : Nat) : List Char := if micros = 0 then [] else '.' :: padded 6 micros

def localText (t : Int) : List Char :=
  let micros := (t % microsPerDay).toNat
  dateText (civilOf (t / microsPerDay)) ++ 'T' :: timeText (micros / 1000000) ++ fractionText (micros % 1000000)

/-- Hours and minutes of the offset, with seconds and microseconds only when there are any. -/
def offsetText (offset : Int) : List Char :=
  let micros := offset.natAbs
  let seconds := micros / 1000000
  (if offset < 0 then '-' else '+') :: padded 2 (seconds / 3600) ++
    ':' :: padded 2 (seconds / 60 % 60) ++
    (if micros % 60000000 = 0 then [] else ':' :: padded 2 (seconds % 60)) ++
    (if micros % 1000000 = 0 then [] else '.' :: padded 6 (micros % 1000000))

/-- `t.isoformat()` -/
def isoformat (t : Datetime) : String :=
  String.ofList (localText (t.instant + t.offset) ++ offsetText t.offset)

example : isoformat ⟨1709210096000789, -18000000000, by decide, by decide⟩ =
    "2024-02-29T07:34:56.000789-05:00" := by decide +kernel

end Datetime

/-- `timedelta(seconds=seconds)` -/
def timedelta (seconds : Int) : Int := seconds * 1000000

/-- `timedelta(minutes=1)` -/
def minute : Int := timedelta 60

theorem append_lt_append {a b : List Char} (less : a < b) (same : a.length = b.length) (x y : List Char) :
    a ++ x < b ++ y := by
  induction a generalizing b with
  | nil =>
    cases b with
    | nil => exact absurd less (List.not_lt_nil _)
    | cons c b => cases same
  | cons c a ih =>
    cases b with
    | nil => cases same
    | cons d b =>
      rw [List.cons_append, List.cons_append, List.cons_lt_cons_iff]
      rcases List.cons_lt_cons_iff.mp less with head | ⟨rfl, tail⟩
      · exact .inl head
      · exact .inr ⟨rfl, ih tail (by simpa using same)⟩

theorem digitValue_lt (digit : c.isDigit = true) : digitValue c < 10 := by
  simp only [Char.isDigit, Bool.and_eq_true, decide_eq_true_eq] at digit
  have high : c.val.toNat ≤ 57 := UInt32.le_iff_toNat_le.mp digit.2
  simp only [digitValue, Char.toNat]
  omega

theorem natOf_cons (c : Char) (rest : List Char) :
    natOf (c :: rest) = digitValue c * 10 ^ rest.length + natOf rest := by
  have split := natOf_append [c] rest
  simpa [natOf] using split

theorem natOf_lt (digits : ∀ c ∈ ds, Char.isDigit c = true) : natOf ds < 10 ^ ds.length := by
  induction ds with
  | nil => simp
  | cons c rest ih =>
    have head := digitValue_lt (digits c List.mem_cons_self)
    have tail := ih fun d member => digits d (List.mem_cons_of_mem _ member)
    rw [natOf_cons, List.length_cons, pow_succ]
    nlinarith

/-- Digit strings of one length are ordered as their values. -/
theorem digits_lt (left : ∀ c ∈ ds, Char.isDigit c = true) (right : ∀ c ∈ es, Char.isDigit c = true)
    (same : ds.length = es.length) (less : natOf ds < natOf es) : ds < es := by
  induction ds generalizing es with
  | nil =>
    cases es with
    | nil => exact absurd less (lt_irrefl _)
    | cons => cases same
  | cons c ds ih =>
    cases es with
    | nil => cases same
    | cons d es =>
      have same : ds.length = es.length := by simpa using same
      have left' := fun e member => left e (List.mem_cons_of_mem c member)
      have right' := fun e member => right e (List.mem_cons_of_mem d member)
      have low := natOf_lt left'
      have high := natOf_lt right'
      rw [natOf_cons, natOf_cons, same] at less
      rw [same] at low
      rcases Nat.lt_trichotomy (digitValue c) (digitValue d) with head | head | head
      · refine List.cons_lt_cons_iff.mpr (.inl ?_)
        have : c.toNat < d.toNat := by
          unfold digitValue at head
          omega
        exact this
      · rw [head] at less
        have equal : c = d := by
          rw [← digitChar_digitValue (left c List.mem_cons_self), head,
            digitChar_digitValue (right d List.mem_cons_self)]
        exact List.cons_lt_cons_iff.mpr (.inr ⟨equal, ih left' right' same (by omega)⟩)
      · have : (digitValue d + 1) * 10 ^ es.length ≤ digitValue c * 10 ^ es.length :=
          Nat.mul_le_mul_right _ head
        rw [add_mul, one_mul] at this
        omega

theorem natOf_padded (width n : Nat) : natOf (padded width n) = n := by
  rw [padded, natOf_append, natOf_replicate_zero, zero_mul, zero_add, natOf_decimal]

theorem padded_isDigit (width n : Nat) : ∀ c ∈ padded width n, c.isDigit = true := by
  intro c member
  rcases List.mem_append.mp member with zero | digit
  · rw [List.eq_of_mem_replicate zero]
    rfl
  · exact decimal_isDigit n c digit

theorem padded_length (positive : 0 < width) (fits : n < 10 ^ width) : (padded width n).length = width := by
  have short : (decimal n).length ≤ width := by
    unfold decimal
    split
    · exact positive
    · rename_i nonzero
      rw [List.length_map, List.length_reverse]
      exact (Nat.digits_length_le_iff (by norm_num) n).mpr fits
  rw [padded, List.length_append, List.length_replicate]
  omega

theorem decimal_length_le (positive : 0 < width) (fits : n < 10 ^ width) :
    (decimal n).length ≤ width := by
  have length := padded_length positive fits
  rw [padded, List.length_append] at length
  omega

theorem padded_lt (positive : 0 < width) (fits : b < 10 ^ width) (less : a < b) :
    padded width a < padded width b := by
  refine digits_lt (padded_isDigit _ _) (padded_isDigit _ _) ?_ (by simpa [natOf_padded] using less)
  rw [padded_length positive (less.trans fits), padded_length positive fits]

namespace Datetime

/-- The calendar agrees with the one that starts 2000 years later. -/
theorem civilOf_number {day : Int} (years : -719162 ≤ day ∧ day < 2932897) :
    (civil (day + 730485).toNat).number = (civilOf day).number + 20000000 ∧
      (civilOf day).year < 10000 := by
  have low : (civil 11323).number = 20010101 := by decide +kernel
  have high : (civil 3663382).number = 120000101 := by decide +kernel
  have bounds := civil_bounds (day + 730485).toNat
  have first : (civil 11323).number ≤ (civil (day + 730485).toNat).number :=
    civil_number_le (by omega)
  have last : (civil (day + 730485).toNat).number < (civil 3663382).number :=
    civil_number_lt (by omega)
  rw [low] at first
  rw [high] at last
  unfold civilOf Civil.number
  unfold Civil.number at first last
  simp only
  omega

/-- The digits of the date fit the places that are printed. -/
structure Printable (date : Civil) : Prop where
  year : date.year < 10 ^ 4
  month : date.month < 10 ^ 2
  day : date.day < 10 ^ 2

theorem civilOf_printable {day : Int} (years : -719162 ≤ day ∧ day < 2932897) :
    Printable (civilOf day) := by
  obtain ⟨-, month, -, date⟩ := civil_bounds (day + 730485).toNat
  exact ⟨(civilOf_number years).2, month.trans_lt (by norm_num), date.trans_lt (by norm_num)⟩

theorem civilOf_lt {d e : Int} (low : -719162 ≤ d) (less : d < e) (high : e < 2932897) :
    (civilOf d).number < (civilOf e).number := by
  have left := (civilOf_number ⟨low, less.trans high⟩).1
  have right := (civilOf_number ⟨low.trans less.le, high⟩).1
  have later : (civil (d + 730485).toNat).number < (civil (e + 730485).toNat).number :=
    civil_number_lt (by omega)
  rw [left, right] at later
  exact Nat.lt_of_add_lt_add_right later

theorem dateText_length (fits : Printable date) : (dateText date).length = 10 := by
  simp [dateText, padded_length (by norm_num) fits.year, padded_length (by norm_num) fits.month,
    padded_length (by norm_num) fits.day]

theorem dateText_lt (left : Printable a) (right : Printable b) (less : a.number < b.number) :
    dateText a < dateText b := by
  obtain ⟨year, month, date⟩ := left
  obtain ⟨year', month', date'⟩ := right
  unfold Civil.number at less
  simp only [dateText, List.append_assoc]
  rcases Nat.lt_trichotomy a.year b.year with years | years | years
  · exact append_lt_append (padded_lt (by norm_num) year' years)
      ((padded_length (by norm_num) year).trans (padded_length (by norm_num) year').symm) _ _
  · rw [years]
    refine List.append_left_lt (List.cons_lt_cons_iff.mpr (.inr ⟨rfl, ?_⟩))
    rcases Nat.lt_trichotomy a.month b.month with months | months | months
    · exact append_lt_append (padded_lt (by norm_num) month' months)
        ((padded_length (by norm_num) month).trans (padded_length (by norm_num) month').symm) _ _
    · rw [months]
      exact List.append_left_lt (List.cons_lt_cons_iff.mpr
        (.inr ⟨rfl, padded_lt (by norm_num) date' (by omega)⟩))
    · omega
  · omega

theorem timeText_length (day : seconds < 86400) : (timeText seconds).length = 8 := by
  have h := @padded_length 2 (seconds / 3600) (by norm_num) (by omega)
  have m := @padded_length 2 (seconds / 60 % 60) (by norm_num) (by omega)
  have s := @padded_length 2 (seconds % 60) (by norm_num) (by omega)
  simp [timeText, h, m, s]

theorem timeText_lt (less : s < t) (day : t < 86400) : timeText s < timeText t := by
  have hour := @padded_length 2 (s / 3600) (by norm_num) (by omega)
  have hour' := @padded_length 2 (t / 3600) (by norm_num) (by omega)
  have minute := @padded_length 2 (s / 60 % 60) (by norm_num) (by omega)
  have minute' := @padded_length 2 (t / 60 % 60) (by norm_num) (by omega)
  simp only [timeText, List.append_assoc]
  rcases Nat.lt_trichotomy (s / 3600) (t / 3600) with hours | hours | hours
  · exact append_lt_append (padded_lt (by norm_num) (by omega) hours) (hour.trans hour'.symm) _ _
  · rw [hours]
    refine List.append_left_lt (List.cons_lt_cons_iff.mpr (.inr ⟨rfl, ?_⟩))
    rcases Nat.lt_trichotomy (s / 60 % 60) (t / 60 % 60) with minutes | minutes | minutes
    · exact append_lt_append (padded_lt (by norm_num) (by omega) minutes)
        (minute.trans minute'.symm) _ _
    · rw [minutes]
      exact List.append_left_lt (List.cons_lt_cons_iff.mpr
        (.inr ⟨rfl, padded_lt (by norm_num) (by omega) (by omega)⟩))
    · omega
  · omega

/-- Without a fraction the sign of the offset follows, which sorts before the point. -/
theorem fractionText_lt (less : a < b) (second : b < 10 ^ 6) (offset : Int) :
    fractionText a ++ offsetText offset < fractionText b ++ offsetText offset := by
  have some : b ≠ 0 := by omega
  by_cases none : a = 0
  · simp only [fractionText, none, some, if_true, if_false, List.nil_append, List.cons_append]
    by_cases negative : offset < 0
    · simp only [offsetText, negative, if_true, List.cons_append]
      exact List.cons_lt_cons_iff.mpr (.inl (by decide))
    · simp only [offsetText, negative, if_false, List.cons_append]
      exact List.cons_lt_cons_iff.mpr (.inl (by decide))
  · simp only [fractionText, none, some, if_false, List.cons_append]
    refine List.cons_lt_cons_iff.mpr (.inr ⟨rfl, append_lt_append (padded_lt (by norm_num) second less) ?_ _ _⟩)
    rw [padded_length (by norm_num) (less.trans second), padded_length (by norm_num) second]

theorem localText_lt {t u : Int} (low : minLocal ≤ t) (less : t < u) (high : u < maxLocal) (offset : Int) :
    localText t ++ offsetText offset < localText u ++ offsetText offset := by
  unfold minLocal at low
  unfold maxLocal at high
  have first : -719162 ≤ t / microsPerDay := by unfold microsPerDay; omega
  have last : u / microsPerDay < 2932897 := by unfold microsPerDay; omega
  have days : t / microsPerDay ≤ u / microsPerDay := Int.ediv_le_ediv (by decide) less.le
  have left := civilOf_printable ⟨first, days.trans_lt last⟩
  have right := civilOf_printable ⟨first.trans days, last⟩
  have inDay : (t % microsPerDay).toNat / 1000000 < 86400 := by unfold microsPerDay; omega
  have inDay' : (u % microsPerDay).toNat / 1000000 < 86400 := by unfold microsPerDay; omega
  simp only [localText, List.append_assoc, List.cons_append]
  rcases days.lt_or_eq with days | days
  · exact append_lt_append (dateText_lt left right (civilOf_lt first days last))
      ((dateText_length left).trans (dateText_length right).symm) _ _
  · rw [days]
    refine List.append_left_lt (List.cons_lt_cons_iff.mpr (.inr ⟨rfl, ?_⟩))
    have micros : (t % microsPerDay).toNat < (u % microsPerDay).toNat := by
      unfold microsPerDay at days ⊢
      omega
    rcases (Nat.div_le_div_right micros.le : _ / 1000000 ≤ _ / 1000000).lt_or_eq with seconds | seconds
    · exact append_lt_append (timeText_lt seconds inDay')
        ((timeText_length inDay).trans (timeText_length inDay').symm) _ _
    · rw [seconds]
      exact List.append_left_lt (fractionText_lt (by omega) (by omega) offset)

/-- The texts of datetimes with one offset sort as their instants. -/
theorem isoformat_lt_of_offset {t u : Datetime} (shared : t.offset = u.offset) :
    t.isoformat < u.isoformat ↔ t.instant < u.instant := by
  have mono {t u : Datetime} (shared : t.offset = u.offset) (less : t.instant < u.instant) :
      t.isoformat < u.isoformat := by
    simp only [isoformat, shared, String.lt_iff_toList_lt, String.toList_ofList]
    exact localText_lt (shared ▸ t.local_range.1) (by omega) u.local_range.2 u.offset
  refine ⟨fun texts => ?_, mono shared⟩
  rcases lt_trichotomy t.instant u.instant with less | same | more
  · exact less
  · have : t.isoformat = u.isoformat := by simp [isoformat, shared, same]
    rw [this] at texts
    exact absurd texts (lt_irrefl _)
  · exact absurd (texts.trans (mono shared.symm more)) (lt_irrefl _)

/-- The texts of UTC datetimes sort as their instants. -/
theorem isoformat_lt {t u : Datetime} (left : t.offset = 0) (right : u.offset = 0) :
    t.isoformat < u.isoformat ↔ t.instant < u.instant := isoformat_lt_of_offset (left.trans right.symm)

theorem padded_injective (width : Nat) : Function.Injective (padded width) := by
  intro a b same
  rw [← natOf_padded width a, ← natOf_padded width b, same]

theorem dateText_injective (left : Printable a) (right : Printable b) (same : dateText a = dateText b) :
    a.number = b.number := by
  rcases Nat.lt_trichotomy a.number b.number with less | equal | more
  · exact absurd same (dateText_lt left right less).ne
  · exact equal
  · exact absurd same (dateText_lt right left more).ne'

theorem civilOf_injective {d e : Int} (first : -719162 ≤ d ∧ d < 2932897)
    (second : -719162 ≤ e ∧ e < 2932897) (same : (civilOf d).number = (civilOf e).number) : d = e := by
  rcases lt_trichotomy d e with less | equal | more
  · exact absurd same (civilOf_lt first.1 less second.2).ne
  · exact equal
  · exact absurd same (civilOf_lt second.1 more first.2).ne'

theorem timeText_injective (left : s < 86400) (right : t < 86400) (same : timeText s = timeText t) :
    s = t := by
  rcases Nat.lt_trichotomy s t with less | equal | more
  · exact absurd same (timeText_lt less right).ne
  · exact equal
  · exact absurd same (timeText_lt more left).ne'

/-- The fraction ends where the sign of the offset stands. -/
theorem fractionText_injective (left : a < 10 ^ 6) (right : b < 10 ^ 6)
    (same : fractionText a ++ offsetText o = fractionText b ++ offsetText p) :
    a = b ∧ offsetText o = offsetText p := by
  have sign (offset : Int) : ∃ c rest, offsetText offset = c :: rest ∧ c ≠ '.' := by
    unfold offsetText
    by_cases negative : offset < 0
    · exact ⟨'-', _, by simp only [negative, if_true]; rfl, by decide⟩
    · exact ⟨'+', _, by simp only [negative, if_false]; rfl, by decide⟩
  obtain ⟨c, rest, leads, plain⟩ := sign o
  obtain ⟨d, rest', leads', plain'⟩ := sign p
  by_cases none : a = 0 <;> by_cases none' : b = 0
  · rw [none, none'] at same ⊢
    exact ⟨rfl, by simpa [fractionText] using same⟩
  · simp only [fractionText, none, none', if_true, if_false, List.nil_append, List.cons_append, leads] at same
    exact absurd (List.cons.inj same).1 plain
  · simp only [fractionText, none, none', if_true, if_false, List.nil_append, List.cons_append, leads'] at same
    exact absurd (List.cons.inj same).1.symm plain'
  · simp only [fractionText, none, none', if_false, List.cons_append] at same
    have lengths := (padded_length (by norm_num) left).trans (padded_length (by norm_num) right).symm
    obtain ⟨digits, rest⟩ := List.append_inj (List.cons.inj same).2 lengths
    exact ⟨padded_injective 6 digits, rest⟩

/-- Seconds and microseconds of an offset, each there when it is needed. -/
theorem offsetTail_injective {m n : Nat}
    (same : (if m % 60000000 = 0 then [] else ':' :: padded 2 (m / 1000000 % 60)) ++
        (if m % 1000000 = 0 then [] else '.' :: padded 6 (m % 1000000)) =
      (if n % 60000000 = 0 then [] else ':' :: padded 2 (n / 1000000 % 60)) ++
        (if n % 1000000 = 0 then [] else '.' :: padded 6 (n % 1000000))) :
    m % 60000000 = n % 60000000 := by
  have whole (k : Nat) (zero : k % 60000000 = 0) : k % 1000000 = 0 := by omega
  have length (k : Nat) : (padded 2 (k / 1000000 % 60)).length = 2 :=
    padded_length (by norm_num) (by omega)
  by_cases zero : m % 60000000 = 0 <;> by_cases zero' : n % 60000000 = 0
  · omega
  · simp [zero, zero', whole m zero] at same
  · simp [zero, zero', whole n zero'] at same
  · simp only [zero, zero', if_false, List.cons_append] at same
    obtain ⟨seconds, micros⟩ := List.append_inj (List.cons.inj same).2 ((length m).trans (length n).symm)
    have seconds := padded_injective 2 seconds
    have micros : m % 1000000 = n % 1000000 := by
      by_cases none : m % 1000000 = 0 <;> by_cases none' : n % 1000000 = 0
      · omega
      · simp [none, none'] at micros
      · simp [none, none'] at micros
      · simp only [none, none', if_false] at micros
        exact padded_injective 6 (List.cons.inj micros).2
    omega

theorem offsetText_injective {o p : Int} (left : -microsPerDay < o ∧ o < microsPerDay)
    (right : -microsPerDay < p ∧ p < microsPerDay) (same : offsetText o = offsetText p) : o = p := by
  unfold microsPerDay at left right
  have hours (k : Int) (day : -86400000000 < k ∧ k < 86400000000) :
      (padded 2 (k.natAbs / 1000000 / 3600)).length = 2 := padded_length (by norm_num) (by omega)
  have minutes (k : Int) : (padded 2 (k.natAbs / 1000000 / 60 % 60)).length = 2 :=
    padded_length (by norm_num) (by omega)
  simp only [offsetText, List.cons_append, List.append_assoc, List.cons.injEq] at same
  obtain ⟨sign, same⟩ := same
  obtain ⟨hour, same⟩ := List.append_inj same ((hours o left).trans (hours p right).symm)
  obtain ⟨minute, same⟩ := List.append_inj (List.cons.inj same).2 ((minutes o).trans (minutes p).symm)
  have hour := padded_injective 2 hour
  have minute := padded_injective 2 minute
  have rest := offsetTail_injective same
  have size : o.natAbs = p.natAbs := by omega
  by_cases negative : o < 0 <;> by_cases negative' : p < 0
  · omega
  · simp [negative, negative'] at sign
  · simp [negative, negative'] at sign
  · omega

/-- The text of a datetime determines it. -/
theorem isoformat_injective : Function.Injective isoformat := by
  intro t u same
  have same : localText (t.instant + t.offset) ++ offsetText t.offset =
      localText (u.instant + u.offset) ++ offsetText u.offset := by
    simpa [isoformat] using congrArg String.toList same
  have days (v : Datetime) : -719162 ≤ (v.instant + v.offset) / microsPerDay ∧
      (v.instant + v.offset) / microsPerDay < 2932897 := by
    have := v.local_range
    unfold minLocal maxLocal at this
    unfold microsPerDay
    omega
  have seconds (v : Datetime) : ((v.instant + v.offset) % microsPerDay).toNat / 1000000 < 86400 := by
    unfold microsPerDay
    omega
  have left := civilOf_printable (days t)
  have right := civilOf_printable (days u)
  simp only [localText, List.append_assoc, List.cons_append] at same
  obtain ⟨date, same⟩ := List.append_inj same
    ((dateText_length left).trans (dateText_length right).symm)
  obtain ⟨time, same⟩ := List.append_inj (List.cons.inj same).2
    ((timeText_length (seconds t)).trans (timeText_length (seconds u)).symm)
  obtain ⟨micros, offset⟩ := fractionText_injective (by omega) (by omega) same
  have day := civilOf_injective (days t) (days u) (dateText_injective left right date)
  have second := timeText_injective (seconds t) (seconds u) time
  have offset := offsetText_injective t.offset_day u.offset_day offset
  have instant : t.instant = u.instant := by
    unfold microsPerDay at day second micros
    omega
  cases t
  cases u
  simp_all

theorem localText_length {t : Int} (range : minLocal ≤ t ∧ t < maxLocal) :
    (localText t).length = 19 ∨ (localText t).length = 26 := by
  have days : -719162 ≤ t / microsPerDay ∧ t / microsPerDay < 2932897 := by
    unfold minLocal maxLocal at range
    unfold microsPerDay
    omega
  have seconds : (t % microsPerDay).toNat / 1000000 < 86400 := by
    unfold microsPerDay
    omega
  have date := dateText_length (civilOf_printable days)
  have time := timeText_length seconds
  have fraction : (fractionText ((t % microsPerDay).toNat % 1000000)).length = 0 ∨
      (fractionText ((t % microsPerDay).toNat % 1000000)).length = 7 := by
    unfold fractionText
    split
    · exact .inl rfl
    · exact .inr (by rw [List.length_cons, padded_length (by norm_num) (by omega)])
  simp only [localText, List.length_append, List.length_cons, date, time]
  omega

theorem offsetText_length {offset : Int} (day : -microsPerDay < offset ∧ offset < microsPerDay) :
    (offsetText offset).length ∈ [6, 9, 13, 16] := by
  unfold microsPerDay at day
  have hours : (padded 2 (offset.natAbs / 1000000 / 3600)).length = 2 :=
    padded_length (by norm_num) (by omega)
  have minutes : (padded 2 (offset.natAbs / 1000000 / 60 % 60)).length = 2 :=
    padded_length (by norm_num) (by omega)
  have seconds : (padded 2 (offset.natAbs / 1000000 % 60)).length = 2 :=
    padded_length (by norm_num) (by omega)
  have micros : (padded 6 (offset.natAbs % 1000000)).length = 6 := padded_length (by norm_num) (by omega)
  simp only [offsetText, List.length_append, List.length_cons, hours, minutes]
  split_ifs <;> simp [seconds, micros]

end Datetime

/-- A `datetime`, which may be without a timezone. -/
inductive Timestamp where
  | naive (time : Int) (range : minLocal ≤ time ∧ time < maxLocal)
  | aware (t : Datetime)
  deriving DecidableEq

namespace Timestamp

/-- `t.utcoffset()`, in microseconds. -/
def utcoffset : Timestamp → Option Int
  | .naive .. => none
  | .aware t => some t.offset

def isoformat : Timestamp → String
  | .naive time _ => String.ofList (Datetime.localText time)
  | .aware t => t.isoformat

def isAware : Timestamp → Bool
  | .naive .. => false
  | .aware _ => true

/-- The local time without a timezone, the instant with one. -/
def moment : Timestamp → Int
  | .naive time _ => time
  | .aware t => t.instant

/-- `a < b`, which is `b > a`. -/
def lt (a b : Timestamp) : Result Bool :=
  if a.isAware = b.isAware then .ok (a.moment < b.moment)
  else .error ⟨.typeError, "can't compare offset-naive and offset-aware datetimes"⟩

/-- The two can be compared, and `a` is the earlier one. -/
def Before (a b : Timestamp) : Prop := a.lt b = .ok true

instance (a b : Timestamp) : Decidable (Before a b) :=
  decidable_of_iff (a.isAware = b.isAware ∧ a.moment < b.moment) <| by
    unfold Before lt
    split <;> simp [*]

theorem before_iff {a b : Timestamp} : a.Before b ↔ a.isAware = b.isAware ∧ a.moment < b.moment := by
  unfold Before lt
  split <;> simp [*]

theorem lt_eq_ok {a b : Timestamp} :
    a.lt b = .ok earlier ↔ a.isAware = b.isAware ∧ earlier = decide (a.moment < b.moment) := by
  unfold lt
  split <;> simp [*, eq_comm]

/-- `t + timedelta(microseconds=delta)` -/
def add (t : Timestamp) (delta : Int) : Result Timestamp :=
  match t with
  | .naive time _ =>
    if range : minLocal ≤ time + delta ∧ time + delta < maxLocal then .ok (.naive (time + delta) range)
    else .error ⟨.overflowError, "date value out of range"⟩
  | .aware t => (t.add delta).map .aware

theorem add_isAware {t sum : Timestamp} (h : t.add delta = .ok sum) : sum.isAware = t.isAware := by
  cases t with
  | naive time range =>
    dsimp only [add] at h
    split at h
    · cases h
      rfl
    · cases h
  | aware t =>
    obtain ⟨later, -, rfl⟩ := map_ok h
    rfl

theorem naive_ne_aware (range : minLocal ≤ time ∧ time < maxLocal) (t : Datetime) :
    isoformat (.naive time range) ≠ isoformat (.aware t) := by
  intro same
  have same : Datetime.localText time =
      Datetime.localText (t.instant + t.offset) ++ Datetime.offsetText t.offset := by
    simpa [isoformat, Datetime.isoformat] using congrArg String.toList same
  have lengths := congrArg List.length same
  have left := Datetime.localText_length range
  have right := Datetime.localText_length t.local_range
  have offset := Datetime.offsetText_length t.offset_day
  simp only [List.mem_cons, List.not_mem_nil, or_false] at offset
  rw [List.length_append] at lengths
  omega

/-- The text determines the datetime. -/
theorem isoformat_injective : Function.Injective isoformat := by
  intro t u same
  cases t with
  | naive time range =>
    cases u with
    | naive time' range' =>
      have text := congrArg String.toList same
      simp only [isoformat, String.toList_ofList] at text
      have equal : Datetime.isoformat ⟨time, 0, by decide, by simpa using range⟩ =
          Datetime.isoformat ⟨time', 0, by decide, by simpa using range'⟩ := by
        simp [Datetime.isoformat, text]
      have instants := congrArg Datetime.instant (Datetime.isoformat_injective equal)
      cases instants
      rfl
    | aware u => exact absurd same (naive_ne_aware range u)
  | aware t =>
    cases u with
    | naive time range => exact absurd same.symm (naive_ne_aware range t)
    | aware u => rw [Datetime.isoformat_injective same]

end Timestamp

end Python
