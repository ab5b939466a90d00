import BallotProof.Decimal

/-! IEEE 754 binary64 values as Python's `float`: reading a decimal literal rounds to
nearest even, and `repr` is the shortest literal that reads back. Finite magnitudes are
counted in units of the smallest subnormal, `2 ^ -1074`. -/
namespace Python

/-- Trailing bits dropped by a 53-bit significand. -/
def shift (floor : Nat) : Nat := Nat.log2 floor + 1 - 53

/-- The integer nearest to `q + r / unit`, the even one on a tie. -/
def roundTies (q r unit : Nat) : Nat :=
  if 2 * r < unit ∨ (2 * r = unit ∧ q % 2 = 0) then q else q + 1

/-- `num / den` rounded to a 53-bit significand, ties to even, without exponent bound. -/
def roundHalfEven (num den : Nat) : Nat :=
  let s := shift (num / den)
  let unit := den * 2 ^ s
  roundTies (num / unit) (num % unit) unit * 2 ^ s

def overflow : Nat := 2 ^ 2098

def Representable (units : Nat) : Prop := 2 ^ shift units ∣ units ∧ units < overflow

instance (units : Nat) : Decidable (Representable units) :=
  inferInstanceAs (Decidable (_ ∧ _))

inductive Binary64 where
  | nan
  | infinity (negative : Bool)
  | finite (negative : Bool) (units : Nat) (representable : Representable units)
  deriving DecidableEq

/-- `x <= 0` -/
def Binary64.nonpositive : Binary64 → Bool
  | .nan => false
  | .infinity negative => negative
  | .finite negative units _ => negative || units = 0

theorem roundHalfEven_exact (h : Representable units) : roundHalfEven units 1 = units := by
  obtain ⟨⟨k, hk⟩, -⟩ := h
  have quotient : units / 2 ^ shift units = k := by
    rw [Nat.div_eq_iff_eq_mul_left (by positivity) ⟨k, hk⟩, mul_comm]; exact hk
  have remainder : units % 2 ^ shift units = 0 := Nat.mod_eq_zero_of_dvd ⟨k, hk⟩
  simp only [roundHalfEven, Nat.div_one, one_mul, quotient, remainder]
  rw [roundTies, if_pos (Or.inl (by positivity)), mul_comm]
  exact hk.symm

theorem roundHalfEven_scale (c num den : Nat) (pos : 0 < c) :
    roundHalfEven (c * num) (c * den) = roundHalfEven num den := by
  have s : c * num / (c * den) = num / den := Nat.mul_div_mul_left _ _ pos
  simp only [roundHalfEven, s, mul_assoc, Nat.mul_div_mul_left _ _ pos, Nat.mul_mod_mul_left]
  congr 1
  unfold roundTies
  have half (r u : Nat) : 2 * (c * r) = c * u ↔ 2 * r = u := by
    rw [show 2 * (c * r) = c * (2 * r) by ring, Nat.mul_left_cancel_iff pos]
  have below (r u : Nat) : 2 * (c * r) < c * u ↔ 2 * r < u := by
    rw [show 2 * (c * r) = c * (2 * r) by ring, Nat.mul_lt_mul_left pos]
  simp only [half, below]

/-- Rounding depends on the ratio only. -/
theorem roundHalfEven_congr (hd : 0 < den) (hd' : 0 < den') (h : num * den' = num' * den) :
    roundHalfEven num den = roundHalfEven num' den' := by
  rw [← roundHalfEven_scale den' num den hd', ← roundHalfEven_scale den num' den' hd,
    mul_comm den' num, h, mul_comm num' den, mul_comm den' den]

theorem shift_dvd (h : shift (m * 2 ^ s) ≤ s) : 2 ^ shift (m * 2 ^ s) ∣ m * 2 ^ s :=
  (pow_dvd_pow 2 h).trans (Dvd.intro_left m rfl)

/-- A rounded magnitude below the overflow threshold is a value of the format. -/
theorem roundHalfEven_representable (num den : Nat)
    (fits : roundHalfEven num den < overflow) : Representable (roundHalfEven num den) := by
  refine ⟨?_, fits⟩
  have quotient : num / (den * 2 ^ shift (num / den)) < 2 ^ 53 := by
    rw [← Nat.div_div_eq_div_mul, Nat.div_lt_iff_lt_mul (by positivity), ← pow_add]
    calc num / den < 2 ^ (Nat.log2 (num / den) + 1) := Nat.lt_log2_self
      _ ≤ 2 ^ (53 + shift (num / den)) := Nat.pow_le_pow_right (by decide) (by unfold shift; omega)
  simp only [roundHalfEven]
  generalize shift (num / den) = s at quotient ⊢
  have bound : roundTies (num / (den * 2 ^ s)) (num % (den * 2 ^ s)) (den * 2 ^ s) ≤ 2 ^ 53 := by
    unfold roundTies; split <;> omega
  generalize roundTies _ _ _ = m at bound
  by_cases small : m < 2 ^ 53
  · apply shift_dvd
    by_cases zero : m = 0
    · simp [zero, shift]
    · have : Nat.log2 (m * 2 ^ s) < 53 + s := by
        rw [Nat.log2_lt (Nat.mul_ne_zero zero (Nat.two_pow_pos s).ne'), pow_add]
        exact Nat.mul_lt_mul_of_pos_right small (Nat.two_pow_pos s)
      unfold shift; omega
  · have full : m = 2 ^ 53 := by omega
    have log : Nat.log2 (2 ^ 53 * 2 ^ s) = 53 + s := by rw [← pow_add, Nat.log2_two_pow]
    rw [full, shift, log]
    exact ⟨2 ^ 52, by rw [← pow_add, ← pow_add]; congr 1; omega⟩

/-- The correctly rounded `± num / den`, counted in units. -/
def ofRatio (negative : Bool) (num den : Nat) : Binary64 :=
  if fits : roundHalfEven num den < overflow then
    .finite negative (roundHalfEven num den) (roundHalfEven_representable num den fits)
  else .infinity negative

theorem ofRatio_congr (hd : 0 < den) (hd' : 0 < den') (h : num * den' = num' * den) :
    ofRatio negative num den = ofRatio negative num' den' := by
  unfold ofRatio
  simp only [roundHalfEven_congr hd hd' h]

theorem ofRatio_exact (h : Representable units) (hd : 0 < den) (exact : num = units * den) :
    ofRatio negative num den = .finite negative units h := by
  have same : num * 1 = units * den := by rw [exact, mul_one]
  rw [ofRatio_congr hd Nat.one_pos same]
  simp [ofRatio, roundHalfEven_exact h, h.2]

/-- Denominator of `digits * 10 ^ exponent` once the numerator carries the other part. -/
def scaleDen (exponent : Int) : Nat := 10 ^ (-exponent).toNat

theorem scaleDen_pos (exponent : Int) : 0 < scaleDen exponent := by unfold scaleDen; positivity

/-- Units in one. -/
def unitsPerOne : Nat := 2 ^ 1074

theorem representable_one : Representable unitsPerOne := by decide +kernel

theorem unitsPerOne_eq : unitsPerOne = 2 ^ 1074 := rfl

def scaleNum (digits : Nat) (exponent : Int) : Nat := digits * 10 ^ exponent.toNat

/-- `digits * 10 ^ exponent` rounded, in units. -/
def magnitude (digits : Nat) (exponent : Int) : Nat :=
  roundHalfEven (scaleNum digits exponent * unitsPerOne) (scaleDen exponent)

/-- `float` of `digits * 10 ^ exponent`. -/
def ofDecimal (negative : Bool) (digits : Nat) (exponent : Int) : Binary64 :=
  ofRatio negative (scaleNum digits exponent * unitsPerOne) (scaleDen exponent)

/-- Moving zeros between digits and exponent leaves the float unchanged. -/
theorem ofDecimal_shift (negative : Bool) (digits j : Nat) (exponent : Int) :
    ofDecimal negative (digits * 10 ^ j) (exponent - j) = ofDecimal negative digits exponent := by
  apply ofRatio_congr (scaleDen_pos _) (scaleDen_pos _)
  have balance : j + (exponent - j).toNat + (-exponent).toNat =
      exponent.toNat + (-(exponent - j)).toNat := by omega
  simp only [scaleNum, scaleDen]
  calc digits * 10 ^ j * 10 ^ (exponent - j).toNat * unitsPerOne * 10 ^ (-exponent).toNat
      = digits * 10 ^ (j + (exponent - j).toNat + (-exponent).toNat) * unitsPerOne := by ring
    _ = digits * 10 ^ (exponent.toNat + (-(exponent - j)).toNat) * unitsPerOne := by rw [balance]
    _ = digits * 10 ^ exponent.toNat * unitsPerOne * 10 ^ (-(exponent - j)).toNat := by ring

/-- Position of the decimal point: the least `p` with `units < 10 ^ p`. -/
def decimalPoint (units : Nat) : Int :=
  ((List.range 640).map fun (i : Nat) => (i : Int) - 325).find?
    (fun p => units * 10 ^ (-p).toNat < 10 ^ p.toNat * unitsPerOne) |>.getD 0

/-- The two neighbours of `units` among the decimals `D * 10 ^ exponent`, nearest first. -/
def neighbours (units : Nat) (exponent : Int) : List Nat :=
  let num := units * 10 ^ (-exponent).toNat
  let den := unitsPerOne * 10 ^ exponent.toNat
  let floor := num / den
  let r := num % den
  if 2 * r < den ∨ (2 * r = den ∧ floor % 2 = 0) then [floor, floor + 1] else [floor + 1, floor]

/-- A decimal with `n` digits that reads back as the float, the nearest one first. -/
def withDigits (units : Nat) (n : Nat) : Option (Nat × Int) :=
  let exponent := decimalPoint units - n
  ((neighbours units exponent).map (·, exponent)).find? fun d => magnitude d.1 d.2 = units

/-- Digits and exponent of `repr`: 17 digits always suffice, so the exact expansion that
closes the search is never used. -/
def shortest (units : Nat) : Nat × Int :=
  ((List.range 17).findSome? fun n => withDigits units (n + 1)).getD (units * 5 ^ 1074, -1074)

theorem ofDecimal_shortest (h : Representable units) :
    ofDecimal negative (shortest units).1 (shortest units).2 = .finite negative units h := by
  unfold shortest
  cases found : (List.range 17).findSome? fun n => withDigits units (n + 1) with
  | none =>
    apply ofRatio_exact h (scaleDen_pos _)
    have two : (10 : Nat) ^ 1074 = 5 ^ 1074 * unitsPerOne := by rw [unitsPerOne, ← Nat.mul_pow]
    have zero : (-1074 : Int).toNat = 0 := rfl
    have back : (-(-1074 : Int)).toNat = 1074 := rfl
    simp only [Option.getD_none, scaleNum, scaleDen, zero, back, two, pow_zero]
    ring
  | some d =>
    obtain ⟨n, -, hn⟩ := List.exists_of_findSome?_eq_some found
    have reads : magnitude d.1 d.2 = units := by simpa using List.find?_some hn
    subst reads
    simp only [Option.getD_some, ofDecimal, ofRatio]
    exact dif_pos h.2

/-- The literal `repr` prints for significant digits `ds` and decimal point `point`. -/
def layout (negative : Bool) (ds : List Char) (point : Int) : Number :=
  if -4 < point ∧ point ≤ 16 then
    if point ≤ 0 then ⟨negative, ['0'], some (List.replicate (-point).toNat '0' ++ ds), none⟩
    else if ds.length ≤ point then
      ⟨negative, ds ++ List.replicate (point.toNat - ds.length) '0', some ['0'], none⟩
    else ⟨negative, ds.take point.toNat, some (ds.drop point.toNat), none⟩
  else
    let exponent := decimal (point - 1).natAbs
    ⟨negative, ds.take 1, if ds.length ≤ 1 then none else some (ds.drop 1),
      some (point - 1 < 0, if exponent.length < 2 then '0' :: exponent else exponent)⟩

/-- Drop trailing zeros, counting them. -/
def trimZeros (digits : List Char) : List Char × Nat :=
  let trimmed := (digits.reverse.dropWhile (· = '0')).reverse
  (trimmed, digits.length - trimmed.length)

/-- `float.__repr__` of a finite value. -/
def reprNumber (negative : Bool) (units : Nat) : Number :=
  if units = 0 then ⟨negative, ['0'], some ['0'], none⟩
  else
    let trimmed := trimZeros (decimal (shortest units).1)
    layout negative trimmed.1 ((shortest units).2 + trimmed.2 + trimmed.1.length)

/-- `float(literal)` -/
def Number.toFloat (n : Number) : Binary64 :=
  let fraction := n.fraction.getD []
  let exponent : Int := match n.exponent with
    | none => 0
    | some (minus, digits) => if minus then -(natOf digits : Int) else natOf digits
  ofDecimal n.negative (natOf (n.whole ++ fraction)) (exponent - fraction.length)

theorem magnitude_zero (exponent : Int) : magnitude 0 exponent = 0 := by
  simp [magnitude, roundHalfEven, scaleNum, roundTies, scaleDen_pos]

theorem shortest_pos (h : Representable units) (pos : 0 < units) : 0 < (shortest units).1 := by
  have read : ofDecimal false _ _ = _ := ofDecimal_shortest h
  by_contra zero
  rw [Nat.eq_zero_of_not_pos zero, ofDecimal, ofRatio] at read
  split at read
  · have read : magnitude 0 (shortest units).2 = units := (Binary64.finite.inj read).2
    rw [magnitude_zero] at read
    omega
  · cases read

theorem trimZeros_spec (digits : List Char) :
    (trimZeros digits).1 ++ List.replicate (trimZeros digits).2 '0' = digits := by
  have split := List.takeWhile_append_dropWhile (p := (· = '0')) (l := digits.reverse)
  have zeros : digits.reverse.takeWhile (· = '0') =
      List.replicate (digits.reverse.takeWhile (· = '0')).length '0' := by
    rw [List.eq_replicate_iff]
    exact ⟨rfl, fun c hc => by simpa using List.mem_takeWhile_imp hc⟩
  have whole := congrArg List.reverse split
  rw [List.reverse_append, List.reverse_reverse, zeros, List.reverse_replicate] at whole
  have count : (trimZeros digits).2 = (digits.reverse.takeWhile (· = '0')).length := by
    have := congrArg List.length split
    simp only [List.length_append, List.length_reverse] at this
    simp only [trimZeros, List.length_reverse]
    omega
  rw [count]
  exact whole

theorem decimal_head (pos : 0 < n) : ∃ c rest, decimal n = c :: rest ∧ c ≠ '0' := by
  have whole := decimal_wholePart n
  have value := natOf_decimal n
  cases form : decimal n with
  | nil => exact absurd form (decimal_ne_nil n)
  | cons c rest =>
    refine ⟨c, rest, rfl, ?_⟩
    rintro rfl
    rw [form] at whole value
    have empty : rest = [] := by simp [wholePart] at whole; exact whole.2
    subst empty
    have : n = 0 := value.symm
    omega

/-- Significant digits as `repr` lays them out. -/
structure Significant (ds : List Char) : Prop where
  digits : ∀ c ∈ ds, c.isDigit = true
  lead : ∃ c rest, ds = c :: rest ∧ c ≠ '0'

theorem trimZeros_significant (pos : 0 < n) : Significant (trimZeros (decimal n)).1 := by
  have spec := trimZeros_spec (decimal n)
  obtain ⟨c, rest, form, lead⟩ := decimal_head pos
  constructor
  · intro d hd
    exact decimal_isDigit n d (spec ▸ List.mem_append_left _ hd)
  · cases h : (trimZeros (decimal n)).1 with
    | nil =>
      rw [h, List.nil_append] at spec
      have value := natOf_replicate_zero (trimZeros (decimal n)).2
      rw [spec, natOf_decimal] at value
      omega
    | cons d ds =>
      rw [h, form, List.cons_append] at spec
      exact ⟨d, ds, rfl, (List.cons.inj spec).1 ▸ lead⟩

theorem Significant.digitString (h : Significant ds) : digitString ds = true := by
  obtain ⟨c, rest, rfl, -⟩ := h.lead
  exact digitString_iff.mpr ⟨by simp, h.digits⟩

theorem Significant.wholePart (h : Significant ds) (zeros : Nat) :
    wholePart (ds ++ List.replicate zeros '0') = true := by
  obtain ⟨c, rest, rfl, lead⟩ := h.lead
  have digits := h.digits
  simp only [List.mem_cons, forall_eq_or_imp] at digits
  simp only [List.cons_append, Python.wholePart, Bool.and_eq_true, Bool.or_eq_true, bne_iff_ne,
    List.all_eq_true, List.mem_append, List.mem_replicate]
  refine ⟨⟨digits.1, ?_⟩, Or.inl lead⟩
  rintro d (hd | ⟨-, rfl⟩)
  · exact digits.2 d hd
  · rfl

theorem layout_valid (h : Significant ds) : (layout negative ds point).valid = true := by
  obtain ⟨c, rest, form, lead⟩ := h.lead
  have digits := h.digits
  unfold layout
  split
  · split
    · simp only [Number.valid, Option.all_some, Option.all_none, Bool.and_true]
      refine Bool.and_eq_true _ _ ▸ ⟨rfl, digitString_iff.mpr ⟨by simp [form], ?_⟩⟩
      intro d hd
      rcases List.mem_append.mp hd with hd | hd
      · rw [List.eq_of_mem_replicate hd]; rfl
      · exact digits d hd
    · split
      · simp only [Number.valid, h.wholePart, Option.all_some, Option.all_none]
        rfl
      · rename_i small positive long
        have some : 0 < point.toNat := by omega
        have whole : Significant (ds.take point.toNat) := by
          refine ⟨fun d hd => digits d (List.mem_of_mem_take hd), c, rest.take (point.toNat - 1), ?_, lead⟩
          obtain ⟨k, hk⟩ : ∃ k, point.toNat = k + 1 := ⟨point.toNat - 1, by omega⟩
          simp [form, hk]
        have fraction : Python.digitString (ds.drop point.toNat) = true := by
          refine digitString_iff.mpr ⟨?_, fun d hd => digits d (List.mem_of_mem_drop hd)⟩
          simp only [ne_eq, List.drop_eq_nil_iff]
          omega
        have := whole.wholePart 0
        simp_all [Number.valid]
  · have exponent : Python.digitString (decimal (point - 1).natAbs) = true :=
      digitString_iff.mpr ⟨decimal_ne_nil _, decimal_isDigit _⟩
    have padded : Python.digitString ('0' :: decimal (point - 1).natAbs) = true :=
      digitString_iff.mpr ⟨by simp, by
        simp only [List.mem_cons, forall_eq_or_imp]; exact ⟨rfl, decimal_isDigit _⟩⟩
    have first : Python.wholePart [c] = true := by
      simp [Python.wholePart, digits c (by simp [form])]
    simp only [Number.valid, form, List.take_succ_cons, List.take_zero, first, Bool.true_and]
    refine Bool.and_eq_true _ _ ▸ ⟨?_, by simp only [Option.all_some]; split <;> assumption⟩
    split
    · rfl
    · rename_i long
      refine digitString_iff.mpr ⟨by simp at long ⊢; exact long, fun d hd => digits d ?_⟩
      exact form ▸ List.mem_of_mem_drop hd

theorem natOf_zero_cons (digits : List Char) : natOf ('0' :: digits) = natOf digits := by
  rw [← List.singleton_append, natOf_append]; simp [natOf, digitValue]

/-- Whatever layout is chosen, the literal denotes `ds` scaled to the decimal point. -/
theorem layout_toFloat (h : Significant ds) (point : Int) :
    (layout negative ds point).toFloat = ofDecimal negative (natOf ds) (point - ds.length) := by
  obtain ⟨c, rest, form, -⟩ := h.lead
  unfold layout
  split
  · split
    · rename_i low
      simp only [Number.toFloat, Option.getD_some, List.singleton_append, natOf_zero_cons,
        natOf_append, natOf_replicate_zero, zero_mul, zero_add, List.length_append,
        List.length_replicate]
      congr 1
      push_cast
      omega
    · split
      · rename_i fits
        simp only [Number.toFloat, Option.getD_some, natOf_append, natOf_replicate_zero]
        rw [← ofDecimal_shift negative (natOf ds) (point.toNat - ds.length + 1)
          (point - ds.length)]
        congr 1
        · simp [natOf, digitValue, pow_succ, mul_assoc]
        · simp only [List.length_singleton]
          push_cast
          omega
      · rename_i positive long
        simp only [Number.toFloat, Option.getD_some, List.take_append_drop, List.length_drop]
        congr 1
        omega
  · have digits : ∀ short : Bool, natOf (if short then '0' :: decimal (point - 1).natAbs
        else decimal (point - 1).natAbs) = (point - 1).natAbs := by
      intro short
      cases short <;> simp [natOf_zero_cons]
    have fraction : (if ds.length ≤ 1 then none else some (ds.drop 1)).getD [] = ds.drop 1 := by
      split
      · rename_i short
        simp [List.drop_eq_nil_of_le short]
      · rfl
    have value : (natOf (if (decimal (point - 1).natAbs).length < 2 then
        '0' :: decimal (point - 1).natAbs else decimal (point - 1).natAbs)) =
        (point - 1).natAbs := by
      simpa using digits (decide ((decimal (point - 1).natAbs).length < 2))
    simp only [Number.toFloat, fraction, List.take_append_drop, value, List.length_drop]
    congr 1
    have nonempty : 1 ≤ ds.length := by simp [form]
    by_cases sign : point - 1 < 0
    · simp only [sign, decide_true, if_true]
      omega
    · simp only [sign, decide_false, Bool.false_eq_true, if_false]
      omega

theorem reprNumber_valid (h : Representable units) : (reprNumber negative units).valid = true := by
  unfold reprNumber
  split
  · rfl
  · rename_i nonzero
    exact layout_valid (trimZeros_significant (shortest_pos h (Nat.pos_of_ne_zero nonzero)))

/-- `float(repr(x)) == x`, sign of zero included. -/
theorem reprNumber_toFloat (h : Representable units) :
    (reprNumber negative units).toFloat = .finite negative units h := by
  unfold reprNumber
  split
  · rename_i zero
    subst zero
    simp only [Number.toFloat, ofDecimal]
    refine ofRatio_exact h (scaleDen_pos _) ?_
    have value : natOf ['0', '0'] = 0 := rfl
    simp [scaleNum, value]
  · have trimmed := trimZeros_spec (decimal (shortest units).1)
    have pos : 0 < units := by omega
    rw [layout_toFloat (trimZeros_significant (shortest_pos h pos)), ← ofDecimal_shortest h,
      ← ofDecimal_shift _ _ (trimZeros (decimal (shortest units).1)).2]
    have value := congrArg natOf trimmed
    rw [natOf_append, natOf_replicate_zero, List.length_replicate, natOf_decimal, Nat.add_zero]
      at value
    have point (e : Int) (a b : Nat) : e + a + b - b - a = e := by omega
    rw [value, point]

end Python
