import BallotProof.JsonReader

/-! The power of ten at which the shortest literal of a float ends: a literal below `10 ^ 16`
keeps a digit after the decimal point, one from `10 ^ 16` on is a whole number in exponent form. -/
namespace Python

/-- The digits of a literal read as one number. -/
def Number.coefficient (n : Number) : Nat := natOf (n.whole ++ n.fraction.getD [])

/-- The power of ten its last digit stands for. -/
def Number.power (n : Number) : Int :=
  (match n.exponent with
    | none => 0
    | some (minus, digits) => if minus then -(natOf digits : Int) else natOf digits) -
  (n.fraction.getD []).length

theorem Number.toFloat_eq (n : Number) : n.toFloat = ofDecimal n.negative n.coefficient n.power := rfl

theorem decimal_length_le_iff (pos : 0 < k) : (decimal n).length ≤ k ↔ n < 10 ^ k := by
  unfold decimal
  split
  · rename_i zero
    simp [zero]
    omega
  · rw [List.length_map, List.length_reverse]
    exact Nat.digits_length_le_iff (by decide) _

theorem decimal_length_pos (n : Nat) : 0 < (decimal n).length := List.length_pos_iff.mpr (decimal_ne_nil n)

/-- Rounding never falls below a value of the format. -/
theorem roundHalfEven_ge (h : Representable units) (pos : 0 < den) (above : units * den ≤ num) :
    units ≤ roundHalfEven num den := by
  have floor : units ≤ num / den := (Nat.le_div_iff_mul_le pos).mpr above
  have ties (q r unit : Nat) : q ≤ roundTies q r unit := by
    unfold roundTies
    split <;> omega
  have quotient : num / (den * 2 ^ shift (num / den)) = num / den / 2 ^ shift (num / den) :=
    (Nat.div_div_eq_div_mul ..).symm
  refine le_trans ?_ (Nat.mul_le_mul_right _ (ties _ _ _))
  rw [quotient]
  generalize num / den = whole at floor
  by_cases same : shift whole ≤ shift units
  · obtain ⟨k, hk⟩ := (pow_dvd_pow 2 same).trans h.1
    have dropped : k ≤ whole / 2 ^ shift whole := by
      rw [Nat.le_div_iff_mul_le (Nat.two_pow_pos _), mul_comm, ← hk]
      exact floor
    calc units = k * 2 ^ shift whole := by rw [mul_comm]; exact hk
      _ ≤ whole / 2 ^ shift whole * 2 ^ shift whole := Nat.mul_le_mul_right _ dropped
  · -- the leading bit of the rounded number already exceeds `units`
    have longer : Nat.log2 units < Nat.log2 whole := by
      unfold shift at same
      omega
    have whole_ne : whole ≠ 0 := by
      rintro rfl
      simp at longer
    have power : 2 ^ shift whole ∣ 2 ^ Nat.log2 whole := pow_dvd_pow 2 (by unfold shift; omega)
    calc units ≤ 2 ^ Nat.log2 whole := by
          have small : units < 2 ^ (Nat.log2 units + 1) := Nat.lt_log2_self
          exact small.le.trans (Nat.pow_le_pow_right (by decide) longer)
      _ = 2 ^ Nat.log2 whole / 2 ^ shift whole * 2 ^ shift whole := (Nat.div_mul_cancel power).symm
      _ ≤ whole / 2 ^ shift whole * 2 ^ shift whole :=
          Nat.mul_le_mul_right _ (Nat.div_le_div_right (Nat.log2_self_le whole_ne))

/-- `1e16`, from which on `repr` prints an exponent. -/
def exponentFrom : Nat := 10 ^ 16 * unitsPerOne

theorem exponentFrom_representable : Representable exponentFrom := by decide +kernel

theorem magnitude_of_reads {h : Representable units}
    (read : ofDecimal negative digits exponent = .finite negative units h) :
    magnitude digits exponent = units := by
  rw [ofDecimal, ofRatio] at read
  split at read
  · exact (Binary64.finite.inj read).2
  · cases read

theorem magnitude_shortest (h : Representable units) :
    magnitude (shortest units).1 (shortest units).2 = units :=
  magnitude_of_reads (@ofDecimal_shortest _ false h)

theorem trimZeros_length (digits : List Char) :
    (trimZeros digits).1.length + (trimZeros digits).2 = digits.length := by
  have spec := congrArg List.length (trimZeros_spec digits)
  simpa using spec

/-- Every zero that a factor of ten puts at the end is trimmed. -/
theorem trimZeros_count (pos : 0 < n) (divides : 10 ^ k ∣ n) : k ≤ (trimZeros (decimal n)).2 := by
  by_contra fewer
  have significant := trimZeros_significant pos
  have value := congrArg natOf (trimZeros_spec (decimal n))
  rw [natOf_append, natOf_replicate_zero, List.length_replicate, natOf_decimal, Nat.add_zero] at value
  have tens : 10 ∣ natOf (trimZeros (decimal n)).1 := by
    generalize (trimZeros (decimal n)).2 = zeros at fewer value
    have more : 10 ^ (zeros + 1) ∣ n := (pow_dvd_pow 10 (by omega)).trans divides
    rw [← value, pow_succ, mul_comm (10 ^ zeros)] at more
    exact Nat.dvd_of_mul_dvd_mul_right (by positivity) more
  cases reversed : (decimal n).reverse.dropWhile (· = '0') with
  | nil =>
    obtain ⟨c, rest, form, -⟩ := significant.lead
    simp [trimZeros, reversed] at form
  | cons c rest =>
    have form : (trimZeros (decimal n)).1 = rest.reverse ++ [c] := by simp [trimZeros, reversed]
    have nonzero : c ≠ '0' := by
      have head := List.head?_dropWhile_not (· = '0') (decimal n).reverse
      rw [reversed] at head
      simpa using head
    have digit := significant.digits c (by simp [form])
    have small : digitValue c < 10 := by
      simp only [Char.isDigit, Bool.and_eq_true, decide_eq_true_eq] at digit
      have high : c.toNat ≤ 57 := digit.2
      unfold digitValue
      omega
    rw [form, natOf_append] at tens
    simp only [List.length_singleton, pow_one, natOf, List.reverse_singleton, List.map_singleton,
      Nat.ofDigits_singleton] at tens
    have zero : digitValue c = 0 := by omega
    have back := digitChar_digitValue digit
    rw [zero] at back
    exact nonzero back.symm

/-- Where `repr` puts the decimal point. -/
theorem reprNumber_layout (nonzero : units ≠ 0) : reprNumber negative units =
    layout negative (trimZeros (decimal (shortest units).1)).1
      ((shortest units).2 + (decimal (shortest units).1).length) := by
  have lengths := trimZeros_length (decimal (shortest units).1)
  simp only [reprNumber, nonzero, if_false]
  rw [← lengths]
  push_cast
  rw [add_assoc, add_comm (Nat.cast (trimZeros _).2)]

theorem layout_power_neg (h : Significant ds) (low : point ≤ 16) : (layout negative ds point).power < 0 := by
  obtain ⟨c, rest, rfl, -⟩ := h.lead
  unfold layout
  split
  · split
    · simp [Number.power]
      omega
    · split
      · simp [Number.power]
      · simp [Number.power] at *
        omega
  · rename_i outside
    have small : point - 1 < 0 := by omega
    have size : ((point - 1).natAbs : Int) = 1 - point := by omega
    have digits (b : Prop) [Decidable b] (l : List Char) :
        natOf (if b then '0' :: l else l) = natOf l := by split <;> simp [natOf_zero_cons]
    simp only [Number.power, small, decide_true, if_true, digits, natOf_decimal, size]
    split <;> simp <;> omega

theorem layout_power_exponent (h : Significant ds) (high : 16 < point) :
    (layout negative ds point).power = point - ds.length := by
  obtain ⟨c, rest, rfl, -⟩ := h.lead
  have outside : ¬(-4 < point ∧ point ≤ 16) := by omega
  have large : ¬point - 1 < 0 := by omega
  have size : ((point - 1).natAbs : Int) = point - 1 := by omega
  have digits (b : Prop) [Decidable b] (l : List Char) :
      natOf (if b then '0' :: l else l) = natOf l := by split <;> simp [natOf_zero_cons]
  simp only [layout, outside, if_false, Number.power, large, decide_false, Bool.false_eq_true, digits,
    natOf_decimal, size]
  split
  · rename_i short
    simp at short ⊢
    omega
  · simp
    omega

theorem pow_le_iff_decimal_length (pos : 0 < n) : 10 ^ k ≤ n ↔ k < (decimal n).length := by
  by_cases zero : k = 0
  · subst zero
    simp only [pow_zero, decimal_length_pos, iff_true]
    exact pos
  · rw [← not_lt, ← decimal_length_le_iff (Nat.pos_of_ne_zero zero), not_le]

/-- Below `1e16` the last printed digit stands after the decimal point. -/
theorem reprNumber_power_neg (h : Representable units) (small : units < exponentFrom) :
    (reprNumber negative units).power < 0 := by
  by_cases zero : units = 0
  · simp [reprNumber, zero, Number.power]
  · rw [reprNumber_layout zero]
    apply layout_power_neg (trimZeros_significant (shortest_pos h (Nat.pos_of_ne_zero zero)))
    have reads := magnitude_shortest h
    have some := shortest_pos h (Nat.pos_of_ne_zero zero)
    by_contra far
    generalize (shortest units).1 = digits at reads some far
    generalize (shortest units).2 = exponent at reads far
    have large : 10 ^ 16 * scaleDen exponent ≤ scaleNum digits exponent := by
      have pos := decimal_length_pos digits
      have lead : 10 ^ ((decimal digits).length - 1) ≤ digits :=
        (pow_le_iff_decimal_length some).mpr (by omega)
      calc 10 ^ 16 * scaleDen exponent = 10 ^ (16 + (-exponent).toNat) := by rw [scaleDen, ← pow_add]
        _ ≤ 10 ^ ((decimal digits).length - 1 + exponent.toNat) :=
            Nat.pow_le_pow_right (by decide) (by omega)
        _ ≤ scaleNum digits exponent := by
            rw [scaleNum, pow_add]
            exact Nat.mul_le_mul_right _ lead
    have above : exponentFrom ≤ units := by
      rw [← reads]
      apply roundHalfEven_ge exponentFrom_representable (scaleDen_pos _)
      rw [exponentFrom, mul_right_comm]
      exact Nat.mul_le_mul_right _ large
    omega

theorem exponentFrom_dvd (h : Representable units) (large : exponentFrom ≤ units) : unitsPerOne ∣ units := by
  have nonzero : units ≠ 0 := by
    rintro rfl
    exact absurd large (by decide +kernel)
  have bits : 1126 ≤ Nat.log2 units := by
    rw [Nat.le_log2 nonzero]
    exact le_trans (by decide +kernel) large
  rw [unitsPerOne_eq]
  exact (pow_dvd_pow 2 (by unfold shift; omega)).trans h.1

theorem decimalPoint_large (h : Representable units) (large : exponentFrom ≤ units) :
    16 < decimalPoint units := by
  unfold decimalPoint
  cases found : ((List.range 640).map fun (i : Nat) => (i : Int) - 325).find?
      (fun p => units * 10 ^ (-p).toNat < 10 ^ p.toNat * unitsPerOne) with
  | none =>
    exfalso
    have last := List.find?_eq_none.mp found 314 (by simp; exact ⟨639, by decide, by decide⟩)
    simp only [decide_eq_true_eq, not_lt] at last
    have top : overflow ≤ 10 ^ 314 * unitsPerOne := by decide +kernel
    have fits := h.2
    have one : units * 10 ^ (-(314 : Int)).toNat = units := by simp
    have power : (314 : Int).toNat = 314 := rfl
    rw [one, power] at last
    exact absurd (lt_of_lt_of_le fits (top.trans last)) (lt_irrefl _)
  | some p =>
    have below := List.find?_some found
    simp only [decide_eq_true_eq] at below
    simp only [Option.getD_some]
    by_contra near
    have bound : 10 ^ p.toNat * unitsPerOne ≤ exponentFrom :=
      Nat.mul_le_mul_right _ (Nat.pow_le_pow_right (by decide) (by omega))
    have up : units ≤ units * 10 ^ (-p).toNat := Nat.le_mul_of_pos_right _ (by positivity)
    omega

theorem unitsPerOne_pos : 0 < unitsPerOne := by
  rw [unitsPerOne_eq]
  exact Nat.two_pow_pos _

theorem neighbours_ge (near : digits ∈ neighbours units exponent) :
    units * 10 ^ (-exponent).toNat / (unitsPerOne * 10 ^ exponent.toNat) ≤ digits := by
  unfold neighbours at near
  dsimp only at near
  split at near
  all_goals
    simp only [List.mem_cons, List.not_mem_nil, or_false] at near
    omega

/-- Up to 17 digits of a number from `1e16` on end at the unit or above it. -/
theorem withDigits_large (large : exponentFrom ≤ units) (point : 16 < decimalPoint units) (few : n ≤ 17)
    (picked : withDigits units n = some d) (some : 0 < d.1) :
    0 ≤ d.2 ∧ 16 < d.2 + (decimal d.1).length := by
  obtain ⟨digits, near, rfl⟩ := List.mem_map.mp (List.mem_of_find?_eq_some picked)
  have floor := neighbours_ge near
  dsimp only at some ⊢
  have integral : 0 ≤ decimalPoint units - n := by omega
  generalize decimalPoint units - n = exponent at floor integral ⊢
  refine ⟨integral, ?_⟩
  have plain : (-exponent).toNat = 0 := by omega
  rw [plain, pow_zero, mul_one] at floor
  by_cases reached : 16 < exponent
  · have := decimal_length_pos digits
    omega
  · have tens : 10 ^ (16 - exponent.toNat) ≤ digits := by
      apply le_trans ?_ floor
      rw [Nat.le_div_iff_mul_le (Nat.mul_pos unitsPerOne_pos (by positivity))]
      calc 10 ^ (16 - exponent.toNat) * (unitsPerOne * 10 ^ exponent.toNat)
          = 10 ^ (16 - exponent.toNat + exponent.toNat) * unitsPerOne := by rw [pow_add]; ring
        _ = exponentFrom := by rw [Nat.sub_add_cancel (by omega), exponentFrom]
        _ ≤ units := large
    have long := (pow_le_iff_decimal_length some).mp tens
    omega

/-- From `1e16` on the shortest digits, with their zeros, reach the unit. -/
theorem shortest_large (h : Representable units) (large : exponentFrom ≤ units) :
    16 < (shortest units).2 + (decimal (shortest units).1).length ∧
      0 ≤ (shortest units).2 + (trimZeros (decimal (shortest units).1)).2 := by
  have some := shortest_pos h (Nat.pos_of_ne_zero (by rintro rfl; exact absurd large (by decide +kernel)))
  cases found : (List.range 17).findSome? fun n => withDigits units (n + 1) with
  | none =>
    have whole : shortest units = (units * 5 ^ 1074, -1074) := by rw [shortest, found]; rfl
    rw [whole] at some ⊢
    dsimp only at some ⊢
    obtain ⟨k, hk⟩ := exponentFrom_dvd h large
    have tens : units * 5 ^ 1074 = k * 10 ^ 1074 := by
      rw [hk, unitsPerOne_eq, mul_right_comm, ← Nat.mul_pow, mul_comm]
    have bound : 10 ^ 16 ≤ k := by
      rw [hk, exponentFrom, mul_comm unitsPerOne] at large
      exact Nat.le_of_mul_le_mul_right large unitsPerOne_pos
    have zeros := trimZeros_count some ⟨k, by rw [tens, mul_comm]⟩
    have long : 1090 < (decimal (units * 5 ^ 1074)).length := by
      rw [← pow_le_iff_decimal_length some, tens]
      calc 10 ^ 1090 = 10 ^ 16 * 10 ^ 1074 := pow_add 10 16 1074
        _ ≤ k * 10 ^ 1074 := Nat.mul_le_mul_right _ bound
    omega
  | some d =>
    have chosen : shortest units = d := by rw [shortest, found]; rfl
    obtain ⟨n, member, picked⟩ := List.exists_of_findSome?_eq_some found
    rw [chosen] at some ⊢
    have few := List.mem_range.mp member
    obtain ⟨integral, far⟩ := withDigits_large large (decimalPoint_large h large) few picked some
    exact ⟨far, by omega⟩

/-- From `1e16` on the literal is a whole number in exponent form. -/
theorem reprNumber_power_nonneg (h : Representable units) (large : exponentFrom ≤ units) :
    0 ≤ (reprNumber negative units).power := by
  have nonzero : units ≠ 0 := by
    rintro rfl
    exact absurd large (by decide +kernel)
  obtain ⟨far, reached⟩ := shortest_large h large
  have lengths := trimZeros_length (decimal (shortest units).1)
  rw [reprNumber_layout nonzero,
    layout_power_exponent (trimZeros_significant (shortest_pos h (Nat.pos_of_ne_zero nonzero))) far]
  omega

end Python
