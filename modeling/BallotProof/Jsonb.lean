import BallotProof.Dict
import BallotProof.ReprScale

/-! The type `jsonb` of PostgreSQL: numbers are kept as decimals with a scale and without a
negative zero, and come back as the plain decimal text that `json.loads` reads. -/
namespace Sql
open Python

/-- A value of type `numeric`: `coefficient / 10 ^ scale`. -/
structure NumericValue where
  negative : Bool
  coefficient : Nat
  scale : Nat
  signed : negative = true → coefficient ≠ 0
  deriving DecidableEq

/-- `numeric_in` keeps as many digits after the point as the literal has past its exponent. -/
def numericIn (n : Number) : NumericValue where
  negative := n.negative && decide (scaleNum n.coefficient n.power ≠ 0)
  coefficient := scaleNum n.coefficient n.power
  scale := (-n.power).toNat
  signed := by simp

/-- `n` in at least `width` digits. -/
def padded (width n : Nat) : List Char := List.replicate (width - (decimal n).length) '0' ++ decimal n

/-- `numeric_out` -/
def NumericValue.out (x : NumericValue) : Number where
  negative := x.negative
  whole := decimal (x.coefficient / 10 ^ x.scale)
  fraction := if x.scale = 0 then none else some (padded x.scale (x.coefficient % 10 ^ x.scale))
  exponent := none

inductive Jsonb where
  | null
  | bool (value : Bool)
  | number (value : NumericValue)
  | string (text : String)
  | array (items : List Jsonb)
  | object (entries : List (String × Jsonb))

/-- Text of the database holds no NUL. -/
def storedText (text : String) : Result String :=
  if '\x00' ∈ text.toList then .error ⟨.dataError, "PostgreSQL text cannot contain NUL (0x00)"⟩ else .ok text

/-- The literal `json.dumps` prints for an int. -/
def intNumber (n : Int) : Number := ⟨decide (n < 0), decimal n.natAbs, none, none⟩

mutual
/-- `CAST(json.dumps(value) AS JSONB)`: `NaN` and `Infinity` are no JSON. -/
def jsonbOf : Json → Result Jsonb
  | .null => .ok .null
  | .bool value => .ok (.bool value)
  | .int n => .ok (.number (numericIn (intNumber n)))
  | .float (.finite negative units _) => .ok (.number (numericIn (reprNumber negative units)))
  | .float _ => .error ⟨.dataError, "invalid input syntax for type json"⟩
  | .str text => (storedText text).map .string
  | .arr items => (jsonbItems items).map .array
  | .obj entries => (jsonbEntries entries).map .object

def jsonbItems : List Json → Result (List Jsonb)
  | [] => .ok []
  | item :: rest => do
    let first ← jsonbOf item
    let others ← jsonbItems rest
    .ok (first :: others)

def jsonbEntries : List (String × Json) → Result (List (String × Jsonb))
  | [] => .ok []
  | (key, value) :: rest => do
    let key ← storedText key
    let first ← jsonbOf value
    let others ← jsonbEntries rest
    .ok ((key, first) :: others)
end

mutual
/-- `json.loads` on the text of a `jsonb` value. -/
def Jsonb.loads : Jsonb → Result Json
  | .null => .ok .null
  | .bool value => .ok (.bool value)
  | .number x => x.out.toJson
  | .string text => .ok (.str text)
  | .array items => (loadItems items).map .arr
  | .object entries => (loadEntries entries).map fun pairs => .obj (dictOf pairs)

def loadItems : List Jsonb → Result (List Json)
  | [] => .ok []
  | item :: rest => do
    let first ← item.loads
    let others ← loadItems rest
    .ok (first :: others)

def loadEntries : List (String × Jsonb) → Result (List (String × Json))
  | [] => .ok []
  | (key, value) :: rest => do
    let first ← value.loads
    let others ← loadEntries rest
    .ok ((key, first) :: others)
end

mutual
/-- A value whose floats are below `1e16` in magnitude and not `-0.0`. -/
def keptByJsonb : Json → Bool
  | .float (.finite negative units _) => decide (units < exponentFrom) && !(negative && decide (units = 0))
  | .float _ => false
  | .arr items => keptItems items
  | .obj entries => keptEntries entries
  | _ => true

def keptItems : List Json → Bool
  | [] => true
  | item :: rest => keptByJsonb item && keptItems rest

def keptEntries : List (String × Json) → Bool
  | [] => true
  | (_, value) :: rest => keptByJsonb value && keptEntries rest
end

mutual
/-- No nan and no infinity inside. -/
def finiteFloats : Json → Bool
  | .float (.finite ..) => true
  | .float _ => false
  | .arr items => finiteItems items
  | .obj entries => finiteEntries entries
  | _ => true

def finiteItems : List Json → Bool
  | [] => true
  | item :: rest => finiteFloats item && finiteItems rest

def finiteEntries : List (String × Json) → Bool
  | [] => true
  | (_, value) :: rest => finiteFloats value && finiteEntries rest
end

theorem natOf_padded (width n : Nat) : natOf (padded width n) = n := by
  rw [padded, natOf_append, natOf_replicate_zero, zero_mul, zero_add, natOf_decimal]

theorem padded_length (pos : 0 < width) (small : n < 10 ^ width) : (padded width n).length = width := by
  have short := (decimal_length_le_iff pos).mpr small
  simp only [padded, List.length_append, List.length_replicate]
  omega

/-- The text of a `numeric` denotes its value. -/
theorem NumericValue.out_toFloat (x : NumericValue) (fractional : x.scale ≠ 0) :
    x.out.toFloat = ofDecimal x.negative x.coefficient (-x.scale) := by
  have pos := Nat.pos_of_ne_zero fractional
  have length := padded_length pos (Nat.mod_lt x.coefficient (show 0 < 10 ^ x.scale by positivity))
  rw [Number.toFloat_eq]
  simp only [out, fractional, if_false, Number.coefficient, Number.power, Option.getD_some, natOf_append,
    natOf_decimal, natOf_padded, length, zero_sub]
  congr 1
  exact Nat.div_add_mod' ..

/-- A literal with a digit after its point comes back as a float. -/
theorem numericIn_fraction {n : Number} (fractional : n.power < 0) : (numericIn n).out.toJson =
    .ok (.float (ofDecimal (n.negative && decide (n.coefficient ≠ 0)) n.coefficient n.power)) := by
  have scale : (numericIn n).scale ≠ 0 := by
    simp only [numericIn]
    omega
  have same : scaleNum n.coefficient n.power = n.coefficient := by
    have : n.power.toNat = 0 := by omega
    rw [scaleNum, this, pow_zero, mul_one]
  have point : ¬((numericIn n).out.fraction.isNone ∧ (numericIn n).out.exponent.isNone) := by
    simp [NumericValue.out, scale]
  rw [Number.toJson, if_neg point, NumericValue.out_toFloat _ scale]
  simp only [numericIn, same]
  congr 3
  omega

/-- Any other literal comes back as an int. -/
theorem numericIn_whole {n : Number} (whole : 0 ≤ n.power) : (numericIn n).out.toJson =
    intOf (numericIn n).negative (decimal (scaleNum n.coefficient n.power)) := by
  have scale : (numericIn n).scale = 0 := by
    simp only [numericIn]
    omega
  simp only [Number.toJson, NumericValue.out, scale]
  simp [numericIn]

theorem intOf_decimal (negative : Bool) (fits : (decimal n).length ≤ intDigitLimit) :
    intOf negative (decimal n) = .ok (.int (if negative then -(n : Int) else n)) := by
  simp [intOf, fits]

/-- An int comes back as it was. -/
theorem numericIn_int (fits : intFits n = true) : (numericIn (intNumber n)).out.toJson = .ok (.int n) := by
  have power : (intNumber n).power = 0 := rfl
  have coefficient : scaleNum (intNumber n).coefficient (intNumber n).power = n.natAbs := by
    rw [power]
    simp [scaleNum, intNumber, Number.coefficient]
  rw [numericIn_whole power.ge, coefficient, intOf_decimal _ (by simpa [intFits] using fits)]
  have sign : (numericIn (intNumber n)).negative = decide (n < 0) := by
    simp only [numericIn, coefficient]
    simp [intNumber]
    omega
  rw [sign]
  congr 2
  by_cases below : n < 0
  · simp only [below, decide_true, if_true]
    omega
  · simp only [below, decide_false, Bool.false_eq_true, if_false]
    omega

theorem ofDecimal_zero (exponent : Int) :
    ∃ h : Representable 0, ofDecimal negative 0 exponent = .finite negative 0 h := by
  have zero : Representable 0 := by decide +kernel
  refine ⟨zero, ofRatio_exact zero (scaleDen_pos _) ?_⟩
  simp [scaleNum]

theorem ofDecimal_sign (read : ofDecimal negative digits exponent = .finite negative units h) (sign : Bool) :
    ofDecimal sign digits exponent = .finite sign units h := by
  have fits : magnitude digits exponent = units := magnitude_of_reads read
  subst fits
  simp only [ofDecimal, ofRatio]
  exact dif_pos h.2

/-- The digits of `repr` are all zero for a zero only. -/
theorem reprNumber_coefficient (h : Representable units) :
    (reprNumber negative units).coefficient = 0 ↔ units = 0 := by
  constructor
  · intro zero
    have reads : (reprNumber negative units).toFloat = .finite negative units h := reprNumber_toFloat h
    obtain ⟨_, nothing⟩ := @ofDecimal_zero (reprNumber negative units).negative (reprNumber negative units).power
    rw [Number.toFloat_eq, zero, nothing] at reads
    exact (Binary64.finite.inj reads).2.symm
  · rintro rfl
    rfl

theorem layout_negative (negative : Bool) (ds : List Char) (point : Int) :
    (layout negative ds point).negative = negative := by
  unfold layout
  split_ifs <;> rfl

theorem reprNumber_negative (negative : Bool) (units : Nat) :
    (reprNumber negative units).negative = negative := by
  by_cases zero : units = 0
  · rw [reprNumber, if_pos zero]
  · rw [reprNumber_layout zero, layout_negative]

/-- What a finite float comes back as: a float of the same magnitude, without the sign of zero,
below `1e16` and an int from there on. -/
theorem numericIn_float (h : Representable units) : (numericIn (reprNumber negative units)).out.toJson =
    if units < exponentFrom then .ok (.float (.finite (negative && decide (units ≠ 0)) units h))
    else intOf (numericIn (reprNumber negative units)).negative
      (decimal (scaleNum (reprNumber negative units).coefficient (reprNumber negative units).power)) := by
  by_cases small : units < exponentFrom
  · rw [if_pos small, numericIn_fraction (reprNumber_power_neg h small)]
    have reads : (reprNumber negative units).toFloat = .finite negative units h := reprNumber_toFloat h
    rw [Number.toFloat_eq, reprNumber_negative] at reads
    rw [ofDecimal_sign reads, reprNumber_negative]
    simp only [ne_eq, reprNumber_coefficient h]
  · rw [if_neg small, numericIn_whole (reprNumber_power_nonneg h (by omega))]

theorem intOf_int (h : intOf negative digits = .ok v) : ∃ n, v = .int n := by
  unfold intOf at h
  split at h
  · cases h
    exact ⟨_, rfl⟩
  · cases h

/-- A float is kept exactly below `1e16` and unless it is `-0.0`. -/
theorem numericIn_float_iff (h : Representable units) :
    (numericIn (reprNumber negative units)).out.toJson = .ok (.float (.finite negative units h)) ↔
      keptByJsonb (.float (.finite negative units h)) = true := by
  rw [numericIn_float h]
  simp only [keptByJsonb, Bool.and_eq_true, decide_eq_true_eq]
  by_cases small : units < exponentFrom
  · simp only [small, if_true, Except.ok.injEq, Json.float.injEq, Binary64.finite.injEq, and_true, true_and]
    cases negative <;> simp
  · simp only [small, if_false, false_and, iff_false]
    intro read
    obtain ⟨n, eq⟩ := intOf_int read
    cases eq

theorem keysAscend_congr {a : List (String × α)} {b : List (String × β)}
    (same : a.map Prod.fst = b.map Prod.fst) : keysAscend a = keysAscend b := by
  induction a generalizing b with
  | nil =>
    rw [List.map_nil, eq_comm, List.map_eq_nil_iff] at same
    rw [same]
    rfl
  | cons first rest ih =>
    obtain ⟨other, others, rfl, key, keys⟩ := List.map_eq_cons_iff.mp same.symm
    have tail := ih keys.symm
    cases rest with
    | nil =>
      rw [List.map_nil, List.map_eq_nil_iff] at keys
      rw [keys]
      rfl
    | cons second rest =>
      obtain ⟨⟨l, w⟩, others, rfl, key', -⟩ := List.map_eq_cons_iff.mp keys
      obtain rfl : l = second.1 := key'
      simp only [keysAscend, key, tail]

theorem jsonbEntries_keys {entries : List (String × Json)} {stored : List (String × Jsonb)}
    (h : jsonbEntries entries = .ok stored) : stored.map Prod.fst = entries.map Prod.fst := by
  induction entries generalizing stored with
  | nil =>
    cases h
    rfl
  | cons entry rest ih =>
    obtain ⟨key, value⟩ := entry
    rw [jsonbEntries] at h
    obtain ⟨key', text, h⟩ := bind_ok h
    obtain ⟨first, -, h⟩ := bind_ok h
    obtain ⟨others, later, h⟩ := bind_ok h
    cases h
    unfold storedText at text
    split at text
    · cases text
    · cases text
      simp [ih later]

theorem loadEntries_keys {stored : List (String × Jsonb)} {pairs : List (String × Json)}
    (h : loadEntries stored = .ok pairs) : pairs.map Prod.fst = stored.map Prod.fst := by
  induction stored generalizing pairs with
  | nil =>
    cases h
    rfl
  | cons entry rest ih =>
    obtain ⟨key, value⟩ := entry
    rw [loadEntries] at h
    obtain ⟨first, -, h⟩ := bind_ok h
    obtain ⟨others, later, h⟩ := bind_ok h
    cases h
    simp [ih later]

theorem storedText_ok (h : storedText text = .ok kept) : kept = text := by
  unfold storedText at h
  split at h
  · cases h
  · cases h
    rfl

mutual
/-- What comes back is the stored value exactly when all its floats are kept. -/
theorem loads_jsonbOf : (v : Json) → {b : Jsonb} → v.wellFormed = true → jsonbOf v = .ok b →
    (b.loads = .ok v ↔ keptByJsonb v = true)
  | .null, _, _, h | .bool _, _, _, h => by
    rw [jsonbOf] at h
    cases h
    simp [Jsonb.loads, keptByJsonb]
  | .int n, _, fits, h => by
    rw [jsonbOf] at h
    cases h
    rw [Json.wellFormed] at fits
    simp [Jsonb.loads, keptByJsonb, numericIn_int fits]
  | .float (.finite negative units representable), _, _, h => by
    rw [jsonbOf] at h
    cases h
    rw [Jsonb.loads]
    exact numericIn_float_iff representable
  | .float .nan, _, _, h | .float (.infinity _), _, _, h => by
    simp [jsonbOf] at h
  | .str text, _, _, h => by
    rw [jsonbOf] at h
    obtain ⟨kept, stored, rfl⟩ := map_ok h
    simp [Jsonb.loads, keptByJsonb, storedText_ok stored]
  | .arr items, _, good, h => by
    rw [Json.wellFormed] at good
    rw [jsonbOf] at h
    obtain ⟨stored, inside, rfl⟩ := map_ok h
    rw [keptByJsonb, ← loads_jsonbItems items good inside, Jsonb.loads]
    cases loadItems stored <;> simp [Except.map]
  | .obj entries, _, good, h => by
    simp only [Json.wellFormed, Bool.and_eq_true] at good
    rw [jsonbOf] at h
    obtain ⟨stored, inside, rfl⟩ := map_ok h
    rw [keptByJsonb, ← loads_jsonbEntries entries good.2 inside, Jsonb.loads]
    cases read : loadEntries stored with
    | error e => simp [Except.map]
    | ok pairs =>
      have keys := (loadEntries_keys read).trans (jsonbEntries_keys inside)
      have ascending : keysAscend pairs = true := (keysAscend_congr keys).trans good.1
      simp [Except.map, dictOf_sorted ascending]

theorem loads_jsonbItems : (items : List Json) → {stored : List Jsonb} → wellFormedItems items = true →
    jsonbItems items = .ok stored → (loadItems stored = .ok items ↔ keptItems items = true)
  | [], _, _, h => by
    rw [jsonbItems] at h
    cases h
    simp [loadItems, keptItems]
  | item :: rest, _, good, h => by
    simp only [wellFormedItems, Bool.and_eq_true] at good
    rw [jsonbItems] at h
    obtain ⟨first, head, h⟩ := bind_ok h
    obtain ⟨others, tail, h⟩ := bind_ok h
    cases h
    rw [keptItems, Bool.and_eq_true, ← loads_jsonbOf item good.1 head, ← loads_jsonbItems rest good.2 tail,
      loadItems]
    simp only [bind_eq_ok, Except.ok.injEq, List.cons.injEq]
    constructor
    · rintro ⟨_, read, _, reads, rfl, rfl⟩
      exact ⟨read, reads⟩
    · rintro ⟨read, reads⟩
      exact ⟨_, read, _, reads, rfl, rfl⟩

theorem loads_jsonbEntries : (entries : List (String × Json)) → {stored : List (String × Jsonb)} →
    wellFormedEntries entries = true → jsonbEntries entries = .ok stored →
      (loadEntries stored = .ok entries ↔ keptEntries entries = true)
  | [], _, _, h => by
    rw [jsonbEntries] at h
    cases h
    simp [loadEntries, keptEntries]
  | (key, value) :: rest, _, good, h => by
    simp only [wellFormedEntries, Bool.and_eq_true] at good
    rw [jsonbEntries] at h
    obtain ⟨key', text, h⟩ := bind_ok h
    obtain ⟨first, head, h⟩ := bind_ok h
    obtain ⟨others, tail, h⟩ := bind_ok h
    cases h
    obtain rfl := storedText_ok text
    rw [keptEntries, Bool.and_eq_true, ← loads_jsonbOf value good.1 head, ← loads_jsonbEntries rest good.2 tail,
      loadEntries]
    simp only [bind_eq_ok, Except.ok.injEq, List.cons.injEq, Prod.mk.injEq, true_and]
    constructor
    · rintro ⟨_, read, _, reads, rfl, rfl⟩
      exact ⟨read, reads⟩
    · rintro ⟨read, reads⟩
      exact ⟨_, read, _, reads, rfl, rfl⟩
end

mutual
theorem jsonbOf_finite : (v : Json) → {b : Jsonb} → jsonbOf v = .ok b → finiteFloats v = true
  | .null, _, _ | .bool _, _, _ | .int _, _, _ | .str _, _, _ | .float (.finite ..), _, _ => by
    simp only [finiteFloats]
  | .float .nan, _, h | .float (.infinity _), _, h => by simp [jsonbOf] at h
  | .arr items, _, h => by
    rw [jsonbOf] at h
    obtain ⟨stored, inside, rfl⟩ := map_ok h
    rw [finiteFloats]
    exact jsonbItems_finite items inside
  | .obj entries, _, h => by
    rw [jsonbOf] at h
    obtain ⟨stored, inside, rfl⟩ := map_ok h
    rw [finiteFloats]
    exact jsonbEntries_finite entries inside

theorem jsonbItems_finite : (items : List Json) → {stored : List Jsonb} → jsonbItems items = .ok stored →
    finiteItems items = true
  | [], _, _ => by simp only [finiteItems]
  | item :: rest, _, h => by
    rw [jsonbItems] at h
    obtain ⟨first, head, h⟩ := bind_ok h
    obtain ⟨others, tail, -⟩ := bind_ok h
    simp only [finiteItems, jsonbOf_finite item head, jsonbItems_finite rest tail, Bool.and_self]

theorem jsonbEntries_finite : (entries : List (String × Json)) → {stored : List (String × Jsonb)} →
    jsonbEntries entries = .ok stored → finiteEntries entries = true
  | [], _, _ => by simp only [finiteEntries]
  | (key, value) :: rest, _, h => by
    rw [jsonbEntries] at h
    obtain ⟨key', -, h⟩ := bind_ok h
    obtain ⟨first, head, h⟩ := bind_ok h
    obtain ⟨others, tail, -⟩ := bind_ok h
    simp only [finiteEntries, jsonbOf_finite value head, jsonbEntries_finite rest tail, Bool.and_self]
end

theorem finiteEntries_iff : finiteEntries entries = true ↔ ∀ entry ∈ entries, finiteFloats entry.2 = true := by
  induction entries with
  | nil => simp [finiteEntries]
  | cons first rest ih =>
    obtain ⟨key, value⟩ := first
    simp [finiteEntries, ih]

theorem finiteEntries_insert (new : finiteFloats value = true) (old : finiteEntries entries = true) :
    finiteEntries (Python.insert key value entries) = true := by
  induction entries with
  | nil => simp [Python.insert, finiteEntries, new]
  | cons first rest ih =>
    obtain ⟨k, v⟩ := first
    simp only [finiteEntries, Bool.and_eq_true] at old
    rw [Python.insert]
    split_ifs <;> simp [finiteEntries, new, old, ih]

theorem finiteEntries_dictOf (h : finiteEntries pairs = true) : finiteEntries (dictOf pairs) = true := by
  induction pairs using List.reverseRecOn with
  | nil => rfl
  | append_singleton pairs last ih =>
    rw [finiteEntries_iff] at h
    rw [dictOf, List.foldl_append]
    apply finiteEntries_insert (h last (by simp))
    exact ih (finiteEntries_iff.mpr fun entry member => h entry (List.mem_append_left _ member))

mutual
/-- Reading a stored value creates no nan and no infinity. -/
theorem loads_finite : (v : Json) → {b : Jsonb} → {w : Json} → jsonbOf v = .ok b → b.loads = .ok w →
    finiteFloats w = true
  | .null, _, _, h, read | .bool _, _, _, h, read => by
    rw [jsonbOf] at h
    cases h
    rw [Jsonb.loads] at read
    cases read
    simp only [finiteFloats]
  | .int n, _, _, h, read => by
    rw [jsonbOf] at h
    cases h
    rw [Jsonb.loads, numericIn_whole (show (intNumber n).power = 0 from rfl).ge] at read
    obtain ⟨m, rfl⟩ := intOf_int read
    simp only [finiteFloats]
  | .float (.finite negative units representable), _, _, h, read => by
    rw [jsonbOf] at h
    cases h
    rw [Jsonb.loads, numericIn_float representable] at read
    split at read
    · cases read
      simp only [finiteFloats]
    · obtain ⟨m, rfl⟩ := intOf_int read
      simp only [finiteFloats]
  | .float .nan, _, _, h, _ | .float (.infinity _), _, _, h, _ => by simp [jsonbOf] at h
  | .str text, _, _, h, read => by
    rw [jsonbOf] at h
    obtain ⟨kept, -, rfl⟩ := map_ok h
    rw [Jsonb.loads] at read
    cases read
    simp only [finiteFloats]
  | .arr items, _, _, h, read => by
    rw [jsonbOf] at h
    obtain ⟨stored, inside, rfl⟩ := map_ok h
    rw [Jsonb.loads] at read
    obtain ⟨back, reads, rfl⟩ := map_ok read
    rw [finiteFloats]
    exact loadItems_finite items inside reads
  | .obj entries, _, _, h, read => by
    rw [jsonbOf] at h
    obtain ⟨stored, inside, rfl⟩ := map_ok h
    rw [Jsonb.loads] at read
    obtain ⟨back, reads, rfl⟩ := map_ok read
    rw [finiteFloats]
    exact finiteEntries_dictOf (loadEntries_finite entries inside reads)

theorem loadItems_finite : (items : List Json) → {stored : List Jsonb} → {back : List Json} →
    jsonbItems items = .ok stored → loadItems stored = .ok back → finiteItems back = true
  | [], _, _, h, reads => by
    rw [jsonbItems] at h
    cases h
    rw [loadItems] at reads
    cases reads
    simp only [finiteItems]
  | item :: rest, _, _, h, reads => by
    rw [jsonbItems] at h
    obtain ⟨first, head, h⟩ := bind_ok h
    obtain ⟨others, tail, h⟩ := bind_ok h
    cases h
    rw [loadItems] at reads
    obtain ⟨one, read, reads⟩ := bind_ok reads
    obtain ⟨more, later, reads⟩ := bind_ok reads
    cases reads
    simp only [finiteItems, loads_finite item head read, loadItems_finite rest tail later, Bool.and_self]

theorem loadEntries_finite : (entries : List (String × Json)) → {stored : List (String × Jsonb)} →
    {back : List (String × Json)} → jsonbEntries entries = .ok stored → loadEntries stored = .ok back →
      finiteEntries back = true
  | [], _, _, h, reads => by
    rw [jsonbEntries] at h
    cases h
    rw [loadEntries] at reads
    cases reads
    simp only [finiteEntries]
  | (key, value) :: rest, _, _, h, reads => by
    rw [jsonbEntries] at h
    obtain ⟨key', -, h⟩ := bind_ok h
    obtain ⟨first, head, h⟩ := bind_ok h
    obtain ⟨others, tail, h⟩ := bind_ok h
    cases h
    rw [loadEntries] at reads
    obtain ⟨one, read, reads⟩ := bind_ok reads
    obtain ⟨more, later, reads⟩ := bind_ok reads
    cases reads
    simp only [finiteEntries, loads_finite value head read, loadEntries_finite rest tail later, Bool.and_self]
end

theorem intOf_wellFormed (h : intOf negative (decimal n) = .ok v) : v.wellFormed = true := by
  unfold intOf at h
  split at h
  · rename_i fits
    cases h
    rw [natOf_decimal]
    apply int_wellFormed
    cases negative <;> simpa [intFits] using fits
  · cases h

theorem NumericValue.out_wellFormed {x : NumericValue} (h : x.out.toJson = .ok v) : v.wellFormed = true := by
  unfold Number.toJson at h
  split at h
  · exact intOf_wellFormed h
  · cases h
    simp only [Json.wellFormed]

mutual
theorem Jsonb.loads_wellFormed : (b : Jsonb) → {w : Json} → b.loads = .ok w → w.wellFormed = true
  | .null, _, read | .bool _, _, read | .string _, _, read => by
    rw [Jsonb.loads] at read
    cases read
    simp only [Json.wellFormed]
  | .number x, _, read => by
    rw [Jsonb.loads] at read
    exact NumericValue.out_wellFormed read
  | .array items, _, read => by
    rw [Jsonb.loads] at read
    obtain ⟨back, reads, rfl⟩ := map_ok read
    rw [Json.wellFormed]
    exact loadItems_wellFormed items reads
  | .object entries, _, read => by
    rw [Jsonb.loads] at read
    obtain ⟨back, reads, rfl⟩ := map_ok read
    rw [Json.wellFormed, Bool.and_eq_true]
    exact ⟨keysAscend_dictOf back, wellFormedEntries_dictOf (loadEntries_wellFormed entries reads)⟩

theorem loadItems_wellFormed : (items : List Jsonb) → {back : List Json} → loadItems items = .ok back →
    wellFormedItems back = true
  | [], _, reads => by
    rw [loadItems] at reads
    cases reads
    simp only [wellFormedItems]
  | item :: rest, _, reads => by
    rw [loadItems] at reads
    obtain ⟨one, read, reads⟩ := bind_ok reads
    obtain ⟨more, later, reads⟩ := bind_ok reads
    cases reads
    simp only [wellFormedItems, item.loads_wellFormed read, loadItems_wellFormed rest later, Bool.and_self]

theorem loadEntries_wellFormed : (entries : List (String × Jsonb)) → {back : List (String × Json)} →
    loadEntries entries = .ok back → wellFormedEntries back = true
  | [], _, reads => by
    rw [loadEntries] at reads
    cases reads
    simp only [wellFormedEntries]
  | (key, value) :: rest, _, reads => by
    rw [loadEntries] at reads
    obtain ⟨one, read, reads⟩ := bind_ok reads
    obtain ⟨more, later, reads⟩ := bind_ok reads
    cases reads
    simp only [wellFormedEntries, value.loads_wellFormed read, loadEntries_wellFormed rest later, Bool.and_self]
end

end Sql
