import Mathlib

/-! Decimal digit strings and the number literals of JSON, as `json.scanner` matches
them: sign, whole part without leading zeros, optional fraction, optional exponent. -/
namespace Python

def digitValue (c : Char) : Nat := c.toNat - 48

/-- The value of a digit string, most significant digit first. -/
def natOf (digits : List Char) : Nat := Nat.ofDigits 10 (digits.reverse.map digitValue)

/-- `str(n)` for a non-negative int. -/
def decimal (n : Nat) : List Char :=
  if n = 0 then ['0'] else ((Nat.digits 10 n).reverse.map Nat.digitChar)

/-- `str(n)` -/
def intText : Int → List Char
  | .ofNat n => decimal n
  | .negSucc n => '-' :: decimal (n + 1)

@[simp] theorem digitValue_digitChar (h : d < 10) : digitValue (Nat.digitChar d) = d := by
  interval_cases d <;> rfl

theorem isDigit_digitChar (h : d < 10) : (Nat.digitChar d).isDigit = true := by
  interval_cases d <;> rfl

theorem digitChar_digitValue (h : c.isDigit = true) : Nat.digitChar (digitValue c) = c := by
  simp only [Char.isDigit, Bool.and_eq_true, decide_eq_true_eq] at h
  obtain ⟨low, high⟩ := h
  have low' : 48 ≤ c.toNat := low
  have high' : c.toNat ≤ 57 := high
  have eq : c = Char.ofNat c.toNat := (Char.ofNat_toNat c).symm
  rw [eq]
  generalize c.toNat = n at low' high'
  interval_cases n <;> rfl

theorem natOf_append (a b : List Char) : natOf (a ++ b) = natOf a * 10 ^ b.length + natOf b := by
  simp only [natOf, List.reverse_append, List.map_append, Nat.ofDigits_append, List.length_map,
    List.length_reverse]
  ring

@[simp] theorem natOf_nil : natOf [] = 0 := rfl

theorem natOf_replicate_zero (n : Nat) : natOf (List.replicate n '0') = 0 := by
  simp [natOf, digitValue, Nat.ofDigits_replicate_zero]

@[simp] theorem natOf_decimal (n : Nat) : natOf (decimal n) = n := by
  unfold decimal
  split
  case isTrue h => subst h; rfl
  case isFalse h =>
    rw [natOf, ← List.map_reverse, List.reverse_reverse, List.map_map]
    have same : (Nat.digits 10 n).map (digitValue ∘ Nat.digitChar) = (Nat.digits 10 n).map id :=
      List.map_congr_left fun d hd => digitValue_digitChar (Nat.digits_lt_base (by decide) hd)
    rw [List.map_id] at same
    rw [same, Nat.ofDigits_digits]

theorem decimal_injective : Function.Injective decimal := by
  intro a b same
  simpa using congrArg natOf same

theorem decimal_isDigit (n : Nat) : ∀ c ∈ decimal n, c.isDigit = true := by
  unfold decimal
  split
  · simp
  · intro c hc
    obtain ⟨d, hd, rfl⟩ := List.mem_map.mp hc
    exact isDigit_digitChar (Nat.digits_lt_base (by decide) (List.mem_reverse.mp hd))

theorem decimal_ne_nil (n : Nat) : decimal n ≠ [] := by
  unfold decimal
  split
  · simp
  · simpa [Nat.digits_eq_nil_iff_eq_zero] using ‹¬n = 0›

/-- A digit string as a JSON number may start with: `0`, or no leading zero. -/
def wholePart : List Char → Bool
  | [] => false
  | c :: rest => c.isDigit && rest.all Char.isDigit && (c != '0' || rest.isEmpty)

theorem decimal_wholePart (n : Nat) : wholePart (decimal n) = true := by
  have digits := decimal_isDigit n
  by_cases h : n = 0
  · subst h; decide
  · have form : decimal n = (Nat.digits 10 n).reverse.map Nat.digitChar := by simp [decimal, h]
    have nonempty : Nat.digits 10 n ≠ [] := Nat.digits_ne_nil_iff_ne_zero.mpr h
    have lead : (Nat.digits 10 n).getLast nonempty ≠ 0 := Nat.getLast_digit_ne_zero 10 h
    rw [form] at digits ⊢
    rw [← List.dropLast_append_getLast nonempty, List.reverse_append, List.reverse_singleton,
      List.singleton_append, List.map_cons] at digits ⊢
    have small : (Nat.digits 10 n).getLast nonempty < 10 :=
      Nat.digits_lt_base (by decide) (List.getLast_mem nonempty)
    have nonzero : Nat.digitChar ((Nat.digits 10 n).getLast nonempty) ≠ '0' := by
      intro zero
      have := congrArg digitValue zero
      rw [digitValue_digitChar small] at this
      exact lead this
    simp only [wholePart, Bool.and_eq_true, Bool.or_eq_true, bne_iff_ne, List.all_eq_true]
    exact ⟨⟨digits _ (by simp), fun c hc => digits c (List.mem_cons_of_mem _ hc)⟩, Or.inl nonzero⟩

/-- A number literal; `exponent` keeps its sign as a flag for `-`. -/
structure Number where
  negative : Bool
  whole : List Char
  fraction : Option (List Char)
  exponent : Option (Bool × List Char)
  deriving DecidableEq, Repr

def Number.text (n : Number) : List Char :=
  (if n.negative then ['-'] else []) ++ n.whole ++
  (match n.fraction with | none => [] | some digits => '.' :: digits) ++
  (match n.exponent with
    | none => [] | some (minus, digits) => 'e' :: (if minus then '-' else '+') :: digits)

def digitString (digits : List Char) : Bool := !digits.isEmpty && digits.all Char.isDigit

/-- The literals `json.scanner` accepts. -/
def Number.valid (n : Number) : Bool :=
  wholePart n.whole && n.fraction.all digitString && n.exponent.all (digitString ·.2)

/-- `\d+` from here, when there is at least one digit. -/
def scanDigits (text : List Char) : Option (List Char × List Char) :=
  if (text.takeWhile Char.isDigit).isEmpty then none
  else some (text.takeWhile Char.isDigit, text.dropWhile Char.isDigit)

def scanWhole : List Char → Option (List Char × List Char)
  | [] => none
  | c :: rest => if c = '0' then some (['0'], rest) else scanDigits (c :: rest)

def scanFraction : List Char → Option (List Char) × List Char
  | [] => (none, [])
  | c :: rest =>
    if c = '.' then
      match scanDigits rest with
      | some (digits, rest') => (some digits, rest')
      | none => (none, c :: rest)
    else (none, c :: rest)

def scanExponentDigits (minus : Bool) (text rest : List Char) :
    Option (Bool × List Char) × List Char :=
  match scanDigits rest with
  | some (digits, rest') => (some (minus, digits), rest')
  | none => (none, text)

def scanExponent : List Char → Option (Bool × List Char) × List Char
  | [] => (none, [])
  | c :: rest =>
    if c = 'e' ∨ c = 'E' then
      match rest with
      | [] => (none, [c])
      | sign :: rest' =>
        if sign = '-' then scanExponentDigits true (c :: rest) rest'
        else if sign = '+' then scanExponentDigits false (c :: rest) rest'
        else scanExponentDigits false (c :: rest) rest
    else (none, c :: rest)

def scanUnsigned (negative : Bool) (text : List Char) : Option (Number × List Char) :=
  match scanWhole text with
  | none => none
  | some (whole, rest) =>
    let (fraction, rest) := scanFraction rest
    let (exponent, rest) := scanExponent rest
    some (⟨negative, whole, fraction, exponent⟩, rest)

/-- `(-?(?:0|[1-9]\d*))(\.\d+)?([eE][-+]?\d+)?` anchored at the start of `text`. -/
def scanNumber : List Char → Option (Number × List Char)
  | [] => none
  | c :: rest => if c = '-' then scanUnsigned true rest else scanUnsigned false (c :: rest)

/-- What may follow a number in JSON text without becoming part of it. -/
def Delimited : List Char → Prop
  | [] => True
  | c :: _ => c.isDigit = false ∧ c ≠ '.' ∧ c ≠ 'e' ∧ c ≠ 'E'

theorem takeWhile_digits {digits rest : List Char} (all : ∀ c ∈ digits, c.isDigit = true)
    (stop : ∀ c ∈ rest.head?, c.isDigit = false) :
    (digits ++ rest).takeWhile Char.isDigit = digits ∧
      (digits ++ rest).dropWhile Char.isDigit = rest := by
  have tail : rest.takeWhile Char.isDigit = [] ∧ rest.dropWhile Char.isDigit = rest := by
    cases rest with
    | nil => simp
    | cons c rest => simp [stop c (by simp)]
  rw [List.takeWhile_append_of_pos all, List.dropWhile_append_of_pos all]
  simp [tail]

theorem digitString_iff : digitString digits = true ↔
    digits ≠ [] ∧ ∀ c ∈ digits, c.isDigit = true := by
  cases digits <;> simp [digitString]

theorem scanDigits_append {digits rest : List Char} (valid : digitString digits = true)
    (stop : ∀ c ∈ rest.head?, c.isDigit = false) :
    scanDigits (digits ++ rest) = some (digits, rest) := by
  obtain ⟨nonempty, all⟩ := digitString_iff.mp valid
  simp [scanDigits, takeWhile_digits all stop, nonempty]

theorem scanWhole_append {whole rest : List Char} (valid : wholePart whole = true)
    (stop : ∀ c ∈ rest.head?, c.isDigit = false) :
    scanWhole (whole ++ rest) = some (whole, rest) := by
  cases whole with
  | nil => simp [wholePart] at valid
  | cons c digits =>
    simp only [wholePart, Bool.and_eq_true, Bool.or_eq_true, bne_iff_ne, List.isEmpty_iff,
      List.all_eq_true] at valid
    obtain ⟨⟨first, others⟩, lead⟩ := valid
    by_cases zero : c = '0'
    · subst zero
      have : digits = [] := lead.resolve_left (by simp)
      simp [this, scanWhole]
    · have valid : digitString (c :: digits) = true :=
        digitString_iff.mpr ⟨by simp, by simpa using ⟨first, others⟩⟩
      rw [← scanDigits_append valid stop]
      simp [scanWhole, zero]

theorem scanExponent_none (stop : Delimited rest) : scanExponent rest = (none, rest) := by
  cases rest with
  | nil => rfl
  | cons c rest =>
    obtain ⟨-, -, lower, upper⟩ := stop
    simp [scanExponent, lower, upper]

theorem scanFraction_none (stop : ∀ c ∈ rest.head?, c ≠ '.') : scanFraction rest = (none, rest) := by
  cases rest with
  | nil => rfl
  | cons c rest =>
    simp [scanFraction, stop c (by simp)]

def Number.exponentText (e : Option (Bool × List Char)) : List Char :=
  match e with
  | none => [] | some (minus, digits) => 'e' :: (if minus then '-' else '+') :: digits

def Number.fractionText (f : Option (List Char)) : List Char :=
  match f with | none => [] | some digits => '.' :: digits

theorem Delimited.digit {rest : List Char} (stop : Delimited rest) :
    ∀ c ∈ rest.head?, c.isDigit = false := by
  cases rest with
  | nil => simp
  | cons c rest => simpa using stop.1

theorem scanExponent_text {exponent : Option (Bool × List Char)} {rest : List Char}
    (valid : exponent.all (digitString ·.2) = true) (stop : Delimited rest) :
    scanExponent (Number.exponentText exponent ++ rest) = (exponent, rest) := by
  cases exponent with
  | none => simpa [Number.exponentText] using scanExponent_none stop
  | some e =>
    obtain ⟨minus, digits⟩ := e
    have digits := scanDigits_append (by simpa using valid) stop.digit
    cases minus <;> simp [Number.exponentText, scanExponent, scanExponentDigits, digits]

theorem exponentText_head {exponent : Option (Bool × List Char)} {rest : List Char}
    (stop : Delimited rest) :
    ∀ c ∈ (Number.exponentText exponent ++ rest).head?, c.isDigit = false ∧ c ≠ '.' := by
  cases exponent with
  | none =>
    cases rest with
    | nil => simp [Number.exponentText]
    | cons c rest => simpa [Number.exponentText] using ⟨stop.1, stop.2.1⟩
  | some e => simp [Number.exponentText]

theorem scanFraction_text {fraction : Option (List Char)} {rest : List Char}
    (valid : fraction.all digitString = true)
    (stop : ∀ c ∈ rest.head?, c.isDigit = false ∧ c ≠ '.') :
    scanFraction (Number.fractionText fraction ++ rest) = (fraction, rest) := by
  cases fraction with
  | none => simpa [Number.fractionText] using scanFraction_none fun c hc => (stop c hc).2
  | some digits =>
    have digits := scanDigits_append (by simpa using valid) fun c hc => (stop c hc).1
    simp [Number.fractionText, scanFraction, digits]

/-- A printed literal is matched exactly, whatever delimiter follows it. -/
theorem scanNumber_text {n : Number} {rest : List Char} (valid : n.valid = true)
    (stop : Delimited rest) : scanNumber (n.text ++ rest) = some (n, rest) := by
  obtain ⟨negative, whole, fraction, exponent⟩ := n
  simp only [Number.valid, Bool.and_eq_true] at valid
  obtain ⟨⟨wholeValid, fractionValid⟩, exponentValid⟩ := valid
  have exponentHead := @exponentText_head exponent rest stop
  have fractionHead : ∀ c ∈ (Number.fractionText fraction ++
      (Number.exponentText exponent ++ rest)).head?, c.isDigit = false := by
    cases fraction with
    | none => simpa [Number.fractionText] using fun c hc => (exponentHead c hc).1
    | some digits => simp [Number.fractionText]
  have scanned : scanUnsigned negative (whole ++ (Number.fractionText fraction ++
      (Number.exponentText exponent ++ rest))) = some (⟨negative, whole, fraction, exponent⟩, rest) := by
    simp [scanUnsigned, scanWhole_append wholeValid fractionHead,
      scanFraction_text fractionValid exponentHead, scanExponent_text exponentValid stop]
  have body : (⟨negative, whole, fraction, exponent⟩ : Number).text ++ rest =
      (if negative then ['-'] else []) ++ (whole ++ (Number.fractionText fraction ++
        (Number.exponentText exponent ++ rest))) := by
    simp [Number.text, Number.fractionText, Number.exponentText]
  rw [body]
  cases negative with
  | true => simpa [scanNumber] using scanned
  | false =>
    cases whole with
    | nil => simp [wholePart] at wholeValid
    | cons c digits =>
      have sign : c ≠ '-' := by
        rintro rfl
        simp [wholePart] at wholeValid
      simpa [scanNumber, sign] using scanned

end Python
