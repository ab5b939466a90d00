import BallotProof.Bytes
import Mathlib.Tactic

/-! `base64.b64encode` and `base64.b64decode(validate=True)`, the latter as the strict
mode of `binascii.a2b_base64` reads its input, one character at a time. -/
namespace Python

def base64Alphabet : List Char :=
  "ABCDEFGHIJKLMNOPQRSTUVWXYZabcdefghijklmnopqrstuvwxyz0123456789+/".toList

def base64Char (n : Nat) : Char := base64Alphabet.getD n 'A'

def base64Value (c : Char) : Option Nat := base64Alphabet.findIdx? (· = c)

/-- `base64.b64encode(data)` as text. -/
def b64encode : Bytes → List Char
  | [] => []
  | [a] => [base64Char (a.toNat / 4), base64Char (a.toNat % 4 * 16), '=', '=']
  | [a, b] => [base64Char (a.toNat / 4), base64Char (a.toNat % 4 * 16 + b.toNat / 16),
      base64Char (b.toNat % 16 * 4), '=']
  | a :: b :: c :: rest =>
    base64Char (a.toNat / 4) :: base64Char (a.toNat % 4 * 16 + b.toNat / 16) ::
      base64Char (b.toNat % 16 * 4 + c.toNat / 64) :: base64Char (c.toNat % 64) :: b64encode rest

def base64Error (message : String) : Result α := .error ⟨.binasciiError, message⟩

/-- The loop of `a2b_base64` in strict mode: position in the quad, bits left over, pads
seen in a row, and whether padding has begun. -/
def a2bBase64 (quad left pads : Nat) (padding : Bool) : List Char → Result Bytes
  | [] =>
    if quad = 0 then .ok []
    else if quad = 1 then
      base64Error "Invalid base64-encoded string: number of data characters cannot be 1 more than a multiple of 4"
    else base64Error "Incorrect padding"
  | c :: rest =>
    if c = '=' then
      if 2 ≤ quad ∧ 4 ≤ quad + pads + 1 then
        if rest.isEmpty then .ok [] else base64Error "Excess data after padding"
      else a2bBase64 quad left (if 2 ≤ quad then pads + 1 else pads) true rest
    else
      match base64Value c with
      | none => base64Error "Only base64 data is allowed"
      | some v =>
        if padding then base64Error "Discontinuous padding not allowed"
        else if quad = 0 then a2bBase64 1 v 0 padding rest
        else if quad = 1 then
          (a2bBase64 2 (v % 16) 0 padding rest).map (UInt8.ofNat (left * 4 + v / 16) :: ·)
        else if quad = 2 then
          (a2bBase64 3 (v % 4) 0 padding rest).map (UInt8.ofNat (left * 16 + v / 4) :: ·)
        else (a2bBase64 0 0 0 padding rest).map (UInt8.ofNat (left * 64 + v) :: ·)

/-- `base64.b64decode(text, validate=True)` -/
def b64decode (text : List Char) : Result Bytes :=
  if text.any fun c => 128 ≤ c.toNat then
    .error ⟨.valueError, "string argument should contain only ASCII characters"⟩
  else if text.head? = some '=' then base64Error "Leading padding not allowed"
  else a2bBase64 0 0 0 false text

theorem a2bBase64_error (h : a2bBase64 quad left pads padding text = .error e) : e.kind = .binasciiError := by
  induction text generalizing quad left pads padding with
  | nil =>
    simp only [a2bBase64, base64Error] at h
    split_ifs at h <;> cases h <;> rfl
  | cons c rest ih =>
    have mapped {f : Bytes → Bytes} {quad left : Nat}
        (h : (a2bBase64 quad left 0 padding rest).map f = .error e) : e.kind = .binasciiError := by
      cases decoded : a2bBase64 quad left 0 padding rest with
      | ok data =>
        rw [decoded] at h
        cases h
      | error error =>
        rw [decoded] at h
        cases h
        exact ih decoded
    rw [a2bBase64] at h
    split at h
    · split at h
      · split at h
        · cases h
        · cases h
          rfl
      · exact ih h
    · split at h
      · cases h
        rfl
      · split_ifs at h
        · cases h
          rfl
        · exact ih h
        · exact mapped h
        · exact mapped h
        · exact mapped h

theorem base64Value_char : ∀ n < 64, base64Value (base64Char n) = some n := by decide +kernel

theorem base64Char_plain (n : Nat) : base64Char n ≠ '=' ∧ (base64Char n).toNat < 128 := by
  have small : ∀ n < 64, base64Char n ≠ '=' ∧ (base64Char n).toNat < 128 := by decide +kernel
  by_cases h : n < 64
  · exact small n h
  · have length : base64Alphabet.length = 64 := by decide
    have large : base64Char n = 'A' := by
      rw [base64Char, List.getD_eq_getElem?_getD, List.getElem?_eq_none (by omega), Option.getD_none]
    rw [large]
    decide

/-- What the loop does on a character of the alphabet. -/
theorem a2bBase64_char (h : n < 64) : a2bBase64 quad left pads false (base64Char n :: rest) =
    if quad = 0 then a2bBase64 1 n 0 false rest
    else if quad = 1 then
      (a2bBase64 2 (n % 16) 0 false rest).map (UInt8.ofNat (left * 4 + n / 16) :: ·)
    else if quad = 2 then
      (a2bBase64 3 (n % 4) 0 false rest).map (UInt8.ofNat (left * 16 + n / 4) :: ·)
    else (a2bBase64 0 0 0 false rest).map (UInt8.ofNat (left * 64 + n) :: ·) := by
  rw [a2bBase64, if_neg (base64Char_plain n).1, base64Value_char n h]
  simp only [Bool.false_eq_true, if_false]

theorem ofNat_eq {a : UInt8} (h : n = a.toNat) : UInt8.ofNat n = a := by rw [h, UInt8.ofNat_toNat]

theorem a2bBase64_b64encode (data : Bytes) : a2bBase64 0 0 0 false (b64encode data) = .ok data := by
  induction data using b64encode.induct with
  | case1 => rfl
  | case2 a =>
    have bound := a.toNat_lt
    have byte : UInt8.ofNat (a.toNat / 4 * 4 + a.toNat % 4 * 16 / 16) = a := ofNat_eq (by omega)
    rw [b64encode, a2bBase64_char (by omega), if_pos rfl, a2bBase64_char (by omega),
      if_neg (by decide), if_pos rfl, byte]
    rfl
  | case3 a b =>
    have boundA := a.toNat_lt
    have boundB := b.toNat_lt
    have byteA : UInt8.ofNat (a.toNat / 4 * 4 + (a.toNat % 4 * 16 + b.toNat / 16) / 16) = a :=
      ofNat_eq (by omega)
    have byteB : UInt8.ofNat ((a.toNat % 4 * 16 + b.toNat / 16) % 16 * 16 +
        b.toNat % 16 * 4 / 4) = b := ofNat_eq (by omega)
    rw [b64encode, a2bBase64_char (by omega), if_pos rfl, a2bBase64_char (by omega),
      if_neg (by decide), if_pos rfl, byteA, a2bBase64_char (by omega), if_neg (by decide),
      if_neg (by decide), if_pos rfl, byteB]
    rfl
  | case4 a b c rest ih =>
    have boundA := a.toNat_lt
    have boundB := b.toNat_lt
    have boundC := c.toNat_lt
    have byteA : UInt8.ofNat (a.toNat / 4 * 4 + (a.toNat % 4 * 16 + b.toNat / 16) / 16) = a :=
      ofNat_eq (by omega)
    have byteB : UInt8.ofNat ((a.toNat % 4 * 16 + b.toNat / 16) % 16 * 16 +
        (b.toNat % 16 * 4 + c.toNat / 64) / 4) = b := ofNat_eq (by omega)
    have byteC : UInt8.ofNat ((b.toNat % 16 * 4 + c.toNat / 64) % 4 * 64 + c.toNat % 64) = c :=
      ofNat_eq (by omega)
    rw [b64encode, a2bBase64_char (by omega), if_pos rfl, a2bBase64_char (by omega),
      if_neg (by decide), if_pos rfl, byteA, a2bBase64_char (by omega), if_neg (by decide),
      if_neg (by decide), if_pos rfl, byteB, a2bBase64_char (by omega), if_neg (by decide),
      if_neg (by decide), if_neg (by decide), byteC, ih]
    rfl

theorem b64encode_chars (data : Bytes) : ∀ c ∈ b64encode data, c.toNat < 128 := by
  have plain (n : Nat) := (base64Char_plain n).2
  induction data using b64encode.induct with
  | case1 => simp [b64encode]
  | case2 a => simp [b64encode, plain]
  | case3 a b => simp [b64encode, plain]
  | case4 a b c rest ih => simpa [b64encode, plain] using ih

theorem b64encode_head (data : Bytes) : (b64encode data).head? ≠ some '=' := by
  have plain (n : Nat) := (base64Char_plain n).1
  induction data using b64encode.induct <;> simp [b64encode, plain]

/-- Decoding inverts encoding. -/
@[simp] theorem b64decode_b64encode (data : Bytes) : b64decode (b64encode data) = .ok data := by
  have ascii : (b64encode data).any (fun c => 128 ≤ c.toNat) = false := by
    rw [List.any_eq_false]
    intro c hc
    have := b64encode_chars data c hc
    simpa using this
  rw [b64decode, ascii, if_neg (by decide), if_neg (b64encode_head data), a2bBase64_b64encode]

/-- Text that is no base64 is refused with a ValueError. -/
theorem b64decode_error (h : b64decode text = .error e) : e.kind.isValueError = true := by
  unfold b64decode at h
  split at h
  · cases h
    rfl
  · split at h
    · cases h
      rfl
    · rw [a2bBase64_error h]
      rfl

end Python
