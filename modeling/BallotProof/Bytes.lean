import Mathlib.Data.List.Basic

/-! Byte strings, UTF-8 text and 32-byte digests with their hexadecimal spelling. -/
namespace Python

abbrev Bytes := List UInt8

/-- Exception classes, as far as a handler of the modelled code tells them apart. -/
inductive ErrorKind where
  | valueError | unicodeDecodeError | jsonDecodeError | validationError | binasciiError
  | typeError | keyError | osError | csvError | invalidSignature
  | permissionError | runtimeError | fileExistsError | integrityError | indexError
  | overflowError | fileNotFoundError | dataError
  deriving DecidableEq, Repr

/-- The subclasses of ValueError. -/
def ErrorKind.isValueError : ErrorKind → Bool
  | .valueError | .unicodeDecodeError | .jsonDecodeError | .validationError | .binasciiError => true
  | _ => false

structure Error where
  kind : ErrorKind
  message : String
  deriving DecidableEq, Repr

abbrev Result (α : Type u) := Except Error α

theorem ok_bind (a : α) (f : α → Result β) : (Except.ok a >>= f) = f a := rfl

theorem bind_ok {x : Result α} {f : α → Result β} (h : (x >>= f) = .ok b) :
    ∃ a, x = .ok a ∧ f a = .ok b := by
  cases x with
  | error e => cases h
  | ok a => exact ⟨a, rfl, h⟩

theorem map_ok {x : Result α} {f : α → β} (h : x.map f = .ok b) : ∃ a, x = .ok a ∧ f a = b := by
  cases x with
  | error e => cases h
  | ok a => exact ⟨a, rfl, Except.ok.inj h⟩

theorem bind_eq_ok {x : Result α} {f : α → Result β} :
    (x >>= f) = .ok b ↔ ∃ a, x = .ok a ∧ f a = .ok b := by
  refine ⟨bind_ok, ?_⟩
  rintro ⟨a, rfl, h⟩
  exact h

/-- `if condition: raise error` -/
def raiseIf (condition : Prop) [Decidable condition] (error : Error) : Result Unit :=
  if condition then .error error else .ok ()

@[simp] theorem raiseIf_ok {condition : Prop} [Decidable condition] :
    raiseIf condition error = .ok u ↔ ¬condition := by
  unfold raiseIf
  split <;> simp [*]

theorem raiseIf_error {condition : Prop} [Decidable condition]
    (h : raiseIf condition error = .error e) : e = error := by
  unfold raiseIf at h
  split at h
  · cases h
    rfl
  · cases h

/-- A step fails, or what follows it does. -/
theorem bind_error {x : Result α} {f : α → Result β} (h : (x >>= f) = .error e) :
    x = .error e ∨ ∃ a, x = .ok a ∧ f a = .error e := by
  cases x with
  | error error => exact .inl (by cases h; rfl)
  | ok a => exact .inr ⟨a, rfl, h⟩

theorem mapM_ok {f : α → Result β} {g : α → β} {xs : List α} (each : ∀ x ∈ xs, f x = .ok (g x)) :
    xs.mapM f = .ok (xs.map g) := by
  induction xs with
  | nil => rfl
  | cons x xs ih =>
    rw [List.mapM_cons, each x List.mem_cons_self, ih fun y member => each y (List.mem_cons_of_mem _ member)]
    rfl

theorem mapM_mem {f : α → Result β} {xs : List α} {ys : List β} (h : xs.mapM f = .ok ys) (member : x ∈ xs) :
    ∃ y ∈ ys, f x = .ok y := by
  induction xs generalizing ys with
  | nil => cases member
  | cons first rest ih =>
    rw [List.mapM_cons] at h
    obtain ⟨y, read, h⟩ := bind_ok h
    obtain ⟨others, reads, h⟩ := bind_ok h
    cases h
    rcases List.mem_cons.mp member with rfl | later
    · exact ⟨y, List.mem_cons_self, read⟩
    · obtain ⟨other, inside, read⟩ := ih reads later
      exact ⟨other, List.mem_cons_of_mem _ inside, read⟩

theorem mapM_origin {f : α → Result β} {xs : List α} {ys : List β} (h : xs.mapM f = .ok ys) (member : y ∈ ys) :
    ∃ x ∈ xs, f x = .ok y := by
  induction xs generalizing ys with
  | nil =>
    cases h
    cases member
  | cons first rest ih =>
    rw [List.mapM_cons] at h
    obtain ⟨other, read, h⟩ := bind_ok h
    obtain ⟨others, reads, h⟩ := bind_ok h
    cases h
    rcases List.mem_cons.mp member with rfl | later
    · exact ⟨first, List.mem_cons_self, read⟩
    · obtain ⟨x, inside, read⟩ := ih reads later
      exact ⟨x, List.mem_cons_of_mem _ inside, read⟩

theorem mapM_isOk {f : α → Result β} {xs : List α} (each : ∀ x ∈ xs, ∃ y, f x = .ok y) :
    ∃ ys, xs.mapM f = .ok ys := by
  induction xs with
  | nil => exact ⟨[], rfl⟩
  | cons x xs ih =>
    obtain ⟨y, read⟩ := each x List.mem_cons_self
    obtain ⟨ys, reads⟩ := ih fun z member => each z (List.mem_cons_of_mem _ member)
    exact ⟨y :: ys, by rw [List.mapM_cons, read, ok_bind, reads]; rfl⟩

theorem mapM_map {f : α → Result β} {g : β → γ} {k : α → γ} {xs : List α} {ys : List β} (h : xs.mapM f = .ok ys)
    (each : ∀ x y, f x = .ok y → g y = k x) : ys.map g = xs.map k := by
  induction xs generalizing ys with
  | nil =>
    cases h
    rfl
  | cons first rest ih =>
    rw [List.mapM_cons] at h
    obtain ⟨y, read, h⟩ := bind_ok h
    obtain ⟨others, reads, h⟩ := bind_ok h
    cases h
    simp only [List.map_cons, each first y read, ih reads]

def ErrorKind.name : ErrorKind → String
  | .valueError => "ValueError" | .unicodeDecodeError => "UnicodeDecodeError"
  | .jsonDecodeError => "JSONDecodeError" | .validationError => "ValidationError"
  | .binasciiError => "Error" | .typeError => "TypeError" | .keyError => "KeyError"
  | .osError => "OSError" | .csvError => "Error" | .invalidSignature => "InvalidSignature"
  | .permissionError => "PermissionError" | .runtimeError => "RuntimeError"
  | .fileExistsError => "FileExistsError" | .integrityError => "IntegrityError"
  | .indexError => "IndexError" | .overflowError => "OverflowError"
  | .fileNotFoundError => "FileNotFoundError" | .dataError => "DataError"

/-- `f"{type(exc).__name__}: {exc}"` -/
def Error.describe (e : Error) : String := e.kind.name ++ ": " ++ e.message

/-- `str.encode("utf-8")` on the characters of a string. -/
def encode (text : List Char) : Bytes := text.flatMap String.utf8EncodeChar

/-- `bytes.decode("utf-8")` with the strict codec. -/
def decode (data : Bytes) : Result (List Char) :=
  match (ByteArray.mk data.toArray).utf8Decode? with
  | some text => .ok text.toList
  | none => .error ⟨.unicodeDecodeError, "'utf-8' codec can't decode bytes"⟩

@[simp] theorem encode_append (a b : List Char) : encode (a ++ b) = encode a ++ encode b := by
  simp [encode]

@[simp] theorem decode_encode (text : List Char) : decode (encode text) = .ok text := by
  have bytes : ByteArray.mk (encode text).toArray = text.utf8Encode := by
    apply ByteArray.ext
    simp [List.utf8Encode, encode]
  simp [decode, bytes, List.utf8Decode?_utf8Encode]

theorem encode_injective : Function.Injective encode := by
  intro a b same
  have := congrArg decode same
  simpa using this

/-- The output of SHA-256. -/
structure Digest where
  bytes : Bytes
  size : bytes.length = 32
  deriving DecidableEq

theorem Digest.ext {a b : Digest} (h : a.bytes = b.bytes) : a = b := by
  cases a; cases b; simpa using h

/-- Two digests side by side can be told apart again, because each is 32 bytes. -/
theorem Digest.append_inj {a b c d : Digest} (h : a.bytes ++ b.bytes = c.bytes ++ d.bytes) :
    a = c ∧ b = d := by
  have halves := List.append_inj h (by rw [a.size, c.size])
  exact ⟨Digest.ext halves.1, Digest.ext halves.2⟩

def hexDigit (n : Nat) : Char := "0123456789abcdef".toList.getD n '0'

/-- `bytes.hex()` -/
def hexOf (data : Bytes) : List Char :=
  data.flatMap fun b => [hexDigit (b.toNat / 16), hexDigit (b.toNat % 16)]

theorem hexDigit_injective : ∀ m < 16, ∀ n < 16, hexDigit m = hexDigit n → m = n := by decide

theorem hexOf_injective : Function.Injective hexOf := by
  intro a
  induction a with
  | nil =>
    intro b same
    cases b with
    | nil => rfl
    | cons => simp [hexOf] at same
  | cons x xs ih =>
    intro b same
    cases b with
    | nil => simp [hexOf] at same
    | cons y ys =>
      simp only [hexOf, List.flatMap_cons, List.cons_append, List.nil_append, List.cons.injEq]
        at same
      obtain ⟨high, low, rest⟩ := same
      have bound (z : UInt8) : z.toNat < 256 := z.toNat_lt
      have h := hexDigit_injective _ (by have := bound x; omega) _ (by have := bound y; omega) high
      have l := hexDigit_injective _ (by have := bound x; omega) _ (by have := bound y; omega) low
      have eq : x = y := UInt8.toNat_inj.mp (by omega)
      rw [eq, ih rest]

theorem hexOf_length (data : Bytes) : (hexOf data).length = 2 * data.length := by
  induction data with
  | nil => rfl
  | cons b data ih => simp only [hexOf, List.flatMap_cons, List.length_append] at ih ⊢; simp [ih]; omega

/-- `hashlib.sha256(...).hexdigest()` as the text a JSON field holds. -/
def Digest.hex (d : Digest) : String := String.ofList (hexOf d.bytes)

theorem Digest.hex_injective : Function.Injective Digest.hex := by
  intro a b same
  exact Digest.ext (hexOf_injective (by simpa [Digest.hex] using congrArg String.toList same))

@[simp] theorem Digest.hex_inj {a b : Digest} : a.hex = b.hex ↔ a = b := hex_injective.eq_iff

/-- The value of a digit of `^[a-f0-9]{64}$`. -/
def patternDigit (c : Char) : Option Nat :=
  let n := "0123456789abcdef".toList.idxOf c
  if n < 16 then some n else none

def bytesOfHex : List Char → Option Bytes
  | [] => some []
  | [_] => none
  | high :: low :: rest => do
    let h ← patternDigit high
    let l ← patternDigit low
    let data ← bytesOfHex rest
    return UInt8.ofNat (16 * h + l) :: data

/-- The digest that a text of the pattern `^[a-f0-9]{64}$` spells. -/
def Digest.ofHex (text : String) : Option Digest := do
  let data ← bytesOfHex text.toList
  if size : data.length = 32 then some ⟨data, size⟩ else none

theorem patternDigit_hexDigit : ∀ n < 16, patternDigit (hexDigit n) = some n := by decide

theorem bytesOfHex_hexOf (data : Bytes) : bytesOfHex (hexOf data) = some data := by
  induction data with
  | nil => rfl
  | cons b data ih =>
    have bound := b.toNat_lt
    have byte : UInt8.ofNat (16 * (b.toNat / 16) + b.toNat % 16) = b := by
      rw [Nat.div_add_mod, UInt8.ofNat_toNat]
    have text : hexOf (b :: data) =
        hexDigit (b.toNat / 16) :: hexDigit (b.toNat % 16) :: hexOf data := rfl
    simp only [text, bytesOfHex, patternDigit_hexDigit _ (by omega : b.toNat / 16 < 16),
      patternDigit_hexDigit _ (by omega : b.toNat % 16 < 16), ih, Option.bind_eq_bind, Option.bind_some,
      byte]
    rfl

@[simp] theorem Digest.ofHex_hex (d : Digest) : Digest.ofHex d.hex = some d := by
  simp [Digest.ofHex, Digest.hex, bytesOfHex_hexOf, d.size]

/-- No two of the inputs that occur share a digest. -/
def CollisionFree (sha256 : Bytes → Digest) (inputs : List Bytes) : Prop :=
  ∀ x ∈ inputs, ∀ y ∈ inputs, sha256 x = sha256 y → x = y

theorem CollisionFree.mono {sha256 : Bytes → Digest} {small large : List Bytes}
    (free : CollisionFree sha256 large) (sub : small ⊆ large) : CollisionFree sha256 small :=
  fun x hx y hy => free x (sub hx) y (sub hy)

instance (sha256 : Bytes → Digest) (inputs : List Bytes) :
    Decidable (CollisionFree sha256 inputs) := by
  unfold CollisionFree; infer_instance

/-- A polynomial checksum in the shape of a digest, to run definitions on. -/
def checksum (data : Bytes) : Digest where
  bytes := (List.range 32).map fun i => UInt8.ofNat
    (data.foldl (fun h b => (h * 16777619 + b.toNat + 1) % Nat.pow 2 256) 0 / Nat.pow 256 i)
  size := by simp

end Python
