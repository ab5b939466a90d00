import Mathlib.Data.String.Basic

/-! `str.strip()`: the characters that Python counts as whitespace, cut off both ends; `str.lower()`;
and `int(text)`. -/
namespace Python

/-- `c.isspace()`, as code points. -/
def isWhitespace (c : Char) : Bool :=
  let n := c.toNat
  (0x9 ≤ n && n ≤ 0xD) || (0x1C ≤ n && n ≤ 0x20) || n == 0x85 || n == 0xA0 || n == 0x1680 ||
    (0x2000 ≤ n && n ≤ 0x200A) || n == 0x2028 || n == 0x2029 || n == 0x202F || n == 0x205F || n == 0x3000

def lstrip (text : List Char) : List Char := text.dropWhile isWhitespace

def rstrip (text : List Char) : List Char := (text.reverse.dropWhile isWhitespace).reverse

/-- `text.strip()` -/
def strip (text : List Char) : List Char := rstrip (lstrip text)

/-- `text.lower()`, left to the Unicode tables outside ASCII. -/
structure Lowering where
  lower : List Char → List Char
  ascii : ∀ text, (∀ c ∈ text, c.toNat < 128) → lower text = text.map Char.toLower

/-- Tables without a letter outside ASCII. -/
def asciiLowering : Lowering := ⟨List.map Char.toLower, fun _ _ => rfl⟩

/-- Decimal digits with single underscores between them, after a first part of value `n`. -/
def digitsAfter (n : Nat) : List Char → Option Nat
  | [] => some n
  | '_' :: c :: rest => if c.isDigit then digitsAfter (10 * n + (c.toNat - 48)) rest else none
  | c :: rest => if c.isDigit then digitsAfter (10 * n + (c.toNat - 48)) rest else none

/-- The most digits that `int(text)` converts. -/
def maxIntegerDigits : Nat := 4300

def unsignedInt : List Char → Option Nat
  | [] => none
  | c :: rest =>
    if c.isDigit ∧ (c :: rest).countP Char.isDigit ≤ maxIntegerDigits then digitsAfter (c.toNat - 48) rest else none

/-- `int(text)`, of a text whose decimal digits are all ASCII; none where it raises `ValueError`. -/
def intOfText (text : List Char) : Option Int :=
  match strip text with
  | '-' :: rest => (unsignedInt rest).map fun n => -n
  | '+' :: rest => (unsignedInt rest).map fun n => n
  | rest => (unsignedInt rest).map fun n => n

example : [" -1_000 ", "1__0", "+", "0x1F"].map (fun text => intOfText text.toList) =
    [some (-1000), none, none, none] := by decide +kernel

end Python
