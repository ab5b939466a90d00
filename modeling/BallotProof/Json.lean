import BallotProof.Table
import BallotProof.Bytes
import BallotProof.Binary64

/-! JSON values as Python holds them and their canonical text: `json.dumps` with
`sort_keys=True`, the separators `","` and `":"` and `ensure_ascii=False`. -/
namespace Python

/-- A value `json.loads` can return. The items of a dict are kept in key order, because
nothing that is modelled depends on the order of insertion. -/
inductive Json where
  | null
  | bool (value : Bool)
  | int (value : Int)
  | float (value : Binary64)
  | str (value : String)
  | arr (items : List Json)
  | obj (entries : List (String × Json))

/-- `sys.get_int_max_str_digits()`, which the repository leaves at its default. -/
def intDigitLimit : Nat := 4300

def intFits (n : Int) : Bool := (decimal n.natAbs).length ≤ intDigitLimit

mutual
/-- Keys of each dict in order without repeats, integers within the conversion limit. -/
def Json.wellFormed : Json → Bool
  | .null => true
  | .bool _ => true
  | .int n => intFits n
  | .float _ => true
  | .str _ => true
  | .arr items => wellFormedItems items
  | .obj entries => keysAscend entries && wellFormedEntries entries

def wellFormedItems : List Json → Bool
  | [] => true
  | item :: rest => item.wellFormed && wellFormedItems rest

def wellFormedEntries : List (String × Json) → Bool
  | [] => true
  | (_, value) :: rest => value.wellFormed && wellFormedEntries rest
end

/-- `ESCAPE_DCT` of `json.encoder`; a control character without a short form is `\u00xx`. -/
def escape (c : Char) : List Char :=
  if c = '"' then ['\\', '"'] else if c = '\\' then ['\\', '\\']
  else if c = '\n' then ['\\', 'n'] else if c = '\r' then ['\\', 'r']
  else if c = '\t' then ['\\', 't'] else if c = '\x0c' then ['\\', 'f']
  else if c = '\x08' then ['\\', 'b']
  else if c.toNat < 32 then
    ['\\', 'u', '0', '0', hexDigit (c.toNat / 16), hexDigit (c.toNat % 16)]
  else [c]

def quote (text : List Char) : List Char := '"' :: (text.flatMap escape ++ ['"'])

def floatText : Binary64 → List Char
  | .nan => "NaN".toList
  | .infinity negative => (if negative then ['-'] else []) ++ "Infinity".toList
  | .finite negative units _ => (reprNumber negative units).text

mutual
def Json.dumps : Json → List Char
  | .null => "null".toList
  | .bool value => (if value then "true" else "false").toList
  | .int n => intText n
  | .float x => floatText x
  | .str s => quote s.toList
  | .arr [] => ['[', ']']
  | .arr (item :: rest) => '[' :: (item.dumps ++ dumpItems rest)
  | .obj [] => ['\x7b', '\x7d']
  | .obj ((key, value) :: rest) =>
    '\x7b' :: (quote key.toList ++ (':' :: (value.dumps ++ dumpEntries rest)))

/-- What follows the first item of a list. -/
def dumpItems : List Json → List Char
  | [] => [']']
  | item :: rest => ',' :: (item.dumps ++ dumpItems rest)

/-- What follows the first item of a dict. -/
def dumpEntries : List (String × Json) → List Char
  | [] => ['\x7d']
  | (key, value) :: rest =>
    ',' :: (quote key.toList ++ (':' :: (value.dumps ++ dumpEntries rest)))
end

/-- `canonical_json_bytes(value)` -/
def canonicalJsonBytes (value : Json) : Bytes := encode value.dumps

def optionalText : Option String → Json
  | none => .null
  | some text => .str text

def optionalHash (hash : Option Digest) : Json := optionalText (hash.map Digest.hex)

/-- `bool` and `int` as Python numbers, a float by its exact value in units of `2 ^ -1074`. -/
inductive Numeric where
  | exact (units : Int)
  | infinity (negative : Bool)
  | nan
  deriving DecidableEq

def Binary64.numeric : Binary64 → Numeric
  | .nan => .nan
  | .infinity negative => .infinity negative
  | .finite negative units _ => .exact (if negative then -(units : Int) else units)

def Json.numeric : Json → Option Numeric
  | .bool value => some (.exact (if value then unitsPerOne else 0))
  | .int n => some (.exact (n * unitsPerOne))
  | .float x => some x.numeric
  | _ => none

def numericEq : Option Numeric → Option Numeric → Bool
  | some a, some b => decide (a = b)
  | _, _ => false

mutual
/-- Python's `==` on decoded JSON inside a list or a dict: numbers compare by value, and
nan, of which `json.loads` has a single object, is found equal to itself by identity. -/
def Json.pyEq : Json → Json → Bool
  | .null, .null => true
  | .str a, .str b => decide (a = b)
  | .arr a, .arr b => pyEqItems a b
  | .obj a, .obj b => pyEqEntries a b
  | a, b => numericEq a.numeric b.numeric

def pyEqItems : List Json → List Json → Bool
  | [], [] => true
  | a :: as, b :: bs => a.pyEq b && pyEqItems as bs
  | _, _ => false

/-- Dicts compare as finite maps, and the items are in key order on both sides. -/
def pyEqEntries : List (String × Json) → List (String × Json) → Bool
  | [], [] => true
  | (k, a) :: as, (l, b) :: bs => decide (k = l) && a.pyEq b && pyEqEntries as bs
  | _, _ => false
end

theorem numericEq_some (x : Numeric) : numericEq (some x) (some x) = true := decide_eq_true rfl

mutual
theorem Json.pyEq_refl : (v : Json) → v.pyEq v = true
  | .null => by simp only [Json.pyEq]
  | .bool _ => by simp only [Json.pyEq]; exact numericEq_some _
  | .int _ => by simp only [Json.pyEq]; exact numericEq_some _
  | .float _ => by simp only [Json.pyEq]; exact numericEq_some _
  | .str s => by simp [Json.pyEq]
  | .arr items => by simp only [Json.pyEq, pyEqItems_refl items]
  | .obj entries => by simp only [Json.pyEq, pyEqEntries_refl entries]

theorem pyEqItems_refl : (items : List Json) → pyEqItems items items = true
  | [] => by simp only [pyEqItems]
  | item :: rest => by simp only [pyEqItems, Json.pyEq_refl item, pyEqItems_refl rest, Bool.and_self]

theorem pyEqEntries_refl : (entries : List (String × Json)) → pyEqEntries entries entries = true
  | [] => by simp only [pyEqEntries]
  | (_, value) :: rest => by
    simp only [pyEqEntries, Json.pyEq_refl value, pyEqEntries_refl rest, decide_true, Bool.and_self]
end

end Python
