import BallotProof.Json

/-! `json.loads` on text, and that it inverts `json.dumps` on well-formed values, so
that canonical text determines the value. Twice the length of the text is enough fuel:
of two nested calls of the reader at least one consumes a character. -/
namespace Python

def jsonError (message : String) : Result α := .error ⟨.jsonDecodeError, message⟩

def isSpace (c : Char) : Bool := c = ' ' || c = '\t' || c = '\n' || c = '\r'

def skipSpace (text : List Char) : List Char := text.dropWhile isSpace

def hexValue (c : Char) : Option Nat :=
  if c.isDigit then some (c.toNat - 48)
  else if 'a' ≤ c ∧ c ≤ 'f' then some (c.toNat - 87)
  else if 'A' ≤ c ∧ c ≤ 'F' then some (c.toNat - 55)
  else none

/-- Four hexadecimal digits. -/
def hexQuad : List Char → Option (Nat × List Char)
  | a :: b :: c :: d :: rest =>
    match hexValue a, hexValue b, hexValue c, hexValue d with
    | some a, some b, some c, some d => some (((a * 16 + b) * 16 + c) * 16 + d, rest)
    | _, _, _, _ => none
  | _ => none

/-- A `\u` escape after the letter, joined with the low surrogate that may follow it. An
unpaired surrogate, which no UTF-8 text can hold, is rejected here. -/
def unicodeEscape (text : List Char) : Result (Char × List Char) :=
  match hexQuad text with
  | none => jsonError "Invalid \\uXXXX escape"
  | some (high, rest) =>
    if 0xD800 ≤ high ∧ high ≤ 0xDBFF then
      match rest with
      | slash :: letter :: rest' =>
        match if slash = '\\' ∧ letter = 'u' then hexQuad rest' else none with
        | some (low, rest'') =>
          if 0xDC00 ≤ low ∧ low ≤ 0xDFFF then
            .ok (Char.ofNat (0x10000 + (high - 0xD800) * 0x400 + (low - 0xDC00)), rest'')
          else jsonError "unpaired surrogate"
        | none => jsonError "unpaired surrogate"
      | _ => jsonError "unpaired surrogate"
    else if 0xDC00 ≤ high ∧ high ≤ 0xDFFF then jsonError "unpaired surrogate"
    else .ok (Char.ofNat high, rest)

/-- The character after a backslash. -/
def unescape (c : Char) : Option Char :=
  if c = '"' then some '"' else if c = '\\' then some '\\' else if c = '/' then some '/'
  else if c = 'b' then some '\x08' else if c = 'f' then some '\x0c'
  else if c = 'n' then some '\n' else if c = 'r' then some '\r'
  else if c = 't' then some '\t' else none

/-- `scanstring`, after the opening quote. -/
def readString : Nat → List Char → Result (List Char × List Char)
  | 0, _ => jsonError "Unterminated string starting at"
  | _ + 1, [] => jsonError "Unterminated string starting at"
  | fuel + 1, c :: rest =>
    if c = '"' then .ok ([], rest)
    else if c = '\\' then
      match rest with
      | [] => jsonError "Unterminated string starting at"
      | e :: rest' =>
        if e = 'u' then
          match unicodeEscape rest' with
          | .error error => .error error
          | .ok (d, rest'') => (readString fuel rest'').map fun r => (d :: r.1, r.2)
        else
          match unescape e with
          | none => jsonError "Invalid \\escape"
          | some d => (readString fuel rest').map fun r => (d :: r.1, r.2)
    else if c.toNat < 32 then jsonError "Invalid control character at"
    else (readString fuel rest).map fun r => (c :: r.1, r.2)

/-- `int(literal)` of Python 3.11, with its limit on the number of digits. -/
def intOf (negative : Bool) (digits : List Char) : Result Json :=
  if digits.length ≤ intDigitLimit then
    .ok (.int (if negative then -(natOf digits : Int) else natOf digits))
  else .error ⟨.valueError, "Exceeds the limit (4300 digits) for integer string conversion"⟩

def Number.toJson (n : Number) : Result Json :=
  if n.fraction.isNone ∧ n.exponent.isNone then intOf n.negative n.whole
  else .ok (.float n.toFloat)

/-- The constants, longest match not needed: no one is the start of another. -/
def constants : List (List Char × Json) := [
  ("null".toList, .null), ("true".toList, .bool true), ("false".toList, .bool false),
  ("NaN".toList, .float .nan), ("Infinity".toList, .float (.infinity false)),
  ("-Infinity".toList, .float (.infinity true))]

def readConstant (text : List Char) : Option (Json × List Char) :=
  (constants.find? fun entry => entry.1.isPrefixOf text).map fun entry =>
    (entry.2, text.drop entry.1.length)

/-- A value that is not a string, a list or a dict. -/
def readScalar (text : List Char) : Result (Json × List Char) :=
  match readConstant text with
  | some found => .ok found
  | none =>
    match scanNumber text with
    | some (n, rest) => n.toJson.map fun value => (value, rest)
    | none => jsonError "Expecting value"

mutual
/-- `scan_once` -/
def readValue : Nat → List Char → Result (Json × List Char)
  | 0, _ => jsonError "Expecting value"
  | _ + 1, [] => jsonError "Expecting value"
  | fuel + 1, c :: rest =>
    if c = '"' then (readString fuel rest).map fun r => (.str (String.ofList r.1), r.2)
    else if c = '[' then readArray fuel (skipSpace rest)
    else if c = '\x7b' then readObject fuel (skipSpace rest)
    else readScalar (c :: rest)

/-- `JSONArray`, after the bracket. -/
def readArray : Nat → List Char → Result (Json × List Char)
  | 0, _ => jsonError "Expecting value"
  | fuel + 1, text =>
    if text.head? = some ']' then .ok (.arr [], text.tail)
    else do
      let (item, rest) ← readValue fuel text
      let (items, rest) ← readItems fuel (skipSpace rest)
      .ok (.arr (item :: items), rest)

/-- The list after one of its items. -/
def readItems : Nat → List Char → Result (List Json × List Char)
  | 0, _ => jsonError "Expecting ',' delimiter"
  | _ + 1, [] => jsonError "Expecting ',' delimiter"
  | fuel + 1, c :: rest =>
    if c = ']' then .ok ([], rest)
    else if c = ',' then do
      let (item, rest) ← readValue fuel (skipSpace rest)
      let (items, rest) ← readItems fuel (skipSpace rest)
      .ok (item :: items, rest)
    else jsonError "Expecting ',' delimiter"

/-- `JSONObject`, after the brace. -/
def readObject : Nat → List Char → Result (Json × List Char)
  | 0, _ => jsonError "Expecting property name enclosed in double quotes"
  | fuel + 1, text =>
    if text.head? = some '\x7d' then .ok (.obj [], text.tail)
    else do
      let (pair, rest) ← readPair fuel text
      let (pairs, rest) ← readPairs fuel (skipSpace rest)
      .ok (.obj (dictOf (pair :: pairs)), rest)

/-- A key, a colon and a value. -/
def readPair : Nat → List Char → Result ((String × Json) × List Char)
  | 0, _ => jsonError "Expecting property name enclosed in double quotes"
  | _ + 1, [] => jsonError "Expecting property name enclosed in double quotes"
  | fuel + 1, c :: rest =>
    if c = '"' then do
      let (key, rest) ← readString fuel rest
      match skipSpace rest with
      | [] => jsonError "Expecting ':' delimiter"
      | d :: rest =>
        if d = ':' then do
          let (value, rest) ← readValue fuel (skipSpace rest)
          .ok ((String.ofList key, value), rest)
        else jsonError "Expecting ':' delimiter"
    else jsonError "Expecting property name enclosed in double quotes"

/-- The dict after one of its items. -/
def readPairs : Nat → List Char → Result (List (String × Json) × List Char)
  | 0, _ => jsonError "Expecting ',' delimiter"
  | _ + 1, [] => jsonError "Expecting ',' delimiter"
  | fuel + 1, c :: rest =>
    if c = '\x7d' then .ok ([], rest)
    else if c = ',' then do
      let (pair, rest) ← readPair fuel (skipSpace rest)
      let (pairs, rest) ← readPairs fuel (skipSpace rest)
      .ok (pair :: pairs, rest)
    else jsonError "Expecting ',' delimiter"
end

/-- `json.loads(text)` -/
def loads (text : List Char) : Result Json :=
  if text.head? = some '\ufeff' then
    jsonError "Unexpected UTF-8 BOM (decode using utf-8-sig)"
  else
    match readValue (2 * text.length + 1) (skipSpace text) with
    | .error error => .error error
    | .ok (value, rest) =>
      if (skipSpace rest).isEmpty then .ok value else jsonError "Extra data"

theorem hexValue_hexDigit : ∀ n < 16, hexValue (hexDigit n) = some n := by decide

theorem hexQuad_control (h : n < 32) : hexQuad
    ('0' :: '0' :: hexDigit (n / 16) :: hexDigit (n % 16) :: rest) = some (n, rest) := by
  have zero : hexValue '0' = some 0 := rfl
  simp only [hexQuad, zero, hexValue_hexDigit _ (show n / 16 < 16 by omega),
    hexValue_hexDigit _ (show n % 16 < 16 by omega)]
  congr 2
  omega

theorem readString_escape (c : Char) (fuel : Nat) (rest : List Char) :
    readString (fuel + 1) (escape c ++ rest) =
      (readString fuel rest).map fun r => (c :: r.1, r.2) := by
  unfold escape
  split_ifs with h₁ h₂ h₃ h₄ h₅ h₆ h₇ control
  all_goals try subst c
  all_goals try (simp [readString, unescape]; done)
  · have plain : ¬(55296 ≤ c.toNat ∧ c.toNat ≤ 56319) := by omega
    have plain' : ¬(56320 ≤ c.toNat ∧ c.toNat ≤ 57343) := by omega
    simp [readString, unicodeEscape, hexQuad_control control, plain, plain']
  · simp [readString, h₁, h₂, control]

theorem readString_quote (text : List Char) : ∀ fuel rest,
    (text.flatMap escape).length < fuel →
    readString fuel (text.flatMap escape ++ '"' :: rest) = .ok (text, rest) := by
  induction text with
  | nil =>
    intro fuel rest enough
    obtain ⟨fuel, rfl⟩ := Nat.exists_eq_succ_of_ne_zero (Nat.ne_of_gt enough)
    simp [readString]
  | cons c text ih =>
    intro fuel rest enough
    have some : 1 ≤ (escape c).length := by unfold escape; split_ifs <;> simp
    obtain ⟨fuel, rfl⟩ := Nat.exists_eq_succ_of_ne_zero (Nat.ne_of_gt (Nat.zero_lt_of_lt enough))
    simp only [List.flatMap_cons, List.length_append] at enough
    rw [List.flatMap_cons, List.append_assoc, readString_escape, ih fuel rest (by omega)]
    rfl

theorem quote_injective : Function.Injective quote := by
  intro a b same
  have tails := (List.cons.inj same).2
  have read := readString_quote a ((a.flatMap escape).length + (b.flatMap escape).length + 1) [] (by omega)
  have read' := readString_quote b ((a.flatMap escape).length + (b.flatMap escape).length + 1) [] (by omega)
  rw [tails, read'] at read
  cases read
  rfl

/-- A first character of JSON text that the reader neither skips nor takes for the end of
a list or a dict. -/
def opens (c : Char) : Bool := !isSpace c && c != ']' && c != '\x7d' && c != '\ufeff'

theorem opens_digit (h : c.isDigit = true) : opens c = true := by
  have apart (d : Char) (hd : d.isDigit = false) : c ≠ d := by rintro rfl; simp [h] at hd
  simp [opens, isSpace, apart ' ' rfl, apart '\t' rfl, apart '\n' rfl, apart '\r' rfl,
    apart ']' rfl, apart '\x7d' rfl, apart '\ufeff' rfl]

/-- A number opens with a digit, after a minus sign if it has one. -/
theorem Number.text_head (h : Number.valid n = true) :
    ∃ d rest, d.isDigit = true ∧ (n.text = d :: rest ∨ n.text = '-' :: d :: rest) := by
  obtain ⟨negative, whole, fraction, exponent⟩ := n
  simp only [Number.valid, Bool.and_eq_true] at h
  cases whole with
  | nil => simp [wholePart] at h
  | cons d whole =>
    have digit : d.isDigit = true := by simp [wholePart] at h; exact h.1.1.1.1
    cases negative
    · exact ⟨d, _, digit, Or.inl rfl⟩
    · exact ⟨d, _, digit, Or.inr rfl⟩

theorem readScalar_number {n : Number} (valid : n.valid = true) (stop : Delimited rest)
    (value : n.toJson = .ok v) : readScalar (n.text ++ rest) = .ok (v, rest) := by
  have constant : readConstant (n.text ++ rest) = none := by
    obtain ⟨d, tail, digit, form⟩ := n.text_head valid
    have apart (c : Char) (hc : c.isDigit = false) : c ≠ d := by rintro rfl; simp [digit] at hc
    rcases form with form | form
    · simp [readConstant, constants, form, List.isPrefixOf, apart 'n' rfl, apart 't' rfl,
        apart 'f' rfl, apart 'N' rfl, apart 'I' rfl, apart '-' rfl]
    · simp [readConstant, constants, form, List.isPrefixOf, apart 'I' rfl]
  simp [readScalar, constant, scanNumber_text valid stop, value, Except.map]

theorem intText_eq (n : Int) : intText n = Number.text ⟨decide (n < 0), decimal n.natAbs, none, none⟩ := by
  cases n <;> simp [intText, Number.text, Int.negSucc_lt_zero]

theorem readScalar_int (fits : intFits n = true) (stop : Delimited rest) :
    readScalar (intText n ++ rest) = .ok (.int n, rest) := by
  rw [intText_eq]
  apply readScalar_number (by simp [Number.valid, decimal_wholePart]) stop
  have length : (decimal n.natAbs).length ≤ intDigitLimit := by simpa [intFits] using fits
  simp only [Number.toJson, Option.isNone_none, and_self, if_true, intOf, length, natOf_decimal]
  congr 2
  by_cases sign : n < 0
  · simp only [sign, decide_true, if_true]; omega
  · simp only [sign, decide_false, Bool.false_eq_true, if_false]; omega

theorem layout_point (negative : Bool) (ds : List Char) (point : Int) :
    ¬((layout negative ds point).fraction.isNone ∧ (layout negative ds point).exponent.isNone) := by
  unfold layout
  split_ifs <;> simp

theorem reprNumber_point (negative : Bool) (units : Nat) :
    ¬((reprNumber negative units).fraction.isNone ∧
      (reprNumber negative units).exponent.isNone) := by
  by_cases zero : units = 0
  · simp [reprNumber, zero]
  · simp only [reprNumber, zero, if_false]
    apply layout_point

theorem readScalar_float (x : Binary64) (stop : Delimited rest) :
    readScalar (floatText x ++ rest) = .ok (.float x, rest) := by
  cases x with
  | nan => simp [floatText, readScalar, readConstant, constants, List.isPrefixOf]
  | infinity negative =>
    cases negative <;> simp [floatText, readScalar, readConstant, constants, List.isPrefixOf]
  | finite negative units h =>
    have float : (reprNumber negative units).toJson = .ok (.float (.finite negative units h)) := by
      rw [Number.toJson, if_neg (reprNumber_point negative units), reprNumber_toFloat h]
    rw [floatText]
    exact readScalar_number (reprNumber_valid h) stop float

theorem floatText_head (x : Binary64) : ∃ c rest, floatText x = c :: rest ∧
    (c.isDigit = true ∨ c = '-' ∨ c = 'N' ∨ c = 'I') := by
  cases x with
  | nan => exact ⟨'N', ['a', 'N'], rfl, by simp⟩
  | infinity negative => cases negative <;> simp [floatText]
  | finite negative units h =>
    obtain ⟨d, tail, digit, form⟩ := Number.text_head (@reprNumber_valid units negative h)
    rcases form with form | form
    · exact ⟨d, tail, form, Or.inl digit⟩
    · exact ⟨'-', d :: tail, form, by simp⟩

theorem intText_head (n : Int) : ∃ c rest, intText n = c :: rest ∧
    (c.isDigit = true ∨ c = '-' ∨ c = 'N' ∨ c = 'I') := by
  have valid : Number.valid ⟨decide (n < 0), decimal n.natAbs, none, none⟩ = true := by
    simp [Number.valid, decimal_wholePart]
  obtain ⟨d, tail, digit, form⟩ := Number.text_head valid
  rw [intText_eq]
  rcases form with form | form
  · exact ⟨d, tail, form, Or.inl digit⟩
  · exact ⟨'-', d :: tail, form, by simp⟩

/-- What the reader does on the first character of a number or a float constant. -/
theorem readValue_scalar {text rest : List Char} (h : ∃ c tail, text = c :: tail ∧
    (c.isDigit = true ∨ c = '-' ∨ c = 'N' ∨ c = 'I')) (pos : 0 < fuel) :
    readValue fuel (text ++ rest) = readScalar (text ++ rest) := by
  obtain ⟨c, tail, rfl, first⟩ := h
  obtain ⟨fuel, rfl⟩ := Nat.exists_eq_succ_of_ne_zero (Nat.ne_of_gt pos)
  have apart (d : Char) (hd : d.isDigit = false) (a : d ≠ '-') (b : d ≠ 'N') (e : d ≠ 'I') :
      c ≠ d := by
    rintro rfl
    rcases first with h | h | h | h
    · simp [h] at hd
    all_goals contradiction
  simp [readValue, apart '"' rfl (by decide) (by decide) (by decide),
    apart '[' rfl (by decide) (by decide) (by decide),
    apart '\x7b' rfl (by decide) (by decide) (by decide)]

theorem dumps_head (v : Json) : ∃ c rest, v.dumps = c :: rest ∧ opens c = true := by
  have number (text : List Char) (h : ∃ c rest, text = c :: rest ∧
      (c.isDigit = true ∨ c = '-' ∨ c = 'N' ∨ c = 'I')) :
      ∃ c rest, text = c :: rest ∧ opens c = true := by
    obtain ⟨c, rest, form, first⟩ := h
    refine ⟨c, rest, form, ?_⟩
    rcases first with digit | rfl | rfl | rfl
    · exact opens_digit digit
    all_goals rfl
  match v with
  | .null => rw [Json.dumps]; exact ⟨'n', ['u', 'l', 'l'], by decide, by decide⟩
  | .bool true => rw [Json.dumps]; exact ⟨'t', ['r', 'u', 'e'], by decide, by decide⟩
  | .bool false => rw [Json.dumps]; exact ⟨'f', ['a', 'l', 's', 'e'], by decide, by decide⟩
  | .int n => rw [Json.dumps]; exact number _ (intText_head n)
  | .float x => rw [Json.dumps]; exact number _ (floatText_head x)
  | .str s => rw [Json.dumps]; exact ⟨'"', _, rfl, rfl⟩
  | .arr [] => rw [Json.dumps]; exact ⟨'[', _, rfl, rfl⟩
  | .arr (_ :: _) => rw [Json.dumps]; exact ⟨'[', _, rfl, rfl⟩
  | .obj [] => rw [Json.dumps]; exact ⟨'\x7b', _, rfl, rfl⟩
  | .obj (_ :: _) => rw [Json.dumps]; exact ⟨'\x7b', _, rfl, rfl⟩

theorem skipSpace_cons (h : isSpace c = false) : skipSpace (c :: rest) = c :: rest := by
  simp [skipSpace, h]

theorem skipSpace_dumps (v : Json) (rest : List Char) :
    skipSpace (v.dumps ++ rest) = v.dumps ++ rest := by
  obtain ⟨c, tail, form, first⟩ := dumps_head v
  have plain : isSpace c = false := by
    simp only [opens, Bool.and_eq_true, Bool.not_eq_true'] at first
    exact first.1.1.1
  rw [form]
  exact skipSpace_cons plain

theorem skipSpace_dumpItems (items : List Json) (rest : List Char) :
    skipSpace (dumpItems items ++ rest) = dumpItems items ++ rest := by
  cases items <;> rw [dumpItems] <;> exact skipSpace_cons rfl

theorem skipSpace_dumpEntries (entries : List (String × Json)) (rest : List Char) :
    skipSpace (dumpEntries entries ++ rest) = dumpEntries entries ++ rest := by
  rcases entries with _ | ⟨⟨key, value⟩, entries⟩ <;> rw [dumpEntries] <;> exact skipSpace_cons rfl

theorem dumpItems_delimited (items : List Json) (rest : List Char) :
    Delimited (dumpItems items ++ rest) := by
  cases items <;> rw [dumpItems] <;> refine ⟨?_, ?_, ?_, ?_⟩ <;> decide

theorem dumpEntries_delimited (entries : List (String × Json)) (rest : List Char) :
    Delimited (dumpEntries entries ++ rest) := by
  rcases entries with _ | ⟨⟨key, value⟩, entries⟩ <;> rw [dumpEntries] <;>
    refine ⟨?_, ?_, ?_, ?_⟩ <;> decide

mutual
/-- Reading canonical text gives the value back and stops after it. -/
theorem readValue_dumps : (v : Json) → v.wellFormed = true → ∀ fuel rest,
    2 * v.dumps.length ≤ fuel → Delimited rest → readValue fuel (v.dumps ++ rest) = .ok (v, rest)
  | .null, _, fuel, rest, enough, _ => by
    obtain ⟨fuel, rfl⟩ := Nat.exists_eq_add_of_le' (show 1 ≤ fuel by simp [Json.dumps] at enough; omega)
    simp [Json.dumps, readValue, readScalar, readConstant, constants, List.isPrefixOf]
  | .bool value, _, fuel, rest, enough, _ => by
    obtain ⟨fuel, rfl⟩ := Nat.exists_eq_add_of_le' (show 1 ≤ fuel by
      cases value <;> simp [Json.dumps] at enough <;> omega)
    cases value <;>
      simp [Json.dumps, readValue, readScalar, readConstant, constants, List.isPrefixOf]
  | .int n, fits, fuel, rest, enough, stop => by
    obtain ⟨c, tail, form, first⟩ := intText_head n
    rw [Json.dumps] at enough ⊢
    have pos : 0 < fuel := by rw [form] at enough; simp at enough; omega
    rw [readValue_scalar ⟨c, tail, form, first⟩ pos]
    exact readScalar_int (by simpa [Json.wellFormed] using fits) stop
  | .float x, _, fuel, rest, enough, stop => by
    obtain ⟨c, tail, form, first⟩ := floatText_head x
    rw [Json.dumps] at enough ⊢
    have pos : 0 < fuel := by rw [form] at enough; simp at enough; omega
    rw [readValue_scalar ⟨c, tail, form, first⟩ pos]
    exact readScalar_float x stop
  | .str s, _, fuel, rest, enough, _ => by
    simp only [Json.dumps, quote, List.length_cons, List.length_append, List.length_nil] at enough
    obtain ⟨fuel, rfl⟩ := Nat.exists_eq_add_of_le' (show 1 ≤ fuel by omega)
    have string := readString_quote s.toList fuel rest (by omega)
    simp [Json.dumps, quote, readValue, string, Except.map]
  | .arr [], _, fuel, rest, enough, _ => by
    simp only [Json.dumps, List.length_cons, List.length_nil] at enough
    obtain ⟨fuel, rfl⟩ := Nat.exists_eq_add_of_le' (show 2 ≤ fuel by omega)
    simp [Json.dumps, readValue, readArray, skipSpace_cons (show isSpace ']' = false by rfl)]
  | .arr (item :: items), h, fuel, rest, enough, stop => by
    simp only [Json.wellFormed, wellFormedItems, Bool.and_eq_true] at h
    simp only [Json.dumps, List.length_cons, List.length_append] at enough
    obtain ⟨fuel, rfl⟩ := Nat.exists_eq_add_of_le' (show 2 ≤ fuel by omega)
    have first := readValue_dumps item h.1 fuel (dumpItems items ++ rest) (by omega)
      (dumpItems_delimited items rest)
    have others := readItems_dumps items h.2 fuel rest (by omega)
    obtain ⟨c, tail, form, opening⟩ := dumps_head item
    have bracket : c ≠ ']' := by rintro rfl; cases opening
    simp only [Json.dumps, List.cons_append, List.append_assoc, readValue, skipSpace_dumps]
    simp only [form, List.cons_append] at first
    simp [readArray, form, bracket, first, skipSpace_dumpItems, others, bind, Except.bind]
  | .obj [], _, fuel, rest, enough, _ => by
    simp only [Json.dumps, List.length_cons, List.length_nil] at enough
    obtain ⟨fuel, rfl⟩ := Nat.exists_eq_add_of_le' (show 2 ≤ fuel by omega)
    simp [Json.dumps, readValue, readObject, skipSpace_cons (show isSpace '\x7d' = false by rfl)]
  | .obj ((key, value) :: entries), h, fuel, rest, enough, stop => by
    simp only [Json.wellFormed, wellFormedEntries, Bool.and_eq_true] at h
    obtain ⟨sorted, valueOk, entriesOk⟩ := h
    simp only [Json.dumps, quote, List.length_cons, List.length_append, List.length_nil] at enough
    obtain ⟨fuel, rfl⟩ := Nat.exists_eq_add_of_le' (show 3 ≤ fuel by omega)
    have first := readValue_dumps value valueOk fuel (dumpEntries entries ++ rest) (by omega)
      (dumpEntries_delimited entries rest)
    have others := readPairs_dumps entries entriesOk (fuel + 1) rest (by omega)
    have string := readString_quote key.toList fuel
      (':' :: (value.dumps ++ (dumpEntries entries ++ rest))) (by omega)
    simp [Json.dumps, quote, readValue, readObject, readPair, string, first, others,
      skipSpace_dumps, skipSpace_dumpEntries, skipSpace_cons (show isSpace '"' = false by rfl),
      skipSpace_cons (show isSpace ':' = false by rfl), bind, Except.bind, dictOf_sorted sorted]

theorem readItems_dumps : (items : List Json) → wellFormedItems items = true → ∀ fuel rest,
    2 * (dumpItems items).length ≤ fuel →
    readItems fuel (dumpItems items ++ rest) = .ok (items, rest)
  | [], _, fuel, rest, enough => by
    simp only [dumpItems, List.length_cons, List.length_nil] at enough
    obtain ⟨fuel, rfl⟩ := Nat.exists_eq_add_of_le' (show 1 ≤ fuel by omega)
    simp [dumpItems, readItems]
  | item :: items, h, fuel, rest, enough => by
    simp only [wellFormedItems, Bool.and_eq_true] at h
    simp only [dumpItems, List.length_cons, List.length_append] at enough
    obtain ⟨fuel, rfl⟩ := Nat.exists_eq_add_of_le' (show 1 ≤ fuel by omega)
    have first := readValue_dumps item h.1 fuel (dumpItems items ++ rest) (by omega)
      (dumpItems_delimited items rest)
    have others := readItems_dumps items h.2 fuel rest (by omega)
    simp [dumpItems, readItems, skipSpace_dumps, first, skipSpace_dumpItems, others, bind, Except.bind]

theorem readPairs_dumps : (entries : List (String × Json)) → wellFormedEntries entries = true →
    ∀ fuel rest, 2 * (dumpEntries entries).length ≤ fuel →
    readPairs fuel (dumpEntries entries ++ rest) = .ok (entries, rest)
  | [], _, fuel, rest, enough => by
    simp only [dumpEntries, List.length_cons, List.length_nil] at enough
    obtain ⟨fuel, rfl⟩ := Nat.exists_eq_add_of_le' (show 1 ≤ fuel by omega)
    simp [dumpEntries, readPairs]
  | (key, value) :: entries, h, fuel, rest, enough => by
    simp only [wellFormedEntries, Bool.and_eq_true] at h
    simp only [dumpEntries, quote, List.length_cons, List.length_append, List.length_nil] at enough
    obtain ⟨fuel, rfl⟩ := Nat.exists_eq_add_of_le' (show 2 ≤ fuel by omega)
    have first := readValue_dumps value h.1 fuel (dumpEntries entries ++ rest) (by omega)
      (dumpEntries_delimited entries rest)
    have others := readPairs_dumps entries h.2 (fuel + 1) rest (by omega)
    have string := readString_quote key.toList fuel
      (':' :: (value.dumps ++ (dumpEntries entries ++ rest))) (by omega)
    simp [dumpEntries, quote, readPairs, readPair, string, first, others, skipSpace_dumps,
      skipSpace_dumpEntries, skipSpace_cons (show isSpace '"' = false by rfl),
      skipSpace_cons (show isSpace ':' = false by rfl), bind, Except.bind]
end

/-- `json.loads(json.dumps(v))` is `v`. -/
theorem loads_dumps {v : Json} (h : v.wellFormed = true) : loads v.dumps = .ok v := by
  obtain ⟨c, tail, form, opening⟩ := dumps_head v
  have mark : v.dumps.head? ≠ some '\ufeff' := by
    rw [form, List.head?_cons]
    rintro ⟨⟩
    cases opening
  have read := readValue_dumps v h (2 * v.dumps.length + 1) [] (by omega) trivial
  have space := skipSpace_dumps v []
  rw [List.append_nil] at read space
  simp only [loads, if_neg mark, space, read]
  rfl

theorem dumps_injective {v w : Json} (hv : v.wellFormed = true) (hw : w.wellFormed = true)
    (same : v.dumps = w.dumps) : v = w := by
  have read := loads_dumps hv
  rw [same, loads_dumps hw] at read
  exact (Except.ok.inj read).symm

theorem canonicalJsonBytes_injective {v w : Json} (hv : v.wellFormed = true)
    (hw : w.wellFormed = true) (same : canonicalJsonBytes v = canonicalJsonBytes w) : v = w :=
  dumps_injective hv hw (encode_injective same)

end Python
