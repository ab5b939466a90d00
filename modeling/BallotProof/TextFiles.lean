import BallotProof.JsonReader

/-! Text read from a file: universal newlines leave canonical JSON as it is. -/
namespace Python

/-- What `read_text` makes of the decoded characters. -/
def universalNewlines : List Char → List Char
  | '\r' :: '\n' :: rest => '\n' :: universalNewlines rest
  | '\r' :: rest => '\n' :: universalNewlines rest
  | c :: rest => c :: universalNewlines rest
  | [] => []

theorem universalNewlines_eq {text : List Char} (plain : '\r' ∉ text) : universalNewlines text = text := by
  fun_induction universalNewlines text with
  | case1 | case2 => simp at plain
  | case3 c rest _ _ ih => rw [ih fun member => plain (List.mem_cons_of_mem c member)]
  | case4 => rfl

theorem noReturn_escape (c : Char) : '\r' ∉ escape c := by
  have digit : ∀ n < 16, '\r' ≠ hexDigit n := by decide
  unfold escape
  split_ifs with quote back newline other tab feed backspace control
  any_goals simp
  · exact ⟨digit _ (by omega), digit _ (by omega)⟩
  · exact Ne.symm other

theorem noReturn_quote (text : List Char) : '\r' ∉ quote text := by
  simp [quote, noReturn_escape]

theorem noReturn_digits {digits : List Char} (all : digits.all Char.isDigit = true) : '\r' ∉ digits := by
  intro member
  have digit := List.all_eq_true.mp all _ member
  revert digit
  decide

theorem noReturn_digitString {digits : List Char} (h : digitString digits = true) : '\r' ∉ digits := by
  rw [digitString, Bool.and_eq_true] at h
  exact noReturn_digits h.2

theorem noReturn_number {n : Number} (valid : n.valid = true) : '\r' ∉ n.text := by
  simp only [Number.valid, Bool.and_eq_true] at valid
  obtain ⟨⟨wholeValid, fractionValid⟩, exponentValid⟩ := valid
  have whole : '\r' ∉ n.whole := by
    cases form : n.whole with
    | nil => exact List.not_mem_nil
    | cons c rest =>
      rw [form, wholePart, Bool.and_eq_true, Bool.and_eq_true] at wholeValid
      apply noReturn_digits
      rw [List.all_cons, wholeValid.1.1, wholeValid.1.2]
      rfl
  have sign : '\r' ∉ (if n.negative then ['-'] else []) := by
    cases n.negative <;> simp
  have fraction : '\r' ∉ Number.fractionText n.fraction := by
    cases form : n.fraction with
    | none => exact List.not_mem_nil
    | some digits =>
      rw [form] at fractionValid
      simpa [Number.fractionText] using noReturn_digitString fractionValid
  have exponent : '\r' ∉ Number.exponentText n.exponent := by
    cases form : n.exponent with
    | none => exact List.not_mem_nil
    | some written =>
      rw [form] at exponentValid
      cases minus : written.1 <;> simpa [Number.exponentText, minus] using noReturn_digitString exponentValid
  have parts : n.text = (if n.negative then ['-'] else []) ++ n.whole ++ Number.fractionText n.fraction ++
      Number.exponentText n.exponent := rfl
  rw [parts]
  simp only [List.mem_append, not_or]
  exact ⟨⟨⟨sign, whole⟩, fraction⟩, exponent⟩

theorem noReturn_int (n : Int) : '\r' ∉ intText n := by
  have digits (m : Nat) : '\r' ∉ decimal m :=
    noReturn_digits (List.all_eq_true.mpr (decimal_isDigit m))
  cases n with
  | ofNat m => exact digits m
  | negSucc m => simpa [intText] using digits (m + 1)

theorem noReturn_float (x : Binary64) : '\r' ∉ floatText x := by
  cases x with
  | nan => decide
  | infinity negative => cases negative <;> decide
  | finite negative units representable => exact noReturn_number (reprNumber_valid representable)

mutual
theorem noReturn_dumps : (v : Json) → '\r' ∉ v.dumps
  | .null => by decide
  | .bool value => by cases value <;> decide
  | .int n => by simpa only [Json.dumps] using noReturn_int n
  | .float x => by simpa only [Json.dumps] using noReturn_float x
  | .str s => by simpa only [Json.dumps] using noReturn_quote s.toList
  | .arr [] => by simp [Json.dumps]
  | .arr (item :: rest) => by simp [Json.dumps, noReturn_dumps item, noReturn_items rest]
  | .obj [] => by simp [Json.dumps]
  | .obj ((key, value) :: rest) => by
    simp [Json.dumps, noReturn_quote, noReturn_dumps value, noReturn_entries rest]

theorem noReturn_items : (items : List Json) → '\r' ∉ dumpItems items
  | [] => by simp [dumpItems]
  | item :: rest => by simp [dumpItems, noReturn_dumps item, noReturn_items rest]

theorem noReturn_entries : (entries : List (String × Json)) → '\r' ∉ dumpEntries entries
  | [] => by simp [dumpEntries]
  | (key, value) :: rest => by
    simp [dumpEntries, noReturn_quote, noReturn_dumps value, noReturn_entries rest]
end

end Python
