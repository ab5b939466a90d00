import BallotProof.Bytes

/-! The `csv` module with its excel dialect and line feeds as line terminators: rows of fields, their text, and
the reader, which takes a text one character at a time. -/
namespace Csv
open Python

abbrev Field := List Char
abbrev Row := List Field

/-- A character for which a field is quoted. -/
def special (c : Char) : Bool := c = ',' || c = '"' || c = '\r' || c = '\n'

/-- A field inside quotes, with its quotes doubled. -/
def doubled (field : Field) : List Char := field.flatMap fun c => if c = '"' then ['"', '"'] else [c]

def writeField (field : Field) : List Char :=
  if field.any special then '"' :: (doubled field ++ ['"']) else field

/-- `writer.writerow`; the quotes tell one empty field from no field. -/
def writeRow (row : Row) : List Char :=
  (if row = [[]] then ['"', '"'] else [','].intercalate (row.map writeField)) ++ ['\n']

def writeRows (rows : List Row) : List Char := rows.flatMap writeRow

inductive State where
  | startRecord | startField | inField | inQuotedField | quoteInQuotedField | eatNewlines
  deriving DecidableEq

structure Reader where
  state : State
  fields : Row
  field : Field

namespace Reader

def start : Reader := ⟨.startRecord, [], []⟩

def save (r : Reader) (state : State) : Reader := ⟨state, r.fields ++ [r.field], []⟩

def tooLarge (limit : Nat) : Error := ⟨.csvError, "field larger than field limit (" ++ toString limit ++ ")"⟩

def add (limit : Nat) (r : Reader) (c : Char) (state : State) : Result Reader :=
  if limit ≤ r.field.length then .error (tooLarge limit) else .ok ⟨state, r.fields, r.field ++ [c]⟩

def isNewline (c : Char) : Bool := c = '\n' || c = '\r'

/-- The first character of a field. -/
def openField (limit : Nat) (r : Reader) (c : Char) : Result Reader :=
  if isNewline c then .ok (r.save .eatNewlines)
  else if c = '"' then .ok ⟨.inQuotedField, r.fields, r.field⟩
  else if c = ',' then .ok (r.save .startField)
  else r.add limit c .inField

/-- `parse_process_char` -/
def step (limit : Nat) (r : Reader) (c : Char) : Result Reader :=
  match r.state with
  | .startRecord => if isNewline c then .ok ⟨.eatNewlines, r.fields, r.field⟩ else r.openField limit c
  | .startField => r.openField limit c
  | .inField =>
    if isNewline c then .ok (r.save .eatNewlines)
    else if c = ',' then .ok (r.save .startField)
    else r.add limit c .inField
  | .inQuotedField =>
    if c = '"' then .ok ⟨.quoteInQuotedField, r.fields, r.field⟩ else r.add limit c .inQuotedField
  | .quoteInQuotedField =>
    if c = '"' then r.add limit c .inQuotedField
    else if c = ',' then .ok (r.save .startField)
    else if isNewline c then .ok (r.save .eatNewlines)
    else r.add limit c .inField
  | .eatNewlines =>
    if isNewline c then .ok r
    else .error ⟨.csvError, "new-line character seen in unquoted field - do you need to open the file in universal-newline mode?"⟩

/-- The end of a line. -/
def endLine (r : Reader) : Reader :=
  match r.state with
  | .startField | .inField | .quoteInQuotedField => r.save .startRecord
  | .eatNewlines => ⟨.startRecord, r.fields, r.field⟩
  | _ => r

/-- The rows that a line completes. -/
def rows (r : Reader) : List Row := if r.state = .startRecord then [r.fields] else []

def next (r : Reader) : Reader := if r.state = .startRecord then start else r

/-- What is left when the text ends inside a row. -/
def rest (r : Reader) : List Row :=
  if r.field ≠ [] ∨ r.state = .inQuotedField then [r.fields ++ [r.field]] else []

end Reader

/-- The rows of a text and how its reading ends. A line ends with its line feed, or with the text when it holds
a character. -/
def readFrom (limit : Nat) : Reader → Bool → List Char → List Row × Result Unit
  | r, inLine, [] =>
    if inLine then (r.endLine.rows ++ r.endLine.next.rest, .ok ()) else (r.rest, .ok ())
  | r, _, c :: text =>
    match r.step limit c with
    | .error e => ([], .error e)
    | .ok r =>
      if c = '\n' then
        let more := readFrom limit r.endLine.next false text
        (r.endLine.rows ++ more.1, more.2)
      else readFrom limit r true text

def read (limit : Nat) (text : List Char) : List Row × Result Unit := readFrom limit .start false text

def Fits (limit : Nat) (row : Row) : Prop := ∀ field ∈ row, field.length ≤ limit

instance : Decidable (Fits limit row) := inferInstanceAs (Decidable (∀ field ∈ row, field.length ≤ limit))

/-- What reading gives when a field fits, and when it does not. -/
def whenFits (limit : Nat) (fits : Prop) [Decidable fits] (more : List Row × Result Unit) :
    List Row × Result Unit :=
  if fits then more else ([], .error (Reader.tooLarge limit))

theorem whenFits_and [Decidable p] [Decidable q] :
    whenFits limit p (whenFits limit q more) = whenFits limit (p ∧ q) more := by
  unfold whenFits
  by_cases first : p
  · by_cases second : q
    · rw [if_pos first, if_pos second, if_pos ⟨first, second⟩]
    · rw [if_pos first, if_neg second, if_neg fun both => second both.2]
  · rw [if_neg first, if_neg fun both => first both.1]

theorem whenFits_congr [Decidable p] [Decidable q] (same : p ↔ q) :
    whenFits limit p more = whenFits limit q more := if_congr same rfl rfl

theorem readFrom_cons (limit : Nat) (r : Reader) (inLine : Bool) (filled : text ≠ []) :
    readFrom limit r inLine text = readFrom limit r true text := by
  cases text with
  | nil => exact absurd rfl filled
  | cons c text => rfl

theorem readFrom_step {r s : Reader} (stepped : r.step limit c = .ok s) (other : c ≠ '\n') :
    readFrom limit r inLine (c :: text) = readFrom limit s true text := by
  rw [readFrom, stepped]
  exact if_neg other

/-- A character that a field takes; inside quotes the line may end with it. -/
theorem readFrom_add {r : Reader} {state : State} (stepped : r.step limit c = r.add limit c state)
    (within : c = '\n' → state = .inQuotedField) (filled : text ≠ []) : readFrom limit r inLine (c :: text) =
      whenFits limit (r.field.length < limit) (readFrom limit ⟨state, r.fields, r.field ++ [c]⟩ true text) := by
  rw [readFrom, stepped, Reader.add]
  by_cases fits : r.field.length < limit
  · rw [if_neg (Nat.not_le.mpr fits), whenFits, if_pos fits]
    dsimp only
    split
    · rename_i newline
      rw [within newline]
      change ([] ++ (readFrom limit _ false text).1, _) = _
      rw [List.nil_append, readFrom_cons _ _ false filled]
      rfl
    · rfl
  · rw [if_pos (Nat.not_lt.mp fits), whenFits, if_neg fits]

theorem readFrom_quoted (limit : Nat) (fields : Row) (field body : Field) (inLine : Bool) (text : List Char)
    (within : field.length ≤ limit) :
    readFrom limit ⟨.inQuotedField, fields, field⟩ inLine (doubled body ++ '"' :: text) =
      whenFits limit (field.length + body.length ≤ limit)
        (readFrom limit ⟨.quoteInQuotedField, fields, field ++ body⟩ true text) := by
  induction body generalizing field inLine with
  | nil =>
    rw [List.append_nil, whenFits, if_pos (by simpa using within)]
    exact readFrom_step rfl (by decide)
  | cons c body ih =>
    have taken (r : Reader) (same : r.fields = fields ∧ r.field = field)
        (stepped : r.step limit c = r.add limit c .inQuotedField) :
        readFrom limit r true (c :: (doubled body ++ '"' :: text)) =
          whenFits limit (field.length + (c :: body).length ≤ limit)
            (readFrom limit ⟨.quoteInQuotedField, fields, field ++ c :: body⟩ true text) := by
      rw [readFrom_add stepped (fun _ => rfl) (by simp), same.1, same.2]
      by_cases fits : field.length < limit
      · rw [ih _ true (by simp; omega), whenFits_and, List.append_assoc]
        apply whenFits_congr
        simp only [List.length_append, List.length_cons, List.length_nil]
        omega
      · rw [whenFits, if_neg fits, whenFits, if_neg (by simp; omega)]
    by_cases quote : c = '"'
    · subst quote
      change readFrom limit _ inLine ('"' :: '"' :: (doubled body ++ '"' :: text)) = _
      rw [readFrom_step rfl (by decide)]
      exact taken _ ⟨rfl, rfl⟩ rfl
    · have same : doubled (c :: body) = c :: doubled body := by simp [doubled, quote]
      rw [same, List.cons_append, readFrom_cons _ _ inLine (by simp)]
      exact taken _ ⟨rfl, rfl⟩ (if_neg quote)

theorem special_false (plain : special c = false) : c ≠ ',' ∧ c ≠ '"' ∧ c ≠ '\r' ∧ c ≠ '\n' := by
  simpa [special, and_assoc] using plain

theorem readFrom_plain (limit : Nat) (fields : Row) (field body : Field) (inLine : Bool)
    (plain : body.any special = false) (filled : text ≠ []) (within : field.length ≤ limit) :
    readFrom limit ⟨.inField, fields, field⟩ inLine (body ++ text) =
      whenFits limit (field.length + body.length ≤ limit)
        (readFrom limit ⟨.inField, fields, field ++ body⟩ true text) := by
  induction body generalizing field inLine with
  | nil =>
    rw [List.nil_append, List.append_nil, whenFits, if_pos (by simpa using within), readFrom_cons _ _ _ filled]
  | cons c body ih =>
    obtain ⟨first, others⟩ := by simpa using plain
    obtain ⟨comma, quote, back, feed⟩ := special_false first
    have stepped : Reader.step limit ⟨.inField, fields, field⟩ c =
        Reader.add limit ⟨.inField, fields, field⟩ c .inField := by
      simp [Reader.step, Reader.isNewline, comma, back, feed]
    rw [List.cons_append, readFrom_add stepped (fun newline => absurd newline feed) (by simp [filled])]
    by_cases fits : field.length < limit
    · rw [ih _ true (by simpa using others) (by simp; omega), whenFits_and, List.append_assoc]
      apply whenFits_congr
      simp only [List.length_append, List.length_cons, List.length_nil]
      omega
    · rw [whenFits, if_neg fits, whenFits, if_neg (by simp; omega)]

/-- A field is complete. -/
def Closes (state : State) : Prop := state = .startField ∨ state = .inField ∨ state = .quoteInQuotedField

theorem readFrom_comma (closes : Closes state) : readFrom limit ⟨state, fields, field⟩ inLine (',' :: text) =
    readFrom limit ⟨.startField, fields ++ [field], []⟩ true text := by
  obtain rfl | rfl | rfl := closes
  · exact readFrom_step rfl (by decide)
  · exact readFrom_step rfl (by decide)
  · exact readFrom_step rfl (by decide)

theorem readFrom_newline (closes : Closes state) : readFrom limit ⟨state, fields, field⟩ inLine ('\n' :: text) =
    ((fields ++ [field]) :: (read limit text).1, (read limit text).2) := by
  obtain rfl | rfl | rfl := closes
  · rfl
  · rfl
  · rfl

/-- A written field is read from its start to the character after it. -/
theorem readFrom_field (limit : Nat) (fields : Row) (field : Field) (inLine : Bool) (filled : text ≠ []) :
    ∃ state, Closes state ∧ readFrom limit ⟨.startField, fields, []⟩ inLine (writeField field ++ text) =
      whenFits limit (field.length ≤ limit) (readFrom limit ⟨state, fields, field⟩ true text) := by
  unfold writeField
  by_cases quoted : field.any special = true
  · refine ⟨.quoteInQuotedField, .inr (.inr rfl), ?_⟩
    rw [if_pos quoted, List.cons_append, List.append_assoc, readFrom_step rfl (by decide)]
    have body := readFrom_quoted limit fields [] field true text (Nat.zero_le _)
    rw [List.length_nil, Nat.zero_add] at body
    exact body
  · rw [if_neg quoted]
    cases field with
    | nil =>
      refine ⟨.startField, .inl rfl, ?_⟩
      have fits : ([] : Field).length ≤ limit := Nat.zero_le _
      rw [whenFits, if_pos fits, List.nil_append, readFrom_cons _ _ _ filled]
    | cons c field =>
      refine ⟨.inField, .inr (.inl rfl), ?_⟩
      have plain : (c :: field).any special = false := Bool.eq_false_iff.mpr quoted
      obtain ⟨first, others⟩ := by simpa using plain
      obtain ⟨comma, quote, back, feed⟩ := special_false first
      have stepped : Reader.step limit ⟨.startField, fields, []⟩ c =
          Reader.add limit ⟨.startField, fields, []⟩ c .inField := by
        simp [Reader.step, Reader.openField, Reader.isNewline, comma, quote, back, feed]
      rw [List.cons_append, readFrom_add stepped (fun newline => absurd newline feed) (by simp [filled])]
      by_cases fits : 0 < limit
      · have rest := readFrom_plain limit fields [c] field true (by simpa using others) filled fits
        rw [List.nil_append, rest, whenFits_and]
        apply whenFits_congr
        simp only [List.length_cons, List.length_nil]
        omega
      · have none : ¬(c :: field).length ≤ limit := by simp; omega
        unfold whenFits
        rw [if_neg none]
        exact if_neg fits

theorem readFrom_fields (limit : Nat) (front : Row) (first : Field) (others : Row) (inLine : Bool) (text : List Char) :
    readFrom limit ⟨.startField, front, []⟩ inLine
      ([','].intercalate ((first :: others).map writeField) ++ '\n' :: text) =
      whenFits limit (Fits limit (first :: others))
        ((front ++ first :: others) :: (read limit text).1, (read limit text).2) := by
  induction others generalizing front first inLine with
  | nil =>
    obtain ⟨state, closes, field⟩ := @readFrom_field ('\n' :: text) limit front first inLine (by simp)
    have one : [','].intercalate ([first].map writeField) = writeField first := by simp [List.intercalate]
    rw [one, field, readFrom_newline closes]
    apply whenFits_congr
    simp [Fits]
  | cons second others ih =>
    obtain ⟨state, closes, field⟩ := @readFrom_field (',' :: ([','].intercalate ((second :: others).map writeField) ++
      '\n' :: text)) limit front first inLine (by simp)
    have more : [','].intercalate ((first :: second :: others).map writeField) ++ '\n' :: text =
        writeField first ++ ',' :: ([','].intercalate ((second :: others).map writeField) ++ '\n' :: text) := by
      simp [List.intercalate]
    rw [more, field, readFrom_comma closes, ih, whenFits_and, List.append_assoc]
    apply whenFits_congr
    simp [Fits]

/-- A written row starts with no end of a line. -/
theorem fields_head {others : Row} (several : first :: others ≠ [[]]) : ∃ c rest,
    [','].intercalate ((first :: others).map writeField) = c :: rest ∧ Reader.isNewline c = false := by
  obtain ⟨rest, same⟩ : ∃ rest, [','].intercalate ((first :: others).map writeField) = writeField first ++ rest ∧
      (others ≠ [] → ∃ more, rest = ',' :: more) := by
    cases others with
    | nil => exact ⟨[], by simp [List.intercalate], fun none => absurd rfl none⟩
    | cons second others => exact ⟨_, by simp [List.intercalate]; rfl, fun _ => ⟨_, rfl⟩⟩
  rw [same.1]
  unfold writeField
  by_cases quoted : first.any special = true
  · exact ⟨'"', _, by rw [if_pos quoted]; rfl, by decide⟩
  · rw [if_neg quoted]
    cases first with
    | nil =>
      obtain ⟨more, rfl⟩ := same.2 fun none => several (by rw [none])
      exact ⟨',', more, rfl, by decide⟩
    | cons c first =>
      have plain : special c = false := Bool.eq_false_iff.mpr fun holds => quoted (by simp [holds])
      obtain ⟨-, -, back, feed⟩ := special_false plain
      exact ⟨c, first ++ rest, rfl, by simp [Reader.isNewline, back, feed]⟩

theorem read_start (plain : Reader.isNewline c = false) :
    read limit (c :: text) = readFrom limit ⟨.startField, [], []⟩ false (c :: text) := by
  have stepped : Reader.start.step limit c = Reader.step limit ⟨.startField, [], []⟩ c := by
    change (if Reader.isNewline c then _ else _) = _
    rw [plain]
    rfl
  rw [read, readFrom, readFrom, stepped]

theorem read_writeRow (limit : Nat) (some : row ≠ []) (text : List Char) :
    read limit (writeRow row ++ text) =
      whenFits limit (Fits limit row) (row :: (read limit text).1, (read limit text).2) := by
  unfold writeRow
  by_cases single : row = [[]]
  · subst single
    have fits : Fits limit [[]] := by simp [Fits]
    rw [if_pos rfl, whenFits, if_pos fits]
    rfl
  · rw [if_neg single, List.append_assoc]
    cases row with
    | nil => exact absurd rfl some
    | cons first others =>
      have fields := readFrom_fields limit [] first others false text
      obtain ⟨c, rest, head, plain⟩ := fields_head single
      rw [head] at fields ⊢
      exact (read_start plain).trans fields

/-- What is written is read back, up to a row with a field that is larger than the limit. -/
theorem read_writeRows (limit : Nat) {rows : List Row} (some : ∀ row ∈ rows, row ≠ []) :
    read limit (writeRows rows) = (rows.takeWhile (Fits limit ·),
      if ∀ row ∈ rows, Fits limit row then .ok () else .error (Reader.tooLarge limit)) := by
  induction rows with
  | nil => rfl
  | cons row rows ih =>
    have same : writeRows (row :: rows) = writeRow row ++ writeRows rows := List.flatMap_cons ..
    rw [same, read_writeRow limit (some row List.mem_cons_self), ih fun other member =>
      some other (List.mem_cons_of_mem _ member), whenFits, List.takeWhile_cons]
    by_cases fits : Fits limit row
    · simp [fits]
    · simp [fits]

end Csv
