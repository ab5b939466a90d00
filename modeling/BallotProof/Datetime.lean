import BallotProof.Decimal

/-! Instants of the UTC clock, in microseconds since 1970, and the two texts Python and
pydantic print for them. -/
namespace Python

/-- `datetime.now(UTC)` -/
abbrev Instant := Nat

structure Civil where
  year : Nat
  month : Nat
  day : Nat
  deriving DecidableEq, Repr

/-- Proleptic Gregorian date of a day count since 1970-01-01, over eras of 400 years that
begin in March. -/
def civil (days : Nat) : Civil :=
  let z := days + 719468
  let dayOfEra := z % 146097
  let yearOfEra := (dayOfEra - dayOfEra / 1460 + dayOfEra / 36524 - dayOfEra / 146096) / 365
  let dayOfYear := dayOfEra - (365 * yearOfEra + yearOfEra / 4 - yearOfEra / 100)
  let shifted := (5 * dayOfYear + 2) / 153
  let month := if shifted < 10 then shifted + 3 else shifted - 9
  let year := yearOfEra + z / 146097 * 400
  ⟨if month ≤ 2 then year + 1 else year, month, dayOfYear - (153 * shifted + 2) / 5 + 1⟩

/-- `f"{n:0{width}d}"` -/
def padded (width n : Nat) : List Char :=
  List.replicate (width - (decimal n).length) '0' ++ decimal n

/-- Date and time of day, with microseconds only when there are any. -/
def dateTimeText (t : Instant) : List Char :=
  let seconds := t / 1000000
  let date := civil (seconds / 86400)
  let time := seconds % 86400
  padded 4 date.year ++ '-' :: padded 2 date.month ++ '-' :: padded 2 date.day ++
    'T' :: padded 2 (time / 3600) ++ ':' :: padded 2 (time / 60 % 60) ++ ':' :: padded 2 (time % 60) ++
    (if t % 1000000 = 0 then [] else '.' :: padded 6 (t % 1000000))

/-- `t.isoformat()` -/
def isoformat (t : Instant) : String := String.ofList (dateTimeText t ++ "+00:00".toList)

/-- A datetime field in JSON mode. -/
def jsonTimestamp (t : Instant) : String := String.ofList (dateTimeText t ++ ['Z'])

example : isoformat 1709210096000789 = "2024-02-29T12:34:56.000789+00:00" := by decide +kernel

end Python
