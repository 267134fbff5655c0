/-! # Timestamps

A timestamp is a date of the proleptic Gregorian calendar and a time of day to the nanosecond,
without a zone. The nanoseconds of a leap second are counted on from the second before it, from
`10^9` up to twice that, and such nanoseconds may stand at any second. A text has no room for them:
it shows the second after.
-/

namespace Polydialect

namespace Timestamp

/-- The first and the last year of the calendar. -/
def firstYear : Int := -262143

def lastYear : Int := 262142

/-- Every fourth year, but of the centuries only every fourth. -/
def isLeapYear (year : Int) : Bool :=
  year % 4 == 0 && (year % 100 != 0 || year % 400 == 0)

/-- The length of a month; there is no month outside 1 to 12. -/
def daysInMonth (year : Int) : Nat → Nat
  | 1 | 3 | 5 | 7 | 8 | 10 | 12 => 31
  | 4 | 6 | 9 | 11 => 30
  | 2 => if isLeapYear year then 29 else 28
  | _ => 0

/-- The fields name a day of the calendar and a time of that day. -/
abbrev Exists (year : Int) (month day hour minute second nanosecond : Nat) : Prop :=
  (firstYear ≤ year ∧ year ≤ lastYear) ∧ (1 ≤ day ∧ day ≤ daysInMonth year month) ∧
    hour < 24 ∧ minute < 60 ∧ second < 60 ∧ nanosecond < 2000000000

end Timestamp

/-- A point in time without a zone. -/
structure Timestamp where
  year : Int
  month : Nat
  day : Nat
  hour : Nat
  minute : Nat
  second : Nat
  nanosecond : Nat
  ok : Timestamp.Exists year month day hour minute second nanosecond
  deriving DecidableEq

namespace Timestamp

/-- The timestamp of the fields, if there is one. -/
def ofFields? (year : Int) (month day hour minute second nanosecond : Nat) : Option Timestamp :=
  if h : Exists year month day hour minute second nanosecond then
    some ⟨year, month, day, hour, minute, second, nanosecond, h⟩
  else none

/-! ## Writing -/

/-- Digits with zeros before them up to a width. -/
def padded (width n : Nat) : List Char :=
  let digits := Nat.toDigits 10 n
  List.replicate (width - digits.length) '0' ++ digits

/-- Four digits for the years 0 to 9999, a sign and at least four digits for all others. -/
def yearText (year : Int) : List Char :=
  if 0 ≤ year ∧ year < 10000 then padded 4 year.toNat
  else (if year < 0 then '-' else '+') :: padded 4 year.natAbs

/-- A point and three, six or nine digits, the fewest that are exact, and nothing for zero. -/
def fractionText (nanosecond : Nat) : List Char :=
  if nanosecond = 0 then []
  else if nanosecond % 1000000 = 0 then '.' :: padded 3 (nanosecond / 1000000)
  else if nanosecond % 1000 = 0 then '.' :: padded 6 (nanosecond / 1000)
  else '.' :: padded 9 nanosecond

/-- The second that is written, 60 for the leap second of a minute. -/
def writtenSecond (t : Timestamp) : Nat := t.second + t.nanosecond / 1000000000

/-- The nanosecond within the second that is written. -/
def writtenNanosecond (t : Timestamp) : Nat := t.nanosecond % 1000000000

/-- The text with `sep` between the date and the time. -/
def textWith (sep : Char) (t : Timestamp) : List Char :=
  yearText t.year ++ '-' :: padded 2 t.month ++ '-' :: padded 2 t.day ++
    sep :: padded 2 t.hour ++ ':' :: padded 2 t.minute ++ ':' :: padded 2 t.writtenSecond ++
    fractionText t.writtenNanosecond

/-- The form in SQL text, with a space. -/
def toText (t : Timestamp) : String := .ofList (textWith ' ' t)

/-- The form in JSON, with a `T`. -/
def toIso (t : Timestamp) : String := .ofList (textWith 'T' t)

end Timestamp

end Polydialect
