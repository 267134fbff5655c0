import Polydialect.Calendar.Timestamp
import Polydialect.Text.Blank

/-! # Reading timestamps

A format is a list of items. A number item skips blanks and reads digits, a year at most four of
them unless it has a sign and every other field at most two; a blank item skips any blanks; a
literal must stand there. A text is read by a format when nothing is left of it and its fields name
a timestamp; second 60 is the leap second behind second 59.
-/

namespace Polydialect.Timestamp

/-- One piece of a timestamp's text. -/
inductive Item where
  | year
  | month
  | day
  | hour
  | minute
  | second
  | fraction
  | blanks
  | literal (c : Char)
  deriving DecidableEq, Repr

/-- The fields read so far. -/
structure Fields where
  year : Int
  month : Nat
  day : Nat
  hour : Nat
  minute : Nat
  second : Nat
  nanosecond : Nat

/-- The first day of the year 0, from which reading starts. -/
def Fields.start : Fields := ⟨0, 1, 1, 0, 0, 0, 0⟩

/-- The timestamp that fields name, if there is one. -/
def Fields.timestamp? (f : Fields) : Option Timestamp :=
  if f.second = 60 then
    ofFields? f.year f.month f.day f.hour f.minute 59 (f.nanosecond + 1000000000)
  else ofFields? f.year f.month f.day f.hour f.minute f.second f.nanosecond

/-- At most `width` digits, at least one, and what follows them. -/
def takeDigits (width : Nat) (s : List Char) : Option (List Char × List Char) :=
  match (s.take width).takeWhile Char.isDigit with
  | [] => none
  | ds => some (ds, s.drop ds.length)

/-- A number of at most `width` digits after any blanks. -/
def takeNumber (width : Nat) (s : List Char) : Option (Nat × List Char) :=
  (takeDigits width (Text.dropBlanks s)).map fun p => (Nat.ofDigitChars 10 p.1 0, p.2)

/-- A year: four digits at most, or a sign and any number of digits. -/
def takeYear (s : List Char) : Option (Int × List Char) :=
  let digits (width : Nat) (r : List Char) :=
    (takeDigits width r).map fun p => (Nat.ofDigitChars 10 p.1 0, p.2)
  match Text.dropBlanks s with
  | '-' :: r => (digits r.length r).map fun p => (-(p.1 : Int), p.2)
  | '+' :: r => (digits r.length r).map fun p => ((p.1 : Int), p.2)
  | r => (digits 4 r).map fun p => ((p.1 : Int), p.2)

/-- The nanoseconds after a point; digits after the ninth are skipped. -/
def takeFraction (s : List Char) : Option (Nat × List Char) :=
  match s with
  | '.' :: r =>
    (takeDigits 9 r).map fun p =>
      (Nat.ofDigitChars 10 p.1 0 * Nat.pow 10 (9 - p.1.length), p.2.dropWhile Char.isDigit)
  | s => some (0, s)

/-- Reads one item. -/
def Item.read (f : Fields) (s : List Char) : Item → Option (Fields × List Char)
  | .year => (takeYear s).map fun p => ({ f with year := p.1 }, p.2)
  | .month => (takeNumber 2 s).map fun p => ({ f with month := p.1 }, p.2)
  | .day => (takeNumber 2 s).map fun p => ({ f with day := p.1 }, p.2)
  | .hour => (takeNumber 2 s).map fun p => ({ f with hour := p.1 }, p.2)
  | .minute => (takeNumber 2 s).map fun p => ({ f with minute := p.1 }, p.2)
  | .second => (takeNumber 2 s).map fun p => ({ f with second := p.1 }, p.2)
  | .fraction => (takeFraction s).map fun p => ({ f with nanosecond := p.1 }, p.2)
  | .blanks => some (f, Text.dropBlanks s)
  | .literal c =>
    match s with
    | d :: r => if c = d then some (f, r) else none
    | [] => none

/-- Reads a list of items up to the end of the text. -/
def readItems (f : Fields) (s : List Char) : List Item → Option Timestamp
  | [] => if s.isEmpty then f.timestamp? else none
  | i :: is =>
    match i.read f s with
    | some (f', r) => readItems f' r is
    | none => none

/-- A date, as year, month and day. -/
def dateItems : List Item := [.year, .literal '-', .month, .literal '-', .day]

/-- A time of day with an optional fraction. -/
def timeItems : List Item :=
  [.hour, .literal ':', .minute, .literal ':', .second, .fraction]

/-- The formats that a database's text may have, in the order in which they are tried. -/
def textFormats : List (List Item) :=
  [dateItems ++ .blanks :: timeItems, dateItems ++ .literal 'T' :: timeItems, dateItems]

/-- The timestamp that a database's text stands for; a date alone is its midnight. -/
def ofText? (s : String) : Option Timestamp :=
  textFormats.findSome? (readItems .start (Text.trimmed s.toList))

/-- The format in JSON: blanks may stand before every separator. -/
def isoFormat : List Item :=
  [.year, .blanks, .literal '-', .month, .blanks, .literal '-', .day, .blanks, .literal 'T',
   .hour, .blanks, .literal ':', .minute, .blanks, .literal ':', .second, .fraction, .blanks]

/-- The timestamp that a JSON text stands for. -/
def ofIso? (s : String) : Option Timestamp := readItems .start s.toList isoFormat

end Polydialect.Timestamp
