/-! # Markers in SQL text

A `?` outside quotes marks the place of a bound value. The scanner that finds the markers is a
machine over characters: a quote opens at one of four characters and ends at its closing character,
and where backslashes escape, one inside a string quote takes the next character with it.
-/

namespace Polydialect.Marker

/-- The kinds of quotes. -/
inductive Quote where
  | single
  | double
  | backtick
  | bracket
  deriving DecidableEq, Repr

namespace Quote

/-- The quote that a character opens. -/
def opened? (c : Char) : Option Quote :=
  if c = '\'' then some .single
  else if c = '"' then some .double
  else if c = '\x60' then some .backtick
  else if c = '[' then some .bracket
  else none

/-- The character that closes a quote. -/
def closing : Quote → Char
  | .single => '\''
  | .double => '"'
  | .backtick => '\x60'
  | .bracket => ']'

/-- Whether a backslash may escape inside the quote. -/
def holdsString : Quote → Bool
  | .single | .double => true
  | .backtick | .bracket => false

end Quote

/-- Where the scanner stands. -/
inductive Mode where
  | outside
  | inside (q : Quote)
  /-- After a backslash that takes the next character with it. -/
  | escaped (q : Quote)
  deriving DecidableEq, Repr

/-- The mode after one character. -/
def Mode.next (escapes : Bool) : Mode → Char → Mode
  | .outside, c => match Quote.opened? c with
    | some q => .inside q
    | none => .outside
  | .inside q, c =>
    if escapes && c == '\\' && q.holdsString then .escaped q
    else if c = q.closing then .outside
    else .inside q
  | .escaped q, _ => .inside q

/-- The mode after a text. -/
def Mode.after (escapes : Bool) (m : Mode) (s : List Char) : Mode := s.foldl (next escapes) m

/-- Whether a character read in a mode is a marker. -/
def isMarker (m : Mode) (c : Char) : Bool := m == .outside && c == '?'

/-- The text with its markers named by `name`, the first by `name (k + 1)`. -/
def nameFrom (escapes : Bool) (name : Nat → String) : Mode → Nat → List Char → List Char
  | _, _, [] => []
  | m, k, c :: r =>
    if isMarker m c then (name (k + 1)).toList ++ nameFrom escapes name .outside (k + 1) r
    else c :: nameFrom escapes name (m.next escapes c) k r

/-- How many markers a text holds. -/
def countFrom (escapes : Bool) : Mode → List Char → Nat
  | _, [] => 0
  | m, c :: r =>
    if isMarker m c then countFrom escapes .outside r + 1
    else countFrom escapes (m.next escapes c) r

/-- The text with its markers named in order from 1. -/
def nameAll (escapes : Bool) (name : Nat → String) (sql : String) : String :=
  .ofList (nameFrom escapes name .outside 0 sql.toList)

/-- How many markers a text holds where a backslash is a character like any other. -/
def count (sql : String) : Nat := countFrom false .outside sql.toList

end Polydialect.Marker
