import Polydialect.Text.Hex

/-! # Scalars of a document

A scalar is plain, or stands between single or double quotes. It may go on over several lines; what
lies between two of its words is then folded: one line end reads as a space, and of several the
first does not count. The readers keep the line and the column, since a plain scalar ends at a line
that is not indented far enough.
-/

namespace Polydialect.Settings

/-- A scalar; only a plain one may be a number or a truth value. -/
inductive Scalar where
  | plain (text : String)
  | quoted (text : String)
  deriving DecidableEq, Repr

namespace Scalar

/-- The scalar that is written as nothing. -/
def absent : Scalar := .plain ""

def text : Scalar → String
  | .plain s | .quoted s => s

end Scalar

/-! ## Characters -/

/-- A space or a tab. -/
def isBlank (c : Char) : Bool := c == ' ' || c == '\t'

/-- A character that ends a line, once the others are normalized. -/
def isBreak (c : Char) : Bool := c == '\n' || c == '\u2028' || c == '\u2029'

/-- A character that may stand in a document. -/
def isAllowed (c : Char) : Bool :=
  c == '\t' || c == '\n' || c == '\r' || c == '\u0085' || (' ' ≤ c && c ≤ '~') ||
    ('\u00a0' ≤ c && c != '\ufffe' && c != '\uffff')

/-- The text with a newline for every other way to end a line, but for the separators of lines and
paragraphs, which are no less than text to a scalar. -/
def normalized : List Char → List Char
  | [] => []
  | '\r' :: '\n' :: r => '\n' :: normalized r
  | c :: r => (if c = '\r' ∨ c = '\u0085' then '\n' else c) :: normalized r

/-- Characters with which no plain scalar starts. -/
def indicators : List Char :=
  [',', '[', ']', '\x7b', '\x7d', '#', '&', '*', '!', '|', '>', '\'', '"', '%', '@', '\x60']

/-- Whether a text is at its end, or goes on with a blank or a line end. -/
def atBlank : List Char → Bool
  | [] => true
  | c :: _ => isBlank c || isBreak c

/-- Whether a plain scalar may start here. -/
def startsPlain : List Char → Bool
  | [] => false
  | c :: r =>
    if c == '-' || c == '?' || c == ':' then !atBlank r
    else !isBlank c && !isBreak c && !indicators.contains c

/-- Whether the three characters of a marker stand here alone. -/
def atMarker (c : Char) (s : List Char) : Bool := [c, c, c].isPrefixOf s && atBlank (s.drop 3)

/-- Whether one document ends or another one starts here, given that a line does. -/
def atBoundary (s : List Char) : Bool := atMarker '-' s || atMarker '.' s

/-! ## Places -/

/-- A line and a column. -/
structure Mark where
  line : Nat
  column : Nat
  deriving DecidableEq, Repr

/-- The mark after a character. -/
def Mark.after (m : Mark) (c : Char) : Mark :=
  if isBreak c then ⟨m.line + 1, 0⟩ else ⟨m.line, m.column + 1⟩

/-- A place in a document, with the text from there on. -/
structure Place where
  mark : Mark
  /-- Nothing stands before it on its line, so that a name may start there. -/
  fresh : Bool
  rest : List Char
  deriving DecidableEq, Repr

/-! ## Folding -/

/-- What lies between two words of a scalar. -/
inductive Gap where
  /-- Blanks, or nothing. -/
  | blanks (cs : List Char)
  /-- Line ends; blanks around them do not count. -/
  | breaks (cs : List Char)
  /-- A line end that is written away, and line ends after it. -/
  | joined (cs : List Char)
  deriving DecidableEq, Repr

namespace Gap

/-- Nothing between two characters. -/
def none : Gap := .blanks []

/-- The gap with one more blank or line end. -/
def add (g : Gap) (c : Char) : Gap :=
  match g with
  | .blanks cs => if isBreak c then .breaks [c] else .blanks (cs ++ [c])
  | .breaks cs => if isBreak c then .breaks (cs ++ [c]) else g
  | .joined cs => if isBreak c then .joined (cs ++ [c]) else g

/-- The text of the gap: of line ends the first is dropped if it is a newline, and a newline alone
reads as a space. -/
def text : Gap → List Char
  | .blanks cs => cs
  | .breaks ['\n'] => [' ']
  | .breaks ('\n' :: cs) => cs
  | .breaks cs => cs
  | .joined cs => cs

/-- Whether a line ends in the gap. -/
def crosses : Gap → Bool
  | .blanks _ => false
  | _ => true

end Gap

/-! ## Plain scalars -/

/-- Whether a plain scalar ends before a character that is no blank: at a colon before a blank, and
after a gap at a comment or left of the column `least`. -/
def endsPlain (least : Nat) (m : Mark) (gap : Gap) (c : Char) (r : List Char) : Bool :=
  (c == ':' && atBlank r) || (gap != .none && (c == '#' || m.column < least))

/-- A plain text and the place after it, which is at the next thing that stands there. No tab may
indent a line left of the column `least`. -/
def readPlain (least : Nat) (m : Mark) (gap : Gap) : List Char → Option (List Char × Place)
  | [] => some ([], ⟨m, gap.crosses, []⟩)
  | c :: r =>
    if isBlank c || isBreak c then
      if c = '\t' ∧ gap.crosses ∧ m.column < least then none
      else readPlain least (m.after c) (gap.add c) r
    else if endsPlain least m gap c r then some ([], ⟨m, gap.crosses, c :: r⟩)
    else (readPlain least (m.after c) .none r).map fun p => (gap.text ++ c :: p.1, p.2)

/-! ## Quoted scalars -/

/-- The text up to the closing quote, where a quote is written twice, and the place after it. -/
def readSingle (m : Mark) (gap : Gap) : List Char → Option (List Char × Place)
  | [] => none
  | '\'' :: '\'' :: r =>
    (readSingle ((m.after '\'').after '\'') .none r).map fun p => (gap.text ++ '\'' :: p.1, p.2)
  | c :: r =>
    if isBlank c || isBreak c then readSingle (m.after c) (gap.add c) r
    else if m.column = 0 ∧ atBoundary (c :: r) then none
    else if c = '\'' then some (gap.text, ⟨m.after c, false, r⟩)
    else (readSingle (m.after c) .none r).map fun p => (gap.text ++ c :: p.1, p.2)

/-- Where a reader of text between double quotes stands. -/
inductive Escape where
  | outside
  | afterBackslash
  /-- Hexadecimal digits to come, and the value of those before. -/
  | inNumber (digits value : Nat)
  deriving DecidableEq, Repr

/-- The character for the letter after a backslash. -/
def unescape? : Char → Option Char
  | '0' => some '\x00'
  | 'a' => some '\x07'
  | 'b' => some '\x08'
  | 't' | '\t' => some '\t'
  | 'n' => some '\n'
  | 'v' => some '\x0b'
  | 'f' => some '\x0c'
  | 'r' => some '\r'
  | 'e' => some '\x1b'
  | ' ' => some ' '
  | '"' => some '"'
  | '/' => some '/'
  | '\\' => some '\\'
  | 'N' => some '\u0085'
  | '_' => some '\u00a0'
  | 'L' => some '\u2028'
  | 'P' => some '\u2029'
  | _ => none

/-- How many digits the number of a character has after its letter. -/
def numberDigits? : Char → Option Nat
  | 'x' => some 2
  | 'u' => some 4
  | 'U' => some 8
  | _ => none

/-- The character of a number. -/
def charOf? (n : Nat) : Option Char := if n.isValidChar then some (Char.ofNat n) else none

/-- One character of an escape: what it adds and where the reader then stands. -/
def Escape.step (e : Escape) (c : Char) : Option (List Char × Escape) :=
  match e with
  | .outside => some ([c], .outside)
  | .afterBackslash =>
    match unescape? c, numberDigits? c with
    | some u, _ => some ([u], .outside)
    | none, some digits => some ([], .inNumber digits 0)
    | none, none => none
  | .inNumber digits value => do
    let v := 16 * value + (← Text.hexValue? c)
    if digits ≤ 1 then return ([← charOf? v], .outside) else return ([], .inNumber (digits - 1) v)

/-- The text up to the closing double quote and the place after it. A backslash before a line end
writes it away. -/
def readDouble (m : Mark) (gap : Gap) (e : Escape) : List Char → Option (List Char × Place)
  | [] => none
  | c :: r =>
    if e = .outside then
      if isBlank c || isBreak c then readDouble (m.after c) (gap.add c) .outside r
      else if m.column = 0 ∧ atBoundary (c :: r) then none
      else if c = '"' then some (gap.text, ⟨m.after c, false, r⟩)
      else if c = '\\' then
        (readDouble (m.after c) .none .afterBackslash r).map fun p => (gap.text ++ p.1, p.2)
      else (readDouble (m.after c) .none .outside r).map fun p => (gap.text ++ c :: p.1, p.2)
    else if e = .afterBackslash ∧ isBreak c then readDouble (m.after c) (.joined []) .outside r
    else do
      let (added, e) ← e.step c
      let (text, place) ← readDouble (m.after c) .none e r
      return (added ++ text, place)

/-- A scalar and the place after it; further lines of a plain one start in the column `least` or
right of it. -/
def readScalar (least : Nat) (p : Place) : Option (Scalar × Place) :=
  match p.rest with
  | '\'' :: r => (readSingle (p.mark.after '\'') .none r).map fun q => (.quoted (.ofList q.1), q.2)
  | '"' :: r =>
    (readDouble (p.mark.after '"') .none .outside r).map fun q => (.quoted (.ofList q.1), q.2)
  | s =>
    if startsPlain s then
      (readPlain least p.mark .none s).map fun q => (.plain (.ofList q.1), q.2)
    else none

end Polydialect.Settings
