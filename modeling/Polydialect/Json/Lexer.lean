import Polydialect.Json.Source

/-! # Tokens of JSON text

The lexer is a machine over characters: `step` gives the tokens that a character completes and the
mode after it, and refuses a character that no text continues with.
-/

namespace Polydialect.Json

/-- A token; a string is the characters between its quotes, as they are written. -/
inductive Token where
  | beginArray
  | endArray
  | beginObject
  | endObject
  | comma
  | colon
  | null
  | bool (b : Bool)
  | number (n : Numeral)
  | string (raw : List Char)
  deriving BEq, Repr

/-- Where the lexer stands. Text read so far is kept in reverse. -/
inductive Mode where
  | between
  /-- Inside a string. -/
  | string (acc : List Char)
  /-- After a backslash. -/
  | escape (acc : List Char)
  /-- Inside a code unit, of which some digits are still to come. -/
  | unit (acc : List Char) (missing : Nat)
  | word (acc : List Char)
  | number (acc : List Char)
  deriving Repr

/-- The token of a word. -/
def wordToken? (acc : List Char) : Option Token :=
  match String.ofList acc.reverse with
  | "null" => some .null
  | "true" => some (.bool true)
  | "false" => some (.bool false)
  | _ => none

/-- A character that may stand in a number. -/
def isNumberChar (c : Char) : Bool :=
  c.isDigit || c == '-' || c == '+' || c == '.' || c == 'e' || c == 'E'

/-- A character between tokens. -/
def start (c : Char) : Option (List Token × Mode) :=
  match c with
  | '[' => some ([.beginArray], .between)
  | ']' => some ([.endArray], .between)
  | '\x7b' => some ([.beginObject], .between)
  | '\x7d' => some ([.endObject], .between)
  | ',' => some ([.comma], .between)
  | ':' => some ([.colon], .between)
  | '"' => some ([], .string [])
  | ' ' | '\n' | '\t' | '\r' => some ([], .between)
  | c =>
    if c.isDigit ∨ c = '-' then some ([], .number [c])
    else if c.isLower then some ([], .word [c])
    else none

/-- The token before a character that does not belong to it, and then that character. -/
def thenStart (token : Option Token) (c : Char) : Option (List Token × Mode) := do
  let t ← token
  let (ts, m) ← start c
  some (t :: ts, m)

/-- The token of a number. -/
def numberToken? (acc : List Char) : Option Token := (Numeral.ofChars? acc.reverse).map .number

/-- One character. -/
def step : Mode → Char → Option (List Token × Mode)
  | .between, c => start c
  | .string acc, c =>
    if c = '"' then some ([.string acc.reverse], .between)
    else if c = '\\' then some ([], .escape (c :: acc))
    else if c.toNat < 0x20 then none
    else some ([], .string (c :: acc))
  | .escape acc, c =>
    if c = 'u' then some ([], .unit (c :: acc) 4)
    else (unescape? c).map fun _ => ([], .string (c :: acc))
  | .unit acc missing, c =>
    (Text.hexValue? c).map fun _ =>
      ([], if missing ≤ 1 then .string (c :: acc) else .unit (c :: acc) (missing - 1))
  | .word acc, c => if c.isLower then some ([], .word (c :: acc)) else thenStart (wordToken? acc) c
  | .number acc, c =>
    if isNumberChar c then some ([], .number (c :: acc)) else thenStart (numberToken? acc) c

/-- The last token, where the text may end. -/
def finish : Mode → Option (List Token)
  | .between => some []
  | .word acc => (wordToken? acc).map fun t => [t]
  | .number acc => (numberToken? acc).map fun t => [t]
  | _ => none

/-- The tokens of the text that is left. -/
def tokensFrom (m : Mode) : List Char → Option (List Token)
  | [] => finish m
  | c :: r => do
    let (ts, m') ← step m c
    let rest ← tokensFrom m' r
    some (ts ++ rest)

/-- The tokens of a text. -/
def tokens (s : List Char) : Option (List Token) := tokensFrom .between s

end Polydialect.Json
