import Polydialect.Dialect.Basic

/-! # Quoted identifiers and placeholders

A dialect quotes a name between two delimiters and writes the closing one twice inside. In raw text
a name between brackets stands for the quoted name.
-/

namespace Polydialect

/-- The delimiters of a quoted identifier. -/
structure Delimiters where
  opening : Char
  closing : Char
  deriving DecidableEq, Repr

namespace Delimiters

/-- A name with the closing delimiter doubled. -/
def double (d : Delimiters) (name : List Char) : List Char :=
  name.flatMap fun c => if c = d.closing then [c, c] else [c]

/-- A name between the delimiters. -/
def quote (d : Delimiters) (name : List Char) : List Char :=
  d.opening :: d.double name ++ [d.closing]

/-- Quotes the names between brackets; a bracket that is never closed stays. The first argument
holds, in reverse, what has been read since the bracket that is open. -/
def wrapFrom (d : Delimiters) : Option (List Char) → List Char → List Char
  | none, [] => []
  | some acc, [] => '[' :: acc.reverse
  | none, c :: r => if c = '[' then wrapFrom d (some []) r else c :: wrapFrom d none r
  | some acc, c :: r =>
    if c = ']' then d.quote acc.reverse ++ wrapFrom d none r else wrapFrom d (some (c :: acc)) r

end Delimiters

namespace Dialect

/-- The delimiters of quoted identifiers. -/
def delimiters : Dialect → Delimiters
  | .mysql => ⟨'\x60', '\x60'⟩
  | .sqlServer => ⟨'[', ']'⟩
  | .postgres | .oracle | .sqlite => ⟨'"', '"'⟩

/-- A quoted name. -/
def quote (d : Dialect) (name : String) : String := .ofList (d.delimiters.quote name.toList)

/-- Quoted names with commas between them. -/
def quoteAll (d : Dialect) (names : List String) : String := ", ".intercalate (names.map d.quote)

/-- Raw text with the names between brackets quoted. -/
def wrap (d : Dialect) (raw : String) : String :=
  .ofList (d.delimiters.wrapFrom none raw.toList)

/-- What a placeholder starts with. -/
def placeholderMark : Dialect → String
  | .mysql | .sqlServer => "@p"
  | .postgres => "$"
  | .oracle => ":p"
  | .sqlite => "?"

/-- The placeholder of the value at a position, counted from 1. -/
def placeholder (d : Dialect) (n : Nat) : String := d.placeholderMark ++ toString n

/-- Whether a backslash escapes the next character of a string literal. -/
def backslashEscapes : Dialect → Bool
  | .mysql => true
  | _ => false

end Dialect

end Polydialect
