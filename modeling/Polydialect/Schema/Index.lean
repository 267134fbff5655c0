import Polydialect.Dialect.Quoting
import Polydialect.Identifier
import Polydialect.Query.Basic
import Polydialect.Text.Ascii

/-! # Indexes

An index is given by tokens, each the name of a column with a direction after it or none.
-/

namespace Polydialect.Schema

/-- The parts of a text before and after its last blank. -/
def cutLastBlank? (s : List Char) : Option (List Char × List Char) :=
  let word := (s.reverse.takeWhile fun c => !Text.isBlank c).reverse
  match (s.reverse.dropWhile fun c => !Text.isBlank c) with
  | [] => none
  | _ :: front => some (front.reverse, word)

/-- The direction that a word names. -/
def directionOf? (word : List Char) : Option Direction :=
  match String.ofList (word.map Char.toLower) with
  | "desc" => some .desc
  | "asc" => some .asc
  | _ => none

/-- The column and the direction of a token, ascending if it names none. -/
def readToken (token : String) : Order :=
  let s := Text.trimmed token.toList
  let named : Option Order := do
    let (front, word) ← cutLastBlank? s
    let direction ← directionOf? word
    return ⟨.ofList (Text.dropBlanksRight front), direction⟩
  named.getD ⟨.ofList s, .asc⟩

/-- The columns of an index, checked. -/
def readTokens : List String → Except Error (List Order)
  | [] => return []
  | t :: ts => do
    Identifier.check (readToken t).column
    return readToken t :: (← readTokens ts)

/-- Creates an index. -/
def createIndex (d : Dialect) (table index : String) (tokens : List String) :
    Except Error String := do
  Identifier.check table
  Identifier.check index
  if tokens.isEmpty then throw (.misuse (.indexWithoutColumns index))
  let orders ← readTokens tokens
  let columns := orders.map fun o => d.quote o.column ++ " " ++ o.direction.text
  return "CREATE INDEX " ++ d.quote index ++ " ON " ++ d.quote table ++ " (" ++
    ", ".intercalate columns ++ ")"

end Polydialect.Schema
