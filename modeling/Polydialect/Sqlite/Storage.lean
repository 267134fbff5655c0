import Polydialect.Dialect.Quoting
import Polydialect.Row
import Polydialect.Text.Ascii

/-! # Values in SQLite

A column without a type keeps a value as it is bound. Truth values are bound as integers, decimals
and timestamps as texts, and the undefined number becomes NULL, so this is how they come back.
-/

namespace Polydialect.Sqlite

/-- A value as it comes back. -/
def stored : Value → Value
  | .bool b => .int (if b then 1 else 0)
  | .real .nan => .null
  | .decimal d => .text d.toText
  | .timestamp t => .text t.toText
  | v => v

/-- The statement that creates the table `t` of columns without types. -/
def createText (columns : List String) : String :=
  "CREATE TABLE t (" ++ Dialect.sqlite.quoteAll columns ++ ")"

/-- The first name that stands before it already, up to ASCII case. -/
def repeated? (seen : List String) : List String → Option String
  | [] => none
  | c :: cs => if seen.any (Text.sameName · c) then some c else repeated? (c :: seen) cs

/-- Why the table cannot be created, if so: it has no columns, or two of one name. -/
def createFault? (columns : List String) : Option String :=
  if columns.isEmpty then some "near \")\": syntax error"
  else (repeated? [] columns).map ("duplicate column name: " ++ ·)

/-- Creates the table `t`. -/
def create (columns : List String) : Except Error Unit :=
  match createFault? columns with
  | none => .ok ()
  | some fault =>
    .error (.driver ("error returned from database: (code: 1) " ++ fault) (createText columns))

/-- The rows that come back from a new table `t` after rows of values were put in. -/
def storedRows (columns : List String) (rows : List (List Value)) : Except Error (List Row) := do
  create columns
  return rows.map fun row => ⟨columns, row.map stored⟩

end Polydialect.Sqlite
