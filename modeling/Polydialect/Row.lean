import Polydialect.Json.Source
import Polydialect.Members
import Polydialect.Text.Ascii
import Polydialect.Value.Json

/-! # Rows

A row holds column names in the order of the select list and the values in the same order. Names
are looked up without regard to ASCII case, since databases disagree on the case they report; the
first column of a name is found.
-/

namespace Polydialect

/-- One row of a result. -/
structure Row where
  columns : List String
  values : List Value
  deriving DecidableEq

namespace Row

def empty : Row := ⟨[], []⟩

/-- The row with one more column. -/
def push (r : Row) (column : String) (v : Value) : Row :=
  ⟨r.columns ++ [column], r.values ++ [v]⟩

/-- Columns with their values. -/
def cells (r : Row) : List (String × Value) := r.columns.zip r.values

/-- The value of a column. -/
def get? (r : Row) (column : String) : Option Value :=
  (r.cells.find? fun p => Text.sameName p.1 column).map (·.2)

/-- The value at a position. -/
def getIndex? (r : Row) (i : Nat) : Option Value := r.values[i]?

def size (r : Row) : Nat := r.values.length

/-- The row in JSON, its names and its values apart. -/
def toJson (r : Row) : Json :=
  .object [("columns", .array (r.columns.map .string)), ("values", .array (r.values.map Value.toJson))]

/-- A list of names. -/
def namesOfJson? : Json → Option (List String)
  | .array items => items.mapM Json.text?
  | _ => none

/-- A list of values. -/
def valuesOfJson? : Json → Option (List Value)
  | .array items => items.mapM Value.ofJson?
  | _ => none

/-- The row that is written in JSON: its names and its values. Other members are not looked into. -/
def ofSource? (x : Json.Source) : Option Row := do
  let fields ← x.fields? ["columns", "values"]
  let columns ← Members.required? (·.value?.bind namesOfJson?) "columns" fields
  let values ← Members.required? (·.value?.bind valuesOfJson?) "values" fields
  return ⟨columns, values⟩

end Row

end Polydialect
