import Polydialect.Text.Ascii

/-! # Columns

A column is described without regard to a database by one of six types. Three names are reserved:
`Id`, `Guid` and `LastModifiedDate`, in any ASCII case, have the same shape in every table.
-/

namespace Polydialect

/-- The types of columns. -/
inductive ColumnType where
  | integer
  | varchar
  | text
  | boolean
  | datetime
  | decimal
  deriving DecidableEq, Repr

/-- A column of a table. -/
structure Column where
  name : String
  type : ColumnType
  /-- The bound of a `varchar`; zero stands for the default. -/
  length : UInt32
  isPrimaryKey : Bool
  /-- The database assigns the value. -/
  isIdentity : Bool
  /-- Holds the attributes that have no column of their own. -/
  isExtend : Bool
  deriving DecidableEq

namespace Column

/-- The bound of a `varchar` without one. -/
def defaultLength : UInt32 := 500

/-- The bound of the `Guid` column. -/
def guidLength : UInt32 := 50

/-- The name of the identity column. -/
def idName : String := "Id"

/-- The name of the column of global identifiers. -/
def guidName : String := "Guid"

/-- The name of the column that holds the time of the last change. -/
def modifiedName : String := "LastModifiedDate"

/-- A column without flags or a length. -/
def plain (name : String) (type : ColumnType) : Column := ⟨name, type, 0, false, false, false⟩

/-- The identity column `Id`. -/
def identityColumn : Column := ⟨idName, .integer, 0, true, true, false⟩

/-- Whether the column has a name, up to ASCII case. -/
def isNamed (c : Column) (name : String) : Bool := Text.sameName c.name name

/-- The length with the default put in. -/
def effectiveLength (c : Column) : UInt32 :=
  if c.type = .varchar ∧ c.length = 0 then defaultLength else c.length

/-- The column with the fixed shape of its reserved name, if it has one. -/
def reserved (c : Column) : Column :=
  if c.isNamed idName then { c with type := .integer, isIdentity := true, isPrimaryKey := true }
  else if c.isNamed guidName then { c with type := .varchar, length := guidLength }
  else if c.isNamed modifiedName then { c with type := .datetime }
  else c

/-- The column in its fixed shape and with its length. -/
def normalized (c : Column) : Column := { c.reserved with length := c.reserved.effectiveLength }

/-- The fixed shape keeps the name as it is spelled. -/
@[simp] theorem normalized_name (c : Column) : c.normalized.name = c.name := by
  unfold normalized reserved
  repeat (first | rfl | split)

/-- The first column that is an identity. -/
def identity? (cs : List Column) : Option Column := cs.find? (·.isIdentity)

/-- The first column that holds the attributes. -/
def extend? (cs : List Column) : Option Column := cs.find? (·.isExtend)

/-- The identity column of a table: the first that is flagged, else the first that is named `Id`. -/
def orderingColumn? (cs : List Column) : Option Column :=
  (identity? cs).or (cs.find? (·.isNamed idName))

end Column

end Polydialect
