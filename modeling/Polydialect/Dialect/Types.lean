import Polydialect.Column.Native
import Polydialect.Dialect.Quoting

/-! # Native types and column clauses

How a dialect writes the type of a column, an identity, a primary key and the changes of a table.
-/

namespace Polydialect.Dialect

/-- The longest `varchar` with an explicit bound, where there is one. -/
def maxVarchar? : Dialect → Option UInt32
  | .mysql => some 16383
  | .sqlServer => some 4000
  | .oracle => some 2000
  | .postgres | .sqlite => none

/-- The name of a bounded text, before its bound. -/
def varcharName : Dialect → String
  | .mysql | .sqlite => "VARCHAR"
  | .sqlServer => "nvarchar"
  | .postgres => "varchar"
  | .oracle => "NVARCHAR2"

/-- The type of an unbounded text. -/
def textType : Dialect → String
  | .mysql => "LONGTEXT"
  | .sqlServer => "nvarchar(max)"
  | .postgres => "text"
  | .oracle => "NCLOB"
  | .sqlite => "TEXT"

/-- The type of a bounded text; a bound above the longest one makes it unbounded. -/
def varcharType (d : Dialect) (length : UInt32) : String :=
  let bounded := d.varcharName ++ "(" ++ toString length.toNat ++ ")"
  match d.maxVarchar? with
  | some m => if length > m then d.textType else bounded
  | none => bounded

/-- The native type of a column. -/
def nativeType (d : Dialect) (c : Column) : String :=
  match c.type with
  | .varchar => d.varcharType c.effectiveLength
  | .text => d.textType
  | .integer => match d with
    | .mysql => "INT"
    | .sqlServer => "int"
    | .postgres => "integer"
    | .oracle => "NUMBER(10)"
    | .sqlite => "INTEGER"
  | .boolean => match d with
    | .mysql => "TINYINT(1)"
    | .sqlServer => "bit"
    | .postgres => "boolean"
    | .oracle => "NUMBER(1)"
    | .sqlite => "BOOLEAN"
  | .datetime => match d with
    | .mysql | .sqlite => "DATETIME"
    | .sqlServer => "datetime2"
    | .postgres => "timestamp"
    | .oracle => "TIMESTAMP(6)"
  | .decimal => match d with
    | .mysql | .sqlite => "DECIMAL(18, 2)"
    | .sqlServer => "decimal(18, 2)"
    | .postgres => "numeric(18, 2)"
    | .oracle => "NUMBER(38, 2)"

/-- The column type and length of a native type. On MySQL a truth value is an integer of one digit,
in whatever spacing. -/
def canonicalType (d : Dialect) (native : String) (maxLength : Int64) : ColumnType × UInt32 :=
  let compact := (native.toList.filter fun c => !Text.isBlank c).map Char.toLower
  if d = .mysql ∧ compact = "tinyint(1)".toList then (.boolean, 0)
  else NativeType.canonical native maxLength

/-- The type of an identity column, in a new table or added to one. -/
def identityType (d : Dialect) (added : Bool) : String :=
  match d with
  | .mysql => if added then "INT AUTO_INCREMENT UNIQUE KEY" else "INT AUTO_INCREMENT"
  | .sqlServer => "int IDENTITY (1, 1)"
  | .postgres => "SERIAL"
  | .oracle => "NUMBER GENERATED BY DEFAULT ON NULL AS IDENTITY"
  | .sqlite => if added then "INTEGER" else "INTEGER PRIMARY KEY AUTOINCREMENT"

/-- Whether the type of an identity declares the primary key. -/
def identityIsKey : Dialect → Bool
  | .sqlite => true
  | _ => false

/-- The order of the rows of a table, where an identity cannot be added in place and the table has
to be rebuilt. -/
def rebuildOrder? : Dialect → Option String
  | .sqlite => some "rowid"
  | _ => none

/-- The primary key clause of a table. -/
def primaryKeyClause (d : Dialect) (table : String) (columns : List String) : String :=
  let clause := "PRIMARY KEY (" ++ d.quoteAll columns ++ ")"
  match d with
  | .mysql | .sqlite => clause
  | _ => "CONSTRAINT " ++ d.quote ("PK_" ++ table) ++ " " ++ clause

/-- What follows the columns of a new table. -/
def tableOptions : Dialect → String
  | .mysql => " ENGINE=InnoDB DEFAULT CHARSET=utf8mb4"
  | _ => ""

/-- The statement that adds a column. -/
def addColumn (d : Dialect) (table definition : String) : String :=
  let verb := match d with
    | .sqlServer | .oracle => " ADD "
    | _ => " ADD COLUMN "
  "ALTER TABLE " ++ d.quote table ++ verb ++ definition

/-- The statement that drops a column. -/
def dropColumn (d : Dialect) (table column : String) : String :=
  "ALTER TABLE " ++ d.quote table ++ " DROP COLUMN " ++ d.quote column

/-- The function that replaces NULL. -/
def nullFunction : Dialect → String
  | .mysql | .sqlite => "IFNULL"
  | .sqlServer => "ISNULL"
  | .postgres | .oracle => "COALESCE"

/-- An expression with NULL taken as zero. -/
def orZero (d : Dialect) (expression : String) : String :=
  d.nullFunction ++ "(" ++ expression ++ ", 0)"

/-- An expression plus a number. -/
def increment (d : Dialect) (expression : String) (n : Int64) : String :=
  d.orZero expression ++ " + " ++ toString n.toInt

/-- An expression minus a number. -/
def decrement (d : Dialect) (expression : String) (n : Int64) : String :=
  d.orZero expression ++ " - " ++ toString n.toInt

/-- An INSERT whose first result is the new identity. -/
def insertReturning (d : Dialect) (insert idColumn : String) : String :=
  match d with
  | .mysql => insert ++ "; SELECT LAST_INSERT_ID()"
  | .sqlServer => insert ++ "; SELECT CAST(SCOPE_IDENTITY() AS int)"
  | .postgres | .sqlite => insert ++ " RETURNING " ++ d.quote idColumn
  | .oracle => insert ++ " RETURNING " ++ d.quote idColumn ++ " INTO :out_id"

end Polydialect.Dialect
