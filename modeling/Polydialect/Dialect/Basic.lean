import Polydialect.Error
import Polydialect.Text.Blank
import Polydialect.Text.CaseMap

/-! # Dialects

The five database engines and the names by which settings choose them.
-/

namespace Polydialect

/-- A database engine's SQL. -/
inductive Dialect where
  | mysql
  | sqlServer
  | postgres
  | oracle
  | sqlite
  deriving DecidableEq, Repr

namespace Dialect

/-- The name in settings and messages. -/
def name : Dialect → String
  | .mysql => "mysql"
  | .sqlServer => "sqlserver"
  | .postgres => "postgresql"
  | .oracle => "oracle"
  | .sqlite => "sqlite"

/-- The name with inner capitals. -/
def title : Dialect → String
  | .mysql => "MySql"
  | .sqlServer => "SqlServer"
  | .postgres => "PostgreSql"
  | .oracle => "Oracle"
  | .sqlite => "Sqlite"

/-- The dialect of a name in small letters. -/
def ofLowerName? : String → Option Dialect
  | "mysql" | "mariadb" => some .mysql
  | "sqlserver" | "mssql" | "sql_server" => some .sqlServer
  | "postgresql" | "postgres" | "pg" => some .postgres
  | "oracle" => some .oracle
  | "sqlite" => some .sqlite
  | _ => none

/-- The dialect of a name in any case, between blanks. -/
def ofName (name : String) : Except Error Dialect :=
  let lower := Text.lower (Text.trim name)
  match ofLowerName? lower with
  | some d => .ok d
  | none => .error (.misuse (.unknownDialect lower))

end Dialect

end Polydialect
