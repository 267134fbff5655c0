import Polydialect.Dialect.Quoting
import Polydialect.Fragment
import Polydialect.Text.Cut

/-! # Questions to the catalog

Every engine keeps a catalog of its tables, and each wants to be asked in its own words and with
names in its own case. The fragments here ask for the tables, for the columns of a table, and
whether a table exists. Columns are reported under five names: `column_name`, `data_type`,
`max_length`, `is_identity` and `is_primary_key`.
-/

namespace Polydialect.Dialect

/-- The statement that asks for the server's version, on the engine whose windows depend on it. -/
def versionProbe? : Dialect → Option String
  | .sqlServer => some "select left(cast(serverproperty('productversion') as varchar), 4)"
  | _ => none

/-- The first major version of SQL Server with a text for windows. -/
def firstPagedVersion : UInt32 := 11

/-- Whether a version has no text for windows; a version that is no number counts as recent. -/
def isLegacyVersion (d : Dialect) (version : String) : Bool :=
  match d with
  | .sqlServer =>
    match Number.readUInt32 (.ofList (Text.before '.' (Text.trimmed version.toList))) with
    | .ok major => major < firstPagedVersion
    | .error _ => false
  | _ => false

/-- Asks for the names of the tables of a database. -/
def tableNames (d : Dialect) (database : String) : Fragment :=
  match d with
  | .mysql =>
    ⟨"SELECT table_name FROM information_schema.tables WHERE table_schema = ? AND " ++
      "table_type = 'BASE TABLE' ORDER BY table_name",
     [.text database]⟩
  | .sqlServer =>
    ⟨"SELECT name FROM " ++ d.quote database ++
      "..sysobjects WHERE type = 'U' AND category <> 2 ORDER BY name", []⟩
  | .postgres =>
    ⟨"SELECT table_name FROM information_schema.tables WHERE table_catalog = ? AND " ++
      "table_type = 'BASE TABLE' AND table_schema NOT IN ('pg_catalog', " ++
      "'information_schema') ORDER BY table_name",
     [.text database]⟩
  | .oracle => .ofText "SELECT TABLE_NAME FROM user_tables ORDER BY TABLE_NAME"
  | .sqlite =>
    ⟨"SELECT name FROM sqlite_master WHERE type = 'table' AND name NOT LIKE 'sqlite_%' " ++
      "ORDER BY name", []⟩

/-- The text that asks for columns. -/
def tableColumnsText : Dialect → String
  | .mysql =>
    "SELECT COLUMN_NAME AS column_name, COLUMN_TYPE AS data_type, " ++
    "COALESCE(CHARACTER_MAXIMUM_LENGTH, 0) AS max_length, CASE WHEN EXTRA LIKE " ++
    "'%auto_increment%' THEN 1 ELSE 0 END AS is_identity, CASE WHEN COLUMN_KEY = 'PRI' THEN " ++
    "1 ELSE 0 END AS is_primary_key FROM information_schema.COLUMNS WHERE TABLE_SCHEMA = ? " ++
    "AND TABLE_NAME = ? ORDER BY ORDINAL_POSITION"
  | .sqlServer =>
    "SELECT c.COLUMN_NAME AS column_name, c.DATA_TYPE AS data_type, " ++
    "COALESCE(c.CHARACTER_MAXIMUM_LENGTH, 0) AS max_length, " ++
    "COLUMNPROPERTY(OBJECT_ID(c.TABLE_SCHEMA + '.' + c.TABLE_NAME), c.COLUMN_NAME, " ++
    "'IsIdentity') AS is_identity, CASE WHEN EXISTS ( SELECT 1 FROM " ++
    "INFORMATION_SCHEMA.TABLE_CONSTRAINTS tc JOIN INFORMATION_SCHEMA.KEY_COLUMN_USAGE k ON " ++
    "tc.CONSTRAINT_NAME = k.CONSTRAINT_NAME WHERE tc.CONSTRAINT_TYPE = 'PRIMARY KEY' AND " ++
    "k.TABLE_NAME = c.TABLE_NAME AND k.COLUMN_NAME = c.COLUMN_NAME ) THEN 1 ELSE 0 END AS " ++
    "is_primary_key FROM INFORMATION_SCHEMA.COLUMNS c WHERE c.TABLE_NAME = ? ORDER BY " ++
    "c.ORDINAL_POSITION"
  | .postgres =>
    "SELECT c.column_name AS column_name, c.data_type AS data_type, " ++
    "COALESCE(c.character_maximum_length, 0) AS max_length, CASE WHEN c.column_default LIKE " ++
    "'nextval(%' OR c.is_identity = 'YES' THEN 1 ELSE 0 END AS is_identity, CASE WHEN EXISTS " ++
    "( SELECT 1 FROM information_schema.table_constraints tc JOIN " ++
    "information_schema.key_column_usage k ON tc.constraint_name = k.constraint_name AND " ++
    "tc.table_schema = k.table_schema WHERE tc.constraint_type = 'PRIMARY KEY' AND " ++
    "k.table_name = c.table_name AND k.column_name = c.column_name AND k.table_schema = " ++
    "c.table_schema ) THEN 1 ELSE 0 END AS is_primary_key FROM information_schema.columns c " ++
    "WHERE c.table_schema = current_schema() AND c.table_name = ? ORDER BY c.ordinal_position"
  | .oracle =>
    "SELECT c.COLUMN_NAME AS column_name, CASE WHEN c.DATA_TYPE = 'NUMBER' AND " ++
    "c.DATA_PRECISION = 1 THEN 'BOOLEAN' WHEN c.DATA_TYPE = 'NUMBER' AND NVL(c.DATA_SCALE, " ++
    "0) > 0 THEN 'DECIMAL' ELSE c.DATA_TYPE END AS data_type, NVL(c.CHAR_LENGTH, 0) AS " ++
    "max_length, CASE WHEN c.IDENTITY_COLUMN = 'YES' THEN 1 ELSE 0 END AS is_identity, CASE " ++
    "WHEN EXISTS ( SELECT 1 FROM ALL_CONSTRAINTS k JOIN ALL_CONS_COLUMNS cc ON k.OWNER = " ++
    "cc.OWNER AND k.CONSTRAINT_NAME = cc.CONSTRAINT_NAME WHERE k.CONSTRAINT_TYPE = 'P' AND " ++
    "cc.OWNER = c.OWNER AND cc.TABLE_NAME = c.TABLE_NAME AND cc.COLUMN_NAME = c.COLUMN_NAME " ++
    ") THEN 1 ELSE 0 END AS is_primary_key FROM ALL_TAB_COLUMNS c WHERE c.OWNER = ? AND " ++
    "c.TABLE_NAME = ? ORDER BY c.COLUMN_ID"
  | .sqlite =>
    "SELECT name AS column_name, type AS data_type, 0 AS max_length, CASE WHEN pk = 1 AND " ++
    "UPPER(type) = 'INTEGER' THEN 1 ELSE 0 END AS is_identity, CASE WHEN pk > 0 THEN 1 ELSE " ++
    "0 END AS is_primary_key FROM pragma_table_info(?) ORDER BY cid"

/-- Asks for the columns of a table. -/
def tableColumns (d : Dialect) (database owner table : String) : Fragment :=
  ⟨d.tableColumnsText,
   match d with
   | .mysql => [.text database, .text table]
   | .oracle => [.text (Text.upper owner), .text table]
   | _ => [.text table]⟩

/-- The table's name in the case in which the catalog is asked whether it exists. -/
def existenceCase (d : Dialect) (table : String) : String :=
  match d with
  | .mysql | .postgres => Text.lower table
  | .oracle => Text.upper table
  | .sqlServer | .sqlite => table

/-- Asks the standard catalog how many tables have a name. -/
def catalogCount (d : Dialect) (owner table : String) : Fragment :=
  match d with
  | .oracle =>
    ⟨"SELECT COUNT(*) FROM ALL_OBJECTS WHERE OBJECT_TYPE = 'TABLE' AND OWNER = ? AND " ++
      "UPPER(OBJECT_NAME) = ?",
     [.text (Text.upper owner), .text (Text.upper table)]⟩
  | _ =>
    ⟨"SELECT COUNT(*) FROM information_schema.tables WHERE LOWER(table_name) = ?",
     [.text (Text.lower table)]⟩

/-- Asks the engine's own catalog how many tables have a name. -/
def ownCatalogCount (d : Dialect) (table : String) : Fragment :=
  match d with
  | .mysql =>
    ⟨"SELECT COUNT(*) FROM information_schema.TABLES WHERE TABLE_SCHEMA = DATABASE() AND " ++
      "TABLE_NAME = ?",
     [.text table]⟩
  | .sqlServer =>
    ⟨"SELECT COUNT(*) FROM sysobjects WHERE type = 'U' AND name = ?", [.text table]⟩
  | .postgres => ⟨"SELECT COUNT(*) FROM pg_catalog.pg_tables WHERE tablename = ?", [.text table]⟩
  | .oracle =>
    ⟨"SELECT COUNT(*) FROM user_tables WHERE UPPER(TABLE_NAME) = ?", [.text (Text.upper table)]⟩
  | .sqlite =>
    ⟨"SELECT COUNT(*) FROM sqlite_master WHERE type = 'table' AND name = ?", [.text table]⟩

end Polydialect.Dialect
