import Polydialect.Dialect.Types
import Polydialect.Identifier

/-! # Definitions of tables

Plans of the statements that create, change, index and drop tables. A plan is made without a
connection, and checks every name that it quotes.
-/

namespace Polydialect.Schema

/-- A column in a new table, or added to a table. -/
def columnDefinition (d : Dialect) (c : Column) (added : Bool) : String :=
  d.quote c.name ++ " " ++ if c.isIdentity then d.identityType added else d.nativeType c

/-- The columns of the primary key: the first identity, or else all that are flagged. -/
def keyColumns (cs : List Column) : List String :=
  match Column.identity? cs with
  | some c => [c.name]
  | none => (cs.filter (·.isPrimaryKey)).map (·.name)

/-- Whether the type of an identity among the columns declares the primary key. -/
def hasInlineKey (d : Dialect) (cs : List Column) : Bool :=
  (Column.identity? cs).isSome && d.identityIsKey

/-- The primary key clause, where one is needed. -/
def keyClause? (d : Dialect) (table : String) (cs : List Column) : Option String :=
  let keys := keyColumns cs
  if keys.isEmpty || hasInlineKey d cs then none else some (d.primaryKeyClause table keys)

/-- The text that creates a table of columns in their fixed shapes. -/
def createText (d : Dialect) (table : String) (cs : List Column) : String :=
  let definitions := cs.map (columnDefinition d · false) ++ (keyClause? d table cs).toList
  "CREATE TABLE " ++ d.quote table ++ " (\n    " ++ ",\n    ".intercalate definitions ++ "\n)" ++
    d.tableOptions

/-- Creates a table. -/
def createTable (d : Dialect) (table : String) (cs : List Column) : Except Error String := do
  Identifier.check table
  if cs.isEmpty then throw (.misuse (.tableWithoutColumns table))
  Identifier.checkAll (cs.map (·.name))
  return createText d table (cs.map Column.normalized)

theorem createTable_eq_ok_iff {d : Dialect} {table text : String} {cs : List Column} :
    createTable d table cs = .ok text ↔
      Identifier.Valid table ∧ cs ≠ [] ∧ (∀ c ∈ cs, Identifier.Valid c.name) ∧
        createText d table (cs.map Column.normalized) = text := by
  have hnames : (∀ c ∈ cs, Identifier.Valid c.name) ↔
      Identifier.checkAll (cs.map (·.name)) = .ok () := by
    rw [Identifier.checkAll_eq_ok_iff, List.forall_mem_map]
  rw [createTable, hnames, ← Identifier.check_eq_ok_iff]
  cases Identifier.check table with
  | error e => simp [bind, Except.bind]
  | ok =>
    cases cs with
    | nil => simp [bind, Except.bind, throw, throwThe, MonadExceptOf.throw]
    | cons c cs =>
      cases Identifier.checkAll ((c :: cs).map (·.name)) <;>
        simp [bind, Except.bind, pure, Except.pure]

/-- Whether a table has a column of a name. -/
def hasColumn (cs : List Column) (name : String) : Bool := cs.any (·.isNamed name)

/-- Adds a column in its fixed shape. -/
def addition (d : Dialect) (table : String) (c : Column) : String :=
  d.addColumn table (columnDefinition d c.normalized true)

/-- Adds the requested columns that the table lacks, then drops those that are named and there. A
column that is not requested stays. -/
def alterTable (d : Dialect) (table : String) (requested live : List Column)
    (dropped : List String) : Except Error (List String) := do
  Identifier.check table
  Identifier.checkAll (requested.map (·.name))
  Identifier.checkAll dropped
  let added := requested.filter fun c => !hasColumn live c.name
  let gone := dropped.filter fun name => hasColumn live name
  return added.map (addition d table) ++ gone.map (d.dropColumn table)

/-- Adds the identity column `Id`. -/
def addIdentity (d : Dialect) (table : String) : Except Error String := do
  Identifier.check table
  return d.addColumn table (columnDefinition d .identityColumn true)

/-- Drops a table. -/
def dropTable (d : Dialect) (table : String) : Except Error String := do
  Identifier.check table
  return "DROP TABLE " ++ d.quote table

/-- The name of the copy while a table is rebuilt. -/
def stagingName (table : String) : String := table ++ "_new"

/-- The columns of a rebuilt table: the identity first, which is the only key. -/
def rebuiltColumns (live : List Column) : List Column :=
  .identityColumn :: live.map fun c => { c with isIdentity := false, isPrimaryKey := false }

/-- Fills the copy in an order. -/
def copyText (d : Dialect) (table : String) (live : List Column) (order : String) : String :=
  let names := d.quoteAll (live.map (·.name))
  "INSERT INTO " ++ d.quote (stagingName table) ++ " (" ++ names ++ ") SELECT " ++ names ++
    " FROM " ++ d.quote table ++ " ORDER BY " ++ order

/-- Rebuilds a table around a new identity column: a copy is created, filled in an order, and takes
the place of the table. -/
def rebuild (d : Dialect) (table : String) (live : List Column) (order : String) :
    Except Error (List String) := do
  Identifier.check table
  Identifier.check (stagingName table)
  let create ← createTable d (stagingName table) (rebuiltColumns live)
  let copy := if live.isEmpty then [] else [copyText d table live order]
  let drop ← dropTable d table
  return create :: copy ++
    [drop, "ALTER TABLE " ++ d.quote (stagingName table) ++ " RENAME TO " ++ d.quote table]

end Polydialect.Schema
