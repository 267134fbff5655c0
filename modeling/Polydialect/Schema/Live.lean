import Polydialect.Schema.Definition
import Polydialect.Schema.Index
import Polydialect.Database
import Polydialect.Value.Access

/-! # Live tables

Running the plans on a database, and reading the tables and columns that it has.
-/

namespace Polydialect.Schema

/-- The names of the tables. -/
def tableNames (db : Database) : Run (List String) := do
  let rows ← db.query (db.statement (db.dialect.tableNames db.databaseName))
  return rows.filterMap fun row => (row.getIndex? 0).bind Value.toText?

/-- A flag of a catalog row. -/
def flagOf (row : Row) (name : String) : Bool := ((row.get? name).bind Value.bool?).getD false

/-- The column of a catalog row. -/
def columnOfRow (d : Dialect) (row : Row) : Except Error Column :=
  match (row.get? "column_name").bind Value.toText? with
  | none => .error (.decode "column_name" "catalog row has no column name")
  | some name =>
    let native := ((row.get? "data_type").bind Value.toText?).getD ""
    let maxLength := ((row.get? "max_length").bind Value.int?).getD 0
    let (type, length) := d.canonicalType native maxLength
    .ok ⟨name, type, length, flagOf row "is_primary_key", flagOf row "is_identity", false⟩

/-- The columns of a table in the order of the catalog, none if the table is unknown. -/
def tableColumns (db : Database) (table : String) : Run (List Column) := do
  Run.ofExcept (Identifier.check table)
  let rows ← db.query (db.statement (db.dialect.tableColumns db.databaseName db.owner table))
  Run.ofExcept (rows.mapM (columnOfRow db.dialect))

/-- Runs the statement of a plan. -/
def runPlan (db : Database) (plan : Except Error String) : Run Unit := do
  let sql ← Run.ofExcept plan
  discard <| db.execute (db.statementOfText sql)

/-- Creates a table. -/
def runCreateTable (db : Database) (table : String) (cs : List Column) : Run Unit :=
  runPlan db (createTable db.dialect table cs)

/-- Creates an index. -/
def runCreateIndex (db : Database) (table index : String) (tokens : List String) : Run Unit :=
  runPlan db (createIndex db.dialect table index tokens)

/-- Drops a table. -/
def runDropTable (db : Database) (table : String) : Run Unit :=
  runPlan db (dropTable db.dialect table)

/-- Runs statements on an open connection, up to the first that fails. -/
def runAll (db : Database) : List String → Run Unit
  | [] => return ()
  | sql :: rest => do
    discard <| Engine.execute (db.statementOfText sql)
    runAll db rest

/-- Changes a table on one connection and gives the statements. Those before one that fails stay
applied. -/
def runAlterTable (db : Database) (table : String) (cs : List Column) (dropped : List String) :
    Run (List String) := do
  let live ← tableColumns db table
  let plan ← Run.ofExcept (alterTable db.dialect table cs live dropped)
  if plan.isEmpty then return plan
  db.connect
  runAll db plan
  return plan

/-- Runs statements in a transaction, which is rolled back when one of them fails. -/
def runInTransaction (db : Database) (plan : List String) : Run Unit := do
  db.connect
  discard <| Engine.execute (db.statementOfText "BEGIN")
  match ← (runAll db plan).caught with
  | .ok _ => discard <| Engine.execute (db.statementOfText "COMMIT")
  | .error e =>
    discard <| (Engine.execute (db.statementOfText "ROLLBACK")).caught
    throw e

/-- The identity column that a table gets: the one that it already has, or a new one. Where an
identity cannot be added in place, the table is rebuilt, its rows numbered in an order. -/
def makeIdentity (db : Database) (table : String) : Run Column := do
  match db.dialect.rebuildOrder? with
  | none =>
    runPlan db (addIdentity db.dialect table)
    return .identityColumn
  | some order =>
    let live ← tableColumns db table
    match Column.orderingColumn? live with
    | some c => return c
    | none =>
      runInTransaction db (← Run.ofExcept (rebuild db.dialect table live order))
      return .identityColumn

/-- Makes sure that columns have an identity: columns without one get it at their head, once the
table has it. The result is the name of the identity or the failure, beside the columns as they are
then. -/
def ensureIdentity (db : Database) (table : String) (cs : List Column) :
    Step (Except Error String × List Column) := do
  match Column.orderingColumn? cs with
  | some c => return (.ok c.name, cs)
  | none =>
    match ← (makeIdentity db table).attempt with
    | .ok c => return (.ok c.name, c :: cs)
    | .error e => return (.error e, cs)

end Polydialect.Schema
