import Polydialect.Connection
import Polydialect.Dialect.Catalog
import Polydialect.Query.Compile
import Polydialect.Session.Engine

/-! # Databases

A database is a dialect with a connection string. Statements are compiled for what its server can
do, which is asked once: a server that does not answer counts as recent, and is asked again. What
was learned and how many statements were compiled belongs to a handle, which copies of a database
share.
-/

namespace Polydialect

/-- A database on a server. -/
structure Database where
  dialect : Dialect
  connectionString : String
  /-- Shared by the copies of a database, and by no other. -/
  handle : Nat
  deriving DecidableEq, Repr

namespace Database

/-- Makes a database, which has learned nothing yet. -/
def make (dialect : Dialect) (connectionString : String) : Step Database := fun s =>
  (⟨dialect, connectionString, s.databases⟩, { s with databases := s.databases + 1 })

/-- The schema's owner, empty where the connection string has none. -/
def owner (db : Database) : String := (ConnectionInfo.ofText db.connectionString).owner

/-- The database's name, empty where the connection string has none. -/
def databaseName (db : Database) : String := (ConnectionInfo.ofText db.connectionString).databaseName

/-- The database without its connection string, which may hold a password. -/
def summary (db : Database) : String :=
  "Database \x7b dialect: " ++ db.dialect.title ++ ", database_name: " ++
    Text.quoted db.databaseName ++ ", owner: " ++ Text.quoted db.owner ++ ", .. \x7d"

/-- The statement of a fragment. -/
def statement (db : Database) (f : Fragment) : Statement := .ofFragment db.dialect f

/-- The statement of a text without values. -/
def statementOfText (db : Database) (sql : String) : Statement := .ofText db.dialect sql

/-- Opens a connection. -/
def connect (db : Database) : Run Unit :=
  Engine.connect (db.dialect.name ++ " at " ++ db.connectionString)

/-- Runs a command on a connection of its own. -/
def execute (db : Database) (st : Statement) : Run UInt64 := do
  db.connect
  Engine.execute st

/-- Runs a query on a connection of its own. -/
def query (db : Database) (st : Statement) : Run (List Row) := do
  db.connect
  Engine.query st

/-- Runs a query for a single value on a connection of its own. -/
def queryScalar (db : Database) (st : Statement) : Run (Option Value) := do
  db.connect
  Engine.queryScalar st

/-- The handle and the name under which the server's capability is kept. -/
def capabilityKey (db : Database) : Nat × String :=
  (db.handle, db.dialect.name ++ ":" ++ db.connectionString)

/-- Keeps what the server can do. -/
def learn (db : Database) (isLegacy : Bool) : Step Unit :=
  modify fun s => { s with capabilities := (db.capabilityKey, isLegacy) :: s.capabilities }

/-- Asks the server with a probe whether it has no text for windows. -/
def askVersion (db : Database) (probe : String) : Step Bool := do
  match ← (db.queryScalar (db.statementOfText probe)).attempt with
  | .ok version =>
    let isLegacy := db.dialect.isLegacyVersion ((version.bind Value.toText?).getD "")
    db.learn isLegacy
    return isLegacy
  | .error _ => return false

/-- Whether the server has no text for windows. -/
def isLegacy (db : Database) : Step Bool := do
  match db.dialect.versionProbe? with
  | none => return false
  | some probe =>
    match (← get).capabilities.lookup db.capabilityKey with
    | some known => return known
    | none => db.askVersion probe

/-- A compiler for what the server can do. -/
def compiler (db : Database) : Step Compiler := return ⟨db.dialect, ← db.isLegacy⟩

/-- Compiles a query; only what could be compiled is counted. -/
def compile (db : Database) (p : Purpose) (q : Query) : Run Compiled := do
  let c ← db.compiler
  let compiled ← Run.ofExcept (q.compile c (← Run.now) p)
  modify (Session.countCompiled db.handle)
  return compiled

end Database

end Polydialect
