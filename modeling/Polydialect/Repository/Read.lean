import Polydialect.Repository.Basic

/-! # Reading

Reads go through the cache, and a read that the cache answers compiles nothing. A row with an
identity but without a global identifier gets a fresh one, which is written back with a statement of
its own.
-/

namespace Polydialect.Repository

variable {α : Type}

/-- The rows that a query selects. -/
def selectRows (r : Repository α) (q : Query) : Run (List Row) := do
  let compiled ← r.db.compile .action q.asSelect
  r.db.query compiled.statement

/-- The query that writes a global identifier back. -/
def backfill (r : Repository α) (id : Int64) (guid : Guid) (now : Timestamp) : Query :=
  r.onTable (((Query.eq Column.idName (.int id)).set Column.guidName (.text guid.text)).set
    Column.modifiedName (.timestamp now))

section Entities

variable [Entity α]

/-- Whether an entity that was read needs a global identifier. -/
def lacksGuid (r : Repository α) (e : α) : Bool :=
  0 < (Entity.base e).id && r.hasColumn Column.guidName && !Guid.isValid (Entity.base e).guid

/-- The entity with a global identifier, which is written back if it is fresh. -/
def ensureGuid (r : Repository α) (e : α) : Run α := do
  if !r.lacksGuid e then return e
  let guid ← Run.freshGuid
  let now ← Run.now
  let compiled ← r.db.compile .action (r.backfill (Entity.base e).id guid now)
  discard <| r.db.execute compiled.statement
  return Entity.mapBase (.stamp guid.text now) e

/-- The entity of a row: its own fields, then the base fields and the attributes. -/
def materialize (r : Repository α) (row : Row) : Run α := do
  let own ← Run.ofExcept (Entity.ofRow row)
  r.ensureGuid (Entity.setBase (.ofTableRow r.extendName? row) own)

/-- The entities of rows, in their order. -/
def materializeAll (r : Repository α) : List Row → Run (List α)
  | [] => return []
  | row :: rows => do
    let e ← r.materialize row
    return e :: (← r.materializeAll rows)

/-- An entity that may be missing, as a cached text. -/
def entityCodec : Cache.Codec (Option α) := .optional Entity.toJson Entity.ofJson?

/-- Entities as a cached text. -/
def entitiesCodec : Cache.Codec (List α) := .list Entity.toJson Entity.ofJson?

/-- The first row that a query selects. -/
def getBy (r : Repository α) (q : Query) : Run (Option α) :=
  Caching.cached entityCodec ((r.onTable q).take 1) fun q => do
    match ← r.selectRows q with
    | [] => return none
    | row :: _ => return some (← r.materialize row)

/-- The row of an identity; there is none that is not positive. -/
def get (r : Repository α) (id : Int64) : Run (Option α) :=
  if id ≤ 0 then return none else r.getBy (.eq Column.idName (.int id))

/-- The row of a global identifier; there is none for another text. -/
def getByGuid (r : Repository α) (guid : String) : Run (Option α) :=
  if Guid.isValid guid then r.getBy (.eq Column.guidName (.text guid)) else return none

/-- Every row that a query selects. -/
def getAll (r : Repository α) (q : Query) : Run (List α) :=
  Caching.cached entitiesCodec (r.onTable q) fun q => do r.materializeAll (← r.selectRows q)

end Entities

/-- The first column of the first row, unless it is NULL. -/
def getValue (r : Repository α) (q : Query) : Run (Option Value) :=
  Caching.cached .optionalValue ((r.onTable q).take 1) fun q => do
    return Engine.scalarOf (← r.selectRows q)

/-- The first column of every row. -/
def getValues (r : Repository α) (q : Query) : Run (List Value) :=
  Caching.cached .values (r.onTable q) fun q => do
    return (← r.selectRows q).filterMap (·.getIndex? 0)

/-! ## Aggregates -/

/-- The integer that a query gives for a purpose. -/
def aggregate (r : Repository α) (p : Purpose) (q : Query) : Run (Option Int64) := do
  let compiled ← r.db.compile p q
  return (← r.db.queryScalar compiled.statement).bind Value.int?

/-- Whether a query selects a row. -/
def exists? (r : Repository α) (q : Query) : Run Bool :=
  Caching.cached .bool (r.onTable q) fun q => do
    return 0 < (← r.aggregate .existence q).getD 0

/-- Whether there is a row of an identity. -/
def existsId (r : Repository α) (id : Int64) : Run Bool :=
  if id ≤ 0 then return false else r.exists? (.eq Column.idName (.int id))

/-- Whether there is a row of a global identifier. -/
def existsGuid (r : Repository α) (guid : String) : Run Bool :=
  if Guid.isValid guid then r.exists? (.eq Column.guidName (.text guid)) else return false

/-- A count, which is never negative. -/
def countOf (n : Option Int64) : UInt64 := UInt64.ofNat (n.getD 0).toInt.toNat

/-- How many rows a query selects. -/
def count (r : Repository α) (q : Query) : Run UInt64 :=
  Caching.cached .count (r.onTable q) fun q => do return countOf (← r.aggregate .count q)

/-- The sum of the selected column, zero without rows. -/
def sum (r : Repository α) (q : Query) : Run Int64 :=
  Caching.cached .int (r.onTable q) fun q => do return (← r.aggregate .sum q).getD 0

/-- The greatest value of the selected column, none without rows. -/
def max (r : Repository α) (q : Query) : Run (Option Int64) :=
  Caching.cached .optionalInt (r.onTable q) fun q => r.aggregate .max q

end Polydialect.Repository
