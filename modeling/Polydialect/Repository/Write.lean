import Polydialect.Repository.Basic

/-! # Writing

An entity is inserted with a fresh global identifier and the current time, and learns its identity;
it keeps what it was given when the insertion fails. Writes never read the cache; they only
invalidate keys.
-/

namespace Polydialect.Repository

variable {α : Type}

/-- The identity that an insertion gave back, which is positive. -/
def insertedId (r : Repository α) (v : Option Value) : Except Error Int64 :=
  match (v.bind Value.int?).filter (0 < ·) with
  | some id => .ok id
  | none => .error (.driver "insert returned no identity" ("inserting into " ++ r.table))

/-- Inserts the row of an entity. -/
def insertRow [Entity α] (r : Repository α) (e : α) : Run Int64 := do
  let q := r.onTable (Query.empty.asInsert (r.rowValues e false))
  let compiled ← r.db.compile .insertedId q
  Run.ofExcept (r.insertedId (← r.db.queryScalar compiled.statement))

/-- Inserts an entity. The result is its identity or the failure, beside the entity as it is
then. -/
def insert [Entity α] (r : Repository α) (e : α) : Step (Except Error Int64 × α) := do
  let guid ← Run.freshGuid
  let now ← Run.now
  let e := Entity.mapBase (.stamp guid.text now) e
  match ← (r.insertRow e).attempt with
  | .ok id => return (.ok id, Entity.mapBase (fun b => { b with id := id }) e)
  | .error failure => return (.error failure, e)

/-- Inserts entities one by one, up to the first that fails. Those before it stay inserted. -/
def insertAll [Entity α] (r : Repository α) :
    List α → Step (Except Error (List Int64) × List α)
  | [] => return (.ok [], [])
  | e :: es => do
    let (result, e) ← r.insert e
    match result with
    | .error failure => return (.error failure, e :: es)
    | .ok id =>
      let (result, es) ← r.insertAll es
      return (result.map (id :: ·), e :: es)

/-- Runs the statement of a query that writes, once its key is invalidated. -/
def runWrite (r : Repository α) (q : Query) : Run UInt64 := do
  let (q, _) ← Caching.prepare (r.onTable q)
  let compiled ← r.db.compile .action q
  r.db.execute compiled.statement

/-- Runs the assignments of a query and counts the affected rows. -/
def updateAll (r : Repository α) (q : Query) : Run UInt64 := r.runWrite q.asUpdate

/-- Deletes the rows of a query and counts them. -/
def deleteAll (r : Repository α) (q : Query) : Run UInt64 := r.runWrite q.asDelete

/-- Deletes the row of an identity; there is none that is not positive. -/
def delete (r : Repository α) (id : Int64) : Run UInt64 :=
  if id ≤ 0 then return 0 else r.deleteAll (.eq Column.idName (.int id))

/-- The query that writes an entity over the row of its identity. -/
def updateQuery [Entity α] (r : Repository α) (e : α) : Query :=
  (r.rowValues e true).foldl (fun q p => q.set p.1 p.2)
    (.eq Column.idName (.int (Entity.base e).id))

/-- Writes an entity over the row of its identity, with the current time and, if its own is not
valid, a fresh global identifier. -/
def update [Entity α] (r : Repository α) (e : α) : Step (Except Error UInt64 × α) := do
  if (Entity.base e).id ≤ 0 then return (.error (.misuse (.updateWithoutId r.table)), e)
  let guid ←
    if Guid.isValid (Entity.base e).guid then pure (Entity.base e).guid
    else Guid.text <$> Run.freshGuid
  let now ← Run.now
  let e := Entity.mapBase (.stamp guid now) e
  return (← (r.updateAll (r.updateQuery e)).attempt, e)

/-- The assignment of an expression to the column that it is made from. -/
def stepQuery (q : Query) (column : String) (change : String → String) : Query :=
  let target := "[" ++ column ++ "]"
  q.clearAssignments.setRaw (target ++ " = " ++ change target) []

/-- Changes a column on every row of a query. -/
def stepAll (r : Repository α) (q : Query) (column : String) (change : String → String) :
    Run UInt64 := do
  Run.ofExcept (Identifier.check column)
  r.updateAll (stepQuery q column change)

/-- Adds a number to a column on every row of a query; NULL counts as zero. -/
def incrementAll (r : Repository α) (q : Query) (column : String) (n : Int64) : Run UInt64 :=
  r.stepAll q column (r.db.dialect.increment · n)

/-- Subtracts a number from a column on every row of a query; NULL counts as zero. -/
def decrementAll (r : Repository α) (q : Query) (column : String) (n : Int64) : Run UInt64 :=
  r.stepAll q column (r.db.dialect.decrement · n)

end Polydialect.Repository
