import Polydialect.Column.Basic
import Polydialect.Dialect.Paging
import Polydialect.Dialect.Types
import Polydialect.Identifier
import Polydialect.Query.Basic
import Polydialect.Statement

/-! # Statements of queries

Compiling renders the clauses of a query as fragments, puts them together and names the markers as
the last step, so the values are bound in the order in which they stand in the text. An UPDATE
assigns a column once, the first assignment to it, and always writes the time of the change.
-/

namespace Polydialect

/-- A dialect on a server. -/
structure Compiler where
  dialect : Dialect
  /-- The server has no text for a window. -/
  isLegacy : Bool
  deriving DecidableEq, Repr

/-- What a statement is made for. -/
inductive Purpose where
  /-- The query's own action. -/
  | action
  /-- Whether there is a row. -/
  | existence
  /-- How many rows there are. -/
  | count
  /-- The sum of the selected column. -/
  | sum
  /-- The greatest value of the selected column. -/
  | max
  /-- Inserting a row and learning its identity. -/
  | insertedId
  deriving DecidableEq, Repr

/-- A statement with what its query asks of the cache. -/
structure Compiled where
  statement : Statement
  caching : Option Cache.Directive
  deriving DecidableEq

namespace Assignment

/-- The column that an assignment writes: in raw text, what stands before the first `=`. -/
def target : Assignment → String
  | .value column _ => column
  | .raw source => Identifier.unquote (.ofList (Text.before '=' source.text.toList))

/-- The assignment as SQL. -/
def fragment (d : Dialect) : Assignment → Fragment
  | .value column v => ⟨d.quote column ++ " = ?", [v]⟩
  | .raw source => source.wrapNames d

/-- The first assignment to each column that is not among `seen`. -/
def firsts (seen : List String) : List Assignment → List Assignment
  | [] => []
  | a :: r =>
    if seen.any (Text.sameName · a.target) then firsts seen r
    else a :: firsts (a.target :: seen) r

/-- The assignments with the time of the change, unless one of them writes it. -/
def stamped (now : Timestamp) (as : List Assignment) : List Assignment :=
  if as.any (Text.sameName ·.target Column.modifiedName) then as
  else as ++ [.value Column.modifiedName (.timestamp now)]

/-- The assignments that an UPDATE makes. -/
def effective (now : Timestamp) (as : List Assignment) : List Assignment :=
  stamped now (firsts [] as)

end Assignment

namespace Query

/-- The table of a query, checked. -/
def target (q : Query) : Except Error String :=
  match q.table with
  | none => .error (.misuse .noTable)
  | some table => do
    Identifier.check table
    return table

/-- The selected columns and expressions, all columns if there are none. -/
def selectList (d : Dialect) (q : Query) : String :=
  let items := q.columns.map d.quote ++ q.rawColumns.map d.wrap
  if items.isEmpty then "*" else ", ".intercalate items

/-- The ordering, nothing if there is none. -/
def orderList? (d : Dialect) (q : Query) : Option String :=
  if q.orders.isEmpty then none
  else some (", ".intercalate (q.orders.map fun o => d.quote o.column ++ " " ++ o.direction.text))

/-- The condition of a query, nothing if there is none. -/
def whereClause? (d : Dialect) (q : Query) : Option Fragment :=
  Condition.whereClause? d q.conditions

/-- A fragment followed by the condition of a query. -/
def filtered (d : Dialect) (q : Query) (f : Fragment) : Fragment :=
  match q.whereClause? d with
  | none => f
  | some w => f ++ .wrap " WHERE " w ""

/-- The clauses of a SELECT of a list. -/
def selection (c : Compiler) (q : Query) (table list : String) : Selection :=
  ⟨table, list, (q.whereClause? c.dialect).map (·.text), q.orderList? c.dialect, q.offset, q.limit,
    c.isLegacy⟩

/-- A SELECT of a list. -/
def selectFragment (c : Compiler) (q : Query) (table list : String) : Except Error Fragment := do
  let text ← (q.selection c table list).text c.dialect
  return ⟨text, ((q.whereClause? c.dialect).map (·.values)).getD []⟩

/-- An INSERT of the query's values. -/
def insertFragment (d : Dialect) (q : Query) (table : String) : Except Error Fragment :=
  if q.values.isEmpty then .error (.misuse (.noInsertValues table))
  else do
    Identifier.checkAll (q.values.map (·.1))
    return .ofText ("INSERT INTO " ++ d.quote table ++ " (" ++ d.quoteAll (q.values.map (·.1)) ++ ")")
      ++ .wrap " VALUES (" (.markers (q.values.map (·.2))) ")"

/-- An UPDATE with the query's assignments. -/
def updateFragment (d : Dialect) (now : Timestamp) (q : Query) (table : String) : Fragment :=
  let as := Assignment.effective now q.assignments
  q.filtered d
    (.wrap ("UPDATE " ++ d.quote table ++ " SET ") (.join ", " (as.map (·.fragment d))) "")

/-- A DELETE. -/
def deleteFragment (d : Dialect) (q : Query) (table : String) : Fragment :=
  q.filtered d (.ofText ("DELETE FROM " ++ d.quote table))

/-- The query's own action as a fragment. -/
def actionFragment (c : Compiler) (now : Timestamp) (q : Query) (table : String) :
    Except Error Fragment :=
  match q.action with
  | .select => q.selectFragment c table (q.selectList c.dialect)
  | .insert => q.insertFragment c.dialect table
  | .update => return q.updateFragment c.dialect now table
  | .delete => return q.deleteFragment c.dialect table

/-- The statement for the query's own action. -/
def compileAction (c : Compiler) (now : Timestamp) (q : Query) : Except Error Statement := do
  let table ← q.target
  return .ofFragment c.dialect (← q.actionFragment c now table)

/-- The statement that selects one expression of the matching rows, in no order. -/
def compileAggregate (c : Compiler) (q : Query) (expression : String) : Except Error Statement := do
  let table ← q.target
  return .ofFragment c.dialect (← q.clearOrder.selectFragment c table expression)

/-- The single selected column, quoted. -/
def aggregated (d : Dialect) (q : Query) (operation : String) : Except Error String :=
  match q.columns with
  | [] => .error (.aggregationTargetMissing operation)
  | [column] => do
    Identifier.check column
    return d.quote column
  | columns => .error (.misuse (.notOneColumn operation columns.length))

/-- The statement that inserts a row and gives back its identity. -/
def compileInserting (c : Compiler) (now : Timestamp) (q : Query) : Except Error Statement :=
  if q.action ≠ .insert then .error (.misuse .notAnInsert)
  else do
    let s ← q.compileAction c now
    return { s with sql := c.dialect.insertReturning s.sql Column.idName }

/-- The statement for a purpose. -/
def statement (c : Compiler) (now : Timestamp) (p : Purpose) (q : Query) :
    Except Error Statement :=
  match p with
  | .action => q.compileAction c now
  | .existence => q.compileAggregate c "COUNT(1)"
  | .count => q.compileAggregate c "COUNT(*)"
  | .sum => do q.compileAggregate c ("SUM(" ++ (← q.aggregated c.dialect "sum") ++ ")")
  | .max => do q.compileAggregate c ("MAX(" ++ (← q.aggregated c.dialect "max") ++ ")")
  | .insertedId => q.compileInserting c now

/-- The statement for a purpose, beside what the query asks of the cache. -/
def compile (c : Compiler) (now : Timestamp) (p : Purpose) (q : Query) : Except Error Compiled := do
  return ⟨← q.statement c now p, q.caching⟩

end Query

end Polydialect
