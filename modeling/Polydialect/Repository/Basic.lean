import Polydialect.Database
import Polydialect.Entity
import Polydialect.Json.Printer
import Polydialect.Session.Caching

/-! # Repositories

A repository is a table of a database with the columns that it is expected to have and the type of
entity that its rows are. What an entity writes into the table is decided here: the identity is left
to the engine, the base columns come from the base fields, the extend column holds the attributes as
JSON and every other column what the entity has for it.
-/

namespace Polydialect

/-- A table of a database, for entities of a type. -/
structure Repository (α : Type) where
  db : Database
  table : String
  columns : List Column

namespace Repository

variable {α : Type}

/-- The table that the type of entity names itself. -/
def own [Entity α] (db : Database) : Repository α :=
  ⟨db, Entity.tableName α, Entity.tableColumns α⟩

/-- The query on the repository's table. -/
def onTable (r : Repository α) (q : Query) : Query := q.withTable r.table

/-- Whether the table has a column. -/
def hasColumn (r : Repository α) (name : String) : Bool := r.columns.any (·.isNamed name)

/-- The column of the attributes, if it has a name. -/
def extendName? (r : Repository α) : Option String :=
  ((Column.extend? r.columns).map (·.name)).filter (!·.isEmpty)

/-- The value of a time that may be missing. -/
def timeValue : Option Timestamp → Value
  | some t => .timestamp t
  | none => .null

/-- The attributes as JSON text. -/
def attributesText (extend : Keyed Json) : String := (Json.object extend).toText

variable [Entity α]

/-- What an entity writes into a column; nothing into an identity. Where it has no value, an INSERT
writes NULL and an UPDATE nothing. -/
def columnValue? (e : α) (forUpdate : Bool) (c : Column) : Option Value :=
  if c.isIdentity || c.isNamed Column.idName then none
  else if c.isNamed Column.guidName then some (.text (Entity.base e).guid)
  else if c.isNamed Column.modifiedName then some (timeValue (Entity.base e).modified)
  else if c.isExtend then some (.text (attributesText (Entity.base e).extend))
  else match Entity.value? e c.name with
    | some v => some v
    | none => if forUpdate then none else some .null

/-- What an entity writes into the table. -/
def rowValues (r : Repository α) (e : α) (forUpdate : Bool) : List (String × Value) :=
  r.columns.filterMap fun c => (columnValue? e forUpdate c).map fun v => (c.name, v)

end Repository

end Polydialect
