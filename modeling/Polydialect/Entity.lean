import Polydialect.Column.Basic
import Polydialect.Error
import Polydialect.Json.Parser
import Polydialect.Row
import Polydialect.Value.Access

/-! # Entities

An entity is what a row is read as and written from. Beside the fields that every table has it has
fields of its own, which it gives by the names of their columns; what these are is left to its type.
-/

namespace Polydialect

namespace Entity

/-- The fields that every table has. -/
structure Base where
  /-- Zero until the row is inserted. -/
  id : Int64
  guid : String
  modified : Option Timestamp
  extend : Keyed Json
  deriving BEq

/-- Whether every table has the column. -/
def isBaseColumn (name : String) : Bool :=
  [Column.idName, Column.guidName, Column.modifiedName].any (Text.sameName · name)

/-- The attributes that the value of an extend column holds; anything but a JSON object holds
none. -/
def attributes (v : Option Value) : Keyed Json :=
  match v.bind Value.toText? with
  | none => []
  | some text => match (Json.parse? text).map Json.canonical with
    | some (.object members) => members
    | _ => []

namespace Base

def empty : Base := ⟨0, "", none, []⟩

/-- The fields in a row; those that it lacks are empty, and so are the attributes. -/
def ofRow (r : Row) : Base where
  id := ((r.get? Column.idName).bind Value.int?).getD 0
  guid := ((r.get? Column.guidName).bind Value.toText?).getD ""
  modified := (r.get? Column.modifiedName).bind Value.timestamp?
  extend := []

/-- The fields in a row of a table whose attributes are in `extend`, if anywhere. -/
def ofTableRow (extend : Option String) (row : Row) : Base :=
  let attributes := match extend with
    | some column => attributes (row.get? column)
    | none => []
  { ofRow row with extend := attributes }

/-- The fields of a row that was written now. -/
def stamp (guid : String) (now : Timestamp) (b : Base) : Base :=
  { b with guid := guid, modified := some now }

end Base

end Entity

/-- What a type of rows has to offer. The base fields are a part of their own: they are what they
were set to, and the own fields do not go by them. -/
class Entity (α : Type) where
  /-- The table that the rows are in, unless a repository says otherwise. -/
  tableName : String
  /-- The columns of that table, the base columns among them. -/
  tableColumns : List Column
  base : α → Entity.Base
  setBase : Entity.Base → α → α
  /-- What is in a column that not every table has. -/
  value? : α → String → Option Value
  /-- The own fields from a row, which may not have them. -/
  ofRow : Row → Except Error α
  toJson : α → Json
  ofJson? : Json → Option α
  base_setBase (b : Entity.Base) (e : α) : base (setBase b e) = b
  setBase_setBase (b b' : Entity.Base) (e : α) : setBase b' (setBase b e) = setBase b' e
  value?_setBase (b : Entity.Base) (e : α) (column : String) :
    value? (setBase b e) column = value? e column

namespace Entity

attribute [simp] base_setBase setBase_setBase value?_setBase

variable {α : Type} [Entity α]

/-- The entity with a change of its base fields. -/
def mapBase (f : Base → Base) (e : α) : α := setBase (f (base e)) e

@[simp] theorem base_mapBase (f : Base → Base) (e : α) : base (mapBase f e) = f (base e) :=
  base_setBase _ _

/-- Nothing but the base fields is changed. -/
theorem mapBase_eq_setBase (f : Base → Base) (e : α) :
    mapBase f e = setBase (base (mapBase f e)) e := by
  rw [base_mapBase]
  rfl

@[simp] theorem mapBase_mapBase (f g : Base → Base) (e : α) :
    mapBase g (mapBase f e) = mapBase (g ∘ f) e := by
  simp [mapBase]

@[simp] theorem mapBase_setBase (f : Base → Base) (b : Base) (e : α) :
    mapBase f (setBase b e) = setBase (f b) e := by
  simp [mapBase]

@[simp] theorem value?_mapBase (f : Base → Base) (e : α) (column : String) :
    value? (mapBase f e) column = value? e column :=
  value?_setBase _ _ _

end Entity

end Polydialect
