import Polydialect.Entity
import Polydialect.Members

/-! # Records

A record is the entity for tables that are known by their columns only: the base fields, and the
other columns by name. Names are looked up without regard to ASCII case; of several, the first in
the order of names is found.
-/

namespace Polydialect

/-- A row by the names of its columns. -/
structure Record where
  base : Entity.Base
  values : Keyed Value
  deriving BEq

namespace Record

def empty : Record := ⟨.empty, []⟩

/-- The value of a column. -/
def get? (r : Record) (column : String) : Option Value :=
  (r.values.find? fun p => Text.sameName p.1 column).map (·.2)

/-- The record with the value of a column. -/
def put (r : Record) (column : String) (v : Value) : Record :=
  { r with values := Keyed.insert column v r.values }

/-- The columns of a row that not every table has, with empty base fields. Of columns with one name
the last is kept. -/
def ofRow (r : Row) : Record :=
  ⟨.empty, Keyed.ofPairs (r.cells.filter fun p => !Entity.isBaseColumn p.1)⟩

/-- The record in JSON. -/
def toJson (r : Record) : Json :=
  .object
    [("extend", .object r.base.extend), ("guid", .string r.base.guid),
     ("id", .ofInt64 r.base.id),
     ("last_modified_date", .textOrNull (r.base.modified.map Timestamp.toIso)),
     ("values", .object (r.values.map fun p => (p.1, p.2.toJson)))]

/-- The time that JSON stands for, null for none. -/
def modifiedOfJson? : Json → Option (Option Timestamp)
  | .null => some none
  | .string s => (Timestamp.ofIso? s).map some
  | _ => none

/-- The attributes that JSON stands for. -/
def extendOfJson? (j : Json) : Option (Keyed Json) :=
  match j.canonical with
  | .object members => some members
  | _ => none

/-- The values by name that JSON stands for. -/
def valuesOfJson? : Json → Option (Keyed Value)
  | .object members =>
    (members.mapM fun p => (Value.ofJson? p.2).map fun v => (p.1, v)).map Keyed.ofPairs
  | _ => none

/-- The record that JSON stands for: `id`, `guid` and `values` are required, and no field may be
there twice. -/
def ofJson? : Json → Option Record
  | .object members => do
    let id ← Members.required? Value.int64OfJson? "id" members
    let guid ← Members.required? Json.text? "guid" members
    let modified ← Members.optional? modifiedOfJson? none "last_modified_date" members
    let extend ← Members.optional? extendOfJson? [] "extend" members
    let values ← Members.required? valuesOfJson? "values" members
    return ⟨⟨id, guid, modified, extend⟩, values⟩
  | _ => none

/-- Records are in any table, with any columns. -/
instance : Entity Record where
  tableName := ""
  tableColumns := []
  base := Record.base
  setBase b e := { e with base := b }
  value? := get?
  ofRow row := .ok (ofRow row)
  toJson := toJson
  ofJson? := ofJson?
  base_setBase _ _ := rfl
  setBase_setBase _ _ _ := rfl
  value?_setBase _ _ _ := rfl

end Record

end Polydialect
