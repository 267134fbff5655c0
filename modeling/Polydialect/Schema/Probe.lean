import Polydialect.Database
import Polydialect.Identifier
import Polydialect.Value.Access

/-! # Whether a table exists

Engines disagree on which catalogs they have and on the case of names, so there are three probes,
tried in order until one has an answer.
-/

namespace Polydialect.Schema

/-- What a probe finds out. -/
inductive Presence where
  | exists
  | missing
  /-- The probe does not run on this engine. -/
  | inconclusive
  deriving DecidableEq, Repr

/-- A way to find out whether a table exists. -/
inductive Probe where
  /-- Counts in the standard catalog. -/
  | catalog
  /-- Counts in the engine's own catalog. -/
  | ownCatalog
  /-- Selects nothing from the table, which fails if it is missing. -/
  | rawSelect
  deriving DecidableEq, Repr

namespace Probe

/-- The probes in the order in which they are tried. -/
def order : List Probe := [.catalog, .ownCatalog, .rawSelect]

/-- The fragment of a probe. -/
def fragment (d : Dialect) (owner table : String) : Probe → Fragment
  | .catalog => d.catalogCount owner (d.existenceCase table)
  | .ownCatalog => d.ownCatalogCount (d.existenceCase table)
  | .rawSelect => .ofText ("SELECT 1 FROM " ++ d.quote table ++ " WHERE 1 = 0")

/-- The statement of a probe. -/
def statement (d : Dialect) (owner table : String) (p : Probe) : Statement :=
  .ofFragment d (p.fragment d owner table)

/-- What the count of a catalog means. -/
def ofCount : Except Error (Option Value) → Presence
  | .ok count => if 0 < (count.bind Value.int?).getD 0 then .exists else .missing
  | .error _ => .inconclusive

/-- What selecting from the table means. -/
def ofRows : Except Error (List Row) → Presence
  | .ok _ => .exists
  | .error _ => .missing

/-- Runs a probe. -/
def run (db : Database) (table : String) (p : Probe) : Step Presence := do
  let st := p.statement db.dialect db.owner table
  match p with
  | .rawSelect => return ofRows (← (db.query st).attempt)
  | _ => return ofCount (← (db.queryScalar st).attempt)

/-- Runs probes until one has an answer. -/
def runUntil (db : Database) (table : String) : List Probe → Step Bool
  | [] => return false
  | p :: ps => do
    match ← p.run db table with
    | .exists => return true
    | .missing => return false
    | .inconclusive => runUntil db table ps

end Probe

/-- Whether a table exists; what cannot be the name of a table does not. -/
def tableExists (db : Database) (table : String) : Step Bool :=
  if Identifier.Valid table then Probe.runUntil db table Probe.order else return false

end Polydialect.Schema
