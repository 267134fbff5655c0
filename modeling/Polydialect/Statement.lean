import Polydialect.Dialect.Quoting
import Polydialect.Fragment
import Polydialect.Marker

/-! # Statements

A statement is SQL text with named placeholders and the values bound to them in order. It is made
from a fragment by naming the markers the dialect's way.
-/

namespace Polydialect

/-- A statement that a database can run. -/
structure Statement where
  sql : String
  bindings : List (String × Value)
  deriving DecidableEq

namespace Statement

/-- The placeholders of values, counted on after `k`. -/
def bind (d : Dialect) : Nat → List Value → List (String × Value)
  | _, [] => []
  | k, v :: vs => (d.placeholder (k + 1), v) :: bind d (k + 1) vs

/-- The statement of a fragment. -/
def ofFragment (d : Dialect) (f : Fragment) : Statement :=
  ⟨Marker.nameAll d.backslashEscapes d.placeholder f.text, bind d 0 f.values⟩

/-- The statement of a text without values. -/
def ofText (d : Dialect) (sql : String) : Statement := ofFragment d (.ofText sql)

/-- The first value bound to a placeholder. -/
def binding? (s : Statement) (name : String) : Option Value := s.bindings.lookup name

/-- The values in order. -/
def values (s : Statement) : List Value := s.bindings.map (·.2)

end Statement

end Polydialect
