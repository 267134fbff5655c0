import Polydialect.Dialect.Quoting
import Polydialect.Fragment

/-! # Conditions

A condition is a tree of predicates on the columns of a table. Its fragment has the markers and the
values in the order of the tree; every group and every negated condition stands in parentheses.
-/

namespace Polydialect

/-- How a column is compared with a value. -/
inductive Comparison where
  | eq
  | notEq
  | lt
  | lte
  | gt
  | gte
  | like
  | notLike
  deriving DecidableEq, Repr

/-- The operator. -/
def Comparison.text : Comparison → String
  | .eq => "="
  | .notEq => "<>"
  | .lt => "<"
  | .lte => "<="
  | .gt => ">"
  | .gte => ">="
  | .like => "LIKE"
  | .notLike => "NOT LIKE"

/-- How the members of a group combine. -/
inductive Conjunction where
  | and
  | or
  deriving DecidableEq, Repr

namespace Conjunction

/-- What stands between the members. -/
def text : Conjunction → String
  | .and => " AND "
  | .or => " OR "

/-- What stands for a group without members. -/
def neutral : Conjunction → String
  | .and => "1 = 1"
  | .or => "1 = 0"

end Conjunction

/-- A tree of predicates. -/
inductive Condition where
  | compare (column : String) (op : Comparison) (value : Value)
  | isIn (column : String) (values : List Value)
  | isNull (column : String)
  /-- SQL text in which `[name]` stands for a quoted name. -/
  | raw (source : Fragment)
  | group (conjunction : Conjunction) (members : List Condition)
  | not (inner : Condition)

/-- Raw SQL text with its `[name]` markers quoted. -/
def Fragment.wrapNames (d : Dialect) (f : Fragment) : Fragment := ⟨d.wrap f.text, f.values⟩

/-- As many markers as there are values. -/
def Fragment.markers (values : List Value) : Fragment :=
  ⟨", ".intercalate (values.map fun _ => "?"), values⟩

namespace Condition

/-- A comparison; being equal to NULL is being NULL. -/
def comparison (d : Dialect) (column : String) (op : Comparison) (value : Value) : Fragment :=
  match op, value.isNull with
  | .eq, true => .ofText (d.quote column ++ " IS NULL")
  | .notEq, true => .ofText (d.quote column ++ " IS NOT NULL")
  | _, _ => ⟨d.quote column ++ " " ++ op.text ++ " ?", [value]⟩

/-- A membership; nothing is among no values. -/
def membership (d : Dialect) (column : String) : List Value → Fragment
  | [] => .ofText "1 = 0"
  | v :: vs => .wrap (d.quote column ++ " IN (") (.markers (v :: vs)) ")"

mutual

/-- The condition as SQL. -/
def fragment (d : Dialect) : Condition → Fragment
  | .compare column op value => comparison d column op value
  | .isIn column values => membership d column values
  | .isNull column => .ofText (d.quote column ++ " IS NULL")
  | .raw source => .wrap "(" (source.wrapNames d) ")"
  | .group conjunction [] => .ofText conjunction.neutral
  | .group conjunction (c :: cs) =>
    .wrap "(" (.join conjunction.text (fragment d c :: fragments d cs)) ")"
  | .not inner => .wrap "NOT (" (fragment d inner) ")"

/-- Conditions as SQL, one by one. -/
def fragments (d : Dialect) : List Condition → List Fragment
  | [] => []
  | c :: cs => fragment d c :: fragments d cs

end

theorem fragments_eq_map (d : Dialect) (cs : List Condition) :
    fragments d cs = cs.map (fragment d) := by
  induction cs with
  | nil => rfl
  | cons c cs ih => simp [fragments, ih]

/-- Conditions that all have to hold, nothing if there are none. -/
def whereClause? (d : Dialect) (cs : List Condition) : Option Fragment :=
  if cs.isEmpty then none else some (.join " AND " (fragments d cs))

end Condition

end Polydialect
