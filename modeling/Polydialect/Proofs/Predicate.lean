import Polydialect.Proofs.Lexing
import Polydialect.Query.Condition

/-!
# SQL predicates

A reader of SQL predicates by recursive descent: NOT binds tighter than AND and AND tighter than
OR, parentheses hold a whole predicate, and behind a column stands a comparison with a marker, a
test for NULL or a membership. What is read (`Predicate`) has a truth value of three under every
assignment of such values to the atomic predicates; numbers compare by themselves.

`read?` reads the text of a fragment, its markers filled with the values of the fragment, and gives
nothing unless it reads all of it. The recursion is bounded by a number that every use of the
grammar counts down; a text of `n` tokens needs no more than `3 * n + 2`.
-/

namespace Polydialect

/-- A truth value of SQL. -/
inductive Truth where
  | no
  | unknown
  | yes
  deriving DecidableEq, Repr

namespace Truth

def not : Truth → Truth
  | .no => .yes
  | .unknown => .unknown
  | .yes => .no

/-- The lesser of two truth values. -/
def and : Truth → Truth → Truth
  | .no, _ | _, .no => .no
  | .yes, t | t, .yes => t
  | .unknown, .unknown => .unknown

/-- The greater of two truth values. -/
def or : Truth → Truth → Truth
  | .yes, _ | _, .yes => .yes
  | .no, t | t, .no => t
  | .unknown, .unknown => .unknown

def ofBool (b : Bool) : Truth := if b then .yes else .no

def all (ts : List Truth) : Truth := ts.foldr and .yes

def any (ts : List Truth) : Truth := ts.foldr or .no

@[simp] theorem and_yes (t : Truth) : t.and .yes = t := by cases t <;> rfl

@[simp] theorem or_no (t : Truth) : t.or .no = t := by cases t <;> rfl

end Truth

namespace Sql

/-- A predicate on a column whose truth depends on the row. -/
inductive Atom where
  | compare (column : String) (op : Comparison) (value : Value)
  | isIn (column : String) (values : List Value)
  | isNull (column : String)
  | isNotNull (column : String)
  deriving DecidableEq

/-- A predicate. -/
inductive Predicate where
  | atom (a : Atom)
  /-- Two numbers are equal. -/
  | equal (m n : Nat)
  | not (p : Predicate)
  | and (p q : Predicate)
  | or (p q : Predicate)
  deriving DecidableEq

namespace Predicate

/-- The truth value under an assignment. -/
def eval (ρ : Atom → Truth) : Predicate → Truth
  | .atom a => ρ a
  | .equal m n => .ofBool (m == n)
  | .not p => (p.eval ρ).not
  | .and p q => (p.eval ρ).and (q.eval ρ)
  | .or p q => (p.eval ρ).or (q.eval ρ)

/-- The values in the atoms from left to right. -/
def values : Predicate → List Value
  | .atom (.compare _ _ v) => [v]
  | .atom (.isIn _ vs) => vs
  | .atom (.isNull _) | .atom (.isNotNull _) | .equal .. => []
  | .not p => p.values
  | .and p q | .or p q => p.values ++ q.values

end Predicate

/-! ## Reading -/

/-- What is left after a symbol. -/
def expect (s : Symbol) : List (Token Value) → Option (List (Token Value))
  | .symbol t :: ts => if t = s then some ts else none
  | _ => none

/-- The comparison of an operator. -/
def comparison? (o : String) : Option Comparison :=
  if o = "=" then some .eq
  else if o = "<>" then some .notEq
  else if o = "<" then some .lt
  else if o = "<=" then some .lte
  else if o = ">" then some .gt
  else if o = ">=" then some .gte
  else none

/-- Markers with commas between them, up to a closing parenthesis. -/
def members : List (Token Value) → Option (List Value × List (Token Value))
  | .marker v :: .symbol .comma :: ts => (members ts).map fun r => (v :: r.1, r.2)
  | .marker v :: .symbol .closing :: ts => some ([v], ts)
  | _ => none

/-- What stands behind a column. -/
def test (column : String) : List (Token Value) → Option (Atom × List (Token Value))
  | .symbol (.operator o) :: .marker v :: ts =>
    (comparison? o).map fun op => (.compare column op v, ts)
  | .symbol (.word "LIKE") :: .marker v :: ts => some (.compare column .like v, ts)
  | .symbol (.word "NOT") :: .symbol (.word "LIKE") :: .marker v :: ts =>
    some (.compare column .notLike v, ts)
  | .symbol (.word "IS") :: .symbol (.word "NULL") :: ts => some (.isNull column, ts)
  | .symbol (.word "IS") :: .symbol (.word "NOT") :: .symbol (.word "NULL") :: ts =>
    some (.isNotNull column, ts)
  | .symbol (.word "IN") :: .symbol .opening :: ts =>
    (members ts).map fun r => (.isIn column r.1, r.2)
  | _ => none

/-- A predicate without connectives. -/
def simple : List (Token Value) → Option (Predicate × List (Token Value))
  | .symbol (.name column) :: ts => (test column ts).map fun r => (.atom r.1, r.2)
  | .symbol (.number m) :: .symbol (.operator "=") :: .symbol (.number n) :: ts =>
    some (.equal m n, ts)
  | _ => none

mutual

/-- Conjunctions with OR between them. -/
def disjunction : Nat → List (Token Value) → Option (Predicate × List (Token Value))
  | 0, _ => none
  | n + 1, ts => do
    let (p, ts) ← conjunction n ts
    match expect (.word "OR") ts with
    | none => return (p, ts)
    | some ts =>
      let (q, ts) ← disjunction n ts
      return (.or p q, ts)

/-- Negations with AND between them. -/
def conjunction : Nat → List (Token Value) → Option (Predicate × List (Token Value))
  | 0, _ => none
  | n + 1, ts => do
    let (p, ts) ← negation n ts
    match expect (.word "AND") ts with
    | none => return (p, ts)
    | some ts =>
      let (q, ts) ← conjunction n ts
      return (.and p q, ts)

/-- A predicate behind NOT, one in parentheses, or one without connectives. -/
def negation : Nat → List (Token Value) → Option (Predicate × List (Token Value))
  | 0, _ => none
  | n + 1, ts =>
    match expect (.word "NOT") ts, expect .opening ts with
    | some ts, _ => do
      let (p, ts) ← negation n ts
      return (.not p, ts)
    | none, some ts => do
      let (p, ts) ← disjunction n ts
      return (p, ← expect .closing ts)
    | none, none => simple ts

end

/-- The predicate of a fragment in a dialect. -/
def read? (d : Dialect) (f : Fragment) : Option Predicate := do
  let ts ← Token.fill (lex d.delimiters f.text) f.values
  let (p, rest) ← disjunction (3 * ts.length + 2) ts
  if rest.isEmpty then some p else none

end Sql

end Polydialect
