import Polydialect.Cache.Directive
import Polydialect.Query.Condition

/-! # Queries

A query describes one statement without regard to a dialect. It is a value: every step of building
gives a new query, so one query can be the base of several others.
-/

namespace Polydialect

/-- What a query does. -/
inductive Action where
  | select
  | insert
  | update
  | delete
  deriving DecidableEq, Repr

/-- The direction of an ordering. -/
inductive Direction where
  | asc
  | desc
  deriving DecidableEq, Repr

/-- The keyword of a direction. -/
def Direction.text : Direction → String
  | .asc => "ASC"
  | .desc => "DESC"

/-- One term of an ordering. -/
structure Order where
  column : String
  direction : Direction
  deriving DecidableEq, Repr

/-- One assignment of an UPDATE. -/
inductive Assignment where
  | value (column : String) (value : Value)
  /-- SQL text such as `[Hits] = [Hits] + 1`. -/
  | raw (source : Fragment)
  deriving DecidableEq

/-- A statement without regard to a dialect. -/
structure Query where
  table : Option String
  action : Action
  columns : List String
  rawColumns : List String
  conditions : List Condition
  orders : List Order
  offset : Option UInt64
  limit : Option UInt64
  assignments : List Assignment
  values : List (String × Value)
  caching : Option Cache.Directive

namespace Query

/-- Selects everything, of no table yet. -/
def empty : Query := ⟨none, .select, [], [], [], [], none, none, [], [], none⟩

/-- Selects everything of a table. -/
def ofTable (table : String) : Query := { empty with table := some table }

/-- The same query on another table. -/
def withTable (q : Query) (table : String) : Query := { q with table := some table }

/-! ## Conditions -/

/-- One more condition that has to hold. -/
def filter (q : Query) (c : Condition) : Query := { q with conditions := q.conditions ++ [c] }

def filterCompare (q : Query) (column : String) (op : Comparison) (v : Value) : Query :=
  q.filter (.compare column op v)

def filterEq (q : Query) (column : String) (v : Value) : Query := q.filterCompare column .eq v

def filterIn (q : Query) (column : String) (vs : List Value) : Query := q.filter (.isIn column vs)

def filterNotIn (q : Query) (column : String) (vs : List Value) : Query :=
  q.filter (.not (.isIn column vs))

def filterNull (q : Query) (column : String) : Query := q.filter (.isNull column)

def filterNotNull (q : Query) (column : String) : Query := q.filter (.not (.isNull column))

def filterLike (q : Query) (column pattern : String) : Query :=
  q.filterCompare column .like (.text pattern)

def filterRaw (q : Query) (sql : String) (values : List Value) : Query :=
  q.filter (.raw ⟨sql, values⟩)

/-- The rows of no table yet whose column has a value. -/
def eq (column : String) (v : Value) : Query := empty.filterEq column v

/-! ## Ordering and window -/

def order (q : Query) (o : Order) : Query := { q with orders := q.orders ++ [o] }

def orderBy (q : Query) (column : String) : Query := q.order ⟨column, .asc⟩

def orderByDesc (q : Query) (column : String) : Query := q.order ⟨column, .desc⟩

def clearOrder (q : Query) : Query := { q with orders := [] }

def skip (q : Query) (n : UInt64) : Query := { q with offset := some n }

def take (q : Query) (n : UInt64) : Query := { q with limit := some n }

/-! ## Select list -/

/-- Selects columns instead of those selected so far. -/
def select (q : Query) (columns : List String) : Query :=
  { q with columns := columns, rawColumns := [] }

/-- Selects one more expression. -/
def selectRaw (q : Query) (expression : String) : Query :=
  { q with rawColumns := q.rawColumns ++ [expression] }

def clearSelect (q : Query) : Query := q.select []

/-! ## Writing -/

/-- One more assignment; the query becomes an UPDATE. -/
def assign (q : Query) (a : Assignment) : Query :=
  { q with assignments := q.assignments ++ [a], action := .update }

def set (q : Query) (column : String) (v : Value) : Query := q.assign (.value column v)

def setRaw (q : Query) (expression : String) (values : List Value) : Query :=
  q.assign (.raw ⟨expression, values⟩)

def clearAssignments (q : Query) : Query := { q with assignments := [] }

/-- Turns the query into an INSERT. -/
def asInsert (q : Query) (values : List (String × Value)) : Query :=
  { q with values := values, action := .insert }

def asUpdate (q : Query) : Query := { q with action := .update }

def asDelete (q : Query) : Query := { q with action := .delete }

def asSelect (q : Query) : Query := { q with action := .select }

/-! ## Caching -/

/-- Takes the result from the cache, or stores it there. -/
def readThrough (q : Query) (key : String) (policy : Cache.Policy) : Query :=
  { q with caching := some (.readThrough key policy) }

/-- Removes a key before the statement runs. -/
def invalidate (q : Query) (key : String) : Query :=
  { q with caching := some (.invalidate key) }

def clearCaching (q : Query) : Query := { q with caching := none }

end Query

end Polydialect
