/-! # Cache policies and directives

A policy says how long an entry lives; a directive rides on a query and says what happens to its key
when the query runs. Neither is ever part of a statement.
-/

namespace Polydialect.Cache

/-- Nanoseconds in a second. -/
def nanosecondsPerSecond : Nat := 1000000000

/-- How long an entry lives, in nanoseconds. -/
structure Policy where
  /-- After it was stored. -/
  absolute : Option Nat
  /-- After it was last read. -/
  sliding : Option Nat
  /-- Until it is removed. -/
  persistent : Bool
  deriving DecidableEq, Repr

namespace Policy

/-- Leaves the choice to the cache. -/
def inherit : Policy := ⟨none, none, false⟩

/-- Keeps the entry until it is removed. -/
def never : Policy := ⟨none, none, true⟩

/-- Drops the entry some time after it was stored. -/
def after (time : Nat) : Policy := ⟨some time, none, false⟩

/-- Whether the choice is left to the cache. -/
def isInherited (p : Policy) : Bool :=
  !p.persistent && p.absolute.isNone && p.sliding.isNone

end Policy

/-- What happens to a key when the query runs. -/
inductive Action where
  /-- The result is taken from the cache, or stored there. -/
  | readThrough
  /-- The key is removed before the statement runs. -/
  | invalidate
  deriving DecidableEq, Repr

/-- What a query asks of the cache. -/
structure Directive where
  action : Action
  key : String
  policy : Policy
  deriving DecidableEq, Repr

namespace Directive

def readThrough (key : String) (policy : Policy) : Directive := ⟨.readThrough, key, policy⟩

def invalidate (key : String) : Directive := ⟨.invalidate, key, .inherit⟩

end Directive

end Polydialect.Cache
