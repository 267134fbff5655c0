import Polydialect.Cache.Memory
import Polydialect.Guid
import Polydialect.Row
import Polydialect.Statement

/-! # Sessions

Everything that the operations on databases read and change: what the engine will answer, what was
asked of it and of the cache, what each database has learned about its server, the cache, and where
fresh global identifiers and the time come from. An operation is a function on sessions that gives a
result or a failure; what happened before a failure stays.
-/

namespace Polydialect

/-- What the engine answers to the next request. -/
inductive Reply where
  /-- No connection is opened. -/
  | refusal (message : String)
  /-- The statement fails. -/
  | failure (message : String)
  /-- The statement succeeds, with a count for a command and rows for a query. -/
  | answer (affected : UInt64) (rows : List Row)
  deriving DecidableEq

/-- The answer where none is given. -/
def Reply.default : Reply := .answer 1 []

/-- The calls of a cache. -/
inductive CacheCall where
  | get
  | set
  | remove
  deriving DecidableEq, Repr

/-- The name of a call in messages. -/
def CacheCall.name : CacheCall → String
  | .get => "cache_get"
  | .set => "cache_set"
  | .remove => "cache_remove"

/-- What was asked of the engine or the cache. -/
inductive Event where
  | connected
  | refused
  | executed (s : Statement)
  | queried (s : Statement)
  | cacheGet (key : String) (found : Option String)
  | cacheSet (key text : String) (policy : Cache.Policy)
  | cacheRemove (key : String)
  | cacheFailed (call : CacheCall)
  deriving DecidableEq

/-- Where fresh identifiers and the time come from: the n-th reading of each. -/
structure Sources where
  guid : Nat → Guid
  now : Nat → Timestamp
  /-- A clock for the cache, in nanoseconds. -/
  uptime : Nat → Nat

/-- The state of a session. -/
structure Session where
  sources : Sources
  guidsTaken : Nat
  timesRead : Nat
  uptimesRead : Nat
  replies : List Reply
  journal : List Event
  /-- How many databases there are; the next one takes the number as its handle. -/
  databases : Nat
  /-- Whether a server has no text for windows, for the servers that were asked, by the handle of
  the database that asked. -/
  capabilities : List ((Nat × String) × Bool)
  /-- How many statements were compiled for the databases of a handle. -/
  compiled : Nat → Nat
  cache : Option Cache.Memory
  /-- The cache fails on every call. -/
  cacheRefuses : Bool

namespace Session

/-- A session that has not begun. -/
def start (sources : Sources) (cache : Option Cache.Memory) : Session :=
  ⟨sources, 0, 0, 0, [], [], 0, [], fun _ => 0, cache, false⟩

/-- Adds to the journal. -/
def note (e : Event) (s : Session) : Session := { s with journal := s.journal ++ [e] }

/-- Counts a statement that was compiled for the databases of a handle. -/
def countCompiled (handle : Nat) (s : Session) : Session :=
  { s with compiled := fun h => s.compiled h + if h = handle then 1 else 0 }

/-- The session with the answers that the engine gives from here on. -/
def script (replies : List Reply) (s : Session) : Session := { s with replies := replies }

end Session

/-- An operation that cannot fail. -/
abbrev Step (α : Type) := StateM Session α

/-- An operation that may fail. -/
abbrev Run (α : Type) := ExceptT Error (StateM Session) α

namespace Run

/-- The result of an operation, a failure as well. -/
def attempt {α : Type} (r : Run α) : Step (Except Error α) := r.run

/-- The operation that gives a failure as its result. -/
def caught {α : Type} (r : Run α) : Run (Except Error α) := ExceptT.lift r.attempt

/-- An operation whose result is known. -/
def ofExcept {α : Type} (r : Except Error α) : Run α := ExceptT.mk (pure r)

/-- A fresh global identifier. -/
def freshGuid : Step Guid := fun s =>
  (s.sources.guid s.guidsTaken, { s with guidsTaken := s.guidsTaken + 1 })

/-- The current time. -/
def now : Step Timestamp := fun s =>
  (s.sources.now s.timesRead, { s with timesRead := s.timesRead + 1 })

/-- The time by the clock of the cache. -/
def uptime : Step Nat := fun s =>
  (s.sources.uptime s.uptimesRead, { s with uptimesRead := s.uptimesRead + 1 })

end Run

end Polydialect
