import Polydialect.Session.Basic

/-! # The engine in a session

Opening connections and running statements on them. A refusal is used up by opening a connection
only; on an open connection every statement uses up one reply.
-/

namespace Polydialect.Engine

/-- The message that comes first among the replies, if it refuses a connection. -/
def refusal? : List Reply → Option String
  | .refusal message :: _ => some message
  | _ => none

/-- Opens a connection to a server; the context is for the failure. -/
def connect (context : String) : Run Unit := fun s =>
  match refusal? s.replies with
  | some message =>
    (.error (.connection message context), { s with replies := s.replies.tail }.note .refused)
  | none => (.ok (), s.note .connected)

/-- Notes a request and takes the reply to it. -/
def ask (e : Event) : Step Reply := fun s =>
  (s.replies.head?.getD .default, { s with replies := s.replies.tail }.note e)

/-- Runs a command on an open connection and counts the affected rows. -/
def execute (st : Statement) : Run UInt64 := do
  match ← ask (.executed st) with
  | .failure message => throw (.driver message st.sql)
  | .answer affected _ => return affected
  | .refusal _ => return 1

/-- Runs a query on an open connection. -/
def query (st : Statement) : Run (List Row) := do
  match ← ask (.queried st) with
  | .failure message => throw (.driver message st.sql)
  | .answer _ rows => return rows
  | .refusal _ => return []

/-- The first value of the first row, unless it is NULL. -/
def scalarOf (rows : List Row) : Option Value :=
  (rows.head?.bind (·.getIndex? 0)).filter (!·.isNull)

/-- Runs a query on an open connection for a single value. -/
def queryScalar (st : Statement) : Run (Option Value) := do
  return scalarOf (← query st)

end Polydialect.Engine
