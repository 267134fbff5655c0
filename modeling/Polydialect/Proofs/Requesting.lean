import Polydialect.Proofs.Loading
import Polydialect.Proofs.Transaction

/-!
# What a request comes to

A statement on a connection of its own is sent once, unless the engine refuses the connection, and
its result is what is replied (`Database.Requested`).

* `Database.requested_execute`, `requested_queryScalar`: commands and queries for one value;
* `Database.replies_compile`: compiling may use up replies, for the question for the version, but
  the replies that are left are the last ones of those that were there;
* `Database.compile_eq_error`: a query that does not compile in a session does not compile.
-/

namespace Polydialect

open Step

variable {α β : Type}

/-! ## The replies that are left -/

/-- The operation uses up replies from the first on. -/
def Step.Consumes (x : Step α) : Prop := ∀ s : Session, (x.after s).replies <:+ s.replies

theorem Step.Consumes.of_keeps {x : Step α} (h : x.Keeps Session.replies) : x.Consumes :=
  fun s => (h s).symm ▸ List.suffix_rfl

theorem Step.Consumes.bind {x : Step α} {f : α → Step β} (hx : x.Consumes)
    (hf : ∀ a, (f a).Consumes) : Consumes (x >>= f) := fun s => (hf _ _).trans (hx s)

theorem Run.consumes_bind {x : Run α} {f : α → Run β} (hx : Consumes x) (hf : ∀ a, Consumes (f a)) :
    Consumes (x >>= f : Run β) := by
  refine Step.Consumes.bind (f := ExceptT.bindCont f) hx fun a => ?_
  cases a with
  | error e => exact .of_keeps (.pure (Except.error e))
  | ok a => exact hf a

theorem Engine.mem_of_refusal? {replies : List Reply} {message : String}
    (h : refusal? replies = some message) : .refusal message ∈ replies := by
  rw [refusal?.eq_def] at h
  split at h
  · cases h
    exact .head _
  · cases h

theorem Engine.mem_of_failure? {replies : List Reply} {message : String}
    (h : replies.head?.bind Reply.failure? = some message) : .failure message ∈ replies := by
  obtain ⟨reply, hreply, h⟩ := Option.bind_eq_some_iff.1 h
  rw [Reply.failure?.eq_def] at h
  split at h
  · cases h
    exact List.mem_of_head? hreply
  · cases h

theorem Engine.consumes_connect (context : String) : Consumes (connect context) := by
  intro s
  show (connect context s).2.replies <:+ s.replies
  unfold connect
  split
  · exact List.tail_suffix _
  · exact List.suffix_rfl

theorem Engine.consumes_query (st : Statement) : Consumes (query st) := by
  refine Run.consumes_bind (x := (liftM (ask (.queried st)) : Run Reply))
    (fun s => List.tail_suffix s.replies) fun reply => ?_
  cases reply <;> exact .of_keeps (.pure _)

namespace Database

variable {db : Database}

theorem consumes_isLegacy (db : Database) : db.isLegacy.Consumes := by
  have hask (probe : String) : Consumes (db.askVersion probe) := by
    have hquery : Consumes (db.queryScalar (db.statementOfText probe)) :=
      Run.consumes_bind (Engine.consumes_connect _) fun _ =>
        Run.consumes_bind (Engine.consumes_query _) fun _ => .of_keeps (.pure _)
    refine Step.Consumes.bind hquery fun r => ?_
    cases r with
    | error e => exact .of_keeps (.pure false)
    | ok version =>
      exact Step.Consumes.bind (.of_keeps (.modify fun s => rfl)) fun _ => .of_keeps (.pure _)
  rw [isLegacy]
  cases db.dialect.versionProbe? with
  | none => exact .of_keeps (.pure false)
  | some probe =>
    refine Step.Consumes.bind (.of_keeps .get) fun s => ?_
    cases s.capabilities.lookup db.capabilityKey with
    | none => exact hask probe
    | some known => exact .of_keeps (.pure known)

theorem replies_compile (db : Database) (p : Purpose) (q : Query) :
    Consumes (db.compile p q) := by
  have hcompiler : db.compiler.Consumes :=
    db.consumes_isLegacy.bind (f := fun isLegacy => pure (Compiler.mk db.dialect isLegacy))
      fun _ => .of_keeps (.pure _)
  refine Run.consumes_bind (x := (liftM db.compiler : Run Compiler)) hcompiler fun c => ?_
  refine Run.consumes_bind (x := (liftM Run.now : Run Timestamp)) (.of_keeps fun s => rfl)
    fun now => ?_
  refine Run.consumes_bind (.of_keeps (.pure _)) fun r => ?_
  exact Run.consumes_bind (.of_keeps (Run.keeps_lift (.modify fun s => rfl)))
    fun _ => .of_keeps (.pure _)

/-- A query that does not compile in a session does not compile on some server. -/
theorem compile_eq_error {p : Purpose} {q : Query} {s : Session} {e : Error}
    (h : Step.result (db.compile p q) s = .error e) :
    ∃ isLegacy now, q.compile ⟨db.dialect, isLegacy⟩ now p = .error e := by
  rw [compile, Run.result_lift_bind, Run.result_lift_bind, Run.result_bind] at h
  split at h
  -- what was compiled is counted, and that does not fail
  · cases h
  · rename_i failure hc
    cases h
    exact ⟨_, _, hc⟩

/-! ## Statements on connections of their own -/

/-- The failure to open a connection. -/
def refused (db : Database) (message : String) : Error :=
  .connection message (db.dialect.name ++ " at " ++ db.connectionString)

/-- A statement was requested between two sessions: no connection was opened for it, or it was sent,
once, and failed or gave something. -/
inductive Requested (db : Database) (st : Statement) (s t : Session) : Except Error α → Prop where
  | refused {message : String} (head : Engine.refusal? s.replies = some message)
      (sent : t.sent db = s.sent db) : Requested db st s t (.error (db.refused message))
  | failed {message : String} (head : s.replies.head?.bind Reply.failure? = some message)
      (sent : t.sent db = s.sent db ++ [st]) : Requested db st s t (.error (.driver message st.sql))
  | given {a : α} (head : Engine.refusal? s.replies = none) (sent : t.sent db = s.sent db ++ [st]) :
      Requested db st s t (.ok a)

/-- What is asked on an open connection takes the first reply, which decides whether it fails. -/
def Takes (st : Statement) (e : Event) (x : Run α) : Prop :=
  ∀ s, (∃ m, s.replies.head?.bind Reply.failure? = some m ∧
      x.run.run s = (.error (.driver m st.sql), Engine.asked e s)) ∨
    ∃ a, x.run.run s = (.ok a, Engine.asked e s)

theorem takes_queryScalar (st : Statement) : Takes st (.queried st) (Engine.queryScalar st) := by
  intro s
  obtain ⟨sources, guidsTaken, timesRead, uptimesRead, replies, journal, databases, capabilities,
    compiled, cache, cacheRefuses⟩ := s
  cases replies with
  | nil => exact .inr ⟨_, rfl⟩
  | cons reply replies =>
    cases reply with
    | failure m => exact .inl ⟨m, rfl, rfl⟩
    | answer n rows => exact .inr ⟨_, rfl⟩
    | refusal m => exact .inr ⟨_, rfl⟩

theorem sent_asked {st : Statement} {e : Event} (he : e.statement? = some st)
    (hp : db.probe? ≠ some st) (s : Session) :
    (Engine.asked e (s.note .connected)).sent db = s.sent db ++ [st] := by
  have hsent : db.sent? e = some st := by simp [sent?, he, hp]
  have hnote : (s.note .connected).sent db = s.sent db := keeps_note rfl s
  rw [← hnote]
  exact (after_ask e (s.note .connected)).trans (by rw [hsent]; rfl)

theorem requested_of_takes {st : Statement} {e : Event} {x : Run α} (hx : Takes st e x)
    (he : e.statement? = some st) (hp : db.probe? ≠ some st) (s : Session) :
    db.Requested st s ((do db.connect; x : Run α).run.run s).2
      ((do db.connect; x : Run α).run.run s).1 := by
  rcases Engine.run_connect (db.dialect.name ++ " at " ++ db.connectionString) s with
    ⟨m, hm, hc⟩ | ⟨hopen, hc⟩
  · rw [Database.connect, Run.run_bind_of_error hc fun _ => x]
    exact .refused hm (keeps_note rfl { s with replies := s.replies.tail })
  · rw [Database.connect, Run.run_bind_of_ok hc fun _ => x]
    rcases hx (s.note .connected) with ⟨m, hm, hrun⟩ | ⟨a, hrun⟩
    · rw [hrun]
      exact .failed hm (sent_asked he hp s)
    · rw [hrun]
      exact .given hopen (sent_asked he hp s)

theorem requested_queryScalar {st : Statement} (hp : db.probe? ≠ some st) (s : Session) :
    db.Requested st s (Step.after (db.queryScalar st) s) (Step.result (db.queryScalar st) s) :=
  requested_of_takes (takes_queryScalar st) rfl hp s

end Database

end Polydialect
