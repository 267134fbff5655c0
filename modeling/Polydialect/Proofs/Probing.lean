import Polydialect.Proofs.Loading
import Polydialect.Proofs.Serving

/-!
# Asking a server for its version

What a server can do is asked of it until it tells its version once. A history is the list of the
attempts to ask, each with the version that was told or with nothing (`Probing.Attempt`). It is read
off what calls note (`Probing.Turn.attempts`), and after each call the session knows what the first
version in the history says (`Probing.Knows`).

* `Database.probing_isLegacy`: the ways in which the question for the capability can go;
* `Probing.Turn.step`: a call asks at most once, and what it gives is decided by the history and its
  own attempt;
* `Probing.knows_after`: so do calls, by induction on them;
* `Probing.Knows.other`: a call of another database leaves what is known of this one, and
  `Probing.Knows.make`: a database that is made knows nothing yet;
* `Database.capability_decided_once`: calls of a database from the start on.

Copies of a database are equal, handle included, so they are one database here. Another database has
another handle, even with the same dialect and the same connection string.
-/

namespace Polydialect

open Step

/-! ## One question -/

/-- The event is an attempt to open a connection. -/
def Event.opens : Event → Bool
  | .connected | .refused => true
  | .executed _ | .queried _ => false
  | .cacheGet .. | .cacheSet .. | .cacheRemove _ | .cacheFailed _ => false

namespace Probing

/-- What came of asking a server for its version: the version, nothing if that failed. -/
abbrev Attempt := Option String

/-- What comes of asking, by the next reply. An answer without a value tells the empty version. -/
def attempt (replies : List Reply) : Attempt :=
  match replies.head?.getD .default with
  | .answer _ rows => some (((Engine.scalarOf rows).bind Value.toText?).getD "")
  | .refusal _ | .failure _ => none

/-- What is noted of asking. -/
def asked (st : Statement) (replies : List Reply) : List Event :=
  match Engine.refusal? replies with
  | some _ => [.refused]
  | none => [.connected, .queried st]

/-- The session in which the server was asked. -/
def questioned (st : Statement) (s : Session) : Session :=
  { s with replies := s.replies.tail, journal := s.journal ++ asked st s.replies }

/-- A question opens one connection. -/
theorem filter_opens_asked (st : Statement) (replies : List Reply) :
    ∃ e, (asked st replies).filter Event.opens = [e] := by
  rw [asked]
  cases Engine.refusal? replies with
  | some _ => exact ⟨.refused, rfl⟩
  | none => exact ⟨.connected, rfl⟩

end Probing

open Probing (Attempt attempt)

namespace Database

variable {db : Database}

/-- What a version that was told says, and no version is a recent one. -/
def judged (db : Database) (a : Attempt) : Bool := a.elim false db.dialect.isLegacyVersion

/-- The session after an attempt: what was told is kept. -/
def heard (db : Database) (a : Attempt) (s : Session) : Session :=
  { s with capabilities :=
      (a.map fun v => (db.capabilityKey, db.dialect.isLegacyVersion v)).toList ++ s.capabilities }

theorem probe?_eq_none_iff : db.probe? = none ↔ db.dialect ≠ .sqlServer := by
  obtain ⟨dialect, connection, handle⟩ := db
  cases dialect <;> simp [probe?, Dialect.versionProbe?]

theorem dialect_of_probe? {st : Statement} (h : db.probe? = some st) : db.dialect = .sqlServer := by
  by_contra hd
  rw [probe?_eq_none_iff.2 hd] at h
  cases h

theorem run_askVersion (db : Database) (probe : String) (s : Session) :
    (db.askVersion probe).run s = (db.judged (attempt s.replies),
      db.heard (attempt s.replies) (Probing.questioned (db.statementOfText probe) s)) := by
  obtain ⟨sources, guidsTaken, timesRead, uptimesRead, replies, journal, databases, capabilities,
    compiled, cache, cacheRefuses⟩ := s
  -- the connection and the question are noted one after the other
  have hjournal (e e' : Event) : journal ++ [e] ++ [e'] = journal ++ [e, e'] :=
    List.append_assoc _ _ _
  cases replies with
  | nil => exact congrArg (fun j => (_, Session.mk _ _ _ _ _ j _ _ _ _ _)) (hjournal _ _)
  | cons reply replies =>
    cases reply with
    | refusal m => rfl
    | failure m | answer n rows =>
      exact congrArg (fun j => (_, Session.mk _ _ _ _ _ j _ _ _ _ _)) (hjournal _ _)

/-- The ways in which the question for the capability goes: there is no question for the dialect,
the answer is known, or the server is asked. -/
inductive ProbingIsLegacy (db : Database) (s : Session) : Bool × Session → Prop where
  | silent (noProbe : db.probe? = none) : ProbingIsLegacy db s (false, s)
  | known {isLegacy : Bool} (known : s.capabilities.lookup db.capabilityKey = some isLegacy) :
      ProbingIsLegacy db s (isLegacy, s)
  | asked {st : Statement} (probe : db.probe? = some st)
      (unknown : s.capabilities.lookup db.capabilityKey = none) :
      ProbingIsLegacy db s (db.judged (attempt s.replies),
        db.heard (attempt s.replies) (Probing.questioned st s))

theorem probing_isLegacy (db : Database) (s : Session) :
    db.ProbingIsLegacy s (db.isLegacy.run s) := by
  cases hprobe : db.dialect.versionProbe? with
  | none =>
    have hrun : db.isLegacy.run s = (false, s) := by
      rw [isLegacy, hprobe]
      rfl
    rw [hrun]
    exact .silent (by rw [probe?, hprobe]; rfl)
  | some probe =>
    have hp : db.probe? = some (db.statementOfText probe) := by rw [probe?, hprobe]; rfl
    have hget {α : Type} (f : Session → Step α) : (get >>= f).run s = (f s).run s := rfl
    cases hknown : s.capabilities.lookup db.capabilityKey with
    | some known =>
      have hrun : db.isLegacy.run s = (known, s) := by
        simp only [isLegacy, hprobe, hget, hknown]
        rfl
      rw [hrun]
      exact .known hknown
    | none =>
      have hrun : db.isLegacy.run s = (db.askVersion probe).run s := by
        simp only [isLegacy, hprobe, hget, hknown]
      rw [hrun, run_askVersion]
      exact .asked hp hknown

/-- Compiling gives what the query gives for what the server can do. -/
theorem result_compile (db : Database) (p : Purpose) (q : Query) (s : Session) :
    Step.result (db.compile p q) s = q.compile ⟨db.dialect, db.isLegacy.result s⟩
      ((db.isLegacy.after s).sources.now (db.isLegacy.after s).timesRead) p := by
  rw [compile, Run.result_lift_bind, Run.result_lift_bind, Run.result_bind]
  generalize hr : q.compile (db.compiler.result s) (Run.now.result (db.compiler.after s)) p = r
  refine Eq.trans ?_ hr.symm
  cases r <;> rfl

theorem after_compile (db : Database) (p : Purpose) (q : Query) (s : Session) :
    ∃ timesRead compiled, Step.after (db.compile p q) s =
      { db.isLegacy.after s with timesRead := timesRead, compiled := compiled } := by
  have hafter : Step.after (db.compile p q) s = Step.after
      (Run.ofExcept (q.compile (db.compiler.result s) (Run.now.result (db.compiler.after s)) p) >>=
        fun compiled => do modify (Session.countCompiled db.handle); return compiled : Run Compiled)
      (Run.now.after (db.isLegacy.after s)) := rfl
  rw [hafter, Run.after_bind]
  generalize q.compile (db.compiler.result s) (Run.now.result (db.compiler.after s)) p = r
  cases r <;> exact ⟨_, _, rfl⟩

end Database

namespace Probing

variable {db : Database}

/-- The first version that was told. -/
def told? (history : List Attempt) : Attempt := history.findSome? id

/-! ## Calls -/

/-- The calls that depend on what the server can do. -/
inductive Call where
  | isLegacy
  | compiler
  | compile (p : Purpose) (q : Query)

/-- What they give. -/
inductive Answer where
  | isLegacy (isLegacy : Bool)
  | compiler (c : Compiler)
  | compiled (r : Except Error Compiled)

namespace Call

def run (db : Database) : Call → Step Answer
  | isLegacy => return .isLegacy (← db.isLegacy)
  | compiler => return .compiler (← db.compiler)
  | compile p q => return .compiled (← (db.compile p q).attempt)

/-- What is given for a server that has no text for windows, or has one. -/
def answer (db : Database) (hasNone : Bool) (now : Timestamp) : Call → Answer
  | isLegacy => .isLegacy hasNone
  | compiler => .compiler ⟨db.dialect, hasNone⟩
  | compile p q => .compiled (q.compile ⟨db.dialect, hasNone⟩ now p)

/-- The question for the capability decides about the answer. -/
theorem result_run (c : Call) (db : Database) (s : Session) :
    (c.run db).result s = c.answer db (db.isLegacy.result s)
      ((db.isLegacy.after s).sources.now (db.isLegacy.after s).timesRead) := by
  cases c with
  | isLegacy | compiler => rfl
  | compile p q => exact congrArg Answer.compiled (db.result_compile p q s)

/-- Beside the question a call reads the time and counts. -/
theorem after_run (c : Call) (db : Database) (s : Session) :
    ∃ timesRead compiled, (c.run db).after s =
      { db.isLegacy.after s with timesRead := timesRead, compiled := compiled } := by
  cases c with
  | isLegacy | compiler => exact ⟨_, _, rfl⟩
  | compile p q => exact db.after_compile p q s

end Call

/-- A call and what the engine replies meanwhile. -/
structure Turn where
  replies : List Reply
  call : Call

namespace Turn

def run (db : Database) (t : Turn) : Step Answer := do
  modify (·.script t.replies)
  t.call.run db

/-- The session after a turn. -/
def next (db : Database) (s : Session) (t : Turn) : Session := (t.run db).after s

/-- What is noted in a turn. -/
def noted (db : Database) (s : Session) (t : Turn) : List Event := s.since (t.next db s)

/-- What came of each attempt to open a connection in a turn. -/
def attempts (db : Database) (s : Session) (t : Turn) : List Attempt :=
  ((t.noted db s).filter Event.opens).map fun _ => attempt t.replies

/-- The turn gives what is given for a server that has no text for windows, or has one. -/
def Gives (db : Database) (s : Session) (t : Turn) (hasNone : Bool) : Prop :=
  (t.run db).result s = t.call.answer db hasNone (s.sources.now s.timesRead)

/-- What a turn comes to after some attempts. -/
structure Follows (db : Database) (history : List Attempt) (s : Session) (t : Turn) : Prop where
  /-- Servers of other dialects are not asked, and count as recent. -/
  silent : db.dialect ≠ .sqlServer → t.noted db s = [] ∧ t.Gives db s false
  /-- Once a version was told, it decides, and nobody asks. -/
  settled : ∀ version, told? history = some version →
    t.noted db s = [] ∧ t.Gives db s (db.dialect.isLegacyVersion version)
  /-- Until then the server is asked, and a failure counts as a recent version. -/
  asks : told? history = none → ∀ st, db.probe? = some st →
    t.noted db s = asked st t.replies ∧ t.Gives db s (db.judged (attempt t.replies))
  /-- A failure is not kept. -/
  forgets : attempt t.replies = none → (t.next db s).capabilities = s.capabilities

end Turn

/-- The session knows what the first version in the history says, and attempts ended with it. -/
structure Knows (db : Database) (history : List Attempt) (s : Session) : Prop where
  known : s.capabilities.lookup db.capabilityKey =
    (told? history).map db.dialect.isLegacyVersion
  silent : db.dialect ≠ .sqlServer → history = []
  ended : ∀ a ∈ history.dropLast, a = none

variable {history : List Attempt} {s : Session}

theorem told?_eq_none_iff : told? history = none ↔ ∀ a ∈ history, a = none :=
  List.findSome?_eq_none_iff

theorem told?_concat (h : told? history = none) (a : Attempt) : told? (history ++ [a]) = a := by
  rw [told?, List.findSome?_append, ← told?, h]
  cases a <;> rfl

theorem Knows.start (db : Database) (sources : Sources) (cache : Option Cache.Memory) :
    Knows db [] (.start sources cache) where
  known := rfl
  silent _ := rfl
  ended _ ha := absurd ha List.not_mem_nil

theorem Knows.congr {t : Session} (h : Knows db history s)
    (ht : t.capabilities.lookup db.capabilityKey = s.capabilities.lookup db.capabilityKey) :
    Knows db history t :=
  ⟨ht.trans h.known, h.silent, h.ended⟩

/-- One more attempt, as long as all have failed. -/
theorem Knows.concat {t : Session} {a : Attempt} (hd : db.dialect = .sqlServer)
    (hfirst : told? history = none)
    (ht : t.capabilities.lookup db.capabilityKey = a.map db.dialect.isLegacyVersion) :
    Knows db (history ++ [a]) t where
  known := by rw [told?_concat hfirst, ht]
  silent hother := absurd hd hother
  ended := by
    rw [List.dropLast_concat]
    exact told?_eq_none_iff.1 hfirst

/-- At most one attempt did not fail. -/
theorem Knows.length_le (h : Knows db history s) :
    history.length ≤ history.countP (·.isNone) + 1 := by
  have hall : history.dropLast.countP (·.isNone) = history.dropLast.length :=
    List.countP_eq_length.2 fun a ha => by rw [h.ended a ha]; rfl
  have hle := history.dropLast_sublist.countP_le (p := (·.isNone))
  rw [hall, List.length_dropLast] at hle
  omega

namespace Turn

/-- A turn is what the question for the capability makes of it. -/
theorem of_run {t : Turn} {hasNone : Bool} {u : Session}
    (h : db.isLegacy.run (s.script t.replies) = (hasNone, u)) :
    t.noted db s = s.since u ∧ (t.next db s).capabilities = u.capabilities ∧
      (u.sources = s.sources → u.timesRead = s.timesRead → t.Gives db s hasNone) := by
  have hresult : db.isLegacy.result (s.script t.replies) = hasNone := congrArg Prod.fst h
  have hafter : db.isLegacy.after (s.script t.replies) = u := congrArg Prod.snd h
  obtain ⟨timesRead, compiled, hnext⟩ := t.call.after_run db (s.script t.replies)
  have hnext' : t.next db s = { u with timesRead := timesRead, compiled := compiled } := by
    rw [← hafter]
    exact hnext
  refine ⟨?_, ?_, fun hsources htimes => ?_⟩
  · rw [noted, hnext']
    rfl
  · rw [hnext']
  · show (t.call.run db).result (s.script t.replies) = _
    rw [Call.result_run, hresult, hafter, hsources, htimes]

theorem attempts_of_quiet {t : Turn} (h : t.noted db s = []) : t.attempts db s = [] := by
  rw [attempts, h]
  rfl

theorem attempts_of_asked {t : Turn} {st : Statement} (h : t.noted db s = asked st t.replies) :
    t.attempts db s = [attempt t.replies] := by
  obtain ⟨e, he⟩ := filter_opens_asked st t.replies
  rw [attempts, h, he]
  rfl

theorem knows_of_quiet (h : Knows db history s) {t : Turn} (hnothing : t.noted db s = [])
    (hkept : (t.next db s).capabilities = s.capabilities) :
    Knows db (history ++ t.attempts db s) (t.next db s) := by
  rw [attempts_of_quiet hnothing, List.append_nil]
  exact h.congr (congrArg _ hkept)

/-- What was told is known from then on, and after a failure nothing is. -/
theorem knows_of_asked {t : Turn} {st : Statement} (hserver : db.dialect = .sqlServer)
    (hfirst : told? history = none) (unknown : s.capabilities.lookup db.capabilityKey = none)
    (hasked : t.noted db s = asked st t.replies)
    (hkept : (t.next db s).capabilities = (db.heard (attempt t.replies) s).capabilities) :
    Knows db (history ++ t.attempts db s) (t.next db s) := by
  rw [attempts_of_asked hasked]
  refine .concat hserver hfirst ?_
  rw [hkept, Database.heard]
  cases attempt t.replies with
  | none => exact unknown
  | some version => exact List.lookup_cons_self

/-! ### What a turn comes to -/

variable {t : Turn}

theorem follows_of_silent (h : Knows db history s) (hother : db.dialect ≠ .sqlServer)
    (hnothing : t.noted db s = []) (hgives : t.Gives db s false)
    (hkept : (t.next db s).capabilities = s.capabilities) : t.Follows db history s where
  silent _ := ⟨hnothing, hgives⟩
  settled version hversion := by
    rw [h.silent hother] at hversion
    cases hversion
  asks _ st hst := by
    rw [Database.probe?_eq_none_iff.2 hother] at hst
    cases hst
  forgets _ := hkept

theorem follows_of_told (h : Knows db history s) {version : String}
    (hversion : told? history = some version) (hnothing : t.noted db s = [])
    (hgives : t.Gives db s (db.dialect.isLegacyVersion version))
    (hkept : (t.next db s).capabilities = s.capabilities) : t.Follows db history s where
  silent hother := by
    rw [h.silent hother] at hversion
    cases hversion
  settled version' hversion' := by
    cases hversion.symm.trans hversion'
    exact ⟨hnothing, hgives⟩
  asks hnone := by
    rw [hversion] at hnone
    cases hnone
  forgets _ := hkept

theorem follows_of_asked {st : Statement} (hprobe : db.probe? = some st)
    (hfirst : told? history = none) (hasked : t.noted db s = asked st t.replies)
    (hgives : t.Gives db s (db.judged (attempt t.replies)))
    (hkept : (t.next db s).capabilities = (db.heard (attempt t.replies) s).capabilities) :
    t.Follows db history s where
  silent hother := absurd (Database.dialect_of_probe? hprobe) hother
  settled version hversion := by
    rw [hfirst] at hversion
    cases hversion
  asks _ st' hst := by
    cases hprobe.symm.trans hst
    exact ⟨hasked, hgives⟩
  forgets hfailed := by
    rw [hkept, hfailed]
    rfl

/-- **A turn.** What it comes to is decided by the attempts so far and by its own. -/
theorem step (h : Knows db history s) (t : Turn) :
    t.Follows db history s ∧ Knows db (history ++ t.attempts db s) (t.next db s) := by
  have hcases := db.probing_isLegacy (s.script t.replies)
  generalize hrun : db.isLegacy.run (s.script t.replies) = r at hcases
  have hquiet : s.since (s.script t.replies) = [] := List.drop_length
  have hnoted (st : Statement) :
      s.since (questioned st (s.script t.replies)) = asked st t.replies := List.drop_left
  cases hcases with
  | silent noProbe =>
    obtain ⟨hnothing, hkept, hgives⟩ := of_run hrun
    rw [hquiet] at hnothing
    have hother : db.dialect ≠ .sqlServer := Database.probe?_eq_none_iff.1 noProbe
    exact ⟨follows_of_silent h hother hnothing (hgives rfl rfl) hkept,
      knows_of_quiet h hnothing hkept⟩
  | known known =>
    obtain ⟨hnothing, hkept, hgives⟩ := of_run hrun
    rw [hquiet] at hnothing
    obtain ⟨version, hversion, rfl⟩ := Option.map_eq_some_iff.1 (h.known.symm.trans known)
    exact ⟨follows_of_told h hversion hnothing (hgives rfl rfl) hkept,
      knows_of_quiet h hnothing hkept⟩
  | asked probe unknown =>
    obtain ⟨hasked, hkept, hgives⟩ := of_run hrun
    replace hasked := hasked.trans (hnoted _)
    have hfirst : told? history = none := Option.map_eq_none_iff.1 (h.known.symm.trans unknown)
    exact ⟨follows_of_asked probe hfirst hasked (hgives rfl rfl) hkept,
      knows_of_asked (Database.dialect_of_probe? probe) hfirst unknown hasked hkept⟩

end Turn

/-! ## Databases of a session -/

/-- Of the databases a turn changes only what is known of its own, where it was told something. -/
theorem Turn.learned_next (db : Database) (t : Turn) (s : Session) :
    (t.next db s).databases = s.databases ∧ ∃ told : Option Bool,
      (t.next db s).capabilities = (told.map (db.capabilityKey, ·)).toList ++ s.capabilities := by
  obtain ⟨timesRead, compiled, hnext⟩ := t.call.after_run db (s.script t.replies)
  have hkept : t.next db s = { (db.isLegacy.run (s.script t.replies)).2 with
      timesRead := timesRead, compiled := compiled } := hnext
  rw [hkept]
  have hcases := db.probing_isLegacy (s.script t.replies)
  generalize db.isLegacy.run (s.script t.replies) = r at hcases
  cases hcases with
  | silent _ | known _ => exact ⟨rfl, none, rfl⟩
  | asked _ _ =>
    refine ⟨rfl, (attempt t.replies).map db.dialect.isLegacyVersion, ?_⟩
    rw [Option.map_map]
    rfl

/-- A turn of a database with another handle leaves what is known. -/
theorem Knows.other {other : Database} (h : Knows db history s)
    (hother : other.handle ≠ db.handle) (t : Turn) : Knows db history (t.next other s) := by
  obtain ⟨-, told, hlearned⟩ := t.learned_next other s
  refine h.congr ?_
  rw [hlearned]
  cases told with
  | none => rfl
  | some isLegacy =>
    have hkey : (db.capabilityKey == other.capabilityKey) = false :=
      beq_false_of_ne fun hkey => hother (congrArg Prod.fst hkey).symm
    simp [List.lookup_cons, hkey]

/-- What was learned belongs to databases of the session. -/
def Allotted (s : Session) : Prop := ∀ p ∈ s.capabilities, p.1.1 < s.databases

/-- A database that is made takes a handle that nothing was learned for. -/
theorem Knows.make (h : Allotted s) (dialect : Dialect) (connection : String) :
    Knows ((Database.make dialect connection).result s) []
        ((Database.make dialect connection).after s) ∧
      Allotted ((Database.make dialect connection).after s) := by
  refine ⟨⟨List.lookup_eq_none_iff.2 fun p hp => ?_, fun _ => rfl, fun _ ha => ?_⟩,
    fun p hp => (h p hp).trans (Nat.lt_succ_self _)⟩
  · -- its handle lies above all that are in use
    refine bne_iff_ne.2 fun hkey => ?_
    have hlt : p.1.1 < s.databases := h p hp
    rw [← hkey] at hlt
    exact Nat.lt_irrefl _ hlt
  · exact absurd ha List.not_mem_nil

/-- A turn of a database of the session leaves it so. -/
theorem Turn.allotted_next (h : Allotted s) (hdb : db.handle < s.databases) (t : Turn) :
    Allotted (t.next db s) := by
  obtain ⟨hdatabases, told, hlearned⟩ := t.learned_next db s
  intro p hp
  rw [hdatabases]
  rw [hlearned] at hp
  rcases List.mem_append.1 hp with hp | hp
  · obtain ⟨isLegacy, -, rfl⟩ := Option.map_eq_some_iff.1 (Option.mem_toList.1 hp)
    exact hdb
  · exact h p hp

/-! ## Runs -/

/-- The session after some turns. -/
def afterAll (db : Database) (s : Session) (turns : List Turn) : Session :=
  turns.foldl (Turn.next db) s

/-- The attempts of some turns, in order. -/
def allAttempts (db : Database) (s : Session) : List Turn → List Attempt
  | [] => []
  | t :: turns => t.attempts db s ++ allAttempts db (t.next db s) turns

/-- So do any turns of it, and a database that is made after them knows nothing (`Knows.make`). -/
theorem allotted_afterAll (h : Allotted s) (hdb : db.handle < s.databases) (turns : List Turn) :
    Allotted (afterAll db s turns) := by
  induction turns generalizing s with
  | nil => exact h
  | cons t turns ih =>
    obtain ⟨hdatabases, -⟩ := t.learned_next db s
    exact ih (t.allotted_next h hdb) (by rwa [hdatabases])

theorem knows_after {before : List Attempt} (h : Knows db before s) (turns : List Turn) :
    Knows db (before ++ allAttempts db s turns) (afterAll db s turns) := by
  induction turns generalizing before s with
  | nil =>
    rw [allAttempts, List.append_nil]
    exact h
  | cons t turns ih =>
    rw [allAttempts, ← List.append_assoc]
    exact ih (t.step h).2

end Probing

/-- **What a server can do is decided once.** Calls of a database and its copies, one after the
other, ask SQL Server alone. At most one attempt to ask does not fail, and that is the last. A call
before it asks, and a failure counts as a recent version and is not kept; after it nobody asks, and
all calls give what they give for the version that was told. -/
theorem Database.capability_decided_once (db : Database) (sources : Sources)
    (cache : Option Cache.Memory) (turns : List Probing.Turn) :
    (Probing.allAttempts db (.start sources cache) turns ≠ [] → db.dialect = .sqlServer) ∧
    (Probing.allAttempts db (.start sources cache) turns).length ≤
      (Probing.allAttempts db (.start sources cache) turns).countP (·.isNone) + 1 ∧
    ∀ t : Probing.Turn, t.Follows db (Probing.allAttempts db (.start sources cache) turns)
      (Probing.afterAll db (.start sources cache) turns) := by
  have hknows := Probing.knows_after (Probing.Knows.start db sources cache) turns
  refine ⟨fun hasked => ?_, hknows.length_le, fun t => (t.step hknows).1⟩
  by_contra hd
  exact hasked (hknows.silent hd)

/-- A refused connection, a failed query, an old version, and a recent one that nobody asks for. -/
example (sources : Sources) :
    Probing.allAttempts ⟨.sqlServer, "server=old", 0⟩ (.start sources none)
      [⟨[.refusal "down"], .isLegacy⟩, ⟨[.failure "busy"], .compiler⟩,
        ⟨[.answer 0 [⟨["v"], [.text "10.5"]⟩]], .isLegacy⟩,
        ⟨[.answer 0 [⟨["v"], [.text "15.0"]⟩]], .compiler⟩] = [none, none, some "10.5"] := by
  rfl

end Polydialect
