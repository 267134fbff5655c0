import Polydialect.Repository.Read

/-!
# Running operations

An operation gives a result (`Step.result`) and a session (`Step.after`). Two things are said of
operations as a whole and put together from their steps: which part of a session they leave as it is
(`Step.Keeps`) and which part decides about their result (`Step.DependsOn`). An operation that talks
to the engine alone (`Step.Talks`) goes as it would without a cache. A read (`Step.IsRead`) sends no
command and has a result on which the cache has no influence.

* `Database.talks_query`, `talks_compile`: queries talk to the engine alone, and so does compiling,
  with everything that it asks a server about itself; `Step.Talks.isRead`: both are reads;
* `Engine.commands_execute`: executing a statement sends it as a command, whatever is replied;
* `Caching.loads_cached`: a cached read either runs its loader in a session that differs in cache
  and journal only, and gives what the loader gives, or it runs no loader.
-/

namespace Polydialect

variable {α β γ : Type}

namespace Step

/-- The result of an operation. -/
def result (x : Step α) (s : Session) : α := (x.run s).1

/-- The session after an operation. -/
def after (x : Step α) (s : Session) : Session := (x.run s).2

/-- The operation leaves a part of the session as it is. -/
def Keeps (p : Session → γ) (x : Step α) : Prop := ∀ s, p (x.after s) = p s

/-- A part of the session decides about the result and about that part of the session afterwards. -/
def DependsOn (p : Session → γ) (x : Step α) : Prop :=
  ∀ s t, p s = p t → x.result s = x.result t ∧ p (x.after s) = p (x.after t)

theorem result_bind (x : Step α) (f : α → Step β) (s : Session) :
    result (x >>= f) s = (f (x.result s)).result (x.after s) := rfl

theorem after_bind (x : Step α) (f : α → Step β) (s : Session) :
    after (x >>= f) s = (f (x.result s)).after (x.after s) := rfl

variable {p : Session → γ}

theorem Keeps.pure (a : α) : Keeps p (Pure.pure a) := fun _ => rfl

theorem Keeps.get : Keeps p (MonadState.get : Step Session) := fun _ => rfl

theorem Keeps.modify {f : Session → Session} (h : ∀ s, p (f s) = p s) :
    Keeps p (modify f : Step Unit) := h

theorem Keeps.bind {x : Step α} {f : α → Step β} (hx : x.Keeps p) (hf : ∀ a, (f a).Keeps p) :
    Keeps p (x >>= f) := fun s => (hf _ _).trans (hx s)

end Step

namespace Run

open Step

variable {p : Session → γ}

theorem keeps_bind {x : Run α} {f : α → Run β} (hx : Keeps p x) (hf : ∀ a, Keeps p (f a)) :
    Keeps p (x >>= f : Run β) := by
  refine Keeps.bind (f := ExceptT.bindCont f) hx fun a => ?_
  cases a with
  | error e => exact Keeps.pure (Except.error e)
  | ok a => exact hf a

theorem keeps_lift {x : Step α} (hx : x.Keeps p) : Keeps p (liftM x : Run α) := hx

theorem result_bind (x : Run α) (f : α → Run β) (s : Session) :
    Step.result (x >>= f : Run β) s = match Step.result x s with
      | .ok a => Step.result (f a) (Step.after x s)
      | .error e => .error e := by
  show Step.result (ExceptT.bindCont f (Step.result x s)) (Step.after x s) = _
  cases Step.result x s <;> rfl

theorem result_lift_bind (x : Step α) (f : α → Run β) (s : Session) :
    Step.result (liftM x >>= f : Run β) s = Step.result (f (x.result s)) (x.after s) := rfl

theorem after_bind (x : Run α) (f : α → Run β) (s : Session) :
    Step.after (x >>= f : Run β) s = match Step.result x s with
      | .ok a => Step.after (f a) (Step.after x s)
      | .error _ => Step.after x s := by
  show Step.after (ExceptT.bindCont f (Step.result x s)) (Step.after x s) = _
  cases Step.result x s <;> rfl

theorem run_bind_of_ok {x : Run α} {s t : Session} {a : α} (h : x.run.run s = (.ok a, t))
    (f : α → Run β) : (x >>= f : Run β).run.run s = (f a).run.run t := by
  show (ExceptT.bindCont f (x.run.run s).1).run (x.run.run s).2 = _
  rw [h]
  rfl

theorem run_bind_of_error {x : Run α} {s t : Session} {e : Error} (h : x.run.run s = (.error e, t))
    (f : α → Run β) : (x >>= f : Run β).run.run s = (.error e, t) := by
  show (ExceptT.bindCont f (x.run.run s).1).run (x.run.run s).2 = _
  rw [h]
  rfl

/-- An operation that succeeds after another one. -/
theorem bind_eq_ok {x : Run α} {f : α → Run β} {s : Session} {b : β}
    (h : Step.result (x >>= f : Run β) s = .ok b) :
    ∃ a, Step.result x s = .ok a ∧ Step.result (f a) (Step.after x s) = .ok b ∧
      Step.after (x >>= f : Run β) s = Step.after (f a) (Step.after x s) := by
  rw [result_bind] at h
  rw [after_bind]
  cases hx : Step.result x s with
  | error e =>
    rw [hx] at h
    cases h
  | ok a =>
    rw [hx] at h
    exact ⟨a, rfl, h, rfl⟩

end Run

/-! ## Operations apart from the cache -/

/-- The command that was sent. -/
def Event.command? : Event → Option Statement
  | .executed st => some st
  | _ => none

/-- The event is a call of the cache. -/
def Event.isCache : Event → Bool
  | .cacheGet .. | .cacheSet .. | .cacheRemove _ | .cacheFailed _ => true
  | .connected | .refused | .executed _ | .queried _ => false

/-- The event only asks the engine for something. -/
def Event.Asks (e : Event) : Prop := e.command? = none ∧ e.isCache = false

namespace Session

/-- The commands that were sent, in order. -/
def commands (s : Session) : List Statement := s.journal.filterMap Event.command?

/-- The session without its cache and without what was noted. -/
def apart (s : Session) : Session := { s with cache := none, uptimesRead := 0, journal := [] }

/-- The session with its own cache after what happened in `t`. -/
def resume (s t : Session) : Session :=
  { t with cache := s.cache, uptimesRead := s.uptimesRead, journal := s.journal ++ t.journal }

theorem apart_resume (s t : Session) : (s.resume t).apart = t.apart := rfl

theorem resume_apart (s : Session) : s.resume s.apart = s := by
  show ({ s with journal := s.journal ++ [] } : Session) = s
  rw [List.append_nil]

theorem resume_resume (s t u : Session) : (s.resume t).resume u = s.resume (t.resume u) := by
  simp only [resume, List.append_assoc]

end Session

namespace Step

/-- The operation neither reads nor changes the cache, and what it notes is of a kind. -/
structure Talks (E : Event → Prop) (x : Step α) : Prop where
  result_apart : ∀ s : Session, x.result s.apart = x.result s
  after_apart : ∀ s : Session, s.resume (x.after s.apart) = x.after s
  noted : ∀ s : Session, ∀ e ∈ (x.after s.apart).journal, E e
  keeps : x.Keeps Session.cacheRefuses

variable {E E' : Event → Prop}

theorem Talks.mono {x : Step α} (hx : x.Talks E) (h : ∀ e, E e → E' e) : x.Talks E' :=
  ⟨hx.result_apart, hx.after_apart, fun s e he => h e (hx.noted s e he), hx.keeps⟩

theorem Talks.of_asks {x : Step α} (hx : x.Talks Event.Asks) : x.Talks (·.isCache = false) :=
  hx.mono fun _ he => he.2

theorem Talks.apart_after {x : Step α} (hx : x.Talks E) (s : Session) :
    (x.after s.apart).apart = (x.after s).apart := by
  rw [← hx.after_apart s, Session.apart_resume]

theorem Talks.pure (a : α) : Talks E (Pure.pure a) :=
  ⟨fun _ => rfl, Session.resume_apart, fun _ _ he => (List.not_mem_nil he).elim, .pure a⟩

theorem Talks.bind {x : Step α} {f : α → Step β} (hx : x.Talks E) (hf : ∀ a, (f a).Talks E) :
    Talks E (x >>= f) := by
  refine ⟨fun s => ?_, fun s => ?_, fun s e he => ?_, hx.keeps.bind fun a => (hf a).keeps⟩
  -- the second operation cannot tell whether the first one had a cache beside it
  · rw [result_bind, result_bind, hx.result_apart, ← (hf _).result_apart, hx.apart_after,
      (hf _).result_apart]
  · rw [after_bind, after_bind, hx.result_apart, ← (hf _).after_apart (x.after s.apart),
      ← Session.resume_resume, hx.after_apart, hx.apart_after, (hf _).after_apart]
  · rw [after_bind, ← (hf _).after_apart (x.after s.apart)] at he
    rcases List.mem_append.1 he with he | he
    · exact hx.noted s e he
    · exact (hf _).noted _ e he

/-- Reading a part of the session that is not the cache. -/
theorem Talks.bind_get {f : Session → Step β} (hf : ∀ s, (f s).Talks E)
    (h : ∀ s : Session, f s.apart = f s) : Talks E (MonadState.get >>= f) := by
  refine ⟨fun s => ?_, fun s => ?_, fun s => (hf s.apart).noted s, fun s => (hf s).keeps s⟩
  · show (f s.apart).result s.apart = (f s).result s
    rw [h, (hf s).result_apart]
  · show s.resume ((f s.apart).after s.apart) = (f s).after s
    rw [h, (hf s).after_apart]

/-- A change of the session that concerns neither the cache nor the journal. -/
theorem Talks.modify {f : Session → Session} (h : ∀ s : Session, s.resume (f s.apart) = f s)
    (hj : ∀ s : Session, (f s.apart).journal = []) (hr : ∀ s, (f s).cacheRefuses = s.cacheRefuses) :
    Talks E (modify f : Step Unit) := by
  refine ⟨fun _ => rfl, h, fun s e he => ?_, hr⟩
  change e ∈ (f s.apart).journal at he
  rw [hj] at he
  exact (List.not_mem_nil he).elim

/-- A read sends no command, and neither the cache nor what was noted has a say in it. -/
structure IsRead (x : Step α) : Prop where
  keeps : x.Keeps Session.commands
  depends : x.DependsOn Session.apart

/-- Asking the engine is reading. -/
theorem Talks.isRead {x : Step α} (hx : x.Talks Event.Asks) : IsRead x := by
  refine ⟨fun s => ?_, fun s t h => ⟨?_, ?_⟩⟩
  · have hnone : (x.after s.apart).journal.filterMap Event.command? = [] :=
      List.filterMap_eq_nil_iff.2 fun e he => (hx.noted s e he).1
    rw [← hx.after_apart s]
    show (s.journal ++ (x.after s.apart).journal).filterMap Event.command? = _
    rw [List.filterMap_append, hnone, List.append_nil]
    rfl
  · rw [← hx.result_apart s, h, hx.result_apart]
  · rw [← hx.apart_after s, h, hx.apart_after]

end Step

open Step

variable {E : Event → Prop}

theorem Run.talks_bind {x : Run α} {f : α → Run β} (hx : Talks E x) (hf : ∀ a, Talks E (f a)) :
    Talks E (x >>= f : Run β) := by
  refine Talks.bind (f := ExceptT.bindCont f) hx fun a => ?_
  cases a with
  | error e => exact .pure (Except.error e)
  | ok a => exact hf a

theorem Run.talks_lift {x : Step α} (hx : x.Talks E) : Talks E (liftM x : Run α) :=
  ⟨fun s => congrArg Except.ok (hx.result_apart s), hx.after_apart, hx.noted, hx.keeps⟩

theorem Run.talks_ofExcept (r : Except Error α) : Talks E (Run.ofExcept r) := .pure r

theorem Run.talks_now : Talks E Run.now :=
  ⟨fun _ => rfl, fun s => congrArg (fun t => { t with timesRead := s.timesRead + 1 })
    s.resume_apart, fun _ _ he => (List.not_mem_nil he).elim, fun _ => rfl⟩

theorem Run.talks_freshGuid : Talks E Run.freshGuid :=
  ⟨fun _ => rfl, fun s => congrArg (fun t => { t with guidsTaken := s.guidsTaken + 1 })
    s.resume_apart, fun _ _ he => (List.not_mem_nil he).elim, fun _ => rfl⟩

namespace Engine

theorem talks_connect (context : String) : Talks Event.Asks (connect context) := by
  have hrefused : Event.Asks .refused := ⟨rfl, rfl⟩
  have hconnected : Event.Asks .connected := ⟨rfl, rfl⟩
  refine ⟨fun s => ?_, fun s => ?_, fun s e he => ?_, fun s => ?_⟩
  · show (connect context s.apart).1 = (connect context s).1
    simp only [connect, show s.apart.replies = s.replies from rfl]
    split <;> rfl
  · show s.resume (connect context s.apart).2 = (connect context s).2
    simp only [connect, show s.apart.replies = s.replies from rfl]
    split <;> rfl
  · change e ∈ (connect context s.apart).2.journal at he
    simp only [connect] at he
    split at he
    · rwa [List.mem_singleton.1 he]
    · rwa [List.mem_singleton.1 he]
  · show (connect context s).2.cacheRefuses = s.cacheRefuses
    simp only [connect]
    split <;> rfl

theorem talks_ask {e : Event} (he : E e) : Talks E (ask e) :=
  ⟨fun _ => rfl, fun _ => rfl, fun _ _ hm => List.mem_singleton.1 hm ▸ he, fun _ => rfl⟩

theorem talks_query (st : Statement) : Talks Event.Asks (query st) := by
  refine Run.talks_bind (Run.talks_lift (talks_ask ⟨rfl, rfl⟩)) fun reply => ?_
  cases reply <;> exact .pure _

theorem talks_queryScalar (st : Statement) : Talks Event.Asks (queryScalar st) :=
  Run.talks_bind (talks_query st) fun _ => .pure _

theorem talks_execute (st : Statement) : Talks (·.isCache = false) (execute st) := by
  refine Run.talks_bind (Run.talks_lift (talks_ask rfl)) fun reply => ?_
  cases reply <;> exact .pure _

/-- A command is sent, whatever the engine replies. -/
theorem commands_execute (st : Statement) (s : Session) :
    (Step.after (execute st) s).commands = s.commands ++ [st] := by
  have ha : (Step.after (ask (.executed st)) s).commands = s.commands ++ [st] := by
    show Session.commands (Session.note _ _) = _
    simp [Session.commands, Session.note, Event.command?]
  rw [execute, Run.after_bind]
  show (Step.after _ (Step.after (ask (.executed st)) s)).commands = _
  rw [← ha]
  split <;> rfl

end Engine

namespace Database

theorem talks_query (db : Database) (st : Statement) : Talks Event.Asks (db.query st) :=
  Run.talks_bind (Engine.talks_connect _) fun _ => Engine.talks_query st

theorem talks_queryScalar (db : Database) (st : Statement) : Talks Event.Asks (db.queryScalar st) :=
  Run.talks_bind (Engine.talks_connect _) fun _ => Engine.talks_queryScalar st

theorem talks_execute (db : Database) (st : Statement) :
    Talks (·.isCache = false) (db.execute st) :=
  Run.talks_bind (Engine.talks_connect _).of_asks fun _ => Engine.talks_execute st

theorem talks_isLegacy (db : Database) : Talks Event.Asks db.isLegacy := by
  have hlearn (isLegacy : Bool) : Talks Event.Asks (db.learn isLegacy) :=
    .modify (fun s => congrArg
      (fun t => { t with capabilities := (db.capabilityKey, isLegacy) :: s.capabilities })
      s.resume_apart) (fun _ => rfl) fun _ => rfl
  have hask (probe : String) : Talks Event.Asks (db.askVersion probe) := by
    refine (db.talks_queryScalar (db.statementOfText probe)).bind fun r => ?_
    cases r with
    | error e => exact .pure false
    | ok version => exact (hlearn _).bind fun _ => .pure _
  rw [isLegacy]
  cases db.dialect.versionProbe? with
  | none => exact .pure false
  | some probe =>
    refine .bind_get (fun s => ?_) fun s => rfl
    cases s.capabilities.lookup db.capabilityKey with
    | none => exact hask probe
    | some known => exact .pure known

theorem talks_compile (db : Database) (p : Purpose) (q : Query) :
    Talks Event.Asks (db.compile p q) := by
  have hcount : Talks Event.Asks (modify (Session.countCompiled db.handle)) :=
    .modify (fun s => congrArg (Session.countCompiled db.handle) s.resume_apart)
      (fun _ => rfl) fun _ => rfl
  have hcompiler : Talks Event.Asks db.compiler := db.talks_isLegacy.bind fun _ => .pure _
  refine Run.talks_bind (Run.talks_lift hcompiler) fun c => ?_
  refine Run.talks_bind (Run.talks_lift Run.talks_now) fun now => ?_
  refine Run.talks_bind (Run.talks_ofExcept _) fun r => ?_
  exact Run.talks_bind (Run.talks_lift hcount) fun _ => .pure _

/-- What is compiled in a session is compiled for the dialect of the database. -/
theorem compile_eq_ok {db : Database} {p : Purpose} {q : Query} {s : Session} {r : Compiled}
    (h : Step.result (db.compile p q) s = .ok r) :
    ∃ isLegacy now, q.compile ⟨db.dialect, isLegacy⟩ now p = .ok r := by
  rw [compile, Run.result_lift_bind, Run.result_lift_bind, Run.result_bind] at h
  obtain ⟨c, hc, h⟩ : ∃ c,
      q.compile (db.compiler.result s) (Run.now.result (db.compiler.after s)) p = .ok c ∧
        Except.ok c = Except.ok r := by
    split at h
    · exact ⟨_, ‹_›, h⟩
    · cases h
  cases h
  exact ⟨_, _, hc⟩

/-- What compiles on every server compiles in a session. -/
theorem exists_result_compile {db : Database} {p : Purpose} {q : Query}
    (h : ∀ isLegacy now, ∃ c, q.compile ⟨db.dialect, isLegacy⟩ now p = .ok c) (s : Session) :
    ∃ c, Step.result (db.compile p q) s = .ok c := by
  rw [compile, Run.result_lift_bind, Run.result_lift_bind, Run.result_bind]
  obtain ⟨c, hc⟩ := h (db.isLegacy.result s) (Run.now.result (db.compiler.after s))
  have hof : Step.result (Run.ofExcept (q.compile (db.compiler.result s)
      (Run.now.result (db.compiler.after s)) p)) (Run.now.after (db.compiler.after s)) = .ok c := hc
  rw [hof]
  exact ⟨c, rfl⟩

end Database

theorem Repository.talks_selectRows (r : Repository α) (q : Query) :
    Talks Event.Asks (r.selectRows q) :=
  Run.talks_bind (r.db.talks_compile .action q.asSelect) fun _ => r.db.talks_query _

/-! ## Cached reads -/

/-- A part of the session in which neither the cache nor its calls show. -/
structure Session.HidesCache (p : Session → γ) : Prop where
  note : ∀ {e : Event}, e.isCache = true → ∀ s : Session, p (s.note e) = p s
  cache : ∀ (s : Session) (m : Option Cache.Memory), p { s with cache := m } = p s
  uptime : ∀ (s : Session) (n : Nat), p { s with uptimesRead := n } = p s

theorem Session.hidesCache_apart : HidesCache Session.apart :=
  ⟨fun _ _ => rfl, fun _ _ => rfl, fun _ _ => rfl⟩

/-- What is read off the events that are no calls of the cache. -/
theorem Session.hidesCache_journal {f : Event → Option β} (h : ∀ e, e.isCache = true → f e = none) :
    HidesCache fun s => s.journal.filterMap f where
  note he s := by simp [Session.note, h _ he]
  cache _ _ := rfl
  uptime _ _ := rfl

theorem Session.hidesCache_commands : HidesCache Session.commands :=
  hidesCache_journal fun e he => by cases e <;> first | rfl | cases he

/-- The query takes its result from the cache if it is there. -/
def Query.ReadsThrough (q : Query) : Prop :=
  ∃ key policy, q.caching = some (.readThrough key policy)

namespace Caching

variable {p : Session → γ} (hp : Session.HidesCache p)
include hp

theorem keeps_call {c : CacheCall} {work : Nat → Cache.Memory → α × Cache.Memory}
    {event : α → Event} (he : ∀ a, (event a).isCache = true) (m : Cache.Memory) :
    Keeps p (call c work event m) := by
  refine Run.keeps_bind (Run.keeps_lift Keeps.get) fun s => ?_
  split
  · exact Run.keeps_bind (Run.keeps_lift (.modify (hp.note rfl))) fun _ => .pure _
  · refine Run.keeps_bind (Run.keeps_lift (x := Run.uptime) fun s => hp.uptime s _) fun now => ?_
    refine Run.keeps_bind (Run.keeps_lift (.modify fun s => ?_)) fun _ => .pure _
    rw [hp.note (he _), hp.cache]

/-- Without a cache nothing is called. -/
theorem keeps_calling {a : α} {c : CacheCall} {work : Nat → Cache.Memory → α × Cache.Memory}
    {event : α → Event} (he : ∀ a, (event a).isCache = true) :
    Keeps p (do
      match (← MonadState.get).cache with
      | none => return a
      | some m => call c work event m : Run α) := by
  refine Run.keeps_bind (Run.keeps_lift Keeps.get) fun s => ?_
  cases s.cache with
  | none => exact .pure _
  | some m => exact keeps_call hp he m

theorem keeps_get (key : String) : Keeps p (get key) := keeps_calling hp fun _ => rfl

theorem keeps_set (key text : String) (policy : Cache.Policy) : Keeps p (set key text policy) :=
  keeps_calling hp fun _ => rfl

theorem keeps_remove (key : String) : Keeps p (remove key) := keeps_calling hp fun _ => rfl

theorem keeps_find (codec : Cache.Codec α) (key : String) : Keeps p (find codec key) :=
  Run.keeps_bind (keeps_get hp key) fun _ => .pure _

theorem keeps_keep (codec : Cache.Codec α) (key : String) (policy : Cache.Policy) (a : α) :
    Keeps p (keep codec key policy a) := by
  rw [keep]
  cases codec.encode a with
  | none => exact .pure _
  | some text => exact keeps_set hp key text policy

/-- Loading does what the loader does, and what it gives is what the loader gives. -/
theorem after_load (codec : Cache.Codec α) (key : String) (policy : Cache.Policy)
    (loader : Run α) (s : Session) :
    p (Step.after (load codec key policy loader) s) = p (Step.after loader s) ∧
      ∀ a, Step.result (load codec key policy loader) s = .ok a →
        Step.result loader s = .ok a := by
  rw [load, Run.after_bind, Run.result_bind]
  cases hr : Step.result loader s with
  | error e => exact ⟨rfl, fun a h => by cases h⟩
  | ok b =>
    have hk := keeps_keep hp codec key policy b (Step.after loader s)
    simp only [Run.after_bind, Run.result_bind]
    cases Step.result (keep codec key policy b) (Step.after loader s) with
    | error e => exact ⟨hk, fun a h => by cases h⟩
    | ok u => exact ⟨hk, fun a h => h⟩

omit hp

/-- A read through the cache is answered by the entry that is found, or it loads. -/
theorem readThrough_eq (codec : Cache.Codec α) (key : String) (policy : Cache.Policy)
    (loader : Run α) (s : Session) :
    (readThrough codec (some ⟨.readThrough, key, policy⟩) loader).run.run s =
      match Step.result (find codec key) s with
      | .error e => (.error e, Step.after (find codec key) s)
      | .ok (some a) => (.ok a, Step.after (find codec key) s)
      | .ok none => (load codec key policy loader).run.run (Step.after (find codec key) s) := by
  show (fun p : (Except Error α × Bool) × Session => (p.1.1, p.2))
    ((match Step.result (find codec key) s with
      | .error e => pure (.error e, false)
      | .ok (some a) => pure (.ok a, false)
      | .ok none => do return (← (load codec key policy loader).attempt, true)
        : Step (Except Error α × Bool)) (Step.after (find codec key) s)) = _
  cases Step.result (find codec key) s with
  | error e => rfl
  | ok found => cases found <;> rfl

/-- The operation gives what a loader gives in a session that differs in its cache and journal only,
and in a part of the session does what the loader does. -/
def Loads (p : Session → γ) (x loader : Run α) (s : Session) : Prop :=
  ∃ t : Session, t.apart = s.apart ∧ p t = p s ∧
    p (Step.after x s) = p (Step.after loader t) ∧
    ∀ a, Step.result x s = .ok a → Step.result loader t = .ok a

/-- The cache holds a result that the query takes. -/
def Hits (codec : Cache.Codec α) (q : Query) (s : Session) (a : α) : Prop :=
  ∃ key policy, q.caching = some (.readThrough key policy) ∧
    Step.result (find codec key) s = .ok (some a)

theorem Hits.readsThrough {codec : Cache.Codec α} {q : Query} {s : Session} {a : α}
    (h : Hits codec q s a) : q.ReadsThrough := by
  obtain ⟨key, policy, h, -⟩ := h
  exact ⟨key, policy, h⟩

include hp

theorem loads_readThrough (codec : Cache.Codec α) (key : String) (policy : Cache.Policy)
    (loader : Run α) (s : Session) :
    Loads p (readThrough codec (some ⟨.readThrough, key, policy⟩) loader) loader s ∨
      p (Step.after (readThrough codec (some ⟨.readThrough, key, policy⟩) loader) s) = p s ∧
        ∀ a, Step.result (readThrough codec (some ⟨.readThrough, key, policy⟩) loader) s = .ok a →
          Step.result (find codec key) s = .ok (some a) := by
  have hk := keeps_find hp codec key s
  have ha := keeps_find Session.hidesCache_apart codec key s
  have he := readThrough_eq codec key policy loader s
  have hresult : Step.result (readThrough codec (some ⟨.readThrough, key, policy⟩) loader) s = _ :=
    congrArg Prod.fst he
  have hafter : Step.after (readThrough codec (some ⟨.readThrough, key, policy⟩) loader) s = _ :=
    congrArg Prod.snd he
  rw [Loads, hresult, hafter]
  cases Step.result (find codec key) s with
  | error e => exact .inr ⟨hk, fun a h => by cases h⟩
  | ok found =>
    cases found with
    | some a => exact .inr ⟨hk, fun b h => by cases h; rfl⟩
    | none =>
      exact .inl ⟨Step.after (find codec key) s, ha, hk, after_load hp codec key policy loader _⟩

/-- A cached read loads, or it gives a result only where the cache holds it. -/
theorem loads_cached (codec : Cache.Codec α) (q : Query) (loader : Query → Run α) (s : Session) :
    Loads p (cached codec q loader) (loader q.clearCaching) s ∨
      p (Step.after (cached codec q loader) s) = p s ∧
        ∀ a, Step.result (cached codec q loader) s = .ok a → Hits codec q s a := by
  cases hc : q.caching with
  | none =>
    have hp : prepare q = pure (q.clearCaching, none) := by rw [prepare, hc]
    rw [cached, hp]
    exact .inl ⟨s, rfl, rfl, rfl, fun a h => h⟩
  | some directive =>
    obtain ⟨action, key, policy⟩ := directive
    cases action with
    | invalidate =>
      have hq : prepare q = remove key >>= fun _ => pure (q.clearCaching, none) := by
        rw [prepare, hc]
      have hk := keeps_remove hp key s
      have ha := keeps_remove Session.hidesCache_apart key s
      rw [cached, hq, Loads]
      simp only [Run.after_bind, Run.result_bind]
      cases Step.result (remove key) s with
      | error e => exact .inr ⟨hk, fun a h => by cases h⟩
      | ok u => exact .inl ⟨Step.after (remove key) s, ha, hk, rfl, fun a h => h⟩
    | readThrough =>
      have hq : prepare q = pure (q.clearCaching, some ⟨.readThrough, key, policy⟩) := by
        rw [prepare, hc]
      rw [cached, hq]
      rcases loads_readThrough hp codec key policy (loader q.clearCaching) s with h | ⟨h, hr⟩
      · exact .inl h
      · exact .inr ⟨h, fun a ha => ⟨key, policy, hc, hr a ha⟩⟩

end Caching

end Polydialect
