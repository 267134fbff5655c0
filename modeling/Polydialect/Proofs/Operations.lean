import Polydialect.Proofs.Codec
import Polydialect.Proofs.Serving
import Polydialect.Repository.Read
import Polydialect.Repository.Write

/-!
# What operations do with the cache

Every operation with a query either reads through the cache what a loader gives
(`Repository.Caches`) or writes, and then it removes at most a key (`Write.passes`). Loaders and
statements talk to the engine alone.
-/

namespace Polydialect

open Step Session

namespace Repository

/-! ## Operations -/

/-- The operations that read a truth value or a number for the rows of a query. -/
inductive Aggregate where
  | exists?
  | count
  | sum
  | max
  deriving DecidableEq, Repr

/-- The operations that read the rows of a query. -/
inductive Read where
  | getBy
  | getAll
  | getValue
  | getValues
  | aggregate (a : Aggregate)
  deriving DecidableEq, Repr

/-- The operations that write to the rows of a query, with columns that may be named. -/
inductive Write where
  | updateAll
  | incrementAll (column : String) (n : Int64) (h : Identifier.Valid column)
  | decrementAll (column : String) (n : Int64) (h : Identifier.Valid column)
  | deleteAll

variable {α β : Type}

namespace Aggregate

/-- What such a read gives. -/
def Result : Aggregate → Type
  | exists? => Bool
  | count => UInt64
  | sum => Int64
  | max => Option Int64

/-- Reads a truth value or a number. -/
def run (a : Aggregate) (r : Repository α) (q : Query) : Run a.Result :=
  match a with
  | exists? => r.exists? q
  | count => r.count q
  | sum => r.sum q
  | max => r.max q

/-- The texts of what such a read gives. -/
def codec : (a : Aggregate) → Cache.Codec a.Result
  | exists? => .bool
  | count => .count
  | sum => .int
  | max => .optionalInt

theorem faithful_codec (a : Aggregate) : a.codec.Faithful := by
  cases a with
  | exists? => exact Cache.Codec.faithful_bool
  | count => exact Cache.Codec.faithful_count
  | sum => exact Cache.Codec.faithful_int
  | max => exact Cache.Codec.faithful_optionalInt

end Aggregate

namespace Read

variable (α) in
/-- What a read of entities of a type gives. -/
def Result : Read → Type
  | getBy => Option α
  | getAll => List α
  | getValue => Option Value
  | getValues => List Value
  | aggregate a => a.Result

variable [Entity α]

/-- Reads the rows of a query. -/
def run (x : Read) (r : Repository α) (q : Query) : Run (x.Result α) :=
  match x with
  | getBy => r.getBy q
  | getAll => r.getAll q
  | getValue => r.getValue q
  | getValues => r.getValues q
  | aggregate a => a.run r q

variable (α) in
/-- The texts of what a read gives. -/
def codec : (x : Read) → Cache.Codec (x.Result α)
  | getBy => entityCodec
  | getAll => entitiesCodec
  | getValue => .optionalValue
  | getValues => .values
  | aggregate a => a.codec

end Read

/-- Writes to the rows of a query. -/
def Write.run (w : Write) (r : Repository α) (q : Query) : Run UInt64 :=
  match w with
  | updateAll => r.updateAll q
  | incrementAll column n _ => r.incrementAll q column n
  | decrementAll column n _ => r.decrementAll q column n
  | deleteAll => r.deleteAll q

/-! ## Reads -/

section Entities

variable [Entity α]

theorem talks_materialize (r : Repository α) (row : Row) :
    Talks (·.isCache = false) (r.materialize row) := by
  refine Run.talks_bind (.pure (Entity.ofRow row)) fun own => ?_
  rw [ensureGuid]
  split
  · exact .pure _
  · refine Run.talks_bind (Run.talks_lift Run.talks_freshGuid) fun guid => ?_
    refine Run.talks_bind (Run.talks_lift Run.talks_now) fun now => ?_
    refine Run.talks_bind (r.db.talks_compile _ _).of_asks fun c => ?_
    exact Run.talks_bind (Run.talks_bind (r.db.talks_execute _) fun _ => .pure _) fun _ => .pure _

theorem talks_materializeAll (r : Repository α) (rows : List Row) :
    Talks (·.isCache = false) (r.materializeAll rows) := by
  induction rows with
  | nil => exact .pure _
  | cons row rows ih =>
    exact Run.talks_bind (r.talks_materialize row) fun e => Run.talks_bind ih fun es => .pure _

end Entities

theorem talks_aggregate (r : Repository α) (p : Purpose) (q : Query) :
    Talks (·.isCache = false) (r.aggregate p q) := by
  refine Run.talks_bind (r.db.talks_compile _ _).of_asks fun _ => ?_
  exact Run.talks_bind (r.db.talks_queryScalar _).of_asks fun _ => .pure _

/-- The operation takes through the cache what a loader gives for its query, which asks of the cache
what it is given. -/
def Caches (codec : Cache.Codec β) (x : Query → Run β) : Prop :=
  ∃ (scope : Query → Query) (load : Query → Run β),
    (∀ q, x q = Caching.cached codec (scope q) load) ∧
    (∀ q, (scope q).caching = q.caching ∧ scope q.clearCaching = (scope q).clearCaching) ∧
    ∀ q, Talks (·.isCache = false) (load q)

theorem caches_first (r : Repository α) (codec : Cache.Codec β) {load : Query → Run β}
    (h : ∀ q, Talks (·.isCache = false) (load q)) :
    Caches codec fun q => Caching.cached codec ((r.onTable q).take 1) load :=
  ⟨fun q => (r.onTable q).take 1, load, fun _ => rfl, fun _ => ⟨rfl, rfl⟩, h⟩

theorem caches_all (r : Repository α) (codec : Cache.Codec β) {load : Query → Run β}
    (h : ∀ q, Talks (·.isCache = false) (load q)) :
    Caches codec fun q => Caching.cached codec (r.onTable q) load :=
  ⟨r.onTable, load, fun _ => rfl, fun _ => ⟨rfl, rfl⟩, h⟩

theorem caches_getBy [Entity α] (r : Repository α) : Caches entityCodec r.getBy := by
  refine r.caches_first entityCodec fun q => ?_
  refine Run.talks_bind (r.talks_selectRows q).of_asks fun rows => ?_
  cases rows with
  | nil => exact .pure _
  | cons row rows => exact Run.talks_bind (r.talks_materialize row) fun _ => .pure _

theorem caches_getAll [Entity α] (r : Repository α) : Caches entitiesCodec r.getAll :=
  r.caches_all entitiesCodec fun q =>
    Run.talks_bind (r.talks_selectRows q).of_asks r.talks_materializeAll

theorem caches_getValue (r : Repository α) : Caches .optionalValue r.getValue :=
  r.caches_first _ fun q => Run.talks_bind (r.talks_selectRows q).of_asks fun _ => .pure _

theorem caches_getValues (r : Repository α) : Caches .values r.getValues :=
  r.caches_all _ fun q => Run.talks_bind (r.talks_selectRows q).of_asks fun _ => .pure _

theorem caches_exists? (r : Repository α) : Caches .bool r.exists? :=
  r.caches_all _ fun q => Run.talks_bind (r.talks_aggregate .existence q) fun _ => .pure _

theorem caches_count (r : Repository α) : Caches .count r.count :=
  r.caches_all _ fun q => Run.talks_bind (r.talks_aggregate .count q) fun _ => .pure _

theorem caches_sum (r : Repository α) : Caches .int r.sum :=
  r.caches_all _ fun q => Run.talks_bind (r.talks_aggregate .sum q) fun _ => .pure _

theorem caches_max (r : Repository α) : Caches .optionalInt r.max :=
  r.caches_all _ (r.talks_aggregate .max)

theorem Aggregate.caches (a : Aggregate) (r : Repository α) : Caches a.codec (a.run r) := by
  cases a with
  | exists? => exact r.caches_exists?
  | count => exact r.caches_count
  | sum => exact r.caches_sum
  | max => exact r.caches_max

/-- A read takes through the cache what the engine gives. -/
theorem Read.caches [Entity α] (x : Read) (r : Repository α) :
    Caches (x.codec α) (x.run r) := by
  cases x with
  | getBy => exact r.caches_getBy
  | getAll => exact r.caches_getAll
  | getValue => exact r.caches_getValue
  | getValues => exact r.caches_getValues
  | aggregate a => exact a.caches r

variable {s t : Session} {m m' : Cache.Memory} {key : String} {policy : Cache.Policy}
  {codec : Cache.Codec β} {x : Query → Run β} {q : Query}

theorem Caches.passes (h : Caches codec x) (hs : s.Serves m) (q : Query) :
    ∃ es m', s.Passes m es (Step.after (x q) s) m' ∧
      ∀ e ∈ es, ∀ k, e.stored? = some k →
        Caching.KeepsResult codec q m (Step.result (x q) s) m' k := by
  obtain ⟨scope, load, hx, hscope, hload⟩ := h
  obtain ⟨es, m', hpass, hes⟩ := Caching.passes_cached codec hs (hload (scope q).clearCaching)
  rw [hx]
  refine ⟨es, m', hpass, fun e he k hk => ?_⟩
  have hkeep := hes e he k hk
  rwa [Caching.KeepsResult, (hscope q).1] at hkeep

theorem Caches.passes_invalidate (h : Caches codec x) (hs : s.Serves m)
    (hc : q.caching = some ⟨.invalidate, key, policy⟩) :
    ∃ es, (∀ e ∈ es, e.stored? = none) ∧ s.Passes m es (Step.after (x q) s) (m.remove key) := by
  obtain ⟨scope, load, hx, hscope, hload⟩ := h
  rw [hx]
  exact Caching.passes_invalidate hs ((hscope q).1.trans hc)
    (f := fun p => Caching.readThrough codec p.2 (load p.1))
    (Caching.talks_readThrough_none codec (hload _))

/-- What is read through the cache goes in one of the ways, and what it loads is what it gives
without asking the cache. -/
theorem Caches.outcome (h : Caches codec x) (hs : s.Serves m)
    (hc : q.caching = some ⟨.readThrough, key, policy⟩) :
    Talks (·.isCache = false) (x q.clearCaching) ∧
      Caching.Outcome codec key policy (x q.clearCaching) s m (Step.result (x q) s)
        (Step.after (x q) s) := by
  obtain ⟨scope, load, hx, hscope, hload⟩ := h
  have hclear : x q.clearCaching = load (scope q).clearCaching := by
    rw [hx, Caching.cached_of_none codec (hscope _).1, (hscope q).2]
    rfl
  rw [hclear, hx]
  exact ⟨hload _, Caching.outcome_cached codec hs ((hscope q).1.trans hc) (hload _)⟩

/-! ## Writes -/

/-- A write runs the statement of a query that asks the same of the cache. -/
theorem Write.run_eq_runWrite (w : Write) (r : Repository α) (q : Query) :
    ∃ q', w.run r q = r.runWrite q' ∧ q'.caching = q.caching := by
  have hstep (column : String) (h : Identifier.Valid column) (change : String → String) :
      r.stepAll q column change = r.updateAll (stepQuery q column change) := by
    rw [stepAll, Identifier.check_eq_ok_iff.2 h]
    rfl
  cases w with
  | updateAll => exact ⟨_, rfl, rfl⟩
  | incrementAll column n h => exact ⟨_, hstep column h _, rfl⟩
  | decrementAll column n h => exact ⟨_, hstep column h _, rfl⟩
  | deleteAll => exact ⟨_, rfl, rfl⟩

/-- The statement of a write, whatever is asked of the cache. -/
theorem talks_write (r : Repository α) (q : Query) :
    Talks (·.isCache = false)
      (do let compiled ← r.db.compile .action q; r.db.execute compiled.statement : Run UInt64) :=
  Run.talks_bind (r.db.talks_compile _ _).of_asks fun _ => r.db.talks_execute _

theorem Write.passes_invalidate (w : Write) (r : Repository α) (hs : s.Serves m)
    (hc : q.caching = some ⟨.invalidate, key, policy⟩) :
    ∃ es, (∀ e ∈ es, e.stored? = none) ∧
      s.Passes m es (Step.after (w.run r q) s) (m.remove key) := by
  obtain ⟨q', hrun, hq⟩ := w.run_eq_runWrite r q
  rw [hrun]
  exact Caching.passes_invalidate (q := r.onTable q') hs (hq.trans hc) (r.talks_write _)

/-- A write stores nothing. -/
theorem Write.passes (w : Write) (r : Repository α) (q : Query) (hs : s.Serves m) :
    ∃ es m', (∀ e ∈ es, e.stored? = none) ∧ s.Passes m es (Step.after (w.run r q) s) m' := by
  by_cases hc : ∃ key policy, q.caching = some ⟨.invalidate, key, policy⟩
  · obtain ⟨key, policy, hc⟩ := hc
    obtain ⟨es, hes, hpass⟩ := w.passes_invalidate r hs hc
    exact ⟨es, _, hes, hpass⟩
  · obtain ⟨q', hrun, hq⟩ := w.run_eq_runWrite r q
    have hc' : ∀ key policy, (r.onTable q').caching ≠ some ⟨.invalidate, key, policy⟩ :=
      fun key policy h => hc ⟨key, policy, hq.symm.trans h⟩
    obtain ⟨es, hes, hpass⟩ := (r.talks_write (r.onTable q').clearCaching).passes hs
    rw [hrun, runWrite, Caching.prepare_of_not_invalidate hc']
    exact ⟨es, m, fun e he => Event.stored?_eq_none (hes e he), hpass⟩

end Repository

end Polydialect
