import Polydialect.Proofs.Entries

/-!
# Sessions that a cache serves

With a cache in memory that does not refuse, every call of the cache succeeds, and what an operation
does can be told from what the cache holds. `Caching.Outcome` lists the ways in which a read through
the cache can go, `Caching.outcome_cached` says that there are no others. What the engine and the
server see of a session is `Session.outside`.
-/

namespace Polydialect

open Step

variable {α β : Type} {s t u : Session} {m m' m'' : Cache.Memory} {E : Event → Prop}

namespace Session

/-- The cache is a memory that answers every call. -/
structure Serves (s : Session) (m : Cache.Memory) : Prop where
  cache : s.cache = some m
  accepts : s.cacheRefuses = false

/-- The time by the clock of the cache. -/
def clock (s : Session) : Nat := s.sources.uptime s.uptimesRead

/-- The session after a call of the cache. -/
def called (s : Session) (m : Cache.Memory) (e : Event) : Session :=
  { s with uptimesRead := s.uptimesRead + 1, cache := some m }.note e

/-- The session after a key was looked up. -/
def looked (s : Session) (m : Cache.Memory) (key : String) : Session :=
  s.called (m.touched s.clock key) (.cacheGet key (m.text? s.clock key))

/-- What was asked of the engine. -/
def requests (s : Session) : List Event := s.journal.filter (!·.isCache)

/-- The session as it is seen from outside the cache. -/
def outside (s : Session) : Session := { s.apart with journal := s.requests }

/-- What was noted since an earlier session. -/
def since (s t : Session) : List Event := t.journal.drop s.journal.length

theorem Serves.called (h : s.Serves m) (m' : Cache.Memory) (e : Event) :
    (s.called m' e).Serves m' := ⟨rfl, h.accepts⟩

theorem Serves.script (h : s.Serves m) (replies : List Reply) : (s.script replies).Serves m :=
  ⟨h.cache, h.accepts⟩

theorem outside_called {e : Event} (he : e.isCache = true) (s : Session) (m : Cache.Memory) :
    (s.called m e).outside = s.outside := by
  have hr : (s.called m e).requests = s.requests := by
    show (s.journal ++ [e]).filter (!·.isCache) = _
    rw [List.filter_append, List.filter_cons_of_neg (by simp [he]), List.filter_nil,
      List.append_nil]
    rfl
  rw [outside, hr]
  rfl

theorem outside_looked (s : Session) (m : Cache.Memory) (key : String) :
    (s.looked m key).outside = s.outside := outside_called rfl s _

/-! ## What passes between two sessions -/

/-- A session that a memory serves has become another one through events, and its memory went as the
events say. -/
structure Passes (s : Session) (m : Cache.Memory) (es : List Event) (t : Session)
    (m' : Cache.Memory) : Prop where
  serves : t.Serves m'
  journal : t.journal = s.journal ++ es
  follows : m.Follows es m'

variable {es es' : List Event}

theorem Passes.refl (h : s.Serves m) : s.Passes m [] s m :=
  ⟨h, (List.append_nil _).symm, .nil m⟩

theorem Passes.trans (h : s.Passes m es t m') (h' : t.Passes m' es' u m'') :
    s.Passes m (es ++ es') u m'' :=
  ⟨h'.serves, by rw [h'.journal, h.journal, List.append_assoc], h.follows.append h'.follows⟩

theorem Passes.of_script {replies : List Reply} (h : (s.script replies).Passes m es t m') :
    s.Passes m es t m' := ⟨h.serves, h.journal, h.follows⟩

theorem Passes.since_eq (h : s.Passes m es t m') : s.since t = es := by
  rw [since, h.journal, List.drop_left]

theorem Passes.called (h : s.Serves m) (e : Event) :
    s.Passes m [e] (s.called (e.applyTo m s.clock) e) (e.applyTo m s.clock) :=
  ⟨h.called _ e, rfl, .cons s.clock (.nil _)⟩

theorem Passes.looked (h : s.Serves m) (key : String) :
    s.Passes m [.cacheGet key (m.text? s.clock key)] (s.looked m key) (m.touched s.clock key) :=
  .called h (.cacheGet key (m.text? s.clock key))

end Session

open Session

/-- What talks to the engine alone leaves the memory as it is. -/
theorem Step.Talks.passes {x : Step α} (hx : x.Talks (·.isCache = false)) (hs : s.Serves m) :
    ∃ es, (∀ e ∈ es, e.isCache = false) ∧ s.Passes m es (x.after s) m := by
  have ha := hx.after_apart s
  refine ⟨_, hx.noted s, ⟨?_, (hx.keeps s).trans hs.accepts⟩, ?_, .of_not_isCache (hx.noted s) m⟩
  · rw [← ha]
    exact hs.cache
  · rw [← ha]
    rfl

theorem Session.seen_eq (h : s.outside = t.outside) :
    s.compiled = t.compiled ∧ s.requests = t.requests := by
  refine ⟨?_, ?_⟩
  · show s.outside.compiled = t.outside.compiled
    rw [h]
  · show s.outside.journal = t.outside.journal
    rw [h]

/-- What talks to the engine alone goes by what is seen from outside the cache. -/
theorem Step.Talks.outside {x : Step α} (hx : x.Talks E) : x.DependsOn Session.outside := by
  intro s t h
  have hapart : s.apart = t.apart := by
    show s.outside.apart = t.outside.apart
    rw [h]
  have hrequests : s.requests = t.requests := (seen_eq h).2
  refine ⟨by rw [← hx.result_apart s, hapart, hx.result_apart], ?_⟩
  have hresume (s : Session) : (s.resume (x.after s.apart)).outside =
      { (x.after s.apart).apart with journal := s.requests ++ (x.after s.apart).requests } := by
    show ({ (x.after s.apart).apart with
      journal := (s.journal ++ (x.after s.apart).journal).filter (!·.isCache) } : Session) = _
    rw [List.filter_append]
    rfl
  rw [← hx.after_apart s, ← hx.after_apart t, hresume, hresume, hapart, hrequests]

namespace Caching

variable {codec : Cache.Codec α} {key : String} {policy : Cache.Policy}

/-! ## Calls of the cache -/

theorem call_eq {c : CacheCall} {work : Nat → Cache.Memory → β × Cache.Memory} {event : β → Event}
    (hs : s.cacheRefuses = false) (m : Cache.Memory) :
    (call c work event m).run.run s =
      (.ok (work s.clock m).1, s.called (work s.clock m).2 (event (work s.clock m).1)) := by
  show ((if s.cacheRefuses then _ else _ : Run β)).run.run s = _
  rw [hs]
  rfl

theorem run_state (s : Session) : (MonadState.get : Run Session).run.run s = (.ok s, s) := rfl

theorem get_eq (hs : s.Serves m) (key : String) :
    (get key).run.run s = (.ok (m.text? s.clock key), s.looked m key) := by
  rw [get, Run.run_bind_of_ok (run_state s)]
  simp only [hs.cache]
  rw [call_eq hs.accepts, m.fst_lookup]
  rfl

theorem set_eq (hs : s.Serves m) (key text : String) (policy : Cache.Policy) :
    (set key text policy).run.run s =
      (.ok (), s.called (m.store s.clock key text policy) (.cacheSet key text policy)) := by
  rw [set, Run.run_bind_of_ok (run_state s)]
  simp only [hs.cache]
  exact call_eq hs.accepts m

theorem remove_eq (hs : s.Serves m) (key : String) :
    (remove key).run.run s = (.ok (), s.called (m.remove key) (.cacheRemove key)) := by
  rw [remove, Run.run_bind_of_ok (run_state s)]
  simp only [hs.cache]
  exact call_eq hs.accepts m

/-! ## Reads through the cache -/

/-- The ways in which a read through the cache goes: the text under its key answers it, or its
loader fails, or the loader gives a result that is not to be cached, or one that is stored. -/
inductive Outcome (codec : Cache.Codec α) (key : String) (policy : Cache.Policy) (loader : Run α)
    (s : Session) (m : Cache.Memory) : Except Error α → Session → Prop
  | hit {text : String} {a : α} (ht : m.text? s.clock key = some text)
      (hd : codec.decode text = .ok a) :
      Outcome codec key policy loader s m (.ok a) (s.looked m key)
  | fails {e : Error}
      (hm : ∀ text a, m.text? s.clock key = some text → codec.decode text ≠ .ok a)
      (hl : Step.result loader (s.looked m key) = .error e) :
      Outcome codec key policy loader s m (.error e) (Step.after loader (s.looked m key))
  | declines {a : α}
      (hm : ∀ text a, m.text? s.clock key = some text → codec.decode text ≠ .ok a)
      (hl : Step.result loader (s.looked m key) = .ok a) (he : codec.encode a = none) :
      Outcome codec key policy loader s m (.ok a) (Step.after loader (s.looked m key))
  | stores {a : α} {text : String}
      (hm : ∀ text a, m.text? s.clock key = some text → codec.decode text ≠ .ok a)
      (hl : Step.result loader (s.looked m key) = .ok a) (he : codec.encode a = some text) :
      Outcome codec key policy loader s m (.ok a)
        ((Step.after loader (s.looked m key)).called
          ((m.touched s.clock key).store (Step.after loader (s.looked m key)).clock key text policy)
          (.cacheSet key text policy))

variable {loader : Run α}

theorem find_eq (codec : Cache.Codec α) (hs : s.Serves m) (key : String) :
    (find codec key).run.run s =
      (.ok ((m.text? s.clock key).bind fun text => (codec.decode text).toOption),
        s.looked m key) :=
  Run.run_bind_of_ok (get_eq hs key) _

theorem keep_eq (codec : Cache.Codec α) (hs : s.Serves m) (key : String) (policy : Cache.Policy)
    (a : α) :
    (keep codec key policy a).run.run s = match codec.encode a with
      | some text =>
        (.ok (), s.called (m.store s.clock key text policy) (.cacheSet key text policy))
      | none => (.ok (), s) := by
  rw [keep]
  cases codec.encode a with
  | none => rfl
  | some text => exact set_eq hs key text policy

/-- What loads after a key was looked up in vain. -/
theorem outcome_load (codec : Cache.Codec α) (key : String) (policy : Cache.Policy)
    (hs : s.Serves m) (hl : Talks (·.isCache = false) loader)
    (hm : ∀ text a, m.text? s.clock key = some text → codec.decode text ≠ .ok a) :
    Outcome codec key policy loader s m
      (Step.result (load codec key policy loader) (s.looked m key))
      (Step.after (load codec key policy loader) (s.looked m key)) := by
  rw [load, Run.result_bind, Run.after_bind]
  cases hload : Step.result loader (s.looked m key) with
  | error e => exact .fails hm hload
  | ok a =>
    obtain ⟨es, -, hpass⟩ := hl.passes (Passes.looked hs key).serves
    have hkeep := keep_eq codec hpass.serves key policy a
    have hr : Step.result (keep codec key policy a) _ = _ := congrArg Prod.fst hkeep
    have ha : Step.after (keep codec key policy a) _ = _ := congrArg Prod.snd hkeep
    simp only [Run.result_bind, Run.after_bind, hr, ha]
    cases hencode : codec.encode a with
    | none => exact .declines hm hload hencode
    | some text => exact .stores hm hload hencode

/-- Reading through the cache goes in one of the ways. -/
theorem outcome_readThrough (codec : Cache.Codec α) (key : String) (policy : Cache.Policy)
    (hs : s.Serves m) (hl : Talks (·.isCache = false) loader) :
    Outcome codec key policy loader s m
      (Step.result (readThrough codec (some ⟨.readThrough, key, policy⟩) loader) s)
      (Step.after (readThrough codec (some ⟨.readThrough, key, policy⟩) loader) s) := by
  have hfind := find_eq codec hs key
  have hr : Step.result (find codec key) s = _ := congrArg Prod.fst hfind
  have ha : Step.after (find codec key) s = _ := congrArg Prod.snd hfind
  have he := readThrough_eq codec key policy loader s
  rw [hr, ha] at he
  show Outcome codec key policy loader s m
    ((readThrough codec (some ⟨.readThrough, key, policy⟩) loader).run.run s).1
    ((readThrough codec (some ⟨.readThrough, key, policy⟩) loader).run.run s).2
  rw [he]
  cases hfound : (m.text? s.clock key).bind fun text => (codec.decode text).toOption with
  | some a =>
    obtain ⟨text, ht, hd⟩ := Option.bind_eq_some_iff.1 hfound
    refine .hit ht ?_
    cases hc : codec.decode text with
    | ok b => rw [hc] at hd; exact congrArg Except.ok (Option.some.inj hd)
    | error e => rw [hc] at hd; cases hd
  | none =>
    refine outcome_load codec key policy hs hl fun text a ht hd => ?_
    rw [ht, Option.bind_some, hd] at hfound
    cases hfound

variable {r : Except Error α}

/-- A key without an entry is loaded as if there were no cache. -/
theorem Outcome.of_absent (h : Outcome codec key policy loader s m r t)
    (hl : Talks (·.isCache = false) loader) (hm : m.text? s.clock key = none) :
    r = Step.result loader s ∧ t.outside = (Step.after loader s).outside := by
  obtain ⟨hr, ha⟩ := hl.outside _ _ (outside_looked s m key)
  cases h with
  | hit ht hd => rw [hm] at ht; cases ht
  | fails _ hload => exact ⟨hload ▸ hr, ha⟩
  | declines _ hload => exact ⟨hload ▸ hr, ha⟩
  | stores _ hload => exact ⟨hload ▸ hr, (outside_called rfl _ _).trans ha⟩

/-- A text that can be read answers, and nothing outside the cache takes notice. -/
theorem Outcome.of_readable (h : Outcome codec key policy loader s m r t) {text : String} {a : α}
    (ht : m.text? s.clock key = some text) (hd : codec.decode text = .ok a) :
    r = .ok a ∧ t.outside = s.outside := by
  cases h with
  | hit ht' hd' =>
    rw [ht] at ht'
    obtain rfl := Option.some.inj ht'
    exact ⟨(hd.symm.trans hd').symm, outside_looked s m key⟩
  | fails hm => exact absurd hd (hm text a ht)
  | declines hm => exact absurd hd (hm text a ht)
  | stores hm => exact absurd hd (hm text a ht)

/-- A failure leaves the memory as the lookup left it. -/
theorem Outcome.of_error {e : Error} (h : Outcome codec key policy loader s m (.error e) t)
    (hs : s.Serves m) (hl : Talks (·.isCache = false) loader) :
    t.Serves (m.touched s.clock key) := by
  cases h with
  | fails =>
    obtain ⟨es, -, hpass⟩ := hl.passes (Passes.looked hs key).serves
    exact hpass.serves

/-- The memory goes as was noted, and what was stored is the text of the result. -/
theorem Outcome.passes (h : Outcome codec key policy loader s m r t) (hs : s.Serves m)
    (hl : Talks (·.isCache = false) loader) :
    ∃ es m', s.Passes m es t m' ∧ ∀ e ∈ es, ∀ k, e.stored? = some k → k = key ∧ ∃ a text,
      r = .ok a ∧ codec.encode a = some text ∧ ((m.resolve policy).Lasts → m'.Holds key text) := by
  have hlook := Passes.looked hs key
  obtain ⟨es, hes, hload⟩ := hl.passes hlook.serves
  have hpass := hlook.trans hload
  -- what is noted up to the end of the loader stores nothing
  have hno : ∀ e ∈ [Event.cacheGet key (m.text? s.clock key)] ++ es, e.stored? = none := by
    intro e he
    rcases List.mem_append.1 he with he | he
    · rw [List.mem_singleton.1 he]
      rfl
    · exact Event.stored?_eq_none (hes e he)
  cases h with
  | hit ht hd =>
    exact ⟨_, _, hlook, fun e he k hk =>
      (Event.false_of_stored hno (List.mem_append_left _ he) hk).elim⟩
  | fails => exact ⟨_, _, hpass, fun e he k hk => (Event.false_of_stored hno he hk).elim⟩
  | declines => exact ⟨_, _, hpass, fun e he k hk => (Event.false_of_stored hno he hk).elim⟩
  | @stores a text _ _ hencode =>
    refine ⟨_, _, hpass.trans (.called hpass.serves (.cacheSet key text policy)), ?_⟩
    intro e he k hk
    rcases List.mem_append.1 he with he | he
    · exact (Event.false_of_stored hno he hk).elim
    · rw [List.mem_singleton.1 he] at hk
      obtain rfl : key = k := Option.some.inj hk
      refine ⟨rfl, a, text, rfl, hencode, fun hp => Cache.Memory.holds_store _ _ _ _ ?_⟩
      rwa [Cache.Memory.resolve, m.defaults_touched]

/-! ## What a query asks of the cache -/

variable {q : Query}

/-- A key to invalidate is removed before anything else happens. -/
theorem prepare_invalidate (hs : s.Serves m) (hc : q.caching = some ⟨.invalidate, key, policy⟩)
    (f : Query × Option Cache.Directive → Run β) :
    (prepare q >>= f : Run β).run.run s =
      (f (q.clearCaching, none)).run.run (s.called (m.remove key) (.cacheRemove key)) := by
  have hp : prepare q = remove key >>= fun _ => pure (q.clearCaching, none) := by
    rw [prepare, hc]
  rw [hp, bind_assoc]
  exact Run.run_bind_of_ok (remove_eq hs key) _

/-- What else a query asks of the cache is left to the operation. -/
theorem prepare_of_not_invalidate
    (hc : ∀ key policy, q.caching ≠ some ⟨.invalidate, key, policy⟩) :
    prepare q = pure (q.clearCaching, q.caching) := by
  rw [prepare]
  split
  · exact absurd ‹_› (hc _ _)
  · rfl

/-- An operation that invalidates a key removes it and does not touch the cache again. -/
theorem passes_invalidate (hs : s.Serves m) (hc : q.caching = some ⟨.invalidate, key, policy⟩)
    {f : Query × Option Cache.Directive → Run β}
    (hf : Talks (·.isCache = false) (f (q.clearCaching, none))) :
    ∃ es, (∀ e ∈ es, e.stored? = none) ∧
      s.Passes m es (Step.after (prepare q >>= f : Run β) s) (m.remove key) := by
  have hremove := Passes.called hs (.cacheRemove key)
  obtain ⟨es, hes, hpass⟩ := hf.passes hremove.serves
  have ha : Step.after (prepare q >>= f : Run β) s = _ :=
    congrArg Prod.snd (prepare_invalidate hs hc f)
  rw [ha]
  refine ⟨_, fun e he => ?_, hremove.trans hpass⟩
  rcases List.mem_append.1 he with he | he
  · rw [List.mem_singleton.1 he]
    rfl
  · exact Event.stored?_eq_none (hes e he)

/-! ## Cached reads -/

variable {load : Query → Run α}

theorem talks_readThrough_none {loader : Run α} (codec : Cache.Codec α) (hl : Talks E loader) :
    Talks E (readThrough codec none loader) :=
  Talks.bind (Talks.bind hl fun _ => .pure _) fun _ => .pure _

/-- A cached read whose query carries no directive is its loader. -/
theorem cached_of_none (codec : Cache.Codec α) (hc : q.caching = none) (load : Query → Run α) :
    cached codec q load = load q.clearCaching := by
  rw [cached, prepare_of_not_invalidate (by simp [hc]), hc]
  rfl

/-- A cached read whose query reads through the cache. -/
theorem cached_of_readThrough (codec : Cache.Codec α)
    (hc : q.caching = some ⟨.readThrough, key, policy⟩) (load : Query → Run α) :
    cached codec q load =
      readThrough codec (some ⟨.readThrough, key, policy⟩) (load q.clearCaching) := by
  rw [cached, prepare_of_not_invalidate (by simp [hc]), hc]
  rfl

theorem outcome_cached (codec : Cache.Codec α) (hs : s.Serves m)
    (hc : q.caching = some ⟨.readThrough, key, policy⟩)
    (hl : Talks (·.isCache = false) (load q.clearCaching)) :
    Outcome codec key policy (load q.clearCaching) s m (Step.result (cached codec q load) s)
      (Step.after (cached codec q load) s) := by
  rw [cached_of_readThrough codec hc]
  exact outcome_readThrough codec key policy hs hl

/-- A key is stored as the query asks for, and its text is that of the result. -/
def KeepsResult (codec : Cache.Codec α) (q : Query) (m : Cache.Memory) (r : Except Error α)
    (m' : Cache.Memory) (k : String) : Prop :=
  ∃ policy a text, q.caching = some ⟨.readThrough, k, policy⟩ ∧ r = .ok a ∧
    codec.encode a = some text ∧ ((m.resolve policy).Lasts → m'.Holds k text)

/-- The memory goes as is noted, and a key is stored only to keep the result. -/
theorem passes_cached (codec : Cache.Codec α) (hs : s.Serves m)
    (hl : Talks (·.isCache = false) (load q.clearCaching)) :
    ∃ es m', s.Passes m es (Step.after (cached codec q load) s) m' ∧
      ∀ e ∈ es, ∀ k, e.stored? = some k →
        KeepsResult codec q m (Step.result (cached codec q load) s) m' k := by
  cases hc : q.caching with
  | none =>
    obtain ⟨es, hes, hpass⟩ := hl.passes hs
    rw [cached_of_none codec hc]
    have hno : ∀ e ∈ es, e.stored? = none := fun e he => Event.stored?_eq_none (hes e he)
    exact ⟨es, m, hpass, fun e he k hk => (Event.false_of_stored hno he hk).elim⟩
  | some directive =>
    obtain ⟨action, key, policy⟩ := directive
    cases action with
    | invalidate =>
      obtain ⟨es, hes, hpass⟩ := passes_invalidate hs hc
        (f := fun p => readThrough codec p.2 (load p.1)) (talks_readThrough_none codec hl)
      exact ⟨es, _, hpass, fun e he k hk => (Event.false_of_stored hes he hk).elim⟩
    | readThrough =>
      obtain ⟨es, m', hpass, hes⟩ := (outcome_cached codec hs hc hl).passes hs hl
      refine ⟨es, m', hpass, fun e he k hk => ?_⟩
      obtain ⟨rfl, a, text, hr, hencode, hholds⟩ := hes e he k hk
      exact ⟨policy, a, text, hc, hr, hencode, hholds⟩

end Caching

end Polydialect
