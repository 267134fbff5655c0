import Mathlib.Control.Monad.Basic
import Polydialect.Proofs.Operations
import Polydialect.Record

/-!
# The cache over whole sessions

Repositories that share a cache call operations in any order, and the engine answers each of them
as it likes. `Repository.cache_contract` says what the cache gives and keeps all the while: a key
that was invalidated stays without an entry until it is read through the cache, a result that does
not expire is given again without asking the engine, and a read that fails leaves every entry to be
read as before, but for the one that it looked up (`Repository.cache_contract_differs` shows what
becomes of that one).
-/

namespace Polydialect

open Step Session

namespace Repository

variable {α β : Type} {s : Session} {m : Cache.Memory} {key : String} {policy : Cache.Policy}
  {q : Query}

/-! ## Calls -/

/-- An operation of either kind. -/
inductive Operation where
  | read (x : Read)
  | write (w : Write)

/-- A call of an operation, with what the engine replies from there on. -/
structure Call where
  {entity : Type}
  [isEntity : Entity entity]
  repository : Repository entity
  operation : Operation
  query : Query
  replies : List Reply

namespace Call

attribute [instance] Call.isEntity

/-- The session after a call, which may have failed. -/
def after (c : Call) (s : Session) : Session :=
  match c.operation with
  | .read x => Step.after (x.run c.repository c.query) (s.script c.replies)
  | .write w => Step.after (w.run c.repository c.query) (s.script c.replies)

/-- The session after calls, one after the other. -/
def afterAll (cs : List Call) (s : Session) : Session := cs.foldl (fun s c => c.after s) s

/-- The call reads through the cache. -/
def ReadsThrough (c : Call) (key : String) : Prop :=
  ∃ x policy, c.operation = .read x ∧ c.query.caching = some ⟨.readThrough, key, policy⟩

/-- The call stores a key. -/
def Stores (c : Call) (key : String) (s : Session) : Prop :=
  ∃ e ∈ s.since (c.after s), e.stored? = some key

/-- In a call the memory goes as is noted, and a key is stored by reading it through the cache. -/
theorem passes (c : Call) (hs : s.Serves m) :
    ∃ es m', s.Passes m es (c.after s) m' ∧
      ∀ e ∈ es, ∀ k, e.stored? = some k → c.ReadsThrough k := by
  have hs' := hs.script c.replies
  rw [after]
  cases hop : c.operation with
  | read x =>
    obtain ⟨es, m', hpass, hes⟩ := (x.caches c.repository).passes hs' c.query
    refine ⟨es, m', hpass.of_script, fun e he k hk => ?_⟩
    obtain ⟨policy, -, -, hc, -⟩ := hes e he k hk
    exact ⟨x, policy, hop, hc⟩
  | write w =>
    obtain ⟨es, m', hes, hpass⟩ := w.passes c.repository c.query hs'
    exact ⟨es, m', hpass.of_script,
      fun e he k hk => (Event.false_of_stored hes he hk).elim⟩

/-- A call that invalidates a key removes it, whatever becomes of its statement. -/
theorem passes_invalidate (c : Call) (hs : s.Serves m)
    (hc : c.query.caching = some ⟨.invalidate, key, policy⟩) :
    ∃ es, s.Passes m es (c.after s) (m.remove key) := by
  have hs' := hs.script c.replies
  rw [after]
  cases c.operation with
  | read x =>
    obtain ⟨es, -, hpass⟩ := (x.caches c.repository).passes_invalidate hs' hc
    exact ⟨es, hpass.of_script⟩
  | write w =>
    obtain ⟨es, -, hpass⟩ := w.passes_invalidate c.repository hs' hc
    exact ⟨es, hpass.of_script⟩

/-- The memory goes as is noted over calls in any order. -/
theorem passes_afterAll (cs : List Call) (hs : s.Serves m) :
    ∃ es m', s.Passes m es (afterAll cs s) m' := by
  induction cs generalizing s m with
  | nil => exact ⟨[], m, .refl hs⟩
  | cons c cs ih =>
    obtain ⟨es, m', hpass, -⟩ := c.passes hs
    obtain ⟨es', m'', hrest⟩ := ih hpass.serves
    exact ⟨es ++ es', m'', hpass.trans hrest⟩

/-- A key that was stored in the course of calls was stored by one that reads it through the
cache. -/
theorem exists_stores {cs : List Call} (hs : s.Serves m)
    (h : ∃ e ∈ s.since (afterAll cs s), e.stored? = some key) :
    ∃ before c rest, cs = before ++ c :: rest ∧ c.ReadsThrough key ∧
      c.Stores key (afterAll before s) := by
  induction cs generalizing s m with
  | nil =>
    obtain ⟨e, he, -⟩ := h
    have hnone : s.since (afterAll [] s) = [] := (Passes.refl hs).since_eq
    rw [hnone] at he
    exact (List.not_mem_nil he).elim
  | cons c cs ih =>
    obtain ⟨es, m', hpass, hes⟩ := c.passes hs
    obtain ⟨es', m'', hrest⟩ := passes_afterAll cs hpass.serves
    obtain ⟨e, he, hk⟩ := h
    -- it was noted in the first call or in the others
    have hall : s.since (afterAll (c :: cs) s) = es ++ es' := (hpass.trans hrest).since_eq
    rw [hall] at he
    rcases List.mem_append.1 he with he | he
    · refine ⟨[], c, cs, rfl, hes e he key hk, e, ?_, hk⟩
      show e ∈ s.since (c.after s)
      rwa [hpass.since_eq]
    · obtain ⟨before, c', rest, rfl, hreads, hstores⟩ :=
        ih hpass.serves ⟨e, by rwa [hrest.since_eq], hk⟩
      exact ⟨c :: before, c', rest, rfl, hreads, hstores⟩

/-- An invalidated key has no entry until a call reads it through the cache and stores it. -/
theorem absent_of_invalidate (c : Call) (hs : s.Serves m)
    (hc : c.query.caching = some ⟨.invalidate, key, policy⟩) (cs : List Call) :
    (∃ before c' rest, cs = before ++ c' :: rest ∧ c'.ReadsThrough key ∧
      c'.Stores key (afterAll before (c.after s))) ∨
    ∃ m', (afterAll cs (c.after s)).Serves m' ∧ m'.entries.lookup key = none := by
  obtain ⟨es, hpass⟩ := c.passes_invalidate hs hc
  obtain ⟨es', m', hrest⟩ := passes_afterAll cs hpass.serves
  -- the memory has lost the key when the first call ends, so only the later ones matter
  by_cases h : ∃ e ∈ es', e.stored? = some key
  · obtain ⟨e, he, hk⟩ := h
    exact .inl (exists_stores hpass.serves ⟨e, by rwa [hrest.since_eq], hk⟩)
  · refine .inr ⟨m', hrest.serves, hrest.follows.absent (fun e he hk => h ⟨e, he, hk⟩) ?_⟩
    rw [m.lookup_remove, if_pos rfl]

end Call

/-! ## Reads through the cache -/

variable {codec : Cache.Codec β} {x : Query → Run β}

/-- The read gives what it gives without the cache, and asks the engine for the same. -/
def Reloads (x : Query → Run β) (q : Query) (s : Session) : Prop :=
  Step.result (x q) s = Step.result (x q.clearCaching) s ∧
    (Step.after (x q) s).compiled = (Step.after (x q.clearCaching) s).compiled ∧
    (Step.after (x q) s).requests = (Step.after (x q.clearCaching) s).requests

/-- The read gives a result, compiles nothing and asks the engine for nothing. -/
def Answers (x : Query → Run β) (q : Query) (v : β) (s : Session) : Prop :=
  Step.result (x q) s = .ok v ∧ (Step.after (x q) s).compiled = s.compiled ∧
    (Step.after (x q) s).requests = s.requests

theorem Caches.reloads_of_absent (h : Caches codec x) (hs : s.Serves m)
    (hc : q.caching = some ⟨.readThrough, key, policy⟩) (hm : m.text? s.clock key = none) :
    Reloads x q s := by
  obtain ⟨hload, hout⟩ := h.outcome hs hc
  obtain ⟨hr, ha⟩ := hout.of_absent hload hm
  exact ⟨hr, seen_eq ha⟩

theorem Caches.answers_of_readable (h : Caches codec x) (hs : s.Serves m)
    (hc : q.caching = some ⟨.readThrough, key, policy⟩) {text : String} {v : β}
    (ht : m.text? s.clock key = some text) (hd : codec.decode text = .ok v) : Answers x q v s := by
  obtain ⟨-, hout⟩ := h.outcome hs hc
  obtain ⟨hr, ha⟩ := hout.of_readable ht hd
  exact ⟨hr, seen_eq ha⟩

/-- What was stored for good is read back as the result. -/
theorem Caches.holds_of_stores (h : Caches codec x) (hcodec : codec.Faithful) (hs : s.Serves m)
    (hc : q.caching = some ⟨.readThrough, key, policy⟩) (hp : (m.resolve policy).Lasts) {v : β}
    (hr : Step.result (x q) s = .ok v)
    (hstores : ∃ e ∈ s.since (Step.after (x q) s), e.stored? = some key) :
    ∃ m' text, (Step.after (x q) s).Serves m' ∧ m'.Holds key text ∧
      codec.decode text = .ok v := by
  obtain ⟨es, m', hpass, hes⟩ := h.passes hs q
  rw [hpass.since_eq] at hstores
  obtain ⟨e, he, hk⟩ := hstores
  obtain ⟨policy', a, text, hc', hr', hencode, hholds⟩ := hes e he key hk
  -- the policy and the result behind the stored text are those of this read
  rw [hc] at hc'
  cases hc'
  rw [hr] at hr'
  cases hr'
  exact ⟨m', text, hpass.serves, hholds hp, hcodec v text hencode⟩

theorem Caches.serves_of_error (h : Caches codec x) (hs : s.Serves m)
    (hc : q.caching = some ⟨.readThrough, key, policy⟩) {e : Error}
    (hr : Step.result (x q) s = .error e) :
    (Step.after (x q) s).Serves (m.touched s.clock key) := by
  obtain ⟨hload, hout⟩ := h.outcome hs hc
  rw [hr] at hout
  exact hout.of_error hs hload

open Call

/-- The cache over a whole session, from any moment `s` of it on and for any key.

A call that invalidates the key leaves it without an entry that is alive, at any time and after any
further calls, and a read through the cache goes to the database; unless one of these calls read the
key through the cache and stored it. Once a read of a truth value or number stored its result under
the key with neither time to go by, it gives that result in any repository without asking the
engine, after any further calls that neither remove nor overwrite the key. A read through the cache
that fails changes no text that is read under any key then; nor later, but an entry that goes by the
time since it was last read counts as read, as it does when it is found. -/
theorem cache_contract (hs : s.Serves m) (key : String) :
    (∀ (c : Call) (policy : Cache.Policy) (cs : List Call),
      c.query.caching = some ⟨.invalidate, key, policy⟩ →
      (∃ before c' rest, cs = before ++ c' :: rest ∧ c'.ReadsThrough key ∧
        c'.Stores key (afterAll before (c.after s))) ∨
      (∃ m', (afterAll cs (c.after s)).Serves m' ∧ ∀ now, m'.contains now key = false) ∧
        ∀ (α : Type) [Entity α] (x : Read) (r : Repository α) (q : Query) (policy : Cache.Policy)
          (replies : List Reply), q.caching = some ⟨.readThrough, key, policy⟩ →
          Reloads (x.run r) q ((afterAll cs (c.after s)).script replies)) ∧
    (∀ (α : Type) (a : Aggregate) (r : Repository α) (q : Query) (policy : Cache.Policy)
      (replies : List Reply) (v : a.Result) (t : Session),
      q.caching = some ⟨.readThrough, key, policy⟩ → (m.resolve policy).Lasts →
      Step.result (a.run r q) (s.script replies) = .ok v →
      Step.after (a.run r q) (s.script replies) = t → (∃ e ∈ s.since t, e.stored? = some key) →
      ∀ cs : List Call, (∀ e ∈ t.since (afterAll cs t), e.altered? ≠ some key) →
        ∀ (β : Type) (r' : Repository β) (q' : Query) (policy' : Cache.Policy)
          (replies' : List Reply), q'.caching = some ⟨.readThrough, key, policy'⟩ →
          Answers (a.run r') q' v ((afterAll cs t).script replies')) ∧
    ∀ (α : Type) [Entity α] (x : Read) (r : Repository α) (q : Query) (policy : Cache.Policy)
      (replies : List Reply) (e : Error), q.caching = some ⟨.readThrough, key, policy⟩ →
      Step.result (x.run r q) (s.script replies) = .error e →
      ∃ m', (Step.after (x.run r q) (s.script replies)).Serves m' ∧
        (∀ k, m'.text? s.clock k = m.text? s.clock k) ∧
        (∀ k later, s.clock ≤ later →
          (k = key → ∀ e, m.live? s.clock key = some e → e.policy.sliding = none) →
          m'.text? later k = m.text? later k) ∧
        ∀ e, m.live? s.clock key = some e →
          m'.entries.lookup key = some { e with lastRead := s.clock } := by
  refine ⟨fun c policy cs hc => ?_,
    fun α a r q policy replies v t hc hp hr ht hstores cs hcs => ?_,
    fun α _ x r q policy replies e hc hr => ?_⟩
  · rcases c.absent_of_invalidate hs hc cs with h | ⟨m', hserves, hm'⟩
    · exact .inl h
    · have hlive : ∀ now, m'.live? now key = none := fun now =>
        (m'.live?_eq_none_iff now key).2 fun e he => by rw [hm'] at he; cases he
      refine .inr ⟨⟨m', hserves, fun now => by rw [Cache.Memory.contains, hlive]; rfl⟩, ?_⟩
      intro α _ x r q policy replies hc
      refine (x.caches r).reloads_of_absent (hserves.script replies) hc ?_
      rw [Cache.Memory.text?, hlive]
      rfl
  · subst ht
    obtain ⟨m', text, hserves, hholds, hd⟩ :=
      (a.caches r).holds_of_stores a.faithful_codec (hs.script replies) hc hp hr hstores
    obtain ⟨es, m'', hrest⟩ := passes_afterAll cs hserves
    rw [hrest.since_eq] at hcs
    intro β r' q' policy' replies' hc'
    exact (a.caches r').answers_of_readable (hrest.serves.script replies') hc'
      ((hrest.follows.lasts hcs hholds).text?_eq _) hd
  · refine ⟨_, (x.caches r).serves_of_error (hs.script replies) hc hr, ?_, ?_, ?_⟩
    · exact fun k => m.text?_touched s.clock k key
    · intro k later hl hk
      refine m.text?_touched_later s.clock k key hl fun hkey => ?_
      exact hk hkey
    · intro e he
      show (m.touched s.clock key).entries.lookup key = _
      rw [m.lookup_touched, if_pos rfl, he]
      rfl

/-- Deleting posts forgets the text under a key though the engine fails, the number of posts is
given again from the cache afterwards, and a sum that cannot be had leaves the texts as they are. -/
theorem cache_contract_posts : ∃ (s : Session) (m : Cache.Memory) (r : Repository Record)
    (q : Query) (delete : Call) (e : Error), s.Serves m ∧ m.text? 0 "posts" = some "7" ∧
      (∃ m', (delete.after s).Serves m' ∧ ∀ now, m'.contains now "posts" = false) ∧
      (∀ t, Step.after (r.count q) (s.script [.answer 0 [⟨["n"], [.int 3]⟩]]) = t →
        Answers r.count q 3 ((delete.after t).script [])) ∧
      Step.result (r.sum q) (s.script [.refusal "down"]) = .error e ∧
      ∃ m', (Step.after (r.sum q) (s.script [.refusal "down"])).Serves m' ∧
        m'.text? 0 "posts" = some "7" := by
  let now : Timestamp := ⟨2024, 1, 1, 0, 0, 0, 0, by decide⟩
  let guid : Guid := ⟨"6f1c9a44-0b1e-4c57-9d0a-2f6f3f1f7a10", by decide⟩
  let m := (Cache.Memory.empty .never).store 0 "posts" "7" .inherit
  let s := Session.start ⟨fun _ => guid, fun _ => now, id⟩ (some m)
  let r : Repository Record := ⟨⟨.sqlite, "", 0⟩, "Posts", []⟩
  let q := (Query.empty.select ["Likes"]).readThrough "n" .never
  let delete : Call :=
    ⟨r, .write .deleteAll, Query.empty.invalidate "posts", [.failure "disk I/O error"]⟩
  have hs : s.Serves m := ⟨rfl, rfl⟩
  have hcount : Step.result (r.count q) (s.script [.answer 0 [⟨["n"], [.int 3]⟩]]) = .ok 3 := by
    decide +kernel
  have hsum : Step.result (r.sum q) (s.script [.refusal "down"]) =
      .error (.connection "down" "sqlite at ") := by
    decide +kernel
  obtain ⟨hforgets, -⟩ := cache_contract hs "posts"
  obtain ⟨-, hgives, hfails⟩ := cache_contract hs "n"
  refine ⟨s, m, r, q, delete, _, hs, by decide +kernel, ?_, fun t ht => ?_, hsum, ?_⟩
  · rcases hforgets delete .inherit [] rfl with ⟨before, c', rest, h, -⟩ | ⟨h, -⟩
    · cases before <;> cases h
    · exact h
  · have hstored : ∃ e ∈ s.since t, e.stored? = some "n" := by
      subst ht
      decide +kernel
    have hkept : ∀ e ∈ t.since (afterAll [delete] t), e.altered? ≠ some "n" := by
      subst ht
      decide +kernel
    exact hgives Record .count r q .never _ (3 : UInt64) t rfl (by decide) hcount ht hstored
      [delete] hkept Record r q .never [] rfl
  · obtain ⟨m', hserves, htext, -⟩ :=
      hfails Record (.aggregate .sum) r q .never [.refusal "down"] _ rfl hsum
    exact ⟨m', hserves, (htext "posts").trans (by decide +kernel)⟩

/-- A list of posts is kept for ten seconds since it was last read. A count at eight seconds cannot
read it and fails, but has looked it up, and so it is there at twelve, where it would not have been.
And a result that is stored for good with a time of zero is gone at once: the next count asks the
engine. -/
theorem cache_contract_differs :
    (∃ (s t : Session) (m m' : Cache.Memory) (r : Repository Record) (posts number : Query)
        (e : Error),
      posts.caching = some ⟨.readThrough, "posts", ⟨none, some 10000000000, false⟩⟩ ∧
      number.caching = some ⟨.readThrough, "posts", .never⟩ ∧
      Step.after (r.getAll posts) (s.script [.answer 0 []]) = t ∧ t.Serves m ∧
      t.clock = 8000000000 ∧ Step.result (r.count number) (t.script [.refusal "down"]) = .error e ∧
      (Step.after (r.count number) (t.script [.refusal "down"])).Serves m' ∧
      m.text? 12000000000 "posts" = none ∧ m'.text? 12000000000 "posts" = some "[]") ∧
    ∃ (s t : Session) (r : Repository Record) (q : Query) (policy : Cache.Policy),
      policy.persistent = true ∧ q.caching = some ⟨.readThrough, "n", policy⟩ ∧
      Step.result (r.count q) (s.script [.answer 0 [⟨["n"], [.int 3]⟩]]) = .ok 3 ∧
      Step.after (r.count q) (s.script [.answer 0 [⟨["n"], [.int 3]⟩]]) = t ∧
      (∃ e ∈ s.since t, e.stored? = some "n") ∧
      ¬ Answers r.count q 3 (t.script [.answer 0 [⟨["n"], [.int 4]⟩]]) := by
  let now : Timestamp := ⟨2024, 1, 1, 0, 0, 0, 0, by decide⟩
  let guid : Guid := ⟨"6f1c9a44-0b1e-4c57-9d0a-2f6f3f1f7a10", by decide⟩
  let r : Repository Record := ⟨⟨.sqlite, "", 0⟩, "Posts", []⟩
  refine ⟨?_, ?_⟩
  · -- the list is looked up and stored at once, and the clock is read again at eight seconds
    let uptime (n : Nat) : Nat := if n < 2 then 0 else 8000000000
    let s := Session.start ⟨fun _ => guid, fun _ => now, uptime⟩ (some (.empty .inherit))
    let sliding : Cache.Policy := ⟨none, some 10000000000, false⟩
    let posts := Query.empty.readThrough "posts" sliding
    let number := Query.empty.readThrough "posts" .never
    exact ⟨s, _, ⟨[("posts", ⟨"[]", 0, 0, sliding⟩)], .inherit, 0, 1⟩,
      ⟨[("posts", ⟨"[]", 0, 8000000000, sliding⟩)], .inherit, 1, 1⟩, r, posts, number,
      .connection "down" "sqlite at ", rfl, rfl, rfl, ⟨by decide +kernel, by decide +kernel⟩,
      by decide +kernel, by decide +kernel, ⟨by decide +kernel, by decide +kernel⟩,
      by decide +kernel, by decide +kernel⟩
  · let s := Session.start ⟨fun _ => guid, fun _ => now, fun _ => 0⟩ (some (.empty .inherit))
    let policy : Cache.Policy := ⟨some 0, none, true⟩
    let q := Query.empty.readThrough "n" policy
    have hagain : Step.result (r.count q)
        ((Step.after (r.count q) (s.script [.answer 0 [⟨["n"], [.int 3]⟩]])).script
          [.answer 0 [⟨["n"], [.int 4]⟩]]) = .ok 4 := by
      decide +kernel
    refine ⟨s, _, r, q, policy, rfl, rfl, by decide +kernel, rfl, by decide +kernel, ?_⟩
    rintro ⟨hresult, -, -⟩
    rw [hagain] at hresult
    exact absurd (Except.ok.inj hresult) (by decide)

end Repository

end Polydialect
