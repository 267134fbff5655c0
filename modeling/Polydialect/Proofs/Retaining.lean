import Polydialect.Proofs.Entries

/-!
# What a cache returns

Entries that have expired stay in a memory until they are looked up, purged or overwritten, so what
a memory holds depends on more than what was stored last. The entries that count are those whose
policy does not end at once (`Memory.fresh?`). As long as none of them expires, every call treats
them as a plain map treats what it holds, and purging leaves them alone.

* `Memory.text_fresh?_after`: after any run a key has what was stored under it last;
* `Memory.Alike.apply`: memories with the same such entries answer alike, whatever else they hold;
* `Memory.returns_latest`: what every lookup of a run gives; purging in between is not seen.
-/

namespace Polydialect.Cache

/-- A term of the policy is over as soon as it begins. -/
def Policy.EndsAtOnce (p : Policy) : Prop := p.absolute = some 0 ∨ p.sliding = some 0

instance (p : Policy) : Decidable p.EndsAtOnce := inferInstanceAs (Decidable (_ ∨ _))

theorem Entry.isExpired_of_endsAtOnce {e : Entry} (h : e.policy.EndsAtOnce) (now : Nat) :
    e.isExpired now = true := by
  have hzero (since : Nat) : hasPassed now since (some 0) = true := by
    simp [hasPassed]
  unfold Entry.isExpired
  rcases h with h | h
  · rw [h, hzero, Bool.true_or]
  · rw [h, hzero, Bool.or_true]

namespace Memory

/-! ## Keys that occur once -/

def IsKeyed (m : Memory) : Prop := (m.entries.map (·.1)).Nodup

theorem lookup_eq_some_iff_mem {es : List (String × Entry)} (h : (es.map (·.1)).Nodup)
    {key : String} {e : Entry} : es.lookup key = some e ↔ (key, e) ∈ es := by
  induction es with
  | nil => simp
  | cons p es ih =>
    obtain ⟨k, e'⟩ := p
    rw [List.map_cons, List.nodup_cons] at h
    by_cases hk : key = k
    · subst hk
      have hne : (key, e) ∉ es := by
        intro hm
        exact h.1 (List.mem_map.2 ⟨_, hm, rfl⟩)
      rw [List.lookup_cons_self, List.mem_cons, or_iff_left hne]
      constructor
      · intro he
        rw [Option.some.inj he]
      · intro he
        rw [(Prod.mk.inj he).2]
    · have hne : (key, e) ≠ (k, e') := fun he => hk (Prod.mk.inj he).1
      rw [lookup_cons_ne _ _ e' hk, ih h.2, List.mem_cons, or_iff_right hne]

variable {m m' : Memory}

theorem IsKeyed.filter (h : m.IsKeyed) (p : String × Entry → Bool) :
    ((m.entries.filter p).map (·.1)).Nodup :=
  h.sublist (List.filter_sublist.map _)

theorem IsKeyed.put (h : m.IsKeyed) (key : String) (e : Entry) : (m.put key e).IsKeyed := by
  unfold IsKeyed
  show (key :: (m.entries.filter (·.1 ≠ key)).map (·.1)).Nodup
  rw [List.nodup_cons]
  refine ⟨?_, h.filter _⟩
  intro hm
  obtain ⟨p, hp, hk⟩ := List.mem_map.1 hm
  exact absurd hk (of_decide_eq_true (List.mem_filter.1 hp).2)

theorem IsKeyed.touched (h : m.IsKeyed) (now : Nat) (key : String) :
    (m.touched now key).IsKeyed := by
  unfold Memory.touched lookup
  split
  · exact h.put key _
  · exact h.filter _

/-! ## Entries that count -/

/-- The entry of a key, unless its policy ends at once. -/
def fresh? (m : Memory) (key : String) : Option Entry :=
  (m.entries.lookup key).filter fun e => !decide e.policy.EndsAtOnce

/-- No entry that counts has expired. -/
def Endures (m : Memory) (now : Nat) : Prop :=
  ∀ p ∈ m.entries, p.2.policy.EndsAtOnce ∨ p.2.isExpired now = false

instance (m : Memory) (now : Nat) : Decidable (m.Endures now) := by
  unfold Endures
  exact inferInstance

theorem fresh?_eq_some_iff (h : m.IsKeyed) {key : String} {e : Entry} :
    m.fresh? key = some e ↔ (key, e) ∈ m.entries ∧ ¬ e.policy.EndsAtOnce := by
  rw [fresh?, Option.filter_eq_some_iff, lookup_eq_some_iff_mem h]
  simp

theorem endures_iff (h : m.IsKeyed) {now : Nat} :
    m.Endures now ↔ ∀ key e, m.fresh? key = some e → e.isExpired now = false := by
  constructor
  · intro hm key e he
    rw [fresh?_eq_some_iff h] at he
    exact (hm _ he.1).resolve_left he.2
  · intro hm p hp
    by_cases hends : p.2.policy.EndsAtOnce
    · exact .inl hends
    · exact .inr (hm p.1 p.2 ((fresh?_eq_some_iff h).2 ⟨hp, hends⟩))

theorem Endures.mono {now later : Nat} (h : m.Endures later) (hn : now ≤ later) :
    m.Endures now := by
  intro p hp
  rcases h p hp with hends | hlater
  · exact .inl hends
  · right
    rw [Bool.eq_false_iff] at hlater ⊢
    exact fun hnow => hlater (p.2.isExpired_mono hn hnow)

/-- Alive are the entries that count. -/
theorem Endures.live?_eq {now : Nat} (h : m.Endures now) (hk : m.IsKeyed) (key : String) :
    m.live? now key = m.fresh? key := by
  apply Option.ext
  intro e
  rw [live?_eq_some_iff, fresh?_eq_some_iff hk, lookup_eq_some_iff_mem hk]
  refine and_congr_right fun hm => ⟨fun hlive hends => ?_, fun hends => ?_⟩
  · rw [e.isExpired_of_endsAtOnce hends] at hlive
    cases hlive
  · exact (h _ hm).resolve_left hends

theorem fresh?_put (key k : String) (e : Entry) :
    (m.put k e).fresh? key =
      if key = k then if e.policy.EndsAtOnce then none else some e else m.fresh? key := by
  rw [fresh?, lookup_put]
  split
  · rw [Option.filter_some]
    split <;> split <;> simp_all
  · rfl

theorem fresh?_remove (key k : String) :
    (m.remove k).fresh? key = if key = k then none else m.fresh? key := by
  rw [fresh?, lookup_remove]
  split <;> rfl

theorem fresh?_store (now : Nat) (key k text : String) (p : Policy) :
    (m.store now k text p).fresh? key =
      if key = k then
        if (m.resolve p).EndsAtOnce then none else some ⟨text, now, now, m.resolve p⟩
      else m.fresh? key :=
  fresh?_put key k _

theorem fresh?_touched {now : Nat} (h : m.Endures now) (hk : m.IsKeyed) (key k : String) :
    (m.touched now k).fresh? key =
      if key = k then (m.fresh? k).map fun e => { e with lastRead := now } else m.fresh? key := by
  rw [fresh?, lookup_touched, h.live?_eq hk]
  split
  · cases he : m.fresh? k with
    | none => rfl
    | some e =>
      have hends : ¬ e.policy.EndsAtOnce := ((fresh?_eq_some_iff hk).1 he).2
      simp [hends]
  · rfl

/-- What is purged does not count. -/
theorem fresh?_purge {now : Nat} (h : m.Endures now) (hk : m.IsKeyed) (key : String) :
    (m.purge now).fresh? key = m.fresh? key := by
  have hpurged : (m.purge now).IsKeyed := hk.filter _
  apply Option.ext
  intro e
  rw [fresh?_eq_some_iff hpurged, fresh?_eq_some_iff hk]
  refine and_congr_left fun hends => ⟨fun hm => (List.mem_filter.1 hm).1, fun hm => ?_⟩
  refine List.mem_filter.2 ⟨hm, ?_⟩
  rw [(h _ hm).resolve_left hends]
  rfl

/-! ## Runs -/

/-- A call of a cache. -/
inductive Call where
  | set (key text : String) (policy : Policy)
  | get (key : String)
  | remove (key : String)
  | contains (key : String)
  | purge
  | clear
  deriving DecidableEq, Repr

namespace Call

/-- What a call makes of a memory. -/
def apply (now : Nat) (m : Memory) : Call → Memory
  | set key text policy => m.store now key text policy
  | get key => m.touched now key
  | remove key => m.remove key
  | contains _ => m
  | purge => m.purge now
  | clear => m.clear

/-- What a call gives if it looks a key up. -/
def results (now : Nat) (m : Memory) : Call → List (Option String)
  | get key => [(m.lookup now key).1]
  | set .. | remove _ | contains _ | purge | clear => []

def isGet : Call → Bool
  | get _ => true
  | set .. | remove _ | contains _ | purge | clear => false

end Call

/-- Calls in order, each with its time. -/
abbrev Calls := List (Nat × Call)

/-- The memory after calls. -/
def after (m : Memory) (calls : Calls) : Memory := calls.foldl (fun m c => c.2.apply c.1 m) m

/-- What the lookups among calls give. -/
def results : Memory → Calls → List (Option String)
  | _, [] => []
  | m, (now, c) :: calls => c.results now m ++ results (c.apply now m) calls

/-- No entry that counts expires before the calls and the time `last` behind them are over. -/
def EnduresAll (last : Nat) : Memory → Calls → Prop
  | m, [] => m.Endures last
  | m, (now, c) :: calls => m.Endures now ∧ EnduresAll last (c.apply now m) calls

instance (last : Nat) : (m : Memory) → (calls : Calls) → Decidable (m.EnduresAll last calls)
  | m, [] => inferInstanceAs (Decidable (m.Endures last))
  | m, (now, c) :: calls =>
    have := instDecidableEnduresAll last (c.apply now m) calls
    inferInstanceAs (Decidable (_ ∧ _))

/-- What a call leaves of what was found under a key before. -/
def Call.keeps (key : String) (found : Option (String × Policy)) : Call → Option (String × Policy)
  | .set k text policy => if key = k then some (text, policy) else found
  | .remove k => if key = k then none else found
  | .clear => none
  | .get _ | .contains _ | .purge => found

/-- What was stored under a key last, unless it was removed since. -/
def stored? (key : String) (calls : List Call) : Option (String × Policy) :=
  calls.foldl (Call.keeps key) none

/-- The text that a plain map has under a key, where it stores nothing that ends at once. -/
def kept? (m : Memory) (key : String) (calls : List Call) : Option String :=
  (stored? key calls).bind fun p => if (m.resolve p.2).EndsAtOnce then none else some p.1

variable {now last : Nat} {calls calls' : Calls}

theorem IsKeyed.apply (h : m.IsKeyed) (now : Nat) (c : Call) : (c.apply now m).IsKeyed := by
  cases c with
  | set key text policy => exact h.put key _
  | get key => exact h.touched now key
  | remove key => exact h.filter _
  | contains key => exact h
  | purge => exact h.filter _
  | clear => exact List.nodup_nil

theorem defaults_apply (m : Memory) (now : Nat) (c : Call) :
    (c.apply now m).defaults = m.defaults := by
  cases c with
  | get key => exact defaults_touched m now key
  | set | remove | contains | purge | clear => rfl

theorem IsKeyed.after (h : m.IsKeyed) (calls : Calls) : (m.after calls).IsKeyed := by
  induction calls generalizing m with
  | nil => exact h
  | cons c calls ih => exact ih (h.apply c.1 c.2)

theorem EnduresAll.endures_after (h : m.EnduresAll last calls) : (m.after calls).Endures last := by
  induction calls generalizing m with
  | nil => exact h
  | cons c calls ih => exact ih h.2

/-- What lasts to the end of a run has not expired before it begins. -/
theorem EnduresAll.endures (h : m.EnduresAll last calls)
    (hn : ∀ t ∈ calls.map (·.1) ++ [last], now ≤ t) : m.Endures now := by
  cases calls with
  | nil => exact Endures.mono h (hn last (.head _))
  | cons c calls => exact h.1.mono (hn c.1 (.head _))

/-! ## What is found -/

theorem stored?_concat (key : String) (calls : List Call) (c : Call) :
    stored? key (calls ++ [c]) = c.keeps key (stored? key calls) := by
  simp only [stored?, List.foldl_append, List.foldl_cons, List.foldl_nil]

/-- One call does to the text of a key what it does to a plain map. -/
theorem text_fresh?_apply (h : m.Endures now) (hk : m.IsKeyed) {key : String} {before : List Call}
    (hm : (m.fresh? key).map (·.text) = m.kept? key before) (c : Call) :
    ((c.apply now m).fresh? key).map (·.text) = m.kept? key (before ++ [c]) := by
  rw [kept?, stored?_concat]
  cases c with
  | set k text policy =>
    rw [Call.apply, fresh?_store, Call.keeps]
    by_cases hkey : key = k
    · rw [if_pos hkey, if_pos hkey, Option.bind_some]
      by_cases hends : (m.resolve policy).EndsAtOnce
      · rw [if_pos hends, if_pos hends]
        rfl
      · rw [if_neg hends, if_neg hends]
        rfl
    · rw [if_neg hkey, if_neg hkey]
      exact hm
  | get k =>
    rw [Call.apply, fresh?_touched h hk]
    by_cases hkey : key = k
    · subst hkey
      rw [if_pos rfl, Option.map_map]
      exact hm
    · rw [if_neg hkey]
      exact hm
  | remove k =>
    rw [Call.apply, fresh?_remove, Call.keeps]
    by_cases hkey : key = k
    · rw [if_pos hkey, if_pos hkey]
      rfl
    · rw [if_neg hkey, if_neg hkey]
      exact hm
  | contains k => exact hm
  | purge =>
    rw [Call.apply, fresh?_purge h hk]
    exact hm
  | clear => rfl

/-- So does a run: a key has what was stored under it last. -/
theorem text_fresh?_after (h : m.EnduresAll last calls) (hk : m.IsKeyed) {key : String}
    {before : List Call} (hm : (m.fresh? key).map (·.text) = m.kept? key before) :
    ((m.after calls).fresh? key).map (·.text) = m.kept? key (before ++ calls.map (·.2)) := by
  induction calls generalizing m before with
  | nil =>
    rw [List.map_nil, List.append_nil]
    exact hm
  | cons c calls ih =>
    obtain ⟨now, c⟩ := c
    have hkept (calls : List Call) : (c.apply now m).kept? key calls = m.kept? key calls := by
      unfold kept? resolve
      rw [defaults_apply]
    have hstep := text_fresh?_apply h.1 hk hm c
    rw [← hkept] at hstep
    have hrest := ih h.2 (hk.apply now c) hstep
    rw [hkept, List.append_assoc] at hrest
    exact hrest

theorem Endures.lookup_eq (h : m.Endures now) (hk : m.IsKeyed) (key : String) :
    (m.lookup now key).1 = (m.fresh? key).map (·.text) := by
  rw [fst_lookup, text?, h.live?_eq hk]

/-! ## What is counted -/

theorem hits_touched (m : Memory) (now : Nat) (key : String) :
    (m.touched now key).hits = m.hits + if (m.lookup now key).1.isSome then 1 else 0 := by
  unfold touched lookup
  cases m.live? now key <;> rfl

theorem misses_touched (m : Memory) (now : Nat) (key : String) :
    (m.touched now key).misses = m.misses + if (m.lookup now key).1.isSome then 0 else 1 := by
  unfold touched lookup
  cases m.live? now key <;> rfl

theorem counts_apply (m : Memory) (now : Nat) (c : Call) :
    (c.apply now m).hits = m.hits + (c.results now m).countP Option.isSome ∧
      (c.apply now m).hits + (c.apply now m).misses =
        m.hits + m.misses + if c.isGet then 1 else 0 := by
  cases c with
  | get key =>
    show (m.touched now key).hits = _ ∧ (m.touched now key).hits + (m.touched now key).misses = _
    rw [hits_touched, misses_touched, Call.results, Call.isGet, List.countP_singleton]
    refine ⟨rfl, ?_⟩
    split <;> simp <;> omega
  | set | remove | contains | purge | clear => exact ⟨rfl, rfl⟩

/-- Every lookup is counted once, as a hit if it gives a text. -/
theorem counts_after (m : Memory) (calls : Calls) :
    (m.after calls).hits = m.hits + (m.results calls).countP Option.isSome ∧
      (m.after calls).hits + (m.after calls).misses =
        m.hits + m.misses + calls.countP (·.2.isGet) := by
  induction calls generalizing m with
  | nil => exact ⟨rfl, rfl⟩
  | cons c calls ih =>
    obtain ⟨now, c⟩ := c
    obtain ⟨hhits, hboth⟩ := counts_apply m now c
    obtain ⟨hhits', hboth'⟩ := ih (c.apply now m)
    rw [List.countP_cons, results, List.countP_append]
    change ((c.apply now m).after calls).hits = _ ∧
      ((c.apply now m).after calls).hits + ((c.apply now m).after calls).misses =
        m.hits + m.misses + (calls.countP (·.2.isGet) + if c.isGet then 1 else 0)
    constructor <;> omega

/-! ## Purging in between -/

/-- The memories hold the same entries that count, and have counted the same. -/
structure Alike (m m' : Memory) : Prop where
  fresh : ∀ key, m'.fresh? key = m.fresh? key
  defaults : m'.defaults = m.defaults
  hits : m'.hits = m.hits
  misses : m'.misses = m.misses

theorem Alike.endures (h : m.Alike m') (hk : m.IsKeyed) (hk' : m'.IsKeyed) (he : m.Endures now) :
    m'.Endures now := by
  rw [endures_iff hk] at he
  rw [endures_iff hk']
  intro key e hkey
  rw [h.fresh] at hkey
  exact he key e hkey

/-- Memories that are alike answer alike. -/
theorem Alike.lookup_eq (h : m.Alike m') (hk : m.IsKeyed) (hk' : m'.IsKeyed) (he : m.Endures now)
    (key : String) :
    (m'.lookup now key).1 = (m.lookup now key).1 ∧ m'.contains now key = m.contains now key := by
  have he' := h.endures hk hk' he
  constructor
  · rw [he.lookup_eq hk, he'.lookup_eq hk', h.fresh]
  · rw [contains, contains, he.live?_eq hk, he'.live?_eq hk', h.fresh]

/-- And they stay alike over every call. -/
theorem Alike.apply (h : m.Alike m') (hk : m.IsKeyed) (hk' : m'.IsKeyed) (he : m.Endures now)
    (c : Call) : (c.apply now m).Alike (c.apply now m') := by
  have he' := h.endures hk hk' he
  cases c with
  | set k text policy =>
    refine ⟨fun key => ?_, h.defaults, h.hits, h.misses⟩
    have hresolve : m'.resolve policy = m.resolve policy := by
      unfold resolve
      rw [h.defaults]
    rw [Call.apply, Call.apply, fresh?_store, fresh?_store, hresolve, h.fresh]
  | get k =>
    have hlookup := (h.lookup_eq hk hk' he k).1
    refine ⟨fun key => ?_, ?_, ?_, ?_⟩
    · rw [Call.apply, Call.apply, fresh?_touched he hk, fresh?_touched he' hk', h.fresh, h.fresh]
    · rw [defaults_apply, defaults_apply, h.defaults]
    · rw [Call.apply, Call.apply, hits_touched, hits_touched, hlookup, h.hits]
    · rw [Call.apply, Call.apply, misses_touched, misses_touched, hlookup, h.misses]
  | remove k =>
    refine ⟨fun key => ?_, h.defaults, h.hits, h.misses⟩
    rw [Call.apply, Call.apply, fresh?_remove, fresh?_remove, h.fresh]
  | contains k => exact h
  | purge =>
    refine ⟨fun key => ?_, h.defaults, h.hits, h.misses⟩
    rw [Call.apply, Call.apply, fresh?_purge he hk, fresh?_purge he' hk', h.fresh]
  | clear => exact ⟨fun _ => rfl, h.defaults, h.hits, h.misses⟩

theorem Alike.purge (h : m.Alike m') (hk' : m'.IsKeyed) (he' : m'.Endures now) :
    m.Alike (m'.purge now) := by
  refine ⟨fun key => ?_, h.defaults, h.hits, h.misses⟩
  rw [fresh?_purge he' hk', h.fresh]

/-- The second run is the first with calls of `purge` anywhere in it. -/
inductive PurgedBetween : Calls → Calls → Prop
  | nil : PurgedBetween [] []
  | call (c : Nat × Call) {calls calls' : Calls} :
    PurgedBetween calls calls' → PurgedBetween (c :: calls) (c :: calls')
  | purge (now : Nat) {calls calls' : Calls} :
    PurgedBetween calls calls' → PurgedBetween calls ((now, .purge) :: calls')

theorem PurgedBetween.sublist (h : PurgedBetween calls calls') : calls.Sublist calls' := by
  induction h with
  | nil => exact .slnil
  | call c _ ih => exact ih.cons_cons c
  | purge now _ ih => exact ih.cons _

/-- Purging in between leaves a run alike, where the times are in order. -/
theorem PurgedBetween.alike (h : PurgedBetween calls calls') (ha : m.Alike m') (hk : m.IsKeyed)
    (hk' : m'.IsKeyed) (he : m.EnduresAll last calls)
    (ho : (calls'.map (·.1) ++ [last]).Pairwise (· ≤ ·)) :
    (m.after calls).Alike (m'.after calls') := by
  induction h generalizing m m' with
  | nil => exact ha
  | call c _ ih =>
    obtain ⟨hnow, hrest⟩ := he
    exact ih (ha.apply hk hk' hnow c.2) (hk.apply c.1 c.2) (hk'.apply c.1 c.2) hrest
      (List.pairwise_cons.1 ho).2
  | purge now hbetween ih =>
    obtain ⟨hle, ho⟩ := List.pairwise_cons.1 ho
    -- the calls that are left come no earlier, and what counts lasts until then
    have hnow : m.Endures now := by
      apply he.endures
      intro t ht
      exact hle t (((hbetween.sublist.map (·.1)).append_right [last]).subset ht)
    exact ih (ha.purge hk' (ha.endures hk hk' hnow)) hk (hk'.filter _) he ho

/-- **What a cache returns.** Over any run of calls on a new cache, whatever its defaults, let no
entry expire but those whose policy ends at once. Then a lookup gives what was stored under its key
last and not removed since, if that did not end at once, and nothing otherwise; whether a key is
there says the same and changes nothing. Every lookup is counted, as a hit where it gave a text.
Purging anywhere in between changes neither what is found nor what is counted. -/
theorem returns_latest (defaults : Policy) {calls : Calls} {now : Nat}
    (h : (empty defaults).EnduresAll now calls) :
    let m := (empty defaults).after calls
    (∀ key, (m.lookup now key).1 = (empty defaults).kept? key (calls.map (·.2))) ∧
    (∀ key, m.contains now key = (m.lookup now key).1.isSome ∧
      (Call.contains key).apply now m = m) ∧
    m.hits + m.misses = calls.countP (·.2.isGet) ∧
    m.hits = ((empty defaults).results calls).countP Option.isSome ∧
    ∀ calls', PurgedBetween calls calls' → (calls'.map (·.1) ++ [now]).Pairwise (· ≤ ·) →
      let m' := (empty defaults).after calls'
      (∀ key, (m'.lookup now key).1 = (m.lookup now key).1 ∧
        m'.contains now key = m.contains now key) ∧
      m'.hits = m.hits ∧ m'.misses = m.misses := by
  intro m
  have hempty : (empty defaults).IsKeyed := List.nodup_nil
  have hrefl : (empty defaults).Alike (empty defaults) := ⟨fun _ => rfl, rfl, rfl, rfl⟩
  have hend : m.Endures now := h.endures_after
  have hkeyed : m.IsKeyed := hempty.after calls
  have hfound (key : String) :
      (m.lookup now key).1 = (empty defaults).kept? key (calls.map (·.2)) := by
    have hnone : ((empty defaults).fresh? key).map (·.text) = (empty defaults).kept? key [] := rfl
    rw [hend.lookup_eq hkeyed]
    exact text_fresh?_after h hempty hnone
  obtain ⟨hhits, hboth⟩ := counts_after (empty defaults) calls
  refine ⟨hfound, ?_, ?_, ?_, ?_⟩
  · intro key
    refine ⟨?_, rfl⟩
    rw [contains, hend.live?_eq hkeyed, hend.lookup_eq hkeyed, Option.isSome_map]
  · exact hboth.trans (Nat.zero_add _)
  · exact hhits.trans (Nat.zero_add _)
  · intro calls' hbetween hordered m'
    have halike := hbetween.alike hrefl hempty hempty h hordered
    refine ⟨?_, halike.hits, halike.misses⟩
    intro key
    exact halike.lookup_eq hkeyed (hempty.after calls') hend key

theorem returns_latest_minute :
    let defaults := Policy.after 60000000000
    let calls : Calls :=
      [(0, .set "a" "1" .inherit), (1, .set "b" "2" (.after 0)),
        (2, .set "c" "3" ⟨none, some 30000000000, false⟩), (20000000000, .get "c"),
        (20000000000, .get "b"), (40000000000, .set "a" "4" .never),
        (45000000000, .set "d" "5" .inherit), (46000000000, .remove "d")]
    let m := (empty defaults).after calls
    (m.lookup 49000000000 "a").1 = some "4" ∧ (m.lookup 49000000000 "c").1 = some "3" ∧
      (m.lookup 49000000000 "b").1 = none ∧ (m.lookup 49000000000 "d").1 = none ∧
      m.hits = 1 ∧ m.hits + m.misses = 2 ∧
      let m' := (empty defaults).after ((calls.take 2) ++ (1, .purge) :: calls.drop 2)
      (∀ key, (m'.lookup 49000000000 key).1 = (m.lookup 49000000000 key).1) ∧ m'.misses = 1 := by
  intro defaults calls m
  obtain ⟨hfound, -, hboth, hhits, hpurged⟩ :=
    returns_latest defaults (show (empty defaults).EnduresAll 49000000000 calls by decide)
  have hbetween : PurgedBetween calls ((calls.take 2) ++ (1, .purge) :: calls.drop 2) :=
    .call _ (.call _ (.purge _ (.call _ (.call _ (.call _ (.call _ (.call _ (.call _ .nil))))))))
  obtain ⟨hsame, -, hmisses⟩ := hpurged _ hbetween (by decide)
  refine ⟨(hfound "a").trans (by decide), (hfound "c").trans (by decide),
    (hfound "b").trans (by decide), (hfound "d").trans (by decide), hhits.trans (by decide),
    hboth.trans (by decide), fun key => (hsame key).1, ?_⟩
  have hone : m.misses = 1 := by
    have htwo : m.hits + m.misses = 2 := hboth.trans (by decide)
    have hhit : m.hits = 1 := hhits.trans (by decide)
    omega
  exact hmisses.trans hone

end Memory

end Polydialect.Cache
