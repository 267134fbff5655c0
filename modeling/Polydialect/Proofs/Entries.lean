import Polydialect.Proofs.Running

/-!
# What a cache holds

A memory is known by what stands under each key. Every call of the cache changes what stands under
its own key only (`Memory.lookup_remove`, `lookup_put`, `lookup_touched`), and what was noted of a
session tells what was done to its memory (`Memory.Follows`).

* `Memory.text?_touched`, `text?_touched_later`: looking a key up changes no text that is read;
* `Memory.Follows.absent`: a key that is absent stays so until it is stored;
* `Memory.Follows.lasts`: a text that does not expire stays until its key is stored or removed.
-/

namespace Polydialect

namespace Cache

/-! ## Time -/

theorem hasPassed_mono {now later since since' : Nat} (hn : now ≤ later) (hs : since' ≤ since)
    {time : Option Nat} (h : hasPassed now since time = true) :
    hasPassed later since' time = true := by
  cases time with
  | none => exact h
  | some n =>
    simp only [hasPassed, decide_eq_true_eq] at h ⊢
    omega

theorem Entry.isExpired_mono {now later : Nat} (hn : now ≤ later) {e : Entry}
    (h : e.isExpired now = true) : e.isExpired later = true := by
  rw [Entry.isExpired, Bool.or_eq_true] at h ⊢
  exact h.imp (hasPassed_mono hn (Nat.le_refl _)) (hasPassed_mono hn (Nat.le_refl _))

/-- What never expires has no term of either kind. -/
def Policy.Lasts (p : Policy) : Prop := p.absolute = none ∧ p.sliding = none

instance (p : Policy) : Decidable p.Lasts := inferInstanceAs (Decidable (_ ∧ _))

theorem Entry.isExpired_of_lasts {e : Entry} (h : e.policy.Lasts) (now : Nat) :
    e.isExpired now = false := by
  simp [Entry.isExpired, h.1, h.2, hasPassed]

namespace Memory

variable (m : Memory) (now : Nat) (key k : String)

/-! ## Keys -/

/-- The text that a key is read as. -/
def text? : Option String := (m.live? now key).map (·.text)

/-- The memory after a key was looked up. -/
def touched : Memory := (m.lookup now key).2

theorem lookup_cons_ne {es : List (String × Entry)} (e : Entry) (h : key ≠ k) :
    ((k, e) :: es).lookup key = es.lookup key := by
  rw [List.lookup_cons, beq_eq_false_iff_ne.2 h]

theorem lookup_remove :
    (m.remove k).entries.lookup key = if key = k then none else m.entries.lookup key := by
  show (m.entries.filter (·.1 ≠ k)).lookup key = _
  induction m.entries with
  | nil => split <;> rfl
  | cons p es ih =>
    obtain ⟨k', e⟩ := p
    by_cases hk : k' = k
    · subst hk
      rw [List.filter_cons_of_neg (by simp), ih]
      split
      · rfl
      · rw [lookup_cons_ne _ _ e ‹_›]
    · rw [List.filter_cons_of_pos (by simpa using hk)]
      by_cases hkey : key = k'
      · subst hkey
        rw [List.lookup_cons_self, List.lookup_cons_self, if_neg hk]
      · rw [lookup_cons_ne _ _ e hkey, lookup_cons_ne _ _ e hkey, ih]

theorem lookup_put (e : Entry) :
    (m.put k e).entries.lookup key = if key = k then some e else m.entries.lookup key := by
  show ((k, e) :: (m.remove k).entries).lookup key = _
  by_cases h : key = k
  · rw [h, List.lookup_cons_self, if_pos rfl]
  · rw [lookup_cons_ne _ _ e h, lookup_remove, if_neg h, if_neg h]

theorem lookup_touched :
    (m.touched now k).entries.lookup key =
      if key = k then (m.live? now k).map fun e => { e with lastRead := now }
      else m.entries.lookup key := by
  rw [touched, lookup]
  cases m.live? now k with
  | none => exact m.lookup_remove key k
  | some e => exact m.lookup_put key k _

theorem defaults_touched : (m.touched now key).defaults = m.defaults := by
  rw [touched, lookup]
  split <;> rfl

theorem fst_lookup : (m.lookup now key).1 = m.text? now key := by
  rw [lookup, text?]
  cases m.live? now key <;> rfl

/-! ## Looking up -/

/-- An entry that is alive stays so when it counts as read. -/
theorem isExpired_touched {e : Entry} (he : e.isExpired now = false) :
    Entry.isExpired now { e with lastRead := now } = false := by
  rw [Entry.isExpired, Bool.or_eq_false_iff] at he ⊢
  refine ⟨he.1, Bool.eq_false_iff.2 fun h => ?_⟩
  rw [Bool.eq_false_iff] at he
  cases hs : e.policy.sliding with
  | none => simp [hs, hasPassed] at h
  | some n =>
    simp only [hs, hasPassed, decide_eq_true_eq, Nat.sub_self] at h he
    exact of_decide_eq_false he.2 (Nat.le_trans h (Nat.zero_le _))

theorem live?_eq_some_iff {e : Entry} :
    m.live? now key = some e ↔ m.entries.lookup key = some e ∧ e.isExpired now = false := by
  rw [live?, Option.filter_eq_some_iff, Bool.not_eq_true']

theorem live?_eq_none_iff :
    m.live? now key = none ↔ ∀ e, m.entries.lookup key = some e → e.isExpired now = true := by
  simp [live?, Option.filter_eq_none_iff]

/-- Looking a key up changes no text that is read. -/
theorem text?_touched : (m.touched now k).text? now key = m.text? now key := by
  rw [text?, live?, lookup_touched]
  split
  · subst key
    cases he : m.live? now k with
    | none => rw [text?, he]; rfl
    | some e =>
      have hx : e.isExpired now = false := ((m.live?_eq_some_iff now k).1 he).2
      rw [text?, he, Option.map_some, Option.filter_some, isExpired_touched now hx]
      rfl
  · rfl

/-- Nor does it change what is read later, but an entry that goes by the time since it was last read
starts anew. -/
theorem text?_touched_later {later : Nat} (hl : now ≤ later)
    (hs : key = k → ∀ e, m.live? now k = some e → e.policy.sliding = none) :
    (m.touched now k).text? later key = m.text? later key := by
  rw [text?, live?, lookup_touched]
  split
  · subst key
    cases he : m.live? now k with
    | none =>
      -- what has expired now is expired later
      have hgone : m.live? later k = none :=
        (m.live?_eq_none_iff later k).2 fun e hm =>
          e.isExpired_mono hl ((m.live?_eq_none_iff now k).1 he e hm)
      rw [text?, hgone]
      rfl
    | some e =>
      have hm : m.entries.lookup k = some e := ((m.live?_eq_some_iff now k).1 he).1
      have hn : e.policy.sliding = none := hs rfl e he
      have hx : Entry.isExpired later { e with lastRead := now } = e.isExpired later := by
        simp only [Entry.isExpired, hn, hasPassed]
      rw [text?, live?, hm, Option.map_some, Option.filter_some, Option.filter_some, hx]
      cases e.isExpired later <;> rfl
  · rfl

/-! ## Texts that stay -/

/-- The key has a text that never expires. -/
def Holds (text : String) : Prop :=
  ∃ e, m.entries.lookup key = some e ∧ e.text = text ∧ e.policy.Lasts

variable {m key} {text : String}

theorem Holds.text?_eq (h : m.Holds key text) (now : Nat) : m.text? now key = some text := by
  obtain ⟨e, he, rfl, hl⟩ := h
  rw [text?, (m.live?_eq_some_iff now key).2 ⟨he, Entry.isExpired_of_lasts hl now⟩]
  rfl

theorem Holds.touched (h : m.Holds key text) (now : Nat) : (m.touched now k).Holds key text := by
  obtain ⟨e, he, ht, hl⟩ := h
  rw [Holds, lookup_touched]
  split
  · subst key
    rw [(m.live?_eq_some_iff now k).2 ⟨he, Entry.isExpired_of_lasts hl now⟩]
    exact ⟨{ e with lastRead := now }, rfl, ht, hl⟩
  · exact ⟨e, he, ht, hl⟩

theorem holds_store (m : Memory) (now : Nat) (key text : String) {p : Policy}
    (hp : (m.resolve p).Lasts) : (m.store now key text p).Holds key text :=
  ⟨⟨text, now, now, m.resolve p⟩, by rw [store, lookup_put, if_pos rfl], rfl, hp⟩

theorem Holds.store_of_ne (h : m.Holds key text) (hk : key ≠ k) (now : Nat) (text' : String)
    (p : Policy) : (m.store now k text' p).Holds key text := by
  rw [Holds, store, lookup_put, if_neg hk]
  exact h

theorem Holds.remove_of_ne (h : m.Holds key text) (hk : key ≠ k) : (m.remove k).Holds key text := by
  rw [Holds, lookup_remove, if_neg hk]
  exact h

end Memory

end Cache

/-! ## What was noted -/

namespace Event

/-- The key that is stored. -/
def stored? : Event → Option String
  | .cacheSet key _ _ => some key
  | _ => none

/-- The key that is removed or overwritten. -/
def altered? : Event → Option String
  | .cacheSet key _ _ => some key
  | .cacheRemove key => some key
  | _ => none

theorem stored?_eq_none {e : Event} (he : e.isCache = false) : e.stored? = none := by
  cases e with
  | cacheSet key text policy => cases he
  | _ => rfl

theorem false_of_stored {es : List Event} (h : ∀ e ∈ es, e.stored? = none) {e : Event} (he : e ∈ es)
    {key : String} (hk : e.stored? = some key) : False := by
  rw [h e he] at hk
  cases hk

/-- What an event makes of a memory. -/
def applyTo (m : Cache.Memory) (now : Nat) : Event → Cache.Memory
  | .cacheGet key _ => m.touched now key
  | .cacheSet key text policy => m.store now key text policy
  | .cacheRemove key => m.remove key
  | .connected | .refused | .executed _ | .queried _ | .cacheFailed _ => m

theorem applyTo_of_not_isCache {e : Event} (he : e.isCache = false) (m : Cache.Memory) (now : Nat) :
    e.applyTo m now = m := by
  cases e <;> first | rfl | cases he

end Event

namespace Cache.Memory

/-- The events make one memory of another, each at some time. -/
inductive Follows : Memory → List Event → Memory → Prop
  | nil (m : Memory) : Follows m [] m
  | cons {m m' : Memory} {e : Event} {es : List Event} (now : Nat) :
      Follows (e.applyTo m now) es m' → Follows m (e :: es) m'

variable {m m' m'' : Memory} {es es' : List Event}

theorem Follows.append (h : m.Follows es m') (h' : m'.Follows es' m'') :
    m.Follows (es ++ es') m'' := by
  induction h with
  | nil m => exact h'
  | cons now _ ih => exact .cons now (ih h')

theorem Follows.of_not_isCache (h : ∀ e ∈ es, e.isCache = false) (m : Memory) :
    m.Follows es m := by
  induction es with
  | nil => exact .nil m
  | cons e es ih =>
    obtain ⟨he, hes⟩ := List.forall_mem_cons.1 h
    refine .cons 0 ?_
    rw [Event.applyTo_of_not_isCache he]
    exact ih hes

/-- A key without an entry gets one by being stored, and in no other way. -/
theorem Follows.absent {key : String} (h : m.Follows es m') (hs : ∀ e ∈ es, e.stored? ≠ some key)
    (hm : m.entries.lookup key = none) : m'.entries.lookup key = none := by
  induction h with
  | nil m => exact hm
  | @cons m _ e _ now _ ih =>
    obtain ⟨he, hes⟩ := List.forall_mem_cons.1 hs
    refine ih hes ?_
    cases e with
    | cacheGet k found =>
      -- looking up what is missing puts nothing there
      rw [Event.applyTo, lookup_touched]
      split
      · subst key
        rw [live?, hm]
        rfl
      · exact hm
    | cacheSet k text policy =>
      have hk : key ≠ k := fun hk => he (congrArg some hk.symm)
      rw [Event.applyTo, store, lookup_put, if_neg hk]
      exact hm
    | cacheRemove k =>
      rw [Event.applyTo, lookup_remove]
      split
      · rfl
      · exact hm
    | _ => exact hm

/-- A text that does not expire stays until its key is removed or overwritten. -/
theorem Follows.lasts {key text : String} (h : m.Follows es m') (ha : ∀ e ∈ es, e.altered? ≠ some key)
    (hm : m.Holds key text) : m'.Holds key text := by
  induction h with
  | nil m => exact hm
  | @cons m _ e _ now _ ih =>
    obtain ⟨he, hes⟩ := List.forall_mem_cons.1 ha
    refine ih hes ?_
    cases e with
    | cacheGet k found => exact hm.touched k now
    | cacheSet k text' policy =>
      have hk : key ≠ k := fun hk => he (congrArg some hk.symm)
      exact hm.store_of_ne k hk now text' policy
    | cacheRemove k =>
      have hk : key ≠ k := fun hk => he (congrArg some hk.symm)
      exact hm.remove_of_ne k hk
    | _ => exact hm

end Cache.Memory

end Polydialect
