import Polydialect.Proofs.Retaining

/-!
# Entries that stay

A policy that is persistent keeps the defaults of a cache away from its entry. Whether the entry
expires is decided by its terms alone, and a persistent policy may have terms as well.

* `Memory.Holds.after`: a text without terms stays over every run that leaves its key alone;
* `Memory.persists_iff`: a persistent entry stays for good if and only if it has no term;
* `Memory.persistent_expires`: one that has a term is dropped like any other.
-/

namespace Polydialect.Cache

/-- A term is over that much later. -/
theorem hasPassed_later {since now : Nat} (h : since ≤ now) (time : Nat) :
    hasPassed (now + time) since (some time) = true := by
  simp only [hasPassed, decide_eq_true_eq]
  omega

/-- An entry with a term expires if it is left alone. -/
theorem Entry.exists_isExpired {e : Entry} (h : ¬ e.policy.Lasts) :
    ∃ now, e.createdAt ≤ now ∧ e.isExpired now = true := by
  cases ha : e.policy.absolute with
  | some time =>
    refine ⟨e.createdAt + time, Nat.le_add_right _ _, ?_⟩
    rw [Entry.isExpired, ha, hasPassed_later (Nat.le_refl _), Bool.true_or]
  | none =>
    obtain ⟨time, hs⟩ : ∃ time, e.policy.sliding = some time := by
      rw [← Option.ne_none_iff_exists']
      exact fun hs => h ⟨ha, hs⟩
    refine ⟨e.createdAt + e.lastRead + time, by omega, ?_⟩
    rw [Entry.isExpired, hs, hasPassed_later (Nat.le_add_left _ _), Bool.or_true]

namespace Memory

variable {m : Memory} {now : Nat} {key text : String}

/-- The call neither stores, removes nor clears what stands under the key. -/
def Call.Spares (key : String) : Call → Prop
  | .set k _ _ | .remove k => k ≠ key
  | .clear => False
  | .get _ | .contains _ | .purge => True

theorem Holds.purge (h : m.Holds key text) (hk : m.IsKeyed) (now : Nat) :
    (m.purge now).Holds key text := by
  obtain ⟨e, he, ht, hl⟩ := h
  have hpurged : ((m.purge now).entries.map (·.1)).Nodup := hk.filter _
  refine ⟨e, ?_, ht, hl⟩
  rw [lookup_eq_some_iff_mem hpurged]
  refine List.mem_filter.2 ⟨(lookup_eq_some_iff_mem hk).1 he, ?_⟩
  simp [Entry.isExpired_of_lasts hl]

/-- A text without terms stays over a call that spares its key. -/
theorem Holds.apply (h : m.Holds key text) (hk : m.IsKeyed) {c : Call} (hc : c.Spares key)
    (now : Nat) : (c.apply now m).Holds key text := by
  cases c with
  | set k text' policy => exact h.store_of_ne k (Ne.symm hc) now text' policy
  | get k => exact h.touched k now
  | remove k => exact h.remove_of_ne k (Ne.symm hc)
  | contains k => exact h
  | purge => exact h.purge hk now
  | clear => exact hc.elim

/-- So it does over a run of such calls. -/
theorem Holds.after {calls : Calls} (h : m.Holds key text) (hk : m.IsKeyed)
    (hc : ∀ c ∈ calls, c.2.Spares key) : (m.after calls).Holds key text := by
  induction calls generalizing m with
  | nil => exact h
  | cons c calls ih =>
    obtain ⟨hfirst, hrest⟩ := List.forall_mem_cons.1 hc
    exact ih (h.apply hk hfirst c.1) (hk.apply c.1 c.2) hrest

theorem after_append (m : Memory) (calls calls' : Calls) :
    m.after (calls ++ calls') = (m.after calls).after calls' := List.foldl_append

/-- The defaults do not reach a persistent policy. -/
theorem resolve_persistent (m : Memory) (absolute sliding : Option Nat) :
    m.resolve ⟨absolute, sliding, true⟩ = ⟨absolute, sliding, true⟩ := rfl

/-- **When a persistent entry stays.** Whatever the defaults of a cache are and whatever was called
before, let a text be stored under a key with a persistent policy. Then every later lookup gives the
text and no purge takes it away, as long as the key is not stored again, removed or cleared, if and
only if the policy has neither an absolute nor a sliding term. -/
theorem persists_iff (defaults : Policy) (before : Calls) (start : Nat) (key text : String)
    (absolute sliding : Option Nat) :
    (∀ (later : Calls) (now : Nat),
      (start :: later.map (·.1) ++ [now]).Pairwise (· ≤ ·) → (∀ c ∈ later, c.2.Spares key) →
      let m := (empty defaults).after
        (before ++ (start, .set key text ⟨absolute, sliding, true⟩) :: later)
      (m.lookup now key).1 = some text ∧ ((m.purge now).entries.lookup key).isSome) ↔
      absolute = none ∧ sliding = none := by
  have hempty : (empty defaults).IsKeyed := List.nodup_nil
  have hkeyed : ((empty defaults).after before).IsKeyed := hempty.after before
  constructor
  · intro h
    refine Decidable.byContradiction fun hterms => ?_
    -- nothing is called until one of the terms is over
    obtain ⟨now, hnow, hexpired⟩ :=
      Entry.exists_isExpired (e := ⟨text, start, start, ⟨absolute, sliding, true⟩⟩) hterms
    have hordered : [start, now].Pairwise (· ≤ ·) := List.pairwise_pair.2 hnow
    obtain ⟨hfound, -⟩ := h [] now hordered (fun _ hc => absurd hc List.not_mem_nil)
    rw [after_append, fst_lookup, text?] at hfound
    obtain ⟨e, he, -⟩ := Option.map_eq_some_iff.1 hfound
    obtain ⟨hstored, halive⟩ := (live?_eq_some_iff _ now key).1 he
    change (store _ start key text _).entries.lookup key = some e at hstored
    rw [store, resolve_persistent, lookup_put, if_pos rfl, Option.some.injEq] at hstored
    rw [← hstored, hexpired] at halive
    cases halive
  · rintro ⟨rfl, rfl⟩ later now - hspares m
    have hstored : (((empty defaults).after before).store start key text .never).Holds key text :=
      holds_store _ start key text ⟨rfl, rfl⟩
    have hholds : m.Holds key text := by
      have hm : m = (((empty defaults).after before).store start key text .never).after later :=
        after_append _ _ _
      rw [hm]
      exact hstored.after (hkeyed.put key _) hspares
    have hk : m.IsKeyed := hempty.after _
    constructor
    · rw [fst_lookup, hholds.text?_eq]
    · obtain ⟨e, he, -⟩ := hholds.purge hk now
      rw [he]
      rfl

/-- A persistent entry that has a term of no time: it is gone at once. -/
theorem persistent_expires :
    let m := (empty .inherit).after [(0, .set "k" "v" ⟨some 0, none, true⟩)]
    (m.lookup 0 "k").1 = none ∧ (m.purge 0).entries.lookup "k" = none := by
  decide

end Memory

end Polydialect.Cache
