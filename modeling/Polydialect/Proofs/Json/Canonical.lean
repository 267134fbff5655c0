import Mathlib.Data.List.Forall2
import Polydialect.Proofs.Json.Reading

/-!
# The order of names

Values under names stand in the order of their names (`Keyed.ordered_ofPairs`), and what stands in
that order is left alone (`Keyed.ofPairs_eq_self`). So the canonical form of a value is its own
canonical form (`Json.isCanonical_canonical`), and what is read from the text of a canonical value
is canonical (`Json.isCanonical_reread`).
-/

namespace Polydialect

/-- Results for every item of a list. -/
theorem mapM_eq_some_iff {α β : Type} {f : α → Option β} {as : List α} {bs : List β} :
    as.mapM f = some bs ↔ List.Forall₂ (fun a b => f a = some b) as bs := by
  induction as generalizing bs with
  | nil => simp [eq_comm]
  | cons a as ih =>
    rw [List.mapM_cons, List.forall₂_cons_left_iff]
    cases f a with
    | none => simp
    | some b =>
      cases has : as.mapM f with
      | none => simp [← ih, has]
      | some bs => simp [← ih, has, eq_comm]

/-- What holds of the results of all items. -/
theorem forall_mem_of_forall₂ {α β : Type} {R : α → β → Prop} {P : β → Prop} {as : List α}
    {bs : List β} (h : List.Forall₂ R as bs) (hp : ∀ a ∈ as, ∀ b, R a b → P b) : ∀ b ∈ bs, P b := by
  induction h with
  | nil => exact fun b hb => absurd hb List.not_mem_nil
  | cons hr _ ih =>
    obtain ⟨ha, has⟩ := List.forall_mem_cons.1 hp
    exact List.forall_mem_cons.2 ⟨ha _ hr, ih has⟩

namespace Keyed

variable {α β : Type}

/-- The names increase. -/
def Ordered (ps : List (String × α)) : Prop := (ps.map (·.1)).Pairwise (· < ·)

theorem mem_insert {k : String} {v : α} {m : Keyed α} {p : String × α} (h : p ∈ insert k v m) :
    p = (k, v) ∨ p ∈ m := by
  induction m with
  | nil => exact .inl (List.mem_singleton.1 h)
  | cons q m ih =>
    rw [insert] at h
    split at h
    · exact List.mem_cons.1 h
    · split at h
      · exact (List.mem_cons.1 h).imp id (List.mem_cons_of_mem q)
      · rcases List.mem_cons.1 h with rfl | h
        · exact .inr List.mem_cons_self
        · exact (ih h).imp id (List.mem_cons_of_mem q)

theorem ordered_cons {p : String × α} {ps : List (String × α)} :
    Ordered (p :: ps) ↔ (∀ q ∈ ps, p.1 < q.1) ∧ Ordered ps := by
  simp [Ordered, List.pairwise_map]

theorem ordered_insert (k : String) (v : α) {m : Keyed α} (h : Ordered m) :
    Ordered (insert k v m) := by
  induction m with
  | nil => exact List.pairwise_singleton _ _
  | cons q m ih =>
    obtain ⟨hq, hm⟩ := ordered_cons.1 h
    rw [insert]
    split
    · rename_i hlt
      refine ordered_cons.2 ⟨fun p hp => ?_, h⟩
      rcases List.mem_cons.1 hp with rfl | hp
      · exact hlt
      · exact String.lt_trans hlt (hq p hp)
    · rename_i hle
      split
      · rename_i heq
        exact ordered_cons.2 ⟨fun p hp => heq ▸ hq p hp, hm⟩
      · rename_i hne
        refine ordered_cons.2 ⟨fun p hp => ?_, ih hm⟩
        rcases mem_insert hp with rfl | hp
        · refine String.not_le.1 fun hge => hne ?_
          exact String.le_antisymm hge (String.not_lt.1 hle)
        · exact hq p hp

theorem mem_foldl {ps : List (String × α)} {acc : Keyed α} {p : String × α}
    (h : p ∈ ps.foldl (fun m p => insert p.1 p.2 m) acc) : p ∈ ps ∨ p ∈ acc := by
  induction ps generalizing acc with
  | nil => exact .inr h
  | cons q ps ih =>
    rcases ih h with h | h
    · exact .inl (List.mem_cons_of_mem q h)
    · rcases mem_insert h with rfl | h
      · exact .inl List.mem_cons_self
      · exact .inr h

theorem mem_ofPairs {ps : List (String × α)} {p : String × α} (h : p ∈ ofPairs ps) : p ∈ ps :=
  (mem_foldl h).elim id fun h => absurd h List.not_mem_nil

theorem ordered_foldl (ps : List (String × α)) {acc : Keyed α} (h : Ordered acc) :
    Ordered (ps.foldl (fun m p => insert p.1 p.2 m) acc) := by
  induction ps generalizing acc with
  | nil => exact h
  | cons q ps ih => exact ih (ordered_insert _ _ h)

theorem ordered_ofPairs (ps : List (String × α)) : Ordered (ofPairs ps) :=
  ordered_foldl ps List.Pairwise.nil

/-- A name after all others is put at the end. -/
theorem insert_eq_append {k : String} (v : α) {m : Keyed α} (h : ∀ p ∈ m, p.1 < k) :
    insert k v m = m ++ [(k, v)] := by
  induction m with
  | nil => rfl
  | cons q m ih =>
    obtain ⟨hq, hm⟩ := List.forall_mem_cons.1 h
    have hne : k ≠ q.1 := fun heq => String.lt_irrefl q.1 (heq ▸ hq)
    rw [insert, if_neg (String.lt_asymm hq), if_neg hne, ih hm]
    rfl

theorem foldl_eq_append {ps : List (String × α)} (acc : Keyed α) (h : Ordered (acc ++ ps)) :
    ps.foldl (fun m p => insert p.1 p.2 m) acc = acc ++ ps := by
  induction ps generalizing acc with
  | nil => exact (List.append_nil acc).symm
  | cons q ps ih =>
    have hlast : ∀ p ∈ acc, p.1 < q.1 := by
      have hpair := List.pairwise_append.1 (List.pairwise_map.1 h)
      exact fun p hp => hpair.2.2 p hp q List.mem_cons_self
    rw [List.foldl_cons, insert_eq_append q.2 hlast]
    have hrest : Ordered ((acc ++ [q]) ++ ps) := by
      rw [List.append_assoc]
      exact h
    rw [ih _ hrest, List.append_assoc]
    rfl

theorem ofPairs_eq_self {ps : List (String × α)} (h : Ordered ps) : ofPairs ps = ps :=
  foldl_eq_append [] h

/-- The order is a matter of the names only. -/
theorem Ordered.congr {ps : List (String × α)} {qs : List (String × β)} (h : Ordered ps)
    (hnames : qs.map (·.1) = ps.map (·.1)) : Ordered qs := by
  rw [Ordered, hnames]
  exact h

/-- Values that are read under their names keep them. -/
theorem map_fst_eq {f : α → Option β} {ps : List (String × α)} {qs : List (String × β)}
    (h : List.Forall₂ (fun p q => ((f p.2).map fun b => (p.1, b)) = some q) ps qs) :
    qs.map (·.1) = ps.map (·.1) := by
  induction h with
  | nil => rfl
  | cons hp _ ih =>
    obtain ⟨b, -, rfl⟩ := Option.map_eq_some_iff.1 hp
    rw [List.map_cons, ih, List.map_cons]

end Keyed

namespace Json

/-! ## Canonical values -/

/-- The names of every object stand in their order. -/
def IsCanonical (j : Json) : Prop := j.canonical = j

theorem canonicalItems_eq_map (items : List Json) : canonicalItems items = items.map canonical := by
  induction items with
  | nil => rfl
  | cons j items ih => rw [canonicalItems, ih, List.map_cons]

theorem canonicalMembers_eq_map (members : List (String × Json)) :
    canonicalMembers members = members.map fun p => (p.1, p.2.canonical) := by
  induction members with
  | nil => rfl
  | cons p members ih => rw [canonicalMembers, ih, List.map_cons]

theorem map_fst_canonicalMembers (members : List (String × Json)) :
    (canonicalMembers members).map (·.1) = members.map (·.1) := by
  rw [canonicalMembers_eq_map, List.map_map]
  rfl

/-- A list that a function leaves alone. -/
theorem map_eq_self_iff {α : Type} {f : α → α} {as : List α} :
    as.map f = as ↔ ∀ a ∈ as, f a = a := by
  simpa using List.map_inj_left (l := as) (f := f) (g := id)

theorem isCanonical_array {items : List Json} :
    IsCanonical (.array items) ↔ ∀ j ∈ items, j.IsCanonical := by
  rw [IsCanonical, canonical, canonicalItems_eq_map, Json.array.injEq, map_eq_self_iff]
  rfl

theorem isCanonical_object {members : List (String × Json)} :
    IsCanonical (.object members) ↔
      Keyed.Ordered members ∧ ∀ p ∈ members, p.2.IsCanonical := by
  -- the names in order, only the values are left to compare
  have hself (h : Keyed.Ordered members) :
      IsCanonical (.object members) ↔ ∀ p ∈ members, p.2.IsCanonical := by
    rw [IsCanonical, canonical, Json.object.injEq,
      Keyed.ofPairs_eq_self (h.congr (map_fst_canonicalMembers members)),
      canonicalMembers_eq_map, map_eq_self_iff]
    simp [Prod.ext_iff, IsCanonical]
  refine ⟨fun h => ?_, fun ⟨ho, h⟩ => (hself ho).2 h⟩
  have ho : Keyed.Ordered members := Json.object.inj h ▸ Keyed.ordered_ofPairs _
  exact ⟨ho, (hself ho).1 h⟩

theorem isCanonical_canonical (j : Json) : j.canonical.IsCanonical := by
  induction j using induct with
  | null => rfl
  | bool b => rfl
  | integer n => rfl
  | real x => rfl
  | string s => rfl
  | array items ih =>
    rw [canonical, isCanonical_array, canonicalItems_eq_map]
    exact List.forall_mem_map.2 ih
  | object members ih =>
    rw [canonical, isCanonical_object]
    refine ⟨Keyed.ordered_ofPairs _, fun p hp => ?_⟩
    have hmem := Keyed.mem_ofPairs hp
    rw [canonicalMembers_eq_map] at hmem
    obtain ⟨q, hq, rfl⟩ := List.mem_map.1 hmem
    exact ih q hq

/-! ## Values that are read again -/

/-- What is read from the text of a value where `depth` containers may be opened. -/
def reread? (depth : Nat) (j : Json) : Option Json := j.source.valueWithin? depth

theorem itemsWithin?_source (depth : Nat) (items : List Json) :
    Source.itemsWithin? depth (sourceItems items) = items.mapM (reread? depth) := by
  induction items with
  | nil => rfl
  | cons j items ih =>
    rw [sourceItems, Source.itemsWithin?, ih, List.mapM_cons]
    rfl

theorem membersWithin?_source (depth : Nat) (members : List (String × Json)) :
    Source.membersWithin? depth (sourceMembers members) =
      members.mapM fun p => (reread? depth p.2).map fun j => (p.1, j) := by
  induction members with
  | nil => rfl
  | cons p members ih =>
    rw [sourceMembers, Source.membersWithin?, ih, List.mapM_cons, Source.nameOf?_escaped]
    show ((reread? depth p.2).bind fun j => _) = _
    cases reread? depth p.2 <;> rfl

theorem reread?_array (depth : Nat) (items : List Json) :
    reread? (depth + 1) (.array items) = (items.mapM (reread? depth)).map .array := by
  rw [reread?, source, Source.valueWithin?, if_neg (Nat.succ_ne_zero depth), Nat.add_sub_cancel,
    itemsWithin?_source]

theorem reread?_object (depth : Nat) (members : List (String × Json)) :
    reread? (depth + 1) (.object members) =
      (members.mapM fun p => (reread? depth p.2).map fun j => (p.1, j)).map .object := by
  rw [reread?, source, Source.valueWithin?, if_neg (Nat.succ_ne_zero depth), Nat.add_sub_cancel,
    membersWithin?_source]

theorem isCanonical_realOf? {negative : Bool} {digits : Nat} {e : Int} {j : Json}
    (h : realOf? negative digits e = some j) : j.IsCanonical := by
  unfold realOf? at h
  simp only at h
  split at h
  · split at h
    · split at h
      · cases h
      · cases h
        rfl
    · split at h
      · cases h
        rfl
      · cases h
  · cases h
    rfl

theorem isCanonical_withPower? {negative : Bool} {digits : Nat} {e p : Int} {j : Json}
    (h : withPower? negative digits e p = some j) : j.IsCanonical := by
  unfold withPower? at h
  split at h
  · exact isCanonical_realOf? h
  · split at h
    · cases h
    · cases h
      rfl

theorem isCanonical_integerOf (negative : Bool) (n : Nat) : (integerOf negative n).IsCanonical := by
  unfold integerOf
  split
  · rfl
  · split <;> rfl

/-- The value of a number has no names. -/
theorem isCanonical_value? {n : Numeral} {j : Json} (h : n.value? = some j) : j.IsCanonical := by
  unfold Numeral.value? at h
  simp only at h
  split at h
  · cases h
    exact isCanonical_integerOf _ _
  · split at h
    · exact isCanonical_realOf? h
    · exact isCanonical_withPower? h

theorem isCanonical_reread {depth : Nat} {j j' : Json} (hc : j.IsCanonical)
    (h : reread? depth j = some j') : j'.IsCanonical := by
  -- a number may change, but the names of an object are read as they are
  induction j using induct generalizing depth j' with
  | null =>
    cases h
    rfl
  | bool b =>
    cases h
    rfl
  | integer n => exact isCanonical_value? h
  | real x =>
    cases x with
    | finite negative r => exact isCanonical_value? h
    | infinite negative =>
      cases h
      rfl
    | nan =>
      cases h
      rfl
  | string s =>
    obtain ⟨s', -, rfl⟩ := Option.map_eq_some_iff.1 h
    rfl
  | array items ih =>
    cases depth with
    | zero => cases h
    | succ depth =>
      rw [reread?_array] at h
      obtain ⟨items', hitems, rfl⟩ := Option.map_eq_some_iff.1 h
      have hitem := isCanonical_array.1 hc
      exact isCanonical_array.2 (forall_mem_of_forall₂ (mapM_eq_some_iff.1 hitems)
        fun j hj j' => ih j hj (hitem j hj))
  | object members ih =>
    cases depth with
    | zero => cases h
    | succ depth =>
      rw [reread?_object] at h
      obtain ⟨members', hmembers, rfl⟩ := Option.map_eq_some_iff.1 h
      obtain ⟨ho, hvalue⟩ := isCanonical_object.1 hc
      have hall := mapM_eq_some_iff.1 hmembers
      refine isCanonical_object.2 ⟨ho.congr (Keyed.map_fst_eq hall), ?_⟩
      refine forall_mem_of_forall₂ hall fun p hp q hq => ?_
      obtain ⟨j, hj, rfl⟩ := Option.map_eq_some_iff.1 hq
      exact ih p hp (hvalue p hp) hj

end Json

end Polydialect
