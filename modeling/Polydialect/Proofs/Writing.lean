import Polydialect.Proofs.Loading
import Polydialect.Repository.Write

/-!
# What writing an entity comes to

Inserting and updating draw a fresh global identifier and the time first, and then run the statement
of the entity that has them.

* `Repository.run_insert`, `run_update`: both from the statement on;
* `Repository.columnValue?_eq_some_iff`, `mem_rowValues_iff`: what an entity has for a column
  (`Repository.Fills`), and so what it writes;
* `Repository.runWrite_eq`: a write that asks nothing of the cache is compiled and run.
-/

namespace Polydialect.Repository

open Step

variable {α : Type} {r : Repository α}

section Entities

variable [Entity α] {e : α} {s : Session}

/-- The entity as it is inserted: with a fresh global identifier and the time. -/
def inserted (e : α) (s : Session) : α :=
  Entity.mapBase (.stamp (s.sources.guid s.guidsTaken).text (s.sources.now s.timesRead)) e

/-- The session after an identifier and the time were drawn. -/
def drawn (s : Session) : Session :=
  { s with guidsTaken := s.guidsTaken + 1, timesRead := s.timesRead + 1 }

/-- The entity that an insertion leaves: it learns its identity, if there is one. -/
def learned (e : α) : Except Error Int64 → α
  | .ok id => Entity.mapBase (fun b => { b with id := id }) e
  | .error _ => e

/-- The query that inserts an entity. -/
def insertQuery (r : Repository α) (e : α) : Query :=
  r.onTable (Query.empty.asInsert (r.rowValues e false))

theorem base_learned_inserted (e : α) (s : Session) (id : Int64) :
    Entity.base (learned (inserted e s) (.ok id)) =
      ⟨id, (s.sources.guid s.guidsTaken).text, some (s.sources.now s.timesRead),
        (Entity.base e).extend⟩ := by
  simp [learned, inserted, Entity.Base.stamp]

theorem run_insert (r : Repository α) (e : α) (s : Session) :
    (r.insert e).run s =
      ((result (r.insertRow (inserted e s)) (drawn s),
        learned (inserted e s) (result (r.insertRow (inserted e s)) (drawn s))),
        after (r.insertRow (inserted e s)) (drawn s)) := by
  show (match result (r.insertRow (inserted e s)) (drawn s) with
    | .ok id => pure (.ok id, learned (inserted e s) (.ok id))
    | .error failure => pure (.error failure, inserted e s) :
      Step (Except Error Int64 × α)).run (after (r.insertRow (inserted e s)) (drawn s)) = _
  cases result (r.insertRow (inserted e s)) (drawn s) <;> rfl

/-- The entity as it is updated: with the time, and with a fresh global identifier if it has
none. -/
def updated (e : α) (s : Session) : α :=
  Entity.mapBase
    (.stamp
      (if Guid.isValid (Entity.base e).guid then (Entity.base e).guid
        else (s.sources.guid s.guidsTaken).text)
      (s.sources.now s.timesRead))
    e

/-- The session after what an update needs was drawn. -/
def updating (e : α) (s : Session) : Session :=
  if Guid.isValid (Entity.base e).guid then { s with timesRead := s.timesRead + 1 } else drawn s

/-- Nothing happens without an identity. -/
theorem run_update_of_nonpos (h : (Entity.base e).id ≤ 0) :
    (r.update e).run s = ((.error (.misuse (.updateWithoutId r.table)), e), s) := by
  rw [update, if_pos h]
  rfl

theorem run_update (h : 0 < (Entity.base e).id) :
    (r.update e).run s =
      ((result (r.updateAll (r.updateQuery (updated e s))) (updating e s), updated e s),
        after (r.updateAll (r.updateQuery (updated e s))) (updating e s)) := by
  rw [update, if_neg (Int64.not_le.2 h), updated, updating]
  cases Guid.isValid (Entity.base e).guid <;> rfl

theorem journal_updating : (updating e s).journal = s.journal := by
  rw [updating]
  split <;> rfl

theorem after_update (r : Repository α) (e : α) (s : Session) :
    after (r.update e) s = s ∨ ∃ t, t.journal = s.journal ∧
      after (r.update e) s = after (r.updateAll (r.updateQuery (updated e s))) t := by
  by_cases h : (Entity.base e).id ≤ 0
  · exact .inl (congrArg Prod.snd (run_update_of_nonpos h))
  · exact .inr ⟨updating e s, journal_updating, congrArg Prod.snd (run_update (Int64.not_le.1 h))⟩

/-! ## What an entity has for a column -/

/-- What an entity writes into a column that is neither an identity nor named `Id`: base columns
come from the base fields and the column of the attributes from these. Into any other goes the value
under its name, and where there is none, an INSERT writes NULL. -/
structure Fills (e : α) (forUpdate : Bool) (c : Column) (v : Value) : Prop where
  plain : c.isIdentity = false
  unnamed : c.isNamed Column.idName = false
  guid : c.isNamed Column.guidName = true → v = .text (Entity.base e).guid
  modified : c.isNamed Column.modifiedName = true → v = timeValue (Entity.base e).modified
  extend : Entity.isBaseColumn c.name = false → c.isExtend = true →
    v = .text (attributesText (Entity.base e).extend)
  value : Entity.isBaseColumn c.name = false → c.isExtend = false →
    Entity.value? e c.name = some v ∨
      forUpdate = false ∧ Entity.value? e c.name = none ∧ v = .null

theorem not_isNamed_of_isNamed {c : Column} {a b : String} (h : c.isNamed a = true)
    (hab : Text.sameName a b = false) : c.isNamed b = false :=
  (Text.sameName_congr_left h b).trans hab

theorem isBaseColumn_eq (c : Column) : Entity.isBaseColumn c.name =
    (c.isNamed Column.idName || c.isNamed Column.guidName || c.isNamed Column.modifiedName) := by
  simp [Entity.isBaseColumn, Column.isNamed, Text.sameName_comm, Bool.or_assoc]

section ColumnValue

variable {forUpdate : Bool} {c : Column} {v : Value}

theorem columnValue?_guid (hn : c.isNamed Column.guidName = true) (hi : c.isIdentity = false) :
    columnValue? e forUpdate c = some (.text (Entity.base e).guid) := by
  have hid := not_isNamed_of_isNamed (b := Column.idName) hn (by decide)
  simp [columnValue?, hi, hid, hn]

theorem columnValue?_modified (hn : c.isNamed Column.modifiedName = true)
    (hi : c.isIdentity = false) :
    columnValue? e forUpdate c = some (timeValue (Entity.base e).modified) := by
  have hid := not_isNamed_of_isNamed (b := Column.idName) hn (by decide)
  have hguid := not_isNamed_of_isNamed (b := Column.guidName) hn (by decide)
  simp [columnValue?, hi, hid, hguid, hn]

/-- The attributes go into the column of attributes, and into any other the value under its name. -/
theorem columnValue?_of_not_base (hbase : Entity.isBaseColumn c.name = false)
    (hi : c.isIdentity = false) :
    columnValue? e forUpdate c =
      if c.isExtend then some (.text (attributesText (Entity.base e).extend))
      else (Entity.value? e c.name).or (if forUpdate then none else some .null) := by
  rw [isBaseColumn_eq, Bool.or_eq_false_iff, Bool.or_eq_false_iff] at hbase
  rw [columnValue?, hi, hbase.1.1, hbase.1.2, hbase.2]
  cases c.isExtend with
  | true => rfl
  | false => cases Entity.value? e c.name <;> rfl

/-- What is written is what the entity has for the column. -/
theorem columnValue?_eq_some_iff :
    columnValue? e forUpdate c = some v ↔ Fills e forUpdate c v := by
  constructor
  · intro h
    obtain ⟨hi, hid⟩ : c.isIdentity = false ∧ c.isNamed Column.idName = false := by
      rw [columnValue?] at h
      split at h
      · cases h
      · rename_i hplain
        simpa using hplain
    refine ⟨hi, hid, fun hguid => ?_, fun hmodified => ?_, fun hbase hx => ?_, fun hbase hx => ?_⟩
    · rw [columnValue?_guid hguid hi] at h
      exact (Option.some.inj h).symm
    · rw [columnValue?_modified hmodified hi] at h
      exact (Option.some.inj h).symm
    · rw [columnValue?_of_not_base hbase hi, if_pos hx] at h
      exact (Option.some.inj h).symm
    · rw [columnValue?_of_not_base hbase hi, hx] at h
      cases hget : Entity.value? e c.name with
      | some w =>
        rw [hget] at h
        exact .inl h
      | none =>
        rw [hget] at h
        cases forUpdate with
        | true => cases h
        | false => exact .inr ⟨rfl, rfl, (Option.some.inj h).symm⟩
  · intro h
    cases hbase : Entity.isBaseColumn c.name with
    | true =>
      rw [isBaseColumn_eq, h.unnamed, Bool.false_or, Bool.or_eq_true] at hbase
      rcases hbase with hguid | hmodified
      · rw [columnValue?_guid hguid h.plain, h.guid hguid]
      · rw [columnValue?_modified hmodified h.plain, h.modified hmodified]
    | false =>
      rw [columnValue?_of_not_base hbase h.plain]
      cases hx : c.isExtend with
      | true => rw [h.extend hbase hx, if_pos rfl]
      | false =>
        rcases h.value hbase hx with hget | ⟨rfl, hget, rfl⟩
        · rw [hget]
          rfl
        · rw [hget]
          rfl

theorem mem_rowValues (hc : c ∈ r.columns) (hv : columnValue? e forUpdate c = some v) :
    (c.name, v) ∈ r.rowValues e forUpdate :=
  List.mem_filterMap.2 ⟨c, hc, by rw [hv]; rfl⟩

end ColumnValue

/-- An entity writes what it has for the columns of the repository. -/
theorem mem_rowValues_iff {forUpdate : Bool} {p : String × Value} :
    p ∈ r.rowValues e forUpdate ↔ ∃ c ∈ r.columns, c.name = p.1 ∧ Fills e forUpdate c p.2 := by
  constructor
  · intro hp
    obtain ⟨c, hc, hp⟩ := List.mem_filterMap.1 hp
    obtain ⟨v, hv, rfl⟩ := Option.map_eq_some_iff.1 hp
    exact ⟨c, hc, rfl, columnValue?_eq_some_iff.1 hv⟩
  · rintro ⟨c, hc, hname, hfills⟩
    have hp := mem_rowValues hc (columnValue?_eq_some_iff.2 hfills)
    rwa [hname] at hp

/-- What an entity writes goes into columns of the repository. -/
theorem map_fst_rowValues_subset (r : Repository α) (e : α) (forUpdate : Bool) :
    (r.rowValues e forUpdate).map (·.1) ⊆ r.columns.map (·.name) := by
  intro n hn
  obtain ⟨p, hp, rfl⟩ := List.mem_map.1 hn
  obtain ⟨c, hc, hname, -⟩ := mem_rowValues_iff.1 hp
  exact List.mem_map.2 ⟨c, hc, hname⟩

/-- The identity is not among what is written. -/
theorem rowValues_learned (r : Repository α) (e : α) (result : Except Error Int64)
    (forUpdate : Bool) : r.rowValues (learned e result) forUpdate = r.rowValues e forUpdate := by
  have hvalue (c : Column) : columnValue? (learned e result) forUpdate c =
      columnValue? e forUpdate c := by
    cases result <;> simp [learned, columnValue?]
  rw [rowValues, rowValues]
  simp only [hvalue]

/-! ## Writes -/

/-- Values are set one after the other, and nothing else is changed by that. -/
theorem foldl_set (q : Query) (values : List (String × Value)) :
    values.foldl (fun q p => q.set p.1 p.2) q =
      { q with
        assignments := q.assignments ++ values.map fun p => .value p.1 p.2
        action := if values.isEmpty then q.action else .update } := by
  induction values generalizing q with
  | nil => simp
  | cons p values ih =>
    rw [List.foldl_cons, ih]
    simp [Query.set, Query.assign]

theorem caching_updateQuery (r : Repository α) (e : α) : (r.updateQuery e).caching = none := by
  rw [updateQuery, foldl_set]
  rfl

end Entities

/-- An insertion gives a positive identity back. -/
theorem insertedId_eq_ok_iff {v : Option Value} {id : Int64} :
    r.insertedId v = .ok id ↔ v.bind Value.int? = some id ∧ 0 < id := by
  have hfilter : r.insertedId v = .ok id ↔ (v.bind Value.int?).filter (0 < ·) = some id := by
    rw [insertedId]
    cases (v.bind Value.int?).filter (0 < ·) <;> simp
  rw [hfilter, Option.filter_eq_some_iff, decide_eq_true_eq]

theorem insertedId_eq_error {v : Option Value} (h : ∀ id, r.insertedId v ≠ .ok id) :
    r.insertedId v = .error (.driver "insert returned no identity" ("inserting into " ++ r.table)) ∧
      ∀ id, v.bind Value.int? = some id → id ≤ 0 := by
  constructor
  · rw [insertedId]
    split
    · rename_i id hid
      refine absurd ?_ (h id)
      rw [insertedId, hid]
    · rfl
  · intro id hid
    by_contra hpos
    exact h id (insertedId_eq_ok_iff.2 ⟨hid, Int64.not_le.1 hpos⟩)

/-- A write that asks nothing of the cache is compiled and run. -/
theorem runWrite_eq {q : Query} (hc : q.caching = none) :
    r.runWrite q = (do
      let c ← r.db.compile .action (r.onTable q)
      r.db.execute c.statement : Run UInt64) := by
  have hclear : (r.onTable q).clearCaching = r.onTable q := by
    show { r.onTable q with caching := none } = r.onTable q
    rw [← hc]
    rfl
  have hprepare : Caching.prepare (r.onTable q) = pure (r.onTable q, none) := by
    rw [Caching.prepare, show (r.onTable q).caching = none from hc, hclear]
  rw [runWrite, hprepare]
  rfl

end Polydialect.Repository
