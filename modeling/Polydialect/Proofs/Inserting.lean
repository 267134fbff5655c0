import Polydialect.Proofs.Requesting
import Polydialect.Proofs.Storing

/-!
# Entities that are inserted one after the other

Inserting an entity either gives it its identity (`Repository.Inserts`) or fails and leaves it with
the one that it had (`Repository.FailsToInsert`), and it sends at most the INSERT of the entity.
Entities are inserted one by one, up to the first that fails.

* `Repository.inserts_or_fails`: what becomes of one entity;
* `Repository.insertAll_stops_cleanly`: what becomes of all of them, by induction on the list.
-/

namespace Polydialect

open Step

namespace Repository

variable {α : Type} [Entity α] {r : Repository α} {e : α} {s : Session}

/-! ## One entity -/

/-- The INSERT of an entity. -/
def insertion (r : Repository α) (e : α) : Statement :=
  inserting r.db.dialect r.table (r.rowValues e false)

/-- The INSERT of an entity binds a value for a column: the value is bound to the placeholder that
has the place of the column. -/
def Binds (r : Repository α) (e : α) (c : Column) (v : Value) : Prop :=
  ∃ i, (r.rowValues e false)[i]? = some (c.name, v) ∧
    (r.insertion e).binding? (r.db.dialect.placeholder (i + 1)) = some v

theorem binds_of_columnValue? {c : Column} {v : Value} (hc : c ∈ r.columns)
    (hv : columnValue? e false c = some v) : r.Binds e c v := by
  obtain ⟨i, hi⟩ := List.mem_iff_getElem?.1 (mem_rowValues hc hv)
  refine ⟨i, hi, ?_⟩
  have hlookup := Statement.lookup_bind r.db.dialect 0 i ((r.rowValues e false).map (·.2))
  rw [Nat.zero_add, List.getElem?_map, hi] at hlookup
  exact hlookup

/-- Why an entity gets no identity: its INSERT does not compile, no connection is opened for it, it
fails, or it gives no positive identity back. In the first two cases nothing is sent. -/
inductive InsertFailure (r : Repository α) (replies : List Reply) (e : α) :
    Error → List Statement → Prop where
  | notCompiled {isLegacy : Bool} {now : Timestamp} {failure : Error}
      (h : (r.insertQuery e).compile ⟨r.db.dialect, isLegacy⟩ now .insertedId = .error failure) :
      InsertFailure r replies e failure []
  | refused {message : String} (h : .refusal message ∈ replies) :
      InsertFailure r replies e (r.db.refused message) []
  | failed {message : String} (h : .failure message ∈ replies) :
      InsertFailure r replies e (.driver message (r.insertion e).sql) [r.insertion e]
  | notIdentified {v : Option Value} (h : ∀ id, v.bind Value.int? = some id → id ≤ 0) :
      InsertFailure r replies e
        (.driver "insert returned no identity" ("inserting into " ++ r.table)) [r.insertion e]

theorem probe?_ne_insertion (r : Repository α) (e : α) :
    r.db.probe? ≠ some (r.insertion e) := by
  refine Database.probe?_ne_of_head? (c := 'I') (by decide) ?_
  rw [insertion, inserting, Query.insertReturning_eq_append, String.toList_append, List.head?_append]
  have hhead := Statement.head?_ofFragment (d := r.db.dialect) (c := 'I') (by decide)
    (f := .ofText ("INSERT INTO " ++ r.db.dialect.quote r.table ++ " (" ++
      r.db.dialect.quoteAll ((r.rowValues e false).map (·.1)) ++ ")" ++
        (" VALUES (" ++ (Fragment.markers ((r.rowValues e false).map (·.2))).text ++ ")")))
      (by simp [Fragment.ofText])
  rw [Statement.sql_ofFragment, Fragment.ofText] at hhead
  rw [hhead]
  rfl

/-- What is compiled is asked for one value, which has to be an identity. -/
theorem run_insertRow {c : Compiled} {t : Session}
    (hc : (r.db.compile .insertedId (r.insertQuery e)).run.run s = (.ok c, t)) :
    result (r.insertRow e) s = (do r.insertedId (← result (r.db.queryScalar c.statement) t)) ∧
      after (r.insertRow e) s = after (r.db.queryScalar c.statement) t := by
  have hrun : (r.insertRow e).run.run s = (do
      Run.ofExcept (r.insertedId (← r.db.queryScalar c.statement)) : Run Int64).run.run t :=
    Run.run_bind_of_ok hc fun c => do
      Run.ofExcept (r.insertedId (← r.db.queryScalar c.statement))
  constructor
  · refine (congrArg Prod.fst hrun).trans ((Run.result_bind _ _ _).trans ?_)
    cases result (r.db.queryScalar c.statement) t <;> rfl
  · refine (congrArg Prod.snd hrun).trans ((Run.after_bind _ _ _).trans ?_)
    cases result (r.db.queryScalar c.statement) t <;> rfl

/-- The row of an entity goes into the table, or not: an identity or a failure comes of it, and at
most the INSERT of the entity is sent. -/
def InsertsRow (r : Repository α) (e : α) (s t : Session) (result : Except Error Int64) : Prop :=
  (∃ id, result = .ok id ∧ 0 < id ∧ t.sent r.db = s.sent r.db ++ [r.insertion e]) ∨
    ∃ failure sts, result = .error failure ∧ t.sent r.db = s.sent r.db ++ sts ∧
      r.InsertFailure s.replies e failure sts

/-- What is replied to the INSERT decides. -/
theorem insertsRow_of_requested {u t : Session} {result : Except Error (Option Value)}
    (h : r.db.Requested (r.insertion e) u t result) (hsent : u.sent r.db = s.sent r.db)
    (hreplies : u.replies <:+ s.replies) : r.InsertsRow e s t (do r.insertedId (← result)) := by
  cases h with
  | refused head sent =>
    refine .inr ⟨_, [], rfl, by rw [sent, hsent, List.append_nil], .refused ?_⟩
    exact hreplies.subset (Engine.mem_of_refusal? head)
  | failed head sent =>
    refine .inr ⟨_, _, rfl, by rw [sent, hsent], .failed ?_⟩
    exact hreplies.subset (Engine.mem_of_failure? head)
  | given head sent =>
    rename_i v
    by_cases hid : ∃ id, r.insertedId v = .ok id
    · obtain ⟨id, hid⟩ := hid
      exact .inl ⟨id, hid, (insertedId_eq_ok_iff.1 hid).2, by rw [sent, hsent]⟩
    · obtain ⟨herror, hnone⟩ := insertedId_eq_error fun id h => hid ⟨id, h⟩
      exact .inr ⟨_, _, herror, by rw [sent, hsent], .notIdentified hnone⟩

/-- The INSERT of an entity is requested once its query is compiled. -/
theorem insertsRow_insertRow (r : Repository α) (e : α) (s : Session) :
    r.InsertsRow e s (after (r.insertRow e) s) (result (r.insertRow e) s) := by
  let u := after (r.db.compile .insertedId (r.insertQuery e)) s
  have hsent : u.sent r.db = s.sent r.db := Database.keeps_compile .insertedId _ s
  have hreplies : u.replies <:+ s.replies := Database.replies_compile r.db .insertedId _ s
  cases hc : result (r.db.compile .insertedId (r.insertQuery e)) s with
  | error failure =>
    obtain ⟨isLegacy, now, hcompile⟩ := Database.compile_eq_error hc
    have hrun : (r.insertRow e).run.run s = (.error failure, u) :=
      Run.run_bind_of_error (x := r.db.compile .insertedId (r.insertQuery e)) (Prod.ext hc rfl) _
    have hkept : (after (r.insertRow e) s).sent r.db = s.sent r.db ++ [] := by
      rw [List.append_nil, ← hsent]
      exact congrArg (fun p => p.2.sent r.db) hrun
    exact .inr ⟨failure, [], congrArg Prod.fst hrun, hkept, .notCompiled hcompile⟩
  | ok c =>
    obtain ⟨isLegacy, now, hcompile⟩ := Database.compile_eq_ok hc
    obtain ⟨hresult, hafter⟩ := run_insertRow (t := u) (Prod.ext hc rfl)
    rw [hresult, hafter, statement_insert hcompile]
    exact insertsRow_of_requested (Database.requested_queryScalar (r.probe?_ne_insertion e) u)
      hsent hreplies

/-- An entity is inserted: it has the identity that is given back for it, and the one statement that
is sent, its INSERT, binds the global identifier and the time that it has. -/
structure Inserts (r : Repository α) (s : Session) (e : α) (id : Int64) (e' : α) (t : Session) :
    Prop where
  run : (r.insert e).run s = ((.ok id, e'), t)
  pos : 0 < id
  identity : (Entity.base e').id = id
  valid : Guid.isValid (Entity.base e').guid = true
  stamped : ∃ now, (Entity.base e').modified = some now
  extend : (Entity.base e').extend = (Entity.base e).extend
  own : e' = Entity.setBase (Entity.base e') e
  sent : t.sent r.db = s.sent r.db ++ [r.insertion e']
  guid : ∀ c ∈ r.columns, c.isNamed Column.guidName = true → c.isIdentity = false →
    r.Binds e' c (.text (Entity.base e').guid)
  modified : ∀ c ∈ r.columns, c.isNamed Column.modifiedName = true → c.isIdentity = false →
    r.Binds e' c (timeValue (Entity.base e').modified)

/-- An entity is not inserted: it has the identity that it had. -/
structure FailsToInsert (r : Repository α) (s : Session) (e : α) (failure : Error) (e' : α)
    (sts : List Statement) (t : Session) : Prop where
  run : (r.insert e).run s = ((.error failure, e'), t)
  identity : (Entity.base e').id = (Entity.base e).id
  extend : (Entity.base e').extend = (Entity.base e).extend
  own : e' = Entity.setBase (Entity.base e') e
  sent : t.sent r.db = s.sent r.db ++ sts
  cause : r.InsertFailure s.replies e' failure sts

theorem inserts_or_fails (r : Repository α) (e : α) (s : Session) :
    (∃ id e' t, r.Inserts s e id e' t) ∨
      ∃ failure e' sts t, r.FailsToInsert s e failure e' sts t := by
  have hrun := run_insert r e s
  rcases insertsRow_insertRow r (inserted e s) (drawn s) with
    ⟨id, hid, hpos, hsent⟩ | ⟨failure, sts, hfailure, hsent, hcause⟩
  · rw [hid] at hrun
    have hbase := base_learned_inserted e s id
    have hinsertion :
        r.insertion (learned (inserted e s) (.ok id)) = r.insertion (inserted e s) := by
      rw [insertion, insertion, rowValues_learned]
    refine .inl ⟨id, _, _, hrun, hpos, ?_, ?_, ?_, ?_, ?_, ?_, fun c hc hn hi => ?_,
      fun c hc hn hi => ?_⟩
    · rw [hbase]
    · rw [hbase]
      exact (s.sources.guid s.guidsTaken).2
    · rw [hbase]
      exact ⟨_, rfl⟩
    · rw [hbase]
    · rw [learned, inserted, Entity.mapBase_mapBase]
      exact Entity.mapBase_eq_setBase _ e
    · rw [hinsertion]
      exact hsent
    · exact binds_of_columnValue? hc (columnValue?_guid hn hi)
    · exact binds_of_columnValue? hc (columnValue?_modified hn hi)
  · rw [hfailure] at hrun
    refine .inr ⟨failure, _, sts, _, hrun, ?_, ?_, ?_, hsent, hcause⟩
    · simp [learned, inserted, Entity.Base.stamp]
    · simp [learned, inserted, Entity.Base.stamp]
    · exact Entity.mapBase_eq_setBase _ e

/-! ## All entities -/

/-- Entities are inserted one after the other. -/
inductive InsertsAll (r : Repository α) :
    Session → List α → List Int64 → List α → Session → Prop where
  | nil (s : Session) : InsertsAll r s [] [] [] s
  | cons {s t u : Session} {e e' : α} {es es' : List α} {id : Int64} {ids : List Int64}
      (first : r.Inserts s e id e' t) (others : InsertsAll r t es ids es' u) :
      InsertsAll r s (e :: es) (id :: ids) (e' :: es') u

/-- The identities are those of the entities, and the statements that are sent are their INSERTs. -/
theorem InsertsAll.spec {es es' : List α} {ids : List Int64} {t : Session}
    (h : r.InsertsAll s es ids es' t) :
    ids.length = es.length ∧ ids = es'.map (fun e => (Entity.base e).id) ∧ (∀ id ∈ ids, 0 < id) ∧
      t.sent r.db = s.sent r.db ++ es'.map r.insertion := by
  induction h with
  | nil s => exact ⟨rfl, rfl, fun _ h => absurd h List.not_mem_nil, (List.append_nil _).symm⟩
  | cons first others ih =>
    obtain ⟨hlength, hids, hpos, hsent⟩ := ih
    refine ⟨congrArg Nat.succ hlength, ?_, List.forall_mem_cons.2 ⟨first.pos, hpos⟩, ?_⟩
    · rw [List.map_cons, first.identity, ← hids]
    · rw [hsent, first.sent, List.append_assoc]
      rfl

theorem run_insertAll_of_error {failure : Error} {e' : α} {t : Session}
    (h : (r.insert e).run s = ((.error failure, e'), t)) (es : List α) :
    (r.insertAll (e :: es)).run s = ((.error failure, e' :: es), t) := by
  rw [insertAll, StateT.run_bind, h]
  rfl

theorem run_insertAll_of_ok {id : Int64} {e' : α} {t u : Session} {es es' : List α}
    {ids : Except Error (List Int64)} (h : (r.insert e).run s = ((.ok id, e'), t))
    (hes : (r.insertAll es).run t = ((ids, es'), u)) :
    (r.insertAll (e :: es)).run s = ((ids.map (id :: ·), e' :: es'), u) := by
  rw [insertAll, StateT.run_bind, h]
  refine (StateT.run_bind (r.insertAll es) _ t).trans ?_
  rw [hes]
  rfl

theorem insertAll_spec (r : Repository α) (es : List α) (s : Session) :
    (∃ ids es' t, (r.insertAll es).run s = ((.ok ids, es'), t) ∧ r.InsertsAll s es ids es' t) ∨
    ∃ done e rest ids done' e' u failure sts t, es = done ++ e :: rest ∧
      (r.insertAll es).run s = ((.error failure, done' ++ e' :: rest), t) ∧
      r.InsertsAll s done ids done' u ∧ r.FailsToInsert u e failure e' sts t := by
  induction es generalizing s with
  | nil => exact .inl ⟨[], [], s, rfl, .nil s⟩
  | cons e es ih =>
    rcases inserts_or_fails r e s with ⟨id, e', t, h⟩ | ⟨failure, e', sts, t, h⟩
    · rcases ih t with ⟨ids, es', u, hrun, hall⟩ |
        ⟨done, f, rest, ids, done', f', u, failure, sts, v, hsplit, hrun, hdone, hfails⟩
      · exact .inl ⟨_, _, _, run_insertAll_of_ok h.run hrun, .cons h hall⟩
      · exact .inr ⟨e :: done, f, rest, _, e' :: done', f', u, failure, sts, v, congrArg _ hsplit,
          run_insertAll_of_ok h.run hrun, .cons h hdone, hfails⟩
    -- nothing behind the entity is looked at
    · exact .inr ⟨[], e, es, [], [], e', s, failure, sts, t, rfl, run_insertAll_of_error h.run es,
        .nil s, h⟩

/-- **Entities are inserted up to the first that fails.** Either every entity is inserted, and the
identities that are given are theirs, in order and positive; or the ones before one are inserted,
that one is not, and those behind it are left as they are, without a statement being sent for
them. -/
theorem insertAll_stops_cleanly (r : Repository α) (es : List α) (s : Session) :
    (∃ ids es' t, (r.insertAll es).run s = ((.ok ids, es'), t) ∧ r.InsertsAll s es ids es' t ∧
      ids.length = es.length ∧ ids = es'.map (fun e => (Entity.base e).id) ∧ (∀ id ∈ ids, 0 < id) ∧
      t.sent r.db = s.sent r.db ++ es'.map r.insertion) ∨
    ∃ done e rest ids done' e' u failure sts t, es = done ++ e :: rest ∧
      (r.insertAll es).run s = ((.error failure, done' ++ e' :: rest), t) ∧
      r.InsertsAll s done ids done' u ∧ r.FailsToInsert u e failure e' sts t ∧
      t.sent r.db = s.sent r.db ++ done'.map r.insertion ++ sts := by
  rcases insertAll_spec r es s with ⟨ids, es', t, hrun, hall⟩ |
    ⟨done, e, rest, ids, done', e', u, failure, sts, t, hsplit, hrun, hdone, hfails⟩
  · exact .inl ⟨ids, es', t, hrun, hall, hall.spec⟩
  · obtain ⟨-, -, -, hsent⟩ := hdone.spec
    exact .inr ⟨done, e, rest, ids, done', e', u, failure, sts, t, hsplit, hrun, hdone, hfails,
      by rw [hfails.sent, hsent]⟩

/-- Of three posts the first is inserted. The database gives no identity for the second, which got a
global identifier before that, and the third is not looked at. -/
example :
    let now : Timestamp := ⟨2024, 1, 1, 0, 0, 0, 0, by decide⟩
    let guid : Guid := ⟨"6f1c9a44-0b1e-4c57-9d0a-2f6f3f1f7a10", by decide⟩
    let s := (Session.start ⟨fun _ => guid, fun _ => now, fun _ => 0⟩ none).script
      [.answer 0 [⟨["Id"], [.int 7]⟩], .answer 0 []]
    let r : Repository Record :=
      ⟨⟨.sqlite, "", 0⟩, "Posts", [.identityColumn, .plain "GUID" .varchar]⟩
    let post : Record := ⟨⟨0, "", none, []⟩, []⟩
    ((result (r.insertAll [post, post, post]) s).2.map fun e => (e.base.id, e.base.guid)) =
        [(7, guid.text), (0, guid.text), (0, "")] ∧
      ((after (r.insertAll [post, post, post]) s).sent r.db).length = 2 := by
  decide +kernel

end Repository

end Polydialect
