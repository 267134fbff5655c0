import Mathlib.Control.Monad.Basic
import Polydialect.Proofs.Checking
import Polydialect.Proofs.Json.Depth
import Polydialect.Proofs.Operations
import Polydialect.Proofs.Writing

/-!
# Records that are stored and read

Writing and reading are made separately: a record is written column by column, and a row is read by
looking up the base columns, the column of the attributes and the others, each without regard to
case. Between them stands a row of the identity that has what was written (`Row.Holds`).

* `Repository.base_ofTableRow`, `get?_ofRow`: such a row is read as the base fields and values
  of the record;
* `Repository.run_materialize`: it has a global identifier, so that nothing is written back;
* `Repository.exists_compile_insert`, `result_insertRow`: the INSERT of valid names compiles, and
  the identity that the database gives for it is the result;
* `Repository.insert_then_read`: both together (`Repository.insert_then_read_differs` shows what is
  lost without their conditions).
-/

namespace Polydialect

open Step

/-! ## Names that differ in more than case -/

/-- The names are different up to ASCII case. -/
def Keyed.Distinct {α : Type} (ps : List (String × α)) : Prop :=
  ps.Pairwise fun p q => Text.sameName p.1 q.1 = false

theorem find?_eq_some_of_unique {α : Type} {P : α → Bool} {as : List α} {a : α} (ha : a ∈ as)
    (hP : P a = true) (h : ∀ b ∈ as, P b = true → b = a) : as.find? P = some a := by
  obtain ⟨b, hb⟩ := Option.isSome_iff_exists.1 (List.find?_isSome.2 ⟨a, ha, hP⟩)
  rw [hb, h b (List.mem_of_find?_eq_some hb) (List.find?_some hb)]

namespace Keyed

variable {α : Type} {ps : List (String × α)} {p q : String × α} {n : String}

theorem Distinct.eq (h : Distinct ps) (hp : p ∈ ps) (hq : q ∈ ps)
    (hpn : Text.sameName p.1 n = true) (hqn : Text.sameName q.1 n = true) : p = q := by
  have hpq : Text.sameName p.1 q.1 = true := Text.sameName_trans hpn (by rw [Text.sameName_comm, hqn])
  induction ps with
  | nil => cases hp
  | cons a ps ih =>
    obtain ⟨ha, hps⟩ := List.pairwise_cons.1 h
    rcases List.mem_cons.1 hp with rfl | hp'
    · rcases List.mem_cons.1 hq with rfl | hq'
      · rfl
      · exact absurd hpq (by rw [ha q hq']; decide)
    · rcases List.mem_cons.1 hq with rfl | hq'
      · exact absurd hpq (by rw [Text.sameName_comm, ha p hp']; decide)
      · exact ih hps hp' hq'

theorem Distinct.find? (h : Distinct ps) (hp : p ∈ ps) (hn : Text.sameName p.1 n = true) :
    ps.find? (fun p => Text.sameName p.1 n) = some p :=
  find?_eq_some_of_unique hp hn fun _ hq hqn => h.eq hq hp hqn hn

theorem mem_insert_self (k : String) (v : α) (m : Keyed α) : (k, v) ∈ insert k v m := by
  induction m with
  | nil => exact .head _
  | cons q m ih =>
    rw [insert]
    split_ifs
    · exact .head _
    · exact .head _
    · exact .tail _ ih

theorem mem_insert_of_ne {k : String} {v : α} {m : Keyed α} (hp : p ∈ m) (hne : p.1 ≠ k) :
    p ∈ insert k v m := by
  induction m with
  | nil => cases hp
  | cons q m ih =>
    rw [insert]
    split_ifs with hlt heq
    · exact .tail _ hp
    · rcases List.mem_cons.1 hp with rfl | hp
      · exact absurd heq.symm hne
      · exact .tail _ hp
    · rcases List.mem_cons.1 hp with rfl | hp
      · exact .head _
      · exact .tail _ (ih hp)

theorem mem_foldl_of_ne {acc : Keyed α} (hp : p ∈ acc) (hne : ∀ q ∈ ps, p.1 ≠ q.1) :
    p ∈ ps.foldl (fun m p => insert p.1 p.2 m) acc := by
  induction ps generalizing acc with
  | nil => exact hp
  | cons q ps ih =>
    obtain ⟨hq, hps⟩ := List.forall_mem_cons.1 hne
    exact ih (mem_insert_of_ne hp hq) hps

theorem mem_ofPairs_of_distinct (h : Distinct ps) (hp : p ∈ ps) : p ∈ ofPairs ps := by
  -- `p` is put in when its turn comes, and no name behind it is the same
  suffices ∀ acc : Keyed α, p ∈ ps.foldl (fun m p => insert p.1 p.2 m) acc from this []
  induction ps with
  | nil => cases hp
  | cons q ps ih =>
    obtain ⟨hq, hps⟩ := List.pairwise_cons.1 h
    intro acc
    rcases List.mem_cons.1 hp with rfl | hp'
    · have hdiffer : ∀ q ∈ ps, p.1 ≠ q.1 := fun q' hq' heq => by
        have hsame := hq q' hq'
        rw [heq, Text.sameName_refl] at hsame
        cases hsame
      rw [List.foldl_cons]
      exact mem_foldl_of_ne (mem_insert_self p.1 p.2 acc) hdiffer
    · exact ih hps hp' _

end Keyed

theorem Entity.isBaseColumn_congr {a b : String} (h : Text.sameName a b = true) :
    isBaseColumn a = isBaseColumn b := by
  have hname (c : String) : Text.sameName c a = Text.sameName c b := by
    rw [Text.sameName_comm c a, Text.sameName_comm c b, Text.sameName_congr_left h]
  simp only [isBaseColumn, hname]

/-! ## Rows that hold what was written -/

/-- The row of an identity that has what was written: every value under the name of its column, as
the database spells it. -/
structure Row.Holds (row : Row) (id : Int64) (written : List (String × Value)) : Prop where
  distinct : Keyed.Distinct row.cells
  identity : ∃ p ∈ row.cells, Text.sameName p.1 Column.idName = true ∧ p.2.int? = some id
  values : ∀ p ∈ written, ∃ q ∈ row.cells, Text.sameName q.1 p.1 = true ∧ q.2 = p.2

namespace Row.Holds

variable {row : Row} {id : Int64} {written : List (String × Value)} (h : row.Holds id written)
include h

/-- A value that was written is found under every spelling of its column. -/
theorem get?_eq {p : String × Value} (hp : p ∈ written) {n : String}
    (hn : Text.sameName p.1 n = true) : row.get? n = some p.2 := by
  obtain ⟨q, hq, hqp, hv⟩ := h.values p hp
  rw [Row.get?, h.distinct.find? hq (Text.sameName_trans hqp hn), Option.map_some, hv]

theorem identity_eq : row.identity = id := by
  obtain ⟨p, hp, hn, hv⟩ := h.identity
  rw [Row.identity, Row.get?, h.distinct.find? hp hn]
  show (p.2.int?).getD 0 = id
  rw [hv]
  rfl

/-- It is found among the values of the record as well, unless it is in a base column. -/
theorem get?_ofRow {p : String × Value} (hp : p ∈ written) {n : String}
    (hn : Text.sameName p.1 n = true) (hbase : Entity.isBaseColumn n = false) :
    (Record.ofRow row).get? n = some p.2 := by
  obtain ⟨q, hq, hqp, hv⟩ := h.values p hp
  have hqn := Text.sameName_trans hqp hn
  have hqbase : Entity.isBaseColumn q.1 = false := (Entity.isBaseColumn_congr hqn).trans hbase
  have hmem : q ∈ row.cells.filter fun p => !Entity.isBaseColumn p.1 :=
    List.mem_filter.2 ⟨hq, by rw [hqbase]; rfl⟩
  have hdistinct : Keyed.Distinct (row.cells.filter fun p => !Entity.isBaseColumn p.1) :=
    h.distinct.filter _
  -- the values are in the order of their names, not of the row, but there is only one to be found
  have hfound : (Record.ofRow row).values.find? (fun p => Text.sameName p.1 n) = some q :=
    find?_eq_some_of_unique (Keyed.mem_ofPairs_of_distinct hdistinct hmem) hqn fun b hb hbn =>
      hdistinct.eq (Keyed.mem_ofPairs hb) hmem hbn hqn
  rw [Record.get?, hfound, Option.map_some, hv]

end Row.Holds

/-- The attributes are read from the text that was written of them. -/
theorem Entity.attributes_attributesText {extend : Keyed Json}
    (h : Json.reread? Json.Source.maxDepth (.object extend) = some (.object extend))
    (hc : (Json.object extend).IsCanonical) :
    attributes (some (.text (Repository.attributesText extend))) = extend := by
  have hparse : Json.parse? (Json.object extend).toText = some (.object extend) := by
    rw [Json.parse?, Json.ofText?_toText]
    exact h
  have hc : (Json.object extend).canonical = .object extend := hc
  simp only [attributes, Repository.attributesText, Option.bind_some, Value.toText?, hparse,
    Option.map_some, hc]

/-- Attributes that are too deep are written, and none are read. -/
theorem Entity.attributes_of_reread?_eq_none {extend : Keyed Json}
    (h : Json.reread? Json.Source.maxDepth (.object extend) = none) :
    attributes (some (.text (Repository.attributesText extend))) = [] := by
  have hparse : Json.parse? (Json.object extend).toText = none := by
    rw [Json.parse?, Json.ofText?_toText]
    exact h
  simp only [attributes, Repository.attributesText, Option.bind_some, Value.toText?, hparse,
    Option.map_none]

namespace Repository

variable {α : Type} {r : Repository α} {row : Row} {id : Int64}

/-! ## What is read -/

/-- The table has the base columns and a column of attributes, and all of them are written. -/
structure Stores (r : Repository α) : Prop where
  guid : ∃ c ∈ r.columns, c.isNamed Column.guidName = true ∧ c.isIdentity = false
  modified : ∃ c ∈ r.columns, c.isNamed Column.modifiedName = true ∧ c.isIdentity = false
  extend : ∃ c, Column.extend? r.columns = some c ∧ c.name ≠ "" ∧
    Entity.isBaseColumn c.name = false ∧ c.isIdentity = false

section Entities

variable [Entity α] {e own : α} {c : Column}

/-- The base fields are read as they were written, and the attributes from their text. -/
theorem base_ofTableRow (hr : r.Stores) (h : row.Holds id (r.rowValues e false))
    (hid : (Entity.base e).id = id) :
    Entity.Base.ofTableRow r.extendName? row =
      { Entity.base e with
        extend := Entity.attributes (some (.text (attributesText (Entity.base e).extend))) } := by
  obtain ⟨g, hg, hgn, hgi⟩ := hr.guid
  obtain ⟨m, hm, hmn, hmi⟩ := hr.modified
  obtain ⟨x, hx, hxn, hxbase, hxi⟩ := hr.extend
  have hguid : (Entity.Base.ofRow row).guid = (Entity.base e).guid := by
    have hget := h.get?_eq (mem_rowValues hg (columnValue?_guid hgn hgi)) hgn
    rw [Entity.Base.ofRow, hget]
    rfl
  have hmodified : (Entity.Base.ofRow row).modified = (Entity.base e).modified := by
    have hget := h.get?_eq (mem_rowValues hm (columnValue?_modified hmn hmi)) hmn
    rw [Entity.Base.ofRow, hget]
    cases (Entity.base e).modified <;> rfl
  have hattributes : row.get? x.name = some (.text (attributesText (Entity.base e).extend)) := by
    have hxe : x.isExtend = true := List.find?_some hx
    have hwritten : columnValue? e false x =
        some (.text (attributesText (Entity.base e).extend)) := by
      rw [columnValue?_of_not_base hxbase hxi, hxe]
      rfl
    exact h.get?_eq (mem_rowValues (List.mem_of_find?_eq_some hx) hwritten) (Text.sameName_refl _)
  have hname : r.extendName? = some x.name := by
    rw [extendName?, hx]
    simpa [Option.filter] using hxn
  rw [hname]
  show Entity.Base.mk row.identity (Entity.Base.ofRow row).guid (Entity.Base.ofRow row).modified
    (Entity.attributes (row.get? x.name)) = _
  rw [h.identity_eq, ← hid, hguid, hmodified, hattributes]

/-- The global identifier that was written is found, so nothing is written back. -/
theorem run_materialize (hr : r.Stores) (h : row.Holds id (r.rowValues e false))
    (hid : (Entity.base e).id = id) (hguid : Guid.isValid (Entity.base e).guid = true)
    (hown : Entity.ofRow row = .ok own) (t : Session) :
    (r.materialize row).run.run t =
      (.ok (Entity.setBase (.ofTableRow r.extendName? row) own), t) := by
  have hlacks : r.lacksGuid (Entity.setBase (.ofTableRow r.extendName? row) own) = false := by
    rw [lacksGuid, Entity.base_setBase, base_ofTableRow hr h hid, hguid]
    simp
  rw [materialize, hown]
  show (r.ensureGuid (Entity.setBase (.ofTableRow r.extendName? row) own)).run.run t = _
  rw [ensureGuid, hlacks]
  rfl

theorem extend_ofTableRow (hr : r.Stores) (h : row.Holds id (r.rowValues e false))
    (hid : (Entity.base e).id = id)
    (hdeep : Json.reread? Json.Source.maxDepth (.object (Entity.base e).extend) = none) :
    (Entity.Base.ofTableRow r.extendName? row).extend = [] := by
  rw [base_ofTableRow hr h hid]
  exact Entity.attributes_of_reread?_eq_none hdeep

/-- The value of a column that not every table has is among the values of the record. -/
theorem get?_ofRow (h : row.Holds id (r.rowValues e false)) (hc : c ∈ r.columns)
    (hbase : Entity.isBaseColumn c.name = false) (hx : c.isExtend = false)
    (hi : c.isIdentity = false) :
    (Record.ofRow row).get? c.name = some ((Entity.value? e c.name).getD .null) := by
  refine h.get?_ofRow (mem_rowValues hc ?_) (Text.sameName_refl _) hbase
  rw [columnValue?_of_not_base hbase hi, hx]
  exact Option.or_some

/-- The row of an identity is asked for, and it is given as its entity. -/
theorem get_of_answered (hid : 0 < id) {got : α} {rest : List Row} {t : Session}
    (ht : r.answered ((Query.eq Column.idName (.int id)).take 1) t = row :: rest)
    (hrow : ∀ t, (r.materialize row).run.run t = (.ok got, t)) :
    Step.result (r.get id) t = .ok (some got) ∧
      (Step.after (r.get id) t).commands = t.commands := by
  let q := (r.onTable ((Query.eq Column.idName (.int id)).take 1)).clearCaching
  have hselect : Step.result (r.selectRows q) t = .ok (row :: rest) := by
    rw [answered] at ht
    split at ht
    · rename_i rows hrows
      rw [← ht]
      exact hrows
    · cases ht
  have hrun : (r.selectRows q).run.run t = (.ok (row :: rest), Step.after (r.selectRows q) t) :=
    Prod.ext hselect rfl
  have hget : (r.get id).run.run t = (.ok (some got), Step.after (r.selectRows q) t) := by
    rw [Repository.get, if_neg (Int64.not_le.2 hid), getBy, Caching.cached_of_none entityCodec rfl]
    refine (Run.run_bind_of_ok hrun _).trans ?_
    exact Run.run_bind_of_ok (hrow _) fun e => pure (some e)
  refine ⟨congrArg Prod.fst hget, ?_⟩
  have hafter : Step.after (r.get id) t = Step.after (r.selectRows q) t := congrArg Prod.snd hget
  rw [hafter]
  exact (isRead_selectRows r q).keeps t

/-! ## Insertions -/

/-- The INSERT of values under their names, which gives the identity back. -/
def inserting (d : Dialect) (table : String) (written : List (String × Value)) : Statement where
  sql := d.insertReturning (Marker.nameAll d.backslashEscapes d.placeholder
    ("INSERT INTO " ++ d.quote table ++ " (" ++ d.quoteAll (written.map (·.1)) ++ ")" ++
      (" VALUES (" ++ (Fragment.markers (written.map (·.2))).text ++ ")"))) Column.idName
  bindings := Statement.bind d 0 (written.map (·.2))

theorem statement_insert {k : Compiler} {now : Timestamp} {c : Compiled}
    (h : (r.insertQuery e).compile k now .insertedId = .ok c) :
    c.statement = inserting k.dialect r.table (r.rowValues e false) := by
  obtain ⟨s, hs, h⟩ := bind_eq_ok.1 h
  cases h
  obtain ⟨t, ht, h⟩ : ∃ t, (r.insertQuery e).compileAction k now = .ok t ∧
      Except.ok { t with sql := k.dialect.insertReturning t.sql Column.idName } = Except.ok s :=
    bind_eq_ok.1 hs
  cases h
  obtain ⟨table, htable, ht⟩ := bind_eq_ok.1 ht
  obtain rfl : r.table = table := Option.some.inj (Query.target_eq_some htable)
  obtain ⟨f, hf, ht⟩ := bind_eq_ok.1 ht
  cases ht
  have hf : (r.insertQuery e).insertFragment k.dialect r.table = .ok f := hf
  rw [Query.insertFragment] at hf
  split at hf
  · cases hf
  · obtain ⟨-, -, hf⟩ := bind_eq_ok.1 hf
    cases hf
    rfl

theorem values_insert {k : Compiler} {now : Timestamp} {c : Compiled}
    (h : (r.insertQuery e).compile k now .insertedId = .ok c) :
    c.statement.values = (r.rowValues e false).map (·.2) := by
  rw [statement_insert h]
  exact Statement.map_snd_bind _ 0 _

/-- An INSERT of valid names compiles, whatever the server can do. -/
theorem exists_compile_insert (hr : r.Stores) (htable : Identifier.Valid r.table)
    (hnames : ∀ c ∈ r.columns, Identifier.Valid c.name) (k : Compiler) (now : Timestamp) :
    ∃ c, (r.insertQuery e).compile k now .insertedId = .ok c := by
  obtain ⟨g, hg, hgn, hgi⟩ := hr.guid
  -- an INSERT without values is refused, but the global identifier is always one
  have hne : r.rowValues e false ≠ [] :=
    List.ne_nil_of_mem (mem_rowValues hg (columnValue?_guid hgn hgi))
  have htarget : (r.insertQuery e).table ≠ none := by simp [insertQuery, onTable, Query.withTable]
  refine Query.isOk_compile_iff.2 ⟨⟨htarget, rfl, hne⟩, nofun, ?_⟩
  show ∀ n ∈ [r.table] ++ (r.rowValues e false).map (·.1), Identifier.Valid n
  rw [List.forall_mem_append]
  refine ⟨List.forall_mem_singleton.2 htable, fun n hn => ?_⟩
  obtain ⟨c, hc, rfl⟩ := List.mem_map.1 (map_fst_rowValues_subset r e false hn)
  exact hnames c hc

theorem result_insertRow {s : Session} {c : Compiled} {v : Option Value}
    (hc : Step.result (r.db.compile .insertedId (r.insertQuery e)) s = .ok c)
    (hv : Step.result (r.db.queryScalar c.statement)
      (Step.after (r.db.compile .insertedId (r.insertQuery e)) s) = .ok v) :
    Step.result (r.insertRow e) s = r.insertedId v := by
  rw [insertQuery] at hc hv
  rw [insertRow, Run.result_bind, hc]
  refine (Run.result_bind (r.db.queryScalar c.statement)
    (fun v => Run.ofExcept (r.insertedId v)) _).trans ?_
  rw [hv]
  rfl

/-- What is inserted is the entity with a fresh identifier and the time, which learns its
identity. -/
theorem insert_eq_ok {s : Session} {e' : α} (h : Step.result (r.insert e) s = (.ok id, e')) :
    e' = learned (inserted e s) (.ok id) ∧ 0 < id := by
  have hrun : Step.result (r.insert e) s = _ := congrArg Prod.fst (run_insert r e s)
  rw [hrun, Prod.mk.injEq] at h
  obtain ⟨hid, he⟩ := h
  rw [hid] at he
  refine ⟨he.symm, ?_⟩
  obtain ⟨c, -, h, -⟩ := Run.bind_eq_ok hid
  obtain ⟨v, -, h, -⟩ := Run.bind_eq_ok h
  exact (insertedId_eq_ok_iff.1 h).2

/-! ## Insertions that are read -/

/-- The row of an identity in which every value that was written stands under its column. -/
def returnedRow (r : Repository α) (e : α) (id : Int64) : Row :=
  ⟨Column.idName :: (r.rowValues e false).map (·.1), .int id :: (r.rowValues e false).map (·.2)⟩

/-- A table whose columns are distinct has such a row. -/
theorem holds_returnedRow (h : r.columns.Pairwise fun a b => Text.sameName a.name b.name = false)
    (e : α) (id : Int64) : (r.returnedRow e id).Holds id (r.rowValues e false) := by
  have hcells : (r.returnedRow e id).cells = (Column.idName, .int id) :: r.rowValues e false := by
    simp [Row.cells, returnedRow, List.zip_map']
  have hdistinct : Keyed.Distinct (r.rowValues e false) := by
    refine List.pairwise_filterMap.2 (h.imp fun hab p hp q hq => ?_)
    obtain ⟨v, -, rfl⟩ := Option.map_eq_some_iff.1 hp
    obtain ⟨w, -, rfl⟩ := Option.map_eq_some_iff.1 hq
    exact hab
  -- a value for `Id` is never written, so the identity stands beside the values
  have hid : ∀ p ∈ r.rowValues e false, Text.sameName Column.idName p.1 = false := by
    intro p hp
    obtain ⟨c, -, hname, hfills⟩ := mem_rowValues_iff.1 hp
    rw [← hname, Text.sameName_comm]
    exact hfills.unnamed
  constructor
  · rw [hcells]
    exact List.pairwise_cons.2 ⟨hid, hdistinct⟩
  · rw [hcells]
    exact ⟨(Column.idName, .int id), .head _, Text.sameName_refl _, rfl⟩
  · intro p hp
    rw [hcells]
    exact ⟨p, .tail _ hp, Text.sameName_refl _, rfl⟩

end Entities

/-- **A record that is inserted is read.** The INSERT of valid names compiles and binds the values
of the record, and if the database gives a positive identity for it, that is the result. Whatever
row of this identity holds the values is read as the record: its base fields with all attributes
that are not nested too deeply, and in every other column the value, or NULL where the record has
none. The read sends no command. -/
theorem insert_then_read {r : Repository Record} {e : Record} (hr : r.Stores)
    (hextend : Json.Within Json.Source.maxDepth (.object e.base.extend))
    (hc : (Json.object e.base.extend).IsCanonical) :
    (Identifier.Valid r.table → (∀ c ∈ r.columns, Identifier.Valid c.name) → ∀ s, ∃ c,
      Step.result (r.db.compile .insertedId (r.insertQuery (inserted e s))) (drawn s) = .ok c ∧
      c.statement.values = (r.rowValues (inserted e s) false).map (·.2) ∧
      ∀ v id, Step.result (r.db.queryScalar c.statement)
          (Step.after (r.db.compile .insertedId (r.insertQuery (inserted e s))) (drawn s)) =
            .ok (some v) →
        v.int? = some id → 0 < id → ∃ e', Step.result (r.insert e) s = (.ok id, e')) ∧
    ∀ s id e', Step.result (r.insert e) s = (.ok id, e') →
      e'.base.id = id ∧ e'.base.extend = e.base.extend ∧
      (r.columns.Pairwise (fun a b => Text.sameName a.name b.name = false) →
        (r.returnedRow (inserted e s) id).Holds id (r.rowValues (inserted e s) false)) ∧
      ∀ row : Row, row.Holds id (r.rowValues (inserted e s) false) → ∃ got : Record,
        got.base = e'.base ∧
        (∀ c ∈ r.columns, Entity.isBaseColumn c.name = false → c.isExtend = false →
          c.isIdentity = false → got.get? c.name = some ((e.get? c.name).getD .null)) ∧
        (∀ t, (r.materialize row).run.run t = (.ok got, t)) ∧
        ∀ t rest, r.answered ((Query.eq Column.idName (.int id)).take 1) t = row :: rest →
          Step.result (r.get id) t = .ok (some got) ∧
            (Step.after (r.get id) t).commands = t.commands := by
  refine ⟨fun htable hnames s => ?_, fun s id e' hinsert => ?_⟩
  · obtain ⟨c, hcompile⟩ := Database.exists_result_compile
      (fun isLegacy now => exists_compile_insert hr htable hnames ⟨r.db.dialect, isLegacy⟩ now)
      (drawn s)
    obtain ⟨isLegacy, now, hq⟩ := Database.compile_eq_ok hcompile
    refine ⟨c, hcompile, values_insert hq, fun v id hv hid hpos => ?_⟩
    have hrow : Step.result (r.insertRow (inserted e s)) (drawn s) = .ok id := by
      rw [result_insertRow hcompile hv]
      exact insertedId_eq_ok_iff.2 ⟨hid, hpos⟩
    have hrun : Step.result (r.insert e) s = _ := congrArg Prod.fst (run_insert r e s)
    rw [hrow] at hrun
    exact ⟨_, hrun⟩
  · obtain ⟨rfl, hpos⟩ := insert_eq_ok hinsert
    refine ⟨rfl, rfl, fun hdistinct => holds_returnedRow hdistinct _ id, fun row hrow => ?_⟩
    -- the identity is not among the values that are written
    have hrow : row.Holds id (r.rowValues (learned (inserted e s) (.ok id)) false) := hrow
    have hrun := run_materialize hr hrow rfl (s.sources.guid s.guidsTaken).2 rfl
    refine ⟨_, ?_, fun c hc hbase hx hi => ?_, hrun,
      fun t rest ht => get_of_answered hpos ht hrun⟩
    · show Entity.Base.ofTableRow r.extendName? row = _
      rw [base_ofTableRow hr hrow rfl]
      show Entity.Base.mk _ _ _
        (Entity.attributes (some (.text (attributesText e.base.extend)))) = _
      rw [Entity.attributes_attributesText hextend.reread?_eq hc]
      rfl
    · have hget := get?_ofRow hrow hc hbase hx hi
      exact hget

/-- A post with a list, a quote and a null among its attributes is inserted with the identity 7 and
read again under another spelling of its title. -/
theorem insert_then_read_posts : ∃ (r : Repository Record) (e e' got : Record) (s t : Session)
    (row : Row), r.Stores ∧ Json.Within Json.Source.maxDepth (.object e.base.extend) ∧
      (Json.object e.base.extend).IsCanonical ∧ Step.result (r.insert e) s = (.ok 7, e') ∧
      row.Holds 7 (r.rowValues (inserted e s) false) ∧
      r.answered ((Query.eq Column.idName (.int 7)).take 1) t = [row] ∧
      Step.result (r.get 7) t = .ok (some got) ∧ got.base = e'.base ∧
      got.get? "Title" = some (.text "first") := by
  let now : Timestamp := ⟨2024, 1, 1, 0, 0, 0, 0, by decide⟩
  let guid : Guid := ⟨"6f1c9a44-0b1e-4c57-9d0a-2f6f3f1f7a10", by decide⟩
  let s := (Session.start ⟨fun _ => guid, fun _ => now, fun _ => 0⟩ none).script
    [.answer 0 [⟨["Id"], [.int 7]⟩]]
  let r : Repository Record := ⟨⟨.sqlite, "", 0⟩, "Posts",
    [.identityColumn, .plain "GUID" .varchar, .plain Column.modifiedName .datetime,
      ⟨"Extend", .text, 0, false, false, true⟩, .plain "Title" .varchar]⟩
  let tags : Json := .array [.null, .integer 1, .string "\""]
  let e : Record := ⟨⟨0, "", none, [("tags", tags)]⟩, [("title", .text "first")]⟩
  have hr : r.Stores :=
    ⟨by decide, by decide, _, rfl, by decide, by decide, rfl⟩
  have hwithin : Json.Within Json.Source.maxDepth (.object e.base.extend) := by
    refine .object (List.forall_mem_singleton.2 (.array ?_))
    simp only [List.forall_mem_cons, List.not_mem_nil, false_implies, implies_true, and_true]
    exact ⟨.null _, .integer _ (by decide) (by decide), .string _ _⟩
  have hinsert : Step.result (r.insert e) s = (.ok 7, (Step.result (r.insert e) s).2) :=
    Prod.ext (by decide +kernel) rfl
  obtain ⟨-, hread⟩ := insert_then_read hr hwithin rfl
  obtain ⟨-, -, hholds, hread⟩ := hread s 7 _ hinsert
  have hrow := hholds (by decide)
  obtain ⟨got, hbase, hvalues, -, hget⟩ := hread _ hrow
  let t := s.script [.answer 0 [r.returnedRow (inserted e s) 7]]
  have ht : r.answered ((Query.eq Column.idName (.int 7)).take 1) t =
      [r.returnedRow (inserted e s) 7] := by
    decide +kernel
  refine ⟨r, e, _, got, s, t, _, hr, hwithin, rfl, hinsert, hrow, ht, (hget t [] ht).1, hbase, ?_⟩
  exact hvalues (.plain "Title" .varchar) (by decide) (by decide) rfl rfl

/-- Where the database assigns the global identifiers, none is written, and a read replaces the one
that the record got; and of attributes inside of each other 128 times none are read. -/
theorem insert_then_read_differs :
    (∃ (r : Repository Record) (e e' got : Record) (s t : Session) (row : Row),
      r.columns.Pairwise (fun a b => Text.sameName a.name b.name = false) ∧
      (∀ n ∈ [Column.idName, Column.guidName, Column.modifiedName], r.hasColumn n = true) ∧
      (∃ c, Column.extend? r.columns = some c ∧ c.name ≠ "" ∧
        Entity.isBaseColumn c.name = false ∧ c.isIdentity = false) ∧
      Step.result (r.insert e) s = (.ok 7, e') ∧
      row.Holds 7 (r.rowValues (inserted e s) false) ∧
      r.answered ((Query.eq Column.idName (.int 7)).take 1) t = [row] ∧
      Step.result (r.get 7) t = .ok (some got) ∧ got.base.guid ≠ e'.base.guid ∧
      (Step.after (r.get 7) t).commands ≠ t.commands) ∧
    ∃ (r : Repository Record) (e e' got : Record) (s : Session) (row : Row),
      r.Stores ∧ r.columns.Pairwise (fun a b => Text.sameName a.name b.name = false) ∧
      (Json.object e.base.extend).IsCanonical ∧ Step.result (r.insert e) s = (.ok 7, e') ∧
      row.Holds 7 (r.rowValues (inserted e s) false) ∧
      (∀ t, (r.materialize row).run.run t = (.ok got, t)) ∧
      got.base.extend = [] ∧ e'.base.extend ≠ [] := by
  let now : Timestamp := ⟨2024, 1, 1, 0, 0, 0, 0, by decide⟩
  let guid : Guid := ⟨"6f1c9a44-0b1e-4c57-9d0a-2f6f3f1f7a10", by decide⟩
  let s := (Session.start ⟨fun _ => guid, fun _ => now, fun _ => 0⟩ none).script
    [.answer 0 [⟨["Id"], [.int 7]⟩]]
  let extend : Column := ⟨"Extend", .text, 0, false, false, true⟩
  refine ⟨?_, ?_⟩
  · let other : Guid := ⟨"0d0a2f6f-3f1f-4a10-9c44-6f1c9a440b1e", by decide⟩
    let r : Repository Record := ⟨⟨.sqlite, "", 0⟩, "Posts",
      [.identityColumn, ⟨Column.guidName, .varchar, 0, false, true, false⟩,
        .plain Column.modifiedName .datetime, extend]⟩
    let row := r.returnedRow (inserted .empty s) 7
    let t := (Session.start ⟨fun _ => other, fun _ => now, fun _ => 0⟩ none).script
      [.answer 0 [row]]
    have hinsert : Step.result (r.insert .empty) s = (.ok 7, (Step.result (r.insert .empty) s).2) :=
      Prod.ext (by decide +kernel) rfl
    have hrow : row.Holds 7 (r.rowValues (inserted .empty s) false) :=
      holds_returnedRow (by decide) _ 7
    have hget : ((Step.result (r.get 7) t).toOption.bind id).map (·.base.guid) =
        some "0d0a2f6f-3f1f-4a10-9c44-6f1c9a440b1e" := by
      decide +kernel
    obtain ⟨got, hgot, hguid⟩ := Option.map_eq_some_iff.1 hget
    have hresult : Step.result (r.get 7) t = .ok (some got) := by
      cases hr : Step.result (r.get 7) t with
      | error e =>
        rw [hr] at hgot
        cases hgot
      | ok found =>
        rw [hr] at hgot
        exact congrArg Except.ok hgot
    have hcommands : (Step.after (r.get 7) t).commands.length = 1 := by decide +kernel
    refine ⟨r, .empty, _, got, s, t, row, by decide, by decide, ⟨extend, rfl, by decide⟩, hinsert, hrow,
      by decide +kernel, hresult, ?_, ?_⟩
    · rw [hguid]
      decide +kernel
    · intro h
      rw [h] at hcommands
      cases hcommands
  · let r : Repository Record := ⟨⟨.sqlite, "", 0⟩, "Posts",
      [.identityColumn, .plain Column.guidName .varchar, .plain Column.modifiedName .datetime,
        extend]⟩
    let e : Record := ⟨⟨0, "", none, [("a", Json.nested 127)]⟩, []⟩
    have hr : r.Stores := ⟨by decide, by decide, _, rfl, by decide, by decide, rfl⟩
    have hdistinct : r.columns.Pairwise fun a b => Text.sameName a.name b.name = false := by decide
    have hinsert : Step.result (r.insert e) s = (.ok 7, (Step.result (r.insert e) s).2) :=
      Prod.ext (by decide +kernel) rfl
    obtain ⟨he, -⟩ := insert_eq_ok hinsert
    have hrow := holds_returnedRow hdistinct (learned (inserted e s) (.ok 7)) 7
    have hrun := run_materialize hr hrow rfl guid.2 rfl
    have hdeep : Json.reread? Json.Source.maxDepth (.object e.base.extend) = none :=
      Json.reread?_nested (n := 128) (by decide)
    refine ⟨r, e, _, _, s, _, hr, hdistinct, Json.isCanonical_nested 128, hinsert, hrow, hrun,
      extend_ofTableRow hr hrow rfl hdeep, ?_⟩
    rw [he]
    exact List.cons_ne_nil _ _

end Repository

end Polydialect
