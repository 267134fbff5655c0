import Mathlib.Control.Monad.Basic
import Polydialect.Proofs.Checking
import Polydialect.Proofs.Writing
import Polydialect.Schema.Definition

/-!
# How repositories spell the base columns

A table is created with its columns as they are spelled, and PostgreSQL and Oracle know them by that
spelling alone. What a repository inserts and assigns it names after its columns, but for
conditions, for what an INSERT gives back and for the time of an UPDATE it writes `Id`, `Guid` and
`LastModifiedDate`.

* `Repository.Own.sends_made`: the operations send what is made of those queries
  (`Repository.Makes`) and nothing else;
* `Repository.mentions_made`: what such a query mentions is a name of a column as it is spelled, or
  one of the three;
* `Repository.follows_spelling_iff`: so the statements follow the spelling if and only if the
  columns, as far as they have the three, spell them so (`Repository.get_misspells_id` shows columns
  that do not).
-/

namespace Polydialect

open Step

/-! ## What an operation sends -/

/-- The operation sends statements of a kind only, questions for the version apart. -/
def Step.Sends {α : Type} (db : Database) (P : Statement → Prop) (x : Step α) : Prop :=
  ∀ s, ∃ sent, (x.after s).sent db = s.sent db ++ sent ∧ ∀ st ∈ sent, P st

section Sends

variable {α β : Type} {db : Database} {P : Statement → Prop}

theorem Step.Sends.of_keeps {x : Step α} (h : x.Keeps (Session.sent db)) : x.Sends db P :=
  fun s => ⟨[], (h s).trans (List.append_nil _).symm, fun _ h => absurd h List.not_mem_nil⟩

theorem Run.sends_pure (a : α) : Sends db P (pure a : Run α) := .of_keeps (.pure _)

theorem Step.Sends.ite {c : Prop} [Decidable c] {x y : Step α} (hx : x.Sends db P)
    (hy : y.Sends db P) : (if c then x else y).Sends db P := by
  split
  · exact hx
  · exact hy

theorem Run.sends_bind {x : Run α} {f : α → Run β} (hx : Sends db P x)
    (hf : ∀ a s, Step.result x s = .ok a → Sends db P (f a)) : Sends db P (x >>= f : Run β) := by
  intro s
  obtain ⟨sent, hsent, hP⟩ := hx s
  simp only [Run.after_bind]
  cases hr : Step.result x s with
  | error e => exact ⟨sent, hsent, hP⟩
  | ok a =>
    obtain ⟨sent', hsent', hP'⟩ := hf a s hr (Step.after x s)
    refine ⟨sent ++ sent', ?_, List.forall_mem_append.2 ⟨hP, hP'⟩⟩
    show (Step.after (f a) (Step.after x s)).sent db = _
    rw [hsent', hsent, List.append_assoc]

theorem Run.sends_keeps_bind {x : Run α} {f : α → Run β} (hx : Keeps (Session.sent db) x)
    (hf : ∀ a s, Step.result x s = .ok a → Sends db P (f a)) : Sends db P (x >>= f : Run β) :=
  Run.sends_bind (.of_keeps hx) hf

theorem Run.sends_bind_keeps {x : Run α} {f : α → Run β} (hx : Sends db P x)
    (hf : ∀ a, Keeps (Session.sent db) (f a)) : Sends db P (x >>= f : Run β) :=
  Run.sends_bind hx fun a _ _ => .of_keeps (hf a)

namespace Database

theorem forall_mem_sent? {e : Event} {st : Statement} (he : e.statement? = some st) (hst : P st) :
    ∀ st' ∈ (db.sent? e).toList, P st' := by
  intro st' h
  rw [Option.mem_toList] at h
  have hst' := (Option.filter_eq_some_iff.1 h).1
  rw [he] at hst'
  exact Option.some.inj hst' ▸ hst

theorem sends_query {st : Statement} (hst : P st) : Sends db P (db.query st) :=
  Run.sends_keeps_bind (keeps_connect _) fun _ _ _ s =>
    ⟨_, sent_engineQuery st s, forall_mem_sent? rfl hst⟩

theorem sends_execute {st : Statement} (hst : P st) : Sends db P (db.execute st) :=
  Run.sends_keeps_bind (keeps_connect _) fun _ _ _ s =>
    ⟨_, sent_engineExecute st s, forall_mem_sent? rfl hst⟩

theorem sends_queryScalar {st : Statement} (hst : P st) : Sends db P (db.queryScalar st) :=
  Run.sends_keeps_bind (keeps_connect _) fun _ _ _ =>
    Run.sends_bind_keeps (fun s => ⟨_, sent_engineQuery st s, forall_mem_sent? rfl hst⟩)
      fun _ => .pure _

theorem sends_compile_bind {p : Purpose} {q : Query} {f : Compiled → Run α}
    (hf : ∀ isLegacy now c, q.compile ⟨db.dialect, isLegacy⟩ now p = .ok c → Sends db P (f c)) :
    Sends db P (db.compile p q >>= f : Run α) :=
  Run.sends_keeps_bind (keeps_compile p q) fun c _ h =>
    let ⟨isLegacy, now, hc⟩ := compile_eq_ok h
    hf isLegacy now c hc

end Database

/-- A cached read sends what its loader sends, or nothing. -/
theorem Caching.sends_cached (codec : Cache.Codec α) {q : Query} {loader : Query → Run α}
    (h : Sends db P (loader q.clearCaching)) : Sends db P (cached codec q loader) := by
  intro s
  rcases loads_cached (Session.hidesCache_sent db) codec q loader s with
    ⟨t, -, hsame, hafter, -⟩ | ⟨hkeeps, -⟩
  · obtain ⟨sent, hsent, hP⟩ := h t
    exact ⟨sent, hafter.trans (hsent.trans (by rw [hsame])), hP⟩
  · exact ⟨[], hkeeps.trans (List.append_nil _).symm, fun _ h => absurd h List.not_mem_nil⟩

end Sends

/-! ## What a statement mentions -/

/-- The names of the columns that every table has. -/
def Entity.baseNames : List String := [Column.idName, Column.guidName, Column.modifiedName]

/-- The columns that an INSERT gives back by name. -/
def Dialect.returnedNames : Dialect → List String
  | .mysql | .sqlServer => []
  | .postgres | .oracle | .sqlite => [Column.idName]

theorem Dialect.returnedNames_subset (d : Dialect) : d.returnedNames ⊆ Entity.baseNames := by
  cases d <;> decide

/-- The names of columns in a statement. -/
def Query.mentions (d : Dialect) (now : Timestamp) (p : Purpose) (q : Query) : List String :=
  { q with table := none }.names now p ++ if p = .insertedId then d.returnedNames else []

theorem Query.mentions_of_update {q : Query} (hq : q.action = .update) (d : Dialect)
    (now : Timestamp) : q.mentions d now .action =
      (Assignment.effective now q.assignments).filterMap Assignment.column? ++ q.filterColumns := by
  simp [mentions, names, checked, unchecked, filterColumns, hq]

theorem Query.mem_names_of_mem {now : Timestamp} {p : Purpose} {q : Query} {n : String}
    (h : n ∈ { q with table := none }.names now p) : n ∈ q.names now p := by
  rcases List.mem_append.1 h with h | h
  · exact List.mem_append_left _ (List.mem_append_right _ h)
  · exact List.mem_append_right _ h

theorem Query.quotes_returnedNames {c : Compiler} {now : Timestamp} {q : Query} {s : Statement}
    {n : String} (h : q.statement c now .insertedId = .ok s) (hn : n ∈ c.dialect.returnedNames) :
    s.Quotes c.dialect n := by
  have hquotes : c.dialect.Quotes n s.sql := by
    simp only [statement, compileInserting] at h
    split at h
    · cases h
    · obtain ⟨t, -, h⟩ := bind_eq_ok.1 h
      cases h
      revert hn
      cases c.dialect with
      | mysql | sqlServer => exact fun hn => absurd hn List.not_mem_nil
      | postgres | sqlite => exact fun hn => List.mem_singleton.1 hn ▸ Dialect.Quotes.self.append_left _
      | oracle =>
        exact fun hn => List.mem_singleton.1 hn ▸ (Dialect.Quotes.self.append_left _).append_right _
  -- the name has no marker, so it is the same after the markers were named
  have hmark : '?' ∉ (c.dialect.quote n).toList := by
    revert hn
    cases c.dialect with
    | mysql | sqlServer => exact fun hn => absurd hn List.not_mem_nil
    | postgres | oracle | sqlite => exact fun hn => List.mem_singleton.1 hn ▸ by decide
  exact ⟨.outside, 0, by rwa [Marker.nameFrom_eq_self (Marker.countFrom_eq_zero hmark _)]⟩

/-- A statement holds what its query mentions. -/
theorem Query.quotes_mentions {c : Compiler} {now : Timestamp} {p : Purpose} {q : Query}
    {r : Compiled} (h : q.compile c now p = .ok r) {n : String}
    (hn : n ∈ q.mentions c.dialect now p) : r.statement.Quotes c.dialect n := by
  obtain ⟨s, hs, h⟩ := bind_eq_ok.1 h
  cases h
  rcases List.mem_append.1 hn with hn | hn
  · exact quotes_statement hs (mem_names_of_mem hn)
  · by_cases hp : p = .insertedId
    · subst hp
      exact quotes_returnedNames hs hn
    · rw [if_neg hp] at hn
      exact absurd hn List.not_mem_nil

namespace Repository

variable {α : Type}

/-- A name is spelled as the columns spell it, if they have it. -/
def Spells (r : Repository α) (name : String) : Prop :=
  r.hasColumn name = true → ∃ c ∈ r.columns, c.name = name

variable {r : Repository α}

theorem spells_of_mem {name : String} (h : name ∈ r.columns.map (·.name)) : r.Spells name :=
  fun _ => List.mem_map.1 h

/-- The statement names base columns as the columns spell them. -/
def Follows (r : Repository α) (p : Purpose) (q : Query) : Prop :=
  ∀ now, ∀ n ∈ q.mentions r.db.dialect now p, Entity.isBaseColumn n = true → r.Spells n

theorem column?_effective {now : Timestamp} {values : List (String × Value)} {n : String}
    (h : n ∈ (Assignment.effective now (values.map fun p => .value p.1 p.2)).filterMap
      Assignment.column?) : n ∈ values.map (·.1) ∨ n = Column.modifiedName := by
  obtain ⟨a, ha, hn⟩ := List.mem_filterMap.1 h
  rw [Assignment.effective_eq] at ha
  rcases List.mem_append.1 ((Text.firstsBy_sublist _).subset ha) with ha | ha
  · obtain ⟨p, hp, rfl⟩ := List.mem_map.1 ha
    cases hn
    exact .inl (List.mem_map_of_mem hp)
  · rw [List.mem_singleton.1 ha] at hn
    cases hn
    exact .inr rfl

theorem mentions_backfill (r : Repository α) (id : Int64) (guid : Guid) (t : Timestamp)
    (d : Dialect) (now : Timestamp) :
    (r.backfill id guid t).mentions d now .action =
      [Column.guidName, Column.modifiedName, Column.idName] := by
  have hassignments : (r.backfill id guid t).assignments =
    [.value Column.guidName (.text guid.text), .value Column.modifiedName (.timestamp t)] := rfl
  rw [Query.mentions_of_update rfl, hassignments, effective_backfill]
  rfl

section Entities

variable [Entity α]

/-! ## What a repository makes up -/

/-- The queries that a repository makes up, each with what its statement is for. -/
inductive Makes (r : Repository α) : Purpose → Query → Prop where
  | get (id : Int64) : Makes r .action ((r.onTable (.eq Column.idName (.int id))).take 1)
  | getByGuid (guid : String) :
    Makes r .action ((r.onTable (.eq Column.guidName (.text guid))).take 1)
  | existsId (id : Int64) : Makes r .existence (r.onTable (.eq Column.idName (.int id)))
  | existsGuid (guid : String) : Makes r .existence (r.onTable (.eq Column.guidName (.text guid)))
  | delete (id : Int64) : Makes r .action (r.onTable (Query.eq Column.idName (.int id)).asDelete)
  | insert (e : α) : Makes r .insertedId (r.insertQuery e)
  | update (e : α) : Makes r .action (r.onTable (r.updateQuery e).asUpdate)
  | backfill (id : Int64) (guid : Guid) (now : Timestamp) : Makes r .action (r.backfill id guid now)

theorem mentions_insert (r : Repository α) (e : α) (d : Dialect) (now : Timestamp) :
    (r.insertQuery e).mentions d now .insertedId =
      (r.rowValues e false).map (·.1) ++ d.returnedNames := by
  simp [Query.mentions, Query.names, Query.checked, Query.unchecked, insertQuery, onTable,
    Query.withTable, Query.asInsert]

theorem mentions_update (r : Repository α) (e : α) (d : Dialect) (now : Timestamp) :
    (r.onTable (r.updateQuery e).asUpdate).mentions d now .action =
      (Assignment.effective now ((r.rowValues e true).map fun p => .value p.1 p.2)).filterMap
        Assignment.column? ++ [Column.idName] := by
  rw [Query.mentions_of_update rfl, updateQuery, foldl_set]
  rfl

/-- What is made up mentions columns as they are spelled, and base columns by their names. -/
theorem mentions_made {p : Purpose} {q : Query} (h : r.Makes p q) (d : Dialect) (now : Timestamp)
    {n : String} (hn : n ∈ q.mentions d now p) :
    n ∈ r.columns.map (·.name) ∨ n ∈ Entity.baseNames := by
  have hid : Column.idName ∈ Entity.baseNames := by decide
  have hguid : Column.guidName ∈ Entity.baseNames := by decide
  have hmodified : Column.modifiedName ∈ Entity.baseNames := by decide
  cases h with
  | get | existsId | delete => exact .inr (List.mem_singleton.1 hn ▸ hid)
  | getByGuid | existsGuid => exact .inr (List.mem_singleton.1 hn ▸ hguid)
  | insert e =>
    rw [mentions_insert] at hn
    rcases List.mem_append.1 hn with hn | hn
    · exact .inl (map_fst_rowValues_subset r e false hn)
    · exact .inr (d.returnedNames_subset hn)
  | update e =>
    rw [mentions_update] at hn
    rcases List.mem_append.1 hn with hn | hn
    · rcases column?_effective hn with hn | rfl
      · exact .inl (map_fst_rowValues_subset r e true hn)
      · exact .inr hmodified
    · exact .inr (List.mem_singleton.1 hn ▸ hid)
  | backfill id guid t =>
    rw [mentions_backfill] at hn
    right
    simpa [Entity.baseNames, or_comm, or_left_comm] using hn

/-! ## What a repository sends -/

/-- The operations whose queries a repository makes up; a row that is read may get a global
identifier. -/
inductive Own (α : Type) where
  | get (id : Int64)
  | getByGuid (guid : String)
  | existsId (id : Int64)
  | existsGuid (guid : String)
  | delete (id : Int64)
  | insert (e : α)
  | update (e : α)
  | read (row : Row)

/-- The session after an operation. -/
def Own.after (o : Own α) (r : Repository α) (s : Session) : Session :=
  match o with
  | get id => Step.after (r.get id) s
  | getByGuid guid => Step.after (r.getByGuid guid) s
  | existsId id => Step.after (r.existsId id) s
  | existsGuid guid => Step.after (r.existsGuid guid) s
  | delete id => Step.after (r.delete id) s
  | insert e => Step.after (r.insert e) s
  | update e => Step.after (r.update e) s
  | read row => Step.after (r.materialize row) s

/-- A statement of a query that a repository makes up. -/
def IsMade (r : Repository α) (st : Statement) : Prop :=
  ∃ p q, r.Makes p q ∧ ∃ isLegacy now c,
    q.compile ⟨r.db.dialect, isLegacy⟩ now p = .ok c ∧ c.statement = st

theorem sends_materialize (r : Repository α) (row : Row) :
    Sends r.db r.IsMade (r.materialize row) := by
  refine Run.sends_keeps_bind (.pure (Entity.ofRow row)) fun own _ _ => ?_
  rw [ensureGuid]
  split
  -- a row that has its identifier is not written to
  · exact Run.sends_pure _
  · refine Run.sends_keeps_bind (Run.keeps_lift fun s => rfl) fun guid _ _ => ?_
    refine Run.sends_keeps_bind (Run.keeps_lift fun s => rfl) fun now _ _ => ?_
    refine Database.sends_compile_bind fun isLegacy t c hc => ?_
    refine Run.sends_bind_keeps (Run.sends_bind_keeps (Database.sends_execute ?_) fun _ => .pure _)
      fun _ => .pure _
    exact ⟨_, _, .backfill _ guid now, isLegacy, t, c, hc, rfl⟩

/-- A read of the first row sends its SELECT and the backfill of that row. -/
theorem sends_getBy {q : Query} (h : r.Makes .action ((r.onTable q).take 1).clearCaching.asSelect) :
    Sends r.db r.IsMade (r.getBy q) := by
  refine Caching.sends_cached _ (Run.sends_bind ?_ fun rows _ _ => ?_)
  · exact Database.sends_compile_bind fun isLegacy t c hc =>
      Database.sends_query ⟨_, _, h, isLegacy, t, c, hc, rfl⟩
  · cases rows with
    | nil => exact Run.sends_pure none
    | cons row rows => exact Run.sends_bind_keeps (r.sends_materialize row) fun _ => .pure _

theorem sends_exists? {q : Query} (h : r.Makes .existence (r.onTable q).clearCaching) :
    Sends r.db r.IsMade (r.exists? q) := by
  refine Caching.sends_cached _ (Run.sends_bind_keeps ?_ fun _ => .pure _)
  exact Database.sends_compile_bind fun isLegacy t c hc =>
    Run.sends_bind_keeps (Database.sends_queryScalar ⟨_, _, h, isLegacy, t, c, hc, rfl⟩)
      fun _ => .pure _

/-- A write that asks nothing of the cache sends its statement. -/
theorem sends_runWrite {q : Query} (hc : q.caching = none) (h : r.Makes .action (r.onTable q)) :
    Sends r.db r.IsMade (r.runWrite q) := by
  rw [runWrite_eq hc]
  exact Database.sends_compile_bind fun isLegacy t c hcompile =>
    Database.sends_execute ⟨_, _, h, isLegacy, t, c, hcompile, rfl⟩

theorem sends_insertRow (r : Repository α) (e : α) : Sends r.db r.IsMade (r.insertRow e) :=
  Database.sends_compile_bind fun isLegacy t c hc =>
    Run.sends_bind_keeps (Database.sends_queryScalar ⟨_, _, .insert e, isLegacy, t, c, hc, rfl⟩)
      fun _ => .pure _

/-- A request that its guard stops sends nothing. -/
theorem sends_get (r : Repository α) (id : Int64) : Sends r.db r.IsMade (r.get id) :=
  .ite (Run.sends_pure none) (sends_getBy (.get id))

theorem sends_getByGuid (r : Repository α) (guid : String) :
    Sends r.db r.IsMade (r.getByGuid guid) :=
  .ite (sends_getBy (.getByGuid guid)) (Run.sends_pure none)

theorem sends_existsId (r : Repository α) (id : Int64) : Sends r.db r.IsMade (r.existsId id) :=
  .ite (Run.sends_pure false) (sends_exists? (.existsId id))

theorem sends_existsGuid (r : Repository α) (guid : String) :
    Sends r.db r.IsMade (r.existsGuid guid) :=
  .ite (sends_exists? (.existsGuid guid)) (Run.sends_pure false)

theorem sends_delete (r : Repository α) (id : Int64) : Sends r.db r.IsMade (r.delete id) :=
  .ite (Run.sends_pure 0) (sends_runWrite rfl (.delete id))

theorem sends_insert (r : Repository α) (e : α) : Sends r.db r.IsMade (r.insert e) := by
  intro s
  have hinsert : Step.after (r.insert e) s = Step.after (r.insertRow (inserted e s)) (drawn s) :=
    congrArg Prod.snd (run_insert r e s)
  rw [hinsert]
  exact r.sends_insertRow _ (drawn s)

theorem sends_update (r : Repository α) (e : α) : Sends r.db r.IsMade (r.update e) := by
  intro s
  rcases after_update r e s with h | ⟨t, hsame, h⟩
  · exact ⟨[], by rw [h, List.append_nil], fun _ h => absurd h List.not_mem_nil⟩
  · have hsent : s.sent r.db = t.sent r.db := by rw [Session.sent, Session.sent, hsame]
    rw [h, hsent]
    have hcaching : (r.updateQuery (updated e s)).asUpdate.caching = none := caching_updateQuery r _
    exact sends_runWrite hcaching (.update _) t

theorem Own.sends_made (o : Own α) (r : Repository α) (s : Session) :
    ∃ sent, (o.after r s).sent r.db = s.sent r.db ++ sent ∧ ∀ st ∈ sent, r.IsMade st := by
  cases o with
  | get id => exact r.sends_get id s
  | getByGuid guid => exact r.sends_getByGuid guid s
  | existsId id => exact r.sends_existsId id s
  | existsGuid guid => exact r.sends_existsGuid guid s
  | delete id => exact r.sends_delete id s
  | insert e => exact r.sends_insert e s
  | update e => exact r.sends_update e s
  | read row => exact r.sends_materialize row s

/-! ## What a new table has -/

theorem quotes_createTable {d : Dialect} {table sql : String} {cs : List Column}
    (h : Schema.createTable d table cs = .ok sql) {c : Column} (hc : c ∈ cs) :
    d.Quotes c.name sql := by
  obtain ⟨-, -, -, rfl⟩ := Schema.createTable_eq_ok_iff.1 h
  -- a reserved name changes the column, but not how the name is spelled
  have hdefinition : d.Quotes c.name (Schema.columnDefinition d c.normalized false) := by
    rw [Schema.columnDefinition, Column.normalized_name]
    exact (Dialect.Quotes.self.append_right _).append_right _
  refine .append_right (.append_right (.append_left (.intercalate ⟨_, ?_, hdefinition⟩ _) _) _) _
  rw [List.map_map]
  exact List.mem_append_left _ (List.mem_map_of_mem hc)

/-! ## Following the spelling -/

theorem isBaseColumn_of_mem {n : String} (h : n ∈ Entity.baseNames) :
    Entity.isBaseColumn n = true := by
  simp only [Entity.baseNames, List.mem_cons, List.not_mem_nil, or_false] at h
  rcases h with rfl | rfl | rfl <;> decide

theorem follows_iff {p : Purpose} {q : Query} (h : r.Makes p q) : r.Follows p q ↔
    ∀ now, ∀ n ∈ q.mentions r.db.dialect now p, n ∈ Entity.baseNames → r.Spells n := by
  constructor
  · exact fun hfollows now n hn hbase => hfollows now n hn (isBaseColumn_of_mem hbase)
  · intro hspells now n hn _
    -- the name of a column is spelled by that very column
    rcases mentions_made h r.db.dialect now hn with hcolumn | hbase
    · exact spells_of_mem hcolumn
    · exact hspells now n hn hbase

/-- A repository sends what it makes up, with all the names in it. A statement names the base
columns as its columns spell them if and only if they spell those so that it writes as `Id`, `Guid`
and `LastModifiedDate`, and all statements do if and only if the columns spell all three so, as far
as they have them. A table is created with the columns as they are spelled. -/
theorem follows_spelling_iff (r : Repository α) :
    (∀ (o : Own α) (s : Session), ∃ sent, (o.after r s).sent r.db = s.sent r.db ++ sent ∧
      ∀ st ∈ sent, ∃ p q now, r.Makes p q ∧
        (∃ isLegacy c, q.compile ⟨r.db.dialect, isLegacy⟩ now p = .ok c ∧ c.statement = st) ∧
        ∀ n ∈ q.mentions r.db.dialect now p, st.Quotes r.db.dialect n) ∧
    (∀ p q, r.Makes p q → (r.Follows p q ↔
      ∀ now, ∀ n ∈ q.mentions r.db.dialect now p, n ∈ Entity.baseNames → r.Spells n)) ∧
    ((∀ p q, r.Makes p q → r.Follows p q) ↔ ∀ n ∈ Entity.baseNames, r.Spells n) ∧
    ∀ table sql, Schema.createTable r.db.dialect table r.columns = .ok sql →
      ∀ c ∈ r.columns, r.db.dialect.Quotes c.name sql := by
  refine ⟨fun o s => ?_, fun p q => follows_iff, ⟨fun h n hn => ?_, fun h p q hmade => ?_⟩,
    fun table sql h c hc => quotes_createTable h hc⟩
  · obtain ⟨sent, hsent, hmade⟩ := o.sends_made r s
    refine ⟨sent, hsent, fun st hst => ?_⟩
    obtain ⟨p, q, hmakes, isLegacy, now, c, hc, rfl⟩ := hmade st hst
    exact ⟨p, q, now, hmakes, ⟨isLegacy, c, hc, rfl⟩, fun n => Query.quotes_mentions hc⟩
  · -- a backfill mentions all three
    let now : Timestamp := ⟨2024, 1, 1, 0, 0, 0, 0, by decide⟩
    let guid : Guid := ⟨"6f1c9a44-0b1e-4c57-9d0a-2f6f3f1f7a10", by decide⟩
    refine h _ _ (.backfill 1 guid now) now n ?_ (isBaseColumn_of_mem hn)
    rw [mentions_backfill]
    simpa [Entity.baseNames, or_comm, or_left_comm] using hn
  · exact (follows_iff hmade).2 fun now n _ hn => h n hn

end Entities

/-- PostgreSQL creates the table with a column `id`, and the row of an identity is asked for by
`Id`. -/
theorem get_misspells_id : ∃ (r : Repository Record) (s : Session), r.db.dialect = .postgres ∧
      Schema.createTable .postgres r.table r.columns =
        .ok ("CREATE TABLE \"Posts\" (\n    \"id\" SERIAL,\n    \"Title\" varchar(500),\n    " ++
          "CONSTRAINT \"PK_Posts\" PRIMARY KEY (\"id\")\n)") ∧
      ((Own.get 1).after r s).sent r.db =
        [⟨"SELECT * FROM \"Posts\" WHERE \"Id\" = $1 LIMIT 1", [("$1", .int 1)]⟩] ∧
      ¬ r.Follows .action ((r.onTable (.eq Column.idName (.int 1))).take 1) := by
  let now : Timestamp := ⟨2024, 1, 1, 0, 0, 0, 0, by decide⟩
  let guid : Guid := ⟨"6f1c9a44-0b1e-4c57-9d0a-2f6f3f1f7a10", by decide⟩
  let s := Session.start ⟨fun _ => guid, fun _ => now, fun _ => 0⟩ none
  let r : Repository Record := ⟨⟨.postgres, "", 0⟩, "Posts",
    [{ Column.identityColumn with name := "id" }, .plain "Title" .varchar]⟩
  refine ⟨r, s, rfl, by decide +kernel, by decide +kernel, fun h => ?_⟩
  obtain ⟨c, hc, hname⟩ := h now Column.idName (.head _) (by decide) (by decide)
  revert c
  decide

end Repository

end Polydialect
