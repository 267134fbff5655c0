import Polydialect.Proofs.Assigning
import Polydialect.Proofs.Backfill

/-!
# What a read sends and gives

A read that the cache does not answer sends its SELECT and then, in the order of the rows, one
UPDATE for each row that it gives a fresh global identifier; the other rows are given as they are
and send nothing. The versions that servers are asked for are left out (`Database.sent?`).

* `Database.keeps_compile`: compiling sends nothing else;
* `Repository.materialize_spec`: what a row becomes and what that sends; `materializeAll_spec`: so
  do rows, by induction;
* `Repository.reads_restore_guids`: every read.
-/

namespace Polydialect

open Step

variable {α β : Type}

/-! ## Statements that are sent -/

/-- The statement that the engine is asked to run. -/
def Event.statement? : Event → Option Statement
  | .executed st | .queried st => some st
  | _ => none

namespace Database

/-- The statement that asks the server for its version. -/
def probe? (db : Database) : Option Statement := db.dialect.versionProbe?.map db.statementOfText

/-- The statement that is sent, unless it asks for the version. -/
def sent? (db : Database) (e : Event) : Option Statement :=
  e.statement?.filter fun st => db.probe? ≠ some st

end Database

namespace Session

/-- The statements that were sent, in order. -/
def sent (db : Database) (s : Session) : List Statement := s.journal.filterMap db.sent?

theorem hidesCache_sent (db : Database) : HidesCache (Session.sent db) :=
  hidesCache_journal fun e he => by cases e <;> first | rfl | cases he

theorem sent_note (db : Database) (e : Event) (s : Session) :
    (s.note e).sent db = s.sent db ++ (db.sent? e).toList := by
  rw [sent, note, List.filterMap_append, List.filterMap_cons, List.filterMap_nil]
  cases db.sent? e <;> rfl

end Session

/-- A statement begins with what its fragment begins with, unless that is a marker. -/
theorem Statement.head?_ofFragment {d : Dialect} {f : Fragment} {c : Char} (hc : c ≠ '?')
    (h : f.text.toList.head? = some c) : (ofFragment d f).sql.toList.head? = some c := by
  obtain ⟨r, hr⟩ := List.head?_eq_some_iff.1 h
  have hm : Marker.isMarker .outside c = false := by simp [Marker.isMarker, hc]
  simp [ofFragment, Marker.nameAll, hr, Marker.nameFrom_cons, hm]

namespace Database

variable {db : Database}

theorem keeps_note {e : Event} (he : db.sent? e = none) (s : Session) :
    (s.note e).sent db = s.sent db := by
  rw [Session.sent_note, he]
  exact List.append_nil _

theorem keeps_connect (context : String) : Keeps (Session.sent db) (Engine.connect context) := by
  intro s
  show (Engine.connect context s).2.sent db = _
  unfold Engine.connect
  split
  · exact keeps_note rfl { s with replies := s.replies.tail }
  · exact keeps_note rfl s

theorem after_ask (e : Event) (s : Session) :
    (Step.after (Engine.ask e) s).sent db = s.sent db ++ (db.sent? e).toList :=
  Session.sent_note db e { s with replies := s.replies.tail }

/-- Asking for the version leaves no trace among the statements. -/
theorem keeps_queryProbe {st : Statement} (h : db.probe? = some st) :
    Keeps (Session.sent db) (db.queryScalar st) := by
  have hnone : db.sent? (.queried st) = none := by simp [sent?, Event.statement?, h]
  have hquery : Keeps (Session.sent db) (Engine.query st) := by
    refine Run.keeps_bind (Run.keeps_lift fun s => ?_) fun reply => ?_
    · rw [after_ask, hnone]
      exact List.append_nil _
    · cases reply <;> exact .pure _
  exact Run.keeps_bind (keeps_connect _) fun _ => Run.keeps_bind hquery fun _ => .pure _

theorem keeps_isLegacy : Keeps (Session.sent db) db.isLegacy := by
  rw [isLegacy]
  cases hprobe : db.dialect.versionProbe? with
  | none => exact .pure false
  | some probe =>
    have hp : db.probe? = some (db.statementOfText probe) := by rw [probe?, hprobe]; rfl
    refine Keeps.bind .get fun s => ?_
    cases s.capabilities.lookup db.capabilityKey with
    | some known => exact .pure known
    | none =>
      refine Keeps.bind (keeps_queryProbe hp) fun r => ?_
      cases r with
      | error e => exact .pure false
      | ok version => exact Keeps.bind (.modify fun s => rfl) fun _ => .pure _

/-- Compiling sends nothing but the question for the version. -/
theorem keeps_compile (p : Purpose) (q : Query) : Keeps (Session.sent db) (db.compile p q) := by
  refine Run.keeps_bind (Run.keeps_lift (keeps_isLegacy.bind fun _ => .pure _)) fun c => ?_
  refine Run.keeps_bind (Run.keeps_lift fun s => rfl) fun now => ?_
  refine Run.keeps_bind (.pure _) fun r => ?_
  exact Run.keeps_bind (Run.keeps_lift (.modify fun s => rfl)) fun _ => .pure _

/-- What is asked of an open connection is sent, whatever the reply is. -/
theorem sent_engineQuery (st : Statement) (s : Session) :
    (Step.after (Engine.query st) s).sent db = s.sent db ++ (db.sent? (.queried st)).toList := by
  rw [← after_ask, Engine.query, Run.after_bind]
  show (Step.after _ (Step.after (Engine.ask (.queried st)) s)).sent db = _
  split <;> rfl

theorem sent_engineExecute (st : Statement) (s : Session) :
    (Step.after (Engine.execute st) s).sent db = s.sent db ++ (db.sent? (.executed st)).toList := by
  rw [← after_ask, Engine.execute, Run.after_bind]
  show (Step.after _ (Step.after (Engine.ask (.executed st)) s)).sent db = _
  split <;> rfl

theorem sent_query {st : Statement} {s : Session} {rows : List Row} (hp : db.probe? ≠ some st)
    (h : Step.result (db.query st) s = .ok rows) :
    (Step.after (db.query st) s).sent db = s.sent db ++ [st] := by
  obtain ⟨⟨⟩, -, -, ha⟩ := Run.bind_eq_ok h
  have hs : db.sent? (.queried st) = some st := by simp [sent?, Event.statement?, hp]
  rw [query, ha, sent_engineQuery, hs, connect, keeps_connect]
  rfl

theorem sent_execute {st : Statement} {s : Session} {n : UInt64} (hp : db.probe? ≠ some st)
    (h : Step.result (db.execute st) s = .ok n) :
    (Step.after (db.execute st) s).sent db = s.sent db ++ [st] := by
  obtain ⟨⟨⟩, -, -, ha⟩ := Run.bind_eq_ok h
  have hs : db.sent? (.executed st) = some st := by simp [sent?, Event.statement?, hp]
  rw [execute, ha, sent_engineExecute, hs, connect, keeps_connect]
  rfl

/-! ### Statements of queries are no questions for the version -/

/-- The question for the version is the only statement that begins with a small letter. -/
theorem probe?_ne_of_head? {st : Statement} {c : Char} (hs : c ≠ 's')
    (h : st.sql.toList.head? = some c) : db.probe? ≠ some st := by
  intro hp
  have hsql : st.sql.toList.head? = some 's' := by
    obtain ⟨dialect, connection, handle⟩ := db
    cases dialect with
    | sqlServer =>
      rw [← Option.some.inj hp]
      exact Statement.head?_ofFragment (by decide) (by decide)
    | mysql | postgres | oracle | sqlite => cases hp
  rw [h] at hsql
  exact hs (Option.some.inj hsql)

theorem probe?_ne {d : Dialect} {f : Fragment} {c : Char} (hc : c ≠ '?') (hs : c ≠ 's')
    (h : f.text.toList.head? = some c) : db.probe? ≠ some (.ofFragment d f) :=
  probe?_ne_of_head? hs (Statement.head?_ofFragment hc h)

end Database

/-- The condition on a number in a column. -/
theorem Query.filterFragment_of_int {d : Dialect} {q : Query} {column : String} {n : Int64}
    (h : q.conditions = [.compare column .eq (.int n)]) :
    q.filterFragment d = ⟨" WHERE " ++ d.quote column ++ " = ?", [.int n]⟩ := by
  rw [filterFragment, whereClause?, h]
  show Fragment.wrap " WHERE " (.join " AND " [_]) "" = _
  rw [Fragment.join_singleton]
  simp [Fragment.wrap, Condition.fragment, Condition.comparison, Value.isNull, Comparison.text,
    String.append_assoc]

theorem Selection.head?_text {d : Dialect} {s : Selection} {sql : String}
    (h : s.text d = .ok sql) : sql.toList.head? = some 'S' := by
  cases text_eq_ok_iff.1 h with
  | numbered =>
    obtain ⟨rest, hrest⟩ := exists_rowNumbered_eq .sqlServer s _
    rw [hrest]
    simp
  | top => simp
  | paged | whole | ordered => simp [base]

namespace Repository

variable {r : Repository α}

/-! ## The rows -/

/-- The statement that selects the rows of a query. -/
def IsSelect (r : Repository α) (q : Query) (st : Statement) : Prop :=
  ∃ (isLegacy : Bool) (now : Timestamp) (c : Compiled),
    q.asSelect.compile ⟨r.db.dialect, isLegacy⟩ now .action = .ok c ∧ c.statement = st

theorem IsSelect.probe?_ne {q : Query} {st : Statement} (h : r.IsSelect q st) :
    r.db.probe? ≠ some st := by
  obtain ⟨isLegacy, now, c, hc, rfl⟩ := h
  obtain ⟨st, hs, hc⟩ := Polydialect.bind_eq_ok.1 hc
  obtain ⟨table, ht, hs⟩ := Polydialect.bind_eq_ok.1 hs
  obtain ⟨f, hf, hs⟩ := Polydialect.bind_eq_ok.1 hs
  obtain ⟨sql, hsql, hf⟩ := Polydialect.bind_eq_ok.1 hf
  cases hc
  cases hs
  cases hf
  exact Database.probe?_ne (by decide) (by decide) (Selection.head?_text hsql)

theorem selectRows_spec {q : Query} {s : Session} {rows : List Row}
    (h : Step.result (r.selectRows q) s = .ok rows) :
    ∃ st, r.IsSelect q st ∧
      (Step.after (r.selectRows q) s).sent r.db = s.sent r.db ++ [st] := by
  obtain ⟨c, hc, h, ha⟩ := Run.bind_eq_ok h
  obtain ⟨isLegacy, now, hq⟩ := Database.compile_eq_ok hc
  have hselect : r.IsSelect q c.statement := ⟨isLegacy, now, c, hq, rfl⟩
  refine ⟨c.statement, hselect, ?_⟩
  rw [selectRows, ha, Database.sent_query hselect.probe?_ne h, Database.keeps_compile]

/-! ## The identifiers -/

/-- The text of a backfill with its markers. -/
def writeBackText (d : Dialect) (table : String) : String :=
  "UPDATE " ++ d.quote table ++ " SET " ++ d.quote Column.guidName ++ " = ?, " ++
    d.quote Column.modifiedName ++ " = ? WHERE " ++ d.quote Column.idName ++ " = ?"

/-- The statement that writes the global identifier and the time of base fields into their row. -/
def writeBack (r : Repository α) (b : Entity.Base) : Statement where
  sql := Marker.nameAll r.db.dialect.backslashEscapes r.db.dialect.placeholder
    (writeBackText r.db.dialect r.table)
  bindings :=
    [(r.db.dialect.placeholder 1, .text b.guid), (r.db.dialect.placeholder 2, timeValue b.modified),
      (r.db.dialect.placeholder 3, .int b.id)]

/-- Both columns of a backfill are assigned, and the time is not assigned once more. -/
theorem effective_backfill (guid : Guid) (now t : Timestamp) :
    Assignment.effective t
      [.value Column.guidName (.text guid.text), .value Column.modifiedName (.timestamp now)] =
      [.value Column.guidName (.text guid.text), .value Column.modifiedName (.timestamp now)] := by
  have hne : Text.sameName Column.guidName Column.modifiedName = false := by decide
  have heq : Text.sameName Column.modifiedName Column.modifiedName = true := by decide
  simp [Assignment.effective, Assignment.stamped, Assignment.firsts, Assignment.target, hne, heq]

theorem updateFragment_backfill (id : Int64) (guid : Guid) (now t : Timestamp) :
    (r.backfill id guid now).updateFragment r.db.dialect t r.table =
      ⟨writeBackText r.db.dialect r.table, [.text guid.text, .timestamp now, .int id]⟩ := by
  have ha : (r.backfill id guid now).assignments =
    [.value Column.guidName (.text guid.text), .value Column.modifiedName (.timestamp now)] := rfl
  rw [Query.updateFragment_eq, ha, effective_backfill]
  rw [Query.filterFragment_of_int rfl]
  show Fragment.mk _ _ = _
  refine congrArg₂ _ ?_ rfl
  rw [← String.toList_inj]
  delta writeBackText
  simp [Assignment.fragment]

theorem backfill_statement {b : Entity.Base} {guid : Guid} {now t : Timestamp} {isLegacy : Bool}
    {c : Compiled}
    (h : (r.backfill b.id guid now).compile ⟨r.db.dialect, isLegacy⟩ t .action = .ok c) :
    c.statement = r.writeBack (b.stamp guid.text now) := by
  have ht : (r.backfill b.id guid now).target = .ok r.table := by
    obtain ⟨st, hs, -⟩ := Polydialect.bind_eq_ok.1 h
    obtain ⟨table, ht, -⟩ := Polydialect.bind_eq_ok.1 hs
    obtain rfl : r.table = table := Option.some.inj (Query.target_eq_some ht)
    exact ht
  rw [Query.compile_update rfl ht] at h
  rw [← Except.ok.inj h]
  show Statement.ofFragment _ (Query.updateFragment _ t _ _) = _
  rw [updateFragment_backfill]
  rfl

theorem probe?_ne_writeBack (r : Repository α) (b : Entity.Base) :
    r.db.probe? ≠ some (r.writeBack b) := by
  have h : (writeBackText r.db.dialect r.table).toList.head? = some 'U' := by
    delta writeBackText
    simp
  exact Database.probe?_ne (d := r.db.dialect) (f := ⟨_, [_, _, _]⟩) (by decide) (by decide) h

section Entities

variable [Entity α]

/-- What reading a row gives: the entity of its own fields, with the base fields that are in the
row, and with a fresh global identifier and the time if it has an identity and no global
identifier. -/
def Restores (r : Repository α) (row : Row) (e : α) : Prop :=
  ∃ own, Entity.ofRow row = .ok own ∧
    if 0 < row.identity ∧ row.holdsGuid = false then
      ∃ (guid : Guid) (now : Timestamp),
        e = Entity.setBase ((Entity.Base.ofTableRow r.extendName? row).stamp guid.text now) own
    else e = Entity.setBase (.ofTableRow r.extendName? row) own

/-- What reading rows sends: the identifiers of those that get one. -/
def writtenBack (r : Repository α) (rows : List Row) (es : List α) : List Statement :=
  ((rows.zip es).filter fun p => 0 < p.1.identity && !p.1.holdsGuid).map fun p =>
    r.writeBack (Entity.base p.2)

theorem restores_of_needsGuid {row : Row} {own : α} {guid : Guid} {now : Timestamp}
    (hown : Entity.ofRow row = .ok own) (hn : r.needsGuid row = true) :
    r.Restores row
      (Entity.setBase ((Entity.Base.ofTableRow r.extendName? row).stamp guid.text now) own) := by
  simp only [needsGuid, Bool.and_eq_true, decide_eq_true_eq, Bool.not_eq_true'] at hn
  refine ⟨own, hown, ?_⟩
  rw [if_pos ⟨hn.1.1, hn.2⟩]
  exact ⟨guid, now, rfl⟩

theorem restores_of_not_needsGuid (hg : r.hasColumn Column.guidName = true) {row : Row} {own : α}
    (hown : Entity.ofRow row = .ok own) (hn : r.needsGuid row = false) :
    r.Restores row (Entity.setBase (.ofTableRow r.extendName? row) own) := by
  rw [needsGuid, hg, Bool.and_true, Bool.and_eq_false_iff] at hn
  refine ⟨own, hown, ?_⟩
  rw [if_neg]
  rintro ⟨hid, hguid⟩
  simp [hid, hguid] at hn

theorem writtenBack_singleton (hg : r.hasColumn Column.guidName = true) (row : Row) (e : α) :
    r.writtenBack [row] [e] =
      if r.needsGuid row then [r.writeBack (Entity.base e)] else [] := by
  have hn : r.needsGuid row = (0 < row.identity && !row.holdsGuid) := by
    rw [needsGuid, hg, Bool.and_true]
  simp only [writtenBack, List.zip_cons_cons, List.zip_nil_left, List.filter_cons, List.filter_nil,
    ← hn]
  split <;> rfl

theorem ensureGuid_spec (hg : r.hasColumn Column.guidName = true) {row : Row} {own e : α}
    (hown : Entity.ofRow row = .ok own) {s : Session}
    (h : Step.result (r.ensureGuid (Entity.setBase (.ofTableRow r.extendName? row) own)) s =
      .ok e) :
    r.Restores row e ∧
      (Step.after (r.ensureGuid (Entity.setBase (.ofTableRow r.extendName? row) own)) s).sent r.db =
        s.sent r.db ++ r.writtenBack [row] [e] := by
  rw [writtenBack_singleton hg]
  rw [ensureGuid, lacksGuid_setBase, Entity.base_setBase] at h ⊢
  cases hn : r.needsGuid row with
  | false =>
    rw [hn] at h
    cases h
    exact ⟨restores_of_not_needsGuid hg hown hn, (List.append_nil _).symm⟩
  | true =>
    rw [hn] at h
    obtain ⟨guid, -, h, hguid⟩ := Run.bind_eq_ok h
    obtain ⟨now, -, h, hnow⟩ := Run.bind_eq_ok h
    obtain ⟨c, hc, h, hcompile⟩ := Run.bind_eq_ok h
    obtain ⟨⟨⟩, hx, h, hdiscard⟩ := Run.bind_eq_ok h
    cases h
    obtain ⟨n, hn', -, hexecute⟩ := Run.bind_eq_ok (f := fun _ => pure ()) hx
    obtain ⟨isLegacy, t, hq⟩ := Database.compile_eq_ok hc
    have hst := backfill_statement hq
    rw [Entity.mapBase_setBase, Entity.base_setBase]
    refine ⟨restores_of_needsGuid hown hn, ?_⟩
    refine (congrArg (Session.sent r.db)
      (hguid.trans (hnow.trans (hcompile.trans (hdiscard.trans hexecute))))).trans ?_
    show (Step.after (r.db.execute c.statement) _).sent r.db = _
    have hp : r.db.probe? ≠ some c.statement := hst ▸ probe?_ne_writeBack r _
    rw [Database.sent_execute hp hn', hst]
    exact congrArg (· ++ _) (Database.keeps_compile _ _ _)

theorem materialize_spec (hg : r.hasColumn Column.guidName = true) {row : Row} {s : Session}
    {e : α} (h : Step.result (r.materialize row) s = .ok e) :
    r.Restores row e ∧
      (Step.after (r.materialize row) s).sent r.db = s.sent r.db ++ r.writtenBack [row] [e] := by
  obtain ⟨own, hown, h, hafter⟩ := Run.bind_eq_ok h
  rw [materialize, hafter]
  exact ensureGuid_spec hg hown h

theorem writtenBack_cons (row : Row) (rows : List Row) (e : α) (es : List α) :
    r.writtenBack (row :: rows) (e :: es) = r.writtenBack [row] [e] ++ r.writtenBack rows es := by
  rw [writtenBack, writtenBack, writtenBack, ← List.map_append, ← List.filter_append]
  rfl

theorem materializeAll_spec (hg : r.hasColumn Column.guidName = true) {rows : List Row}
    {s : Session} {es : List α} (h : Step.result (r.materializeAll rows) s = .ok es) :
    List.Forall₂ r.Restores rows es ∧
      (Step.after (r.materializeAll rows) s).sent r.db =
        s.sent r.db ++ r.writtenBack rows es := by
  induction rows generalizing s es with
  | nil =>
    cases h
    exact ⟨.nil, (List.append_nil _).symm⟩
  | cons row rows ih =>
    obtain ⟨e, he, h, hrow⟩ := Run.bind_eq_ok h
    obtain ⟨es', hes, h, hrows⟩ := Run.bind_eq_ok h
    cases h
    obtain ⟨hr, hsent⟩ := materialize_spec hg he
    obtain ⟨hrs, hsents⟩ := ih hes
    refine ⟨.cons hr hrs, (congrArg (Session.sent r.db) (hrow.trans hrows)).trans ?_⟩
    show (Step.after (r.materializeAll rows) _).sent r.db = _
    rw [hsents, hsent, writtenBack_cons row rows, List.append_assoc]

/-- A record that was read with an identity has a global identifier. -/
theorem Restores.isValid {row : Row} {e : α} (h : r.Restores row e) (hid : 0 < (Entity.base e).id) :
    Guid.isValid (Entity.base e).guid = true := by
  obtain ⟨own, -, h⟩ := h
  split at h
  · obtain ⟨guid, now, rfl⟩ := h
    rw [Entity.base_setBase]
    exact guid.property
  · rename_i hkeep
    rw [h, Entity.base_setBase] at hid ⊢
    have hholds : row.holdsGuid = true := by
      cases hc : row.holdsGuid with
      | true => rfl
      | false => exact absurd ⟨hid, hc⟩ hkeep
    show Guid.isValid (((row.get? Column.guidName).bind Value.toText?).getD "") = true
    rw [Row.holdsGuid] at hholds
    cases hc : (row.get? Column.guidName).bind Value.toText? with
    | none => rw [hc] at hholds; cases hholds
    | some text => rw [hc] at hholds; exact hholds

/-! ## Reads -/

/-- A read has gone from one session to another: it sent the SELECT of its query and wrote back the
identifiers of the rows that had none, and every record that it gives with an identity has one. -/
structure Gives (r : Repository α) (q : Query) (rows : List Row) (es : List α)
    (s t : Session) : Prop where
  restores : List.Forall₂ r.Restores rows es
  valid : ∀ e ∈ es, 0 < (Entity.base e).id → Guid.isValid (Entity.base e).guid = true
  sent : ∃ st, r.IsSelect q st ∧ t.sent r.db = s.sent r.db ++ st :: r.writtenBack rows es

theorem valid_of_restores {rows : List Row} {es : List α}
    (h : List.Forall₂ r.Restores rows es) :
    ∀ e ∈ es, 0 < (Entity.base e).id → Guid.isValid (Entity.base e).guid = true := by
  induction h with
  | nil => exact fun e he => absurd he List.not_mem_nil
  | cons hr _ ih => exact List.forall_mem_cons.2 ⟨hr.isValid, ih⟩

/-- The loader of every row. -/
theorem gives_selectAll (hg : r.hasColumn Column.guidName = true) {q : Query} {s t : Session}
    (ht : t.apart = s.apart) {es : List α}
    (h : Step.result (do
      r.materializeAll (← r.selectRows (r.onTable q).clearCaching) : Run (List α)) t =
        .ok es) :
    r.Gives (r.onTable q).clearCaching (r.answered q s) es t (Step.after (do
      r.materializeAll (← r.selectRows (r.onTable q).clearCaching) : Run (List α)) t) := by
  obtain ⟨rows, hrows, h, ha⟩ := Run.bind_eq_ok h
  obtain ⟨st, hst, hsent⟩ := selectRows_spec hrows
  obtain ⟨hr, hback⟩ := materializeAll_spec hg h
  rw [answered_eq ht hrows, ha]
  refine ⟨hr, valid_of_restores hr, st, hst, ?_⟩
  rw [hback, hsent, List.append_assoc]
  rfl

/-- The loader of the first row. -/
theorem gives_selectFirst (hg : r.hasColumn Column.guidName = true) {q : Query} {s t : Session}
    (ht : t.apart = s.apart) {e : Option α}
    (h : Step.result (do
      match ← r.selectRows (r.onTable q).clearCaching with
      | [] => return none
      | row :: _ => return some (← r.materialize row) : Run (Option α)) t = .ok e) :
    r.Gives (r.onTable q).clearCaching ((r.answered q s).take 1) e.toList t (Step.after (do
      match ← r.selectRows (r.onTable q).clearCaching with
      | [] => return none
      | row :: _ => return some (← r.materialize row) : Run (Option α)) t) := by
  obtain ⟨rows, hrows, h, ha⟩ := Run.bind_eq_ok h
  obtain ⟨st, hst, hsent⟩ := selectRows_spec hrows
  rw [answered_eq ht hrows, ha]
  cases rows with
  | nil =>
    cases h
    exact ⟨.nil, fun e he => absurd he List.not_mem_nil, st, hst, hsent⟩
  | cons row rows =>
    obtain ⟨e, he, h, hrow⟩ := Run.bind_eq_ok h
    cases h
    obtain ⟨hr, hback⟩ := materialize_spec hg he
    refine ⟨.cons hr .nil, valid_of_restores (.cons hr .nil), st, hst, ?_⟩
    refine (congrArg (Session.sent r.db) hrow).trans ?_
    show (Step.after (r.materialize row) _).sent r.db = _
    rw [hback, hsent, List.append_assoc]
    rfl

theorem gives_cached {codec : Cache.Codec β} {q q' : Query} {loader : Query → Run β}
    {rows : List Row} (es : β → List α) {s : Session} {a : β}
    (hl : ∀ t : Session, t.apart = s.apart → ∀ a, Step.result (loader q.clearCaching) t = .ok a →
      r.Gives q' rows (es a) t (Step.after (loader q.clearCaching) t))
    (hmiss : ¬ Caching.Hits codec q s a)
    (h : Step.result (Caching.cached codec q loader) s = .ok a) :
    r.Gives q' rows (es a) s (Step.after (Caching.cached codec q loader) s) := by
  rcases Caching.loads_cached (Session.hidesCache_sent r.db) codec q loader s with
    ⟨t, ht, hsame, hafter, hresult⟩ | ⟨-, hhit⟩
  · obtain ⟨hr, hv, st, hst, hsent⟩ := hl t ht a (hresult a h)
    exact ⟨hr, hv, st, hst, by rw [hafter, hsent, hsame]⟩
  · exact absurd (hhit a h) hmiss

/-- A read that succeeds and takes nothing from the cache gives every record that has an identity a
global identifier. Besides asking for versions it sends its SELECT and then, in the order of the
rows, one UPDATE for each row with an identity and without a global identifier, which binds the
identifier and the time that the record is given with, and the identity; the other rows are given as
they are. `getBy` looks at the first row. -/
theorem reads_restore_guids (hg : r.hasColumn Column.guidName = true) (q : Query)
    (s : Session) :
    (∀ es, Step.result (r.getAll q) s = .ok es → ¬ Caching.Hits entitiesCodec q s es →
      r.Gives (r.onTable q).clearCaching (r.answered q s) es s (Step.after (r.getAll q) s)) ∧
    ∀ e, Step.result (r.getBy q) s = .ok e → ¬ Caching.Hits entityCodec q s e →
      r.Gives (r.onTable (q.take 1)).clearCaching ((r.answered (q.take 1) s).take 1) e.toList s
        (Step.after (r.getBy q) s) :=
  ⟨fun _ h hmiss => gives_cached (q := r.onTable q) id
      (fun _ ht _ h => gives_selectAll hg ht h) hmiss h,
    fun _ h hmiss => gives_cached (q := r.onTable (q.take 1)) Option.toList
      (fun _ ht _ h => gives_selectFirst hg ht h) hmiss h⟩

end Entities

/-- Reading three posts from SQL Server: the first gets a global identifier, the second has one and
the third has no identity. -/
theorem reads_restore_guids_posts :
    ∃ (r : Repository Record) (s : Session) (es : List Record) (now : Timestamp),
      r.hasColumn Column.guidName = true ∧
      Step.result (r.getAll .empty) s = .ok es ∧ ¬ Caching.Hits entitiesCodec .empty s es ∧
      r.Gives (r.onTable .empty).clearCaching (r.answered .empty s) es s
        (Step.after (r.getAll .empty) s) ∧
      es.map (·.base.guid) = ["6f1c9a44-0b1e-4c57-9d0a-2f6f3f1f7a10",
        "00000000-0000-0000-0000-000000000002", "none"] ∧
      ((Step.after (r.getAll .empty) s).sent r.db).map (·.values) =
        [[], [.text "6f1c9a44-0b1e-4c57-9d0a-2f6f3f1f7a10", .timestamp now, .int 1]] := by
  let now : Timestamp := ⟨2024, 1, 1, 0, 0, 0, 0, by decide⟩
  let guid : Guid := ⟨"6f1c9a44-0b1e-4c57-9d0a-2f6f3f1f7a10", by decide⟩
  let row (id : Int64) (guid : Value) : Row := ⟨["Id", "Guid"], [.int id, guid]⟩
  let version : Row := ⟨["version"], [.text "16"]⟩
  let rows :=
    [row 1 .null, row 2 (.text "00000000-0000-0000-0000-000000000002"), row 0 (.text "none")]
  let s := (Session.start ⟨fun _ => guid, fun _ => now, fun _ => 0⟩ none).script
    [.answer 0 [version], .answer 0 rows]
  let r : Repository Record := ⟨⟨.sqlServer, "", 0⟩, "Posts",
    [.identityColumn, .plain Column.guidName .varchar]⟩
  have hg : r.hasColumn Column.guidName = true := by decide
  have hmiss (es : List Record) : ¬ Caching.Hits entitiesCodec .empty s es := fun ⟨_, _, h, _⟩ => by
    cases h
  have hguids : (Step.result (r.getAll .empty) s).toOption.map (·.map (·.base.guid)) =
      some ["6f1c9a44-0b1e-4c57-9d0a-2f6f3f1f7a10", "00000000-0000-0000-0000-000000000002",
        "none"] := by
    decide +kernel
  obtain ⟨hall, -⟩ := reads_restore_guids hg .empty s
  cases hes : Step.result (r.getAll .empty) s with
  | error e =>
    rw [hes] at hguids
    cases hguids
  | ok es =>
    rw [hes] at hguids
    exact ⟨r, s, es, now, hg, hes, hmiss es, hall es hes (hmiss es), Option.some.inj hguids,
      by decide +kernel⟩

end Repository

end Polydialect
