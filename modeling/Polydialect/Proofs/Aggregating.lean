import Polydialect.Proofs.Binding

/-!
# What an aggregate ranges over

The statement of an aggregate leaves out the ordering of its query, but not its window: it skips and
takes rows of a result that has a single row.

* `Query.compileAggregate_congr`: of a query only the table, the conditions and the window reach the
  statement of an aggregate;
* `Query.aggregate_reads`: so the statement ranges over all rows that the conditions admit exactly
  where the query has no window (`Query.count_keeps_offset` shows one that has).
-/

namespace Polydialect

open Marker

/-! ## Windows -/

/-- How many rows are skipped, if any, and how many are taken at most. -/
abbrev Window := Option UInt64 × Option UInt64

namespace Selection

variable {d : Dialect} {s t : Selection}

/-- The window of a SELECT. -/
def window (s : Selection) : Window := (s.skipped?, s.limit)

theorem limitText_congr (h : s.window = t.window) : s.limitText d = t.limitText d := by
  obtain ⟨hskip, hlimit⟩ := Prod.mk.inj h
  unfold limitText
  rw [hskip, hlimit]

/-- A SELECT goes by its clauses and its window, and skipping no rows is not skipping. -/
theorem text_congr (hw : s.window = t.window)
    (h : { s with offset := none } = { t with offset := none }) : s.text d = t.text d := by
  have hl := limitText_congr (d := d) hw
  obtain ⟨hskip, -⟩ := Prod.mk.inj hw
  obtain ⟨table, columns, filter, order, offset, limit, isLegacy⟩ := s
  obtain ⟨table', columns', filter', order', offset', limit', isLegacy'⟩ := t
  injection h with h1 h2 h3 h4 h5 h6 h7
  subst h1 h2 h3 h4 h6 h7
  cases d with
  | sqlServer =>
    unfold text sqlServerText
    rw [hskip, hl]
    rfl
  | mysql | postgres | oracle | sqlite =>
    unfold text
    rw [hl]
    rfl

theorem text_of_no_window (h : s.window = (none, none)) : s.text d = .ok (s.base d) := by
  obtain ⟨hskip, hlimit⟩ := Prod.mk.inj h
  by_cases hd : d = .sqlServer
  · subst hd
    exact text_eq_ok_iff.2 (.whole hskip hlimit)
  · have hnone : s.limitText d = "" := by simp [limitText, hskip, hlimit]
    rw [text_of_ne hd, hnone, String.append_empty]

theorem limitText_ne_empty (h : s.window ≠ (none, none)) : s.limitText d ≠ "" := by
  unfold limitText
  split
  · exact absurd (Prod.ext ‹_› ‹_›) h
  all_goals simp

/-- A window stands behind the statement, or the select list begins with it. -/
theorem text_of_window (h : s.window ≠ (none, none)) (ho : s.order = none) {sql : String}
    (hsql : s.text d = .ok sql) :
    (∃ w, w ≠ "" ∧ PlainText w ∧ sql = s.base d ++ w) ∨
      ∃ p ∈ ["SELECT T", "SELECT *"], ∃ r, sql = p ++ r := by
  have hne := limitText_ne_empty (d := d) h
  have hplain := plain_limitText d s
  cases text_eq_ok_iff.1 hsql with
  | paged hd => exact .inl ⟨_, hne, hplain, rfl⟩
  | whole hskip hlimit => exact absurd (Prod.ext hskip hlimit) h
  | @top l hskip hlimit =>
    have htop : "SELECT TOP (" = "SELECT T" ++ "OP (" := by decide
    let rest := number l ++ ") " ++ s.columns ++ s.source .sqlServer
    refine .inr ⟨_, .head _, "OP (" ++ rest, ?_⟩
    rw [← String.append_assoc, ← htop]
    simp only [rest, String.append_assoc]
  | ordered hskip hl =>
    refine .inl ⟨" ORDER BY (SELECT 0)" ++ s.limitText .sqlServer, by simp, ?_, ?_⟩
    · exact plainText_append.2 ⟨by decide, hplain⟩
    · simp [base, source, clause, orderOrConstant, ho, String.append_assoc]
  | numbered hskip hl hrange =>
    have hall : "SELECT * FROM (SELECT " = "SELECT *" ++ " FROM (SELECT " := by decide
    obtain ⟨rest, hrest⟩ := exists_rowNumbered_eq .sqlServer s _
    refine .inr ⟨_, .tail _ (.head _), " FROM (SELECT " ++ rest, ?_⟩
    rw [hrest, ← String.append_assoc]
    exact congrArg (· ++ rest) hall

/-- What the expression of an aggregate begins with. -/
def aggregateInitials : List String := ["C", "S", "M"]

/-- The expression may be one of an aggregate. -/
def BeginsAggregate (e : String) : Prop := ∃ first ∈ aggregateInitials, ∃ rest, e = first ++ rest

/-- Behind `SELECT` no aggregate goes on like a window, so a window is seen in the statement. -/
theorem window_eq_none_of_nameAll {e : Bool} {name : Nat → String}
    (hs : BeginsAggregate s.columns) (ho : s.order = none) {sql : String}
    (hsql : s.text d = .ok sql) (h : nameAll e name sql = nameAll e name (s.base d)) :
    s.window = (none, none) := by
  obtain ⟨p, hp, r, hs⟩ := hs
  refine Decidable.byContradiction fun hw => ?_
  rcases text_of_window hw ho hsql with ⟨w, hne, hplain, ht⟩ | ⟨p', hp', r', ht⟩
  · rw [ht, nameAll_append_plain hplain] at h
    exact hne (by simpa using h)
  · have hbase : s.base d = "SELECT " ++ p ++ (r ++ s.source d) := by
      simp only [base, hs, String.append_assoc]
    have hfirst : ∀ p ∈ aggregateInitials,
        PlainText ("SELECT " ++ p) ∧ ("SELECT " ++ p).toList.length = 8 := by decide
    have hwindow : ∀ p ∈ ["SELECT T", "SELECT *"], PlainText p ∧ p.toList.length = 8 := by decide
    rw [ht, hbase, nameAll_plain_append (hfirst p hp).1, nameAll_plain_append (hwindow p' hp').1,
      ← String.toList_inj, String.toList_append, String.toList_append] at h
    have hpp : p' = "SELECT " ++ p := String.toList_inj.1
      (List.append_inj_left h ((hwindow p' hp').2.trans (hfirst p hp).2.symm))
    have hno : ∀ p ∈ aggregateInitials, "SELECT " ++ p ∉ ["SELECT T", "SELECT *"] := by decide
    exact hno p hp (hpp ▸ hp')

end Selection

/-! ## Aggregates -/

/-- The purpose is one value for all rows of a query. -/
def Purpose.IsAggregate (p : Purpose) : Prop := p = .existence ∨ p = .count ∨ p = .sum ∨ p = .max

instance (p : Purpose) : Decidable p.IsAggregate := inferInstanceAs (Decidable (_ ∨ _))

namespace Query

variable {p : Purpose} {q q' : Query} {c : Compiler}

/-- The window of a query. -/
def window (q : Query) : Window := (q.offset.filter (· > 0), q.limit)

/-- The queries admit the same rows, and they select the same columns where the purpose is a value
of a column. -/
structure Agrees (p : Purpose) (q q' : Query) : Prop where
  table : q.table = q'.table
  conditions : q.conditions = q'.conditions
  columns : p = .sum ∨ p = .max → q.columns = q'.columns

theorem compileAggregate_eq_ok {e : String} {s : Statement} (h : q.compileAggregate c e = .ok s) :
    ∃ table sql, q.target = .ok table ∧
      (q.clearOrder.selection c table e).text c.dialect = .ok sql ∧
      .ofFragment c.dialect ⟨sql, ((q.whereClause? c.dialect).map (·.values)).getD []⟩ = s := by
  obtain ⟨table, ht, h⟩ := bind_eq_ok.1 h
  obtain ⟨f, hf, h⟩ := bind_eq_ok.1 h
  obtain ⟨sql, hsql, hf⟩ := bind_eq_ok.1 hf
  cases hf
  exact ⟨table, sql, ht, hsql, Except.ok.inj h⟩

theorem target_congr (ht : q.table = q'.table) : q.target = q'.target := by
  rw [target, target, ht]

theorem whereClause?_congr (hc : q.conditions = q'.conditions) (d : Dialect) :
    q.whereClause? d = q'.whereClause? d := by
  rw [whereClause?, whereClause?, hc]

theorem compileAggregate_congr (ht : q.table = q'.table) (hc : q.conditions = q'.conditions)
    (hw : q.window = q'.window) (e : String) : q.compileAggregate c e = q'.compileAggregate c e := by
  have hwhere : q.clearOrder.whereClause? c.dialect = q'.clearOrder.whereClause? c.dialect :=
    whereClause?_congr hc c.dialect
  have hlimit : q.clearOrder.limit = q'.clearOrder.limit := (Prod.mk.inj hw).2
  have htext (table : String) : (q.clearOrder.selection c table e).text c.dialect =
      (q'.clearOrder.selection c table e).text c.dialect := by
    refine Selection.text_congr hw ?_
    rw [selection, selection, hwhere, hlimit]
    rfl
  simp only [compileAggregate, target_congr ht, selectFragment, htext, hwhere]

/-- The statement of an aggregate over all rows is that of the query if it has no window. -/
theorem compileAggregate_eq_iff (ht : q.table = q'.table) (hc : q.conditions = q'.conditions)
    (hw : q'.window = (none, none)) {e : String} (he : Selection.BeginsAggregate e) {s : Statement}
    (hs : q'.compileAggregate c e = .ok s) :
    q.compileAggregate c e = .ok s ↔ q.window = (none, none) := by
  constructor
  · intro h
    obtain ⟨table, sql, htable, hsql, h⟩ := compileAggregate_eq_ok h
    obtain ⟨table', sql', htable', hsql', hs⟩ := compileAggregate_eq_ok hs
    rw [target_congr ht, htable'] at htable
    cases htable
    have hwhole : (q'.clearOrder.selection c table e).window = (none, none) := hw
    have hwhere : q'.clearOrder.whereClause? c.dialect = q.clearOrder.whereClause? c.dialect :=
      whereClause?_congr hc.symm c.dialect
    have hbase : (q.clearOrder.selection c table e).base c.dialect = sql' := by
      rw [Selection.text_of_no_window hwhole, selection, hwhere] at hsql'
      exact Except.ok.inj hsql'
    have hnamed := congrArg Statement.sql (h.trans hs.symm)
    rw [← hbase] at hnamed
    exact Selection.window_eq_none_of_nameAll (s := q.clearOrder.selection c table e) he rfl hsql
      hnamed
  · intro h
    rw [compileAggregate_congr ht hc (h.trans hw.symm), hs]

/-- The statement that `q` compiles to is that of `q'` if their windows are the same, and if `q'`
has none, only then. -/
def ReadsWindow (x x' : Except Error Statement) (q q' : Query) : Prop :=
  (q.window = q'.window → x = x') ∧
    ∀ s, q'.window = (none, none) → x' = .ok s → (x = .ok s ↔ q.window = (none, none))

theorem readsWindow_aggregate (ht : q.table = q'.table) (hc : q.conditions = q'.conditions)
    {e : String} (he : Selection.BeginsAggregate e) :
    ReadsWindow (q.compileAggregate c e) (q'.compileAggregate c e) q q' :=
  ⟨fun hw => compileAggregate_congr ht hc hw e, fun _ hw hs => compileAggregate_eq_iff ht hc hw he hs⟩

theorem readsWindow_function (ht : q.table = q'.table) (hc : q.conditions = q'.conditions)
    (hcols : q.columns = q'.columns) {opening : String} (operation : String)
    (ho : Selection.BeginsAggregate opening) :
    ReadsWindow (do q.compileAggregate c (opening ++ (← q.aggregated c.dialect operation) ++ ")"))
      (do q'.compileAggregate c (opening ++ (← q'.aggregated c.dialect operation) ++ ")")) q q' := by
  have hagg : q.aggregated c.dialect operation = q'.aggregated c.dialect operation := by
    rw [aggregated, aggregated, hcols]
  rw [hagg]
  cases q'.aggregated c.dialect operation with
  | error e => exact ⟨fun _ => rfl, fun s _ hs => by cases hs⟩
  | ok column =>
    obtain ⟨first, hfirst, rest, rfl⟩ := ho
    refine readsWindow_aggregate ht hc ⟨first, hfirst, rest ++ column ++ ")", ?_⟩
    simp only [String.append_assoc]

/-- An aggregate goes by the table, the conditions and, where it is one of a column, the selected
columns of its query, and by the window: with the same window the statements are the same, and the
statement over all rows that the conditions admit is that of a query without a window only. -/
theorem aggregate_reads (hp : p.IsAggregate) (h : q.Agrees p q') (c : Compiler)
    (now now' : Timestamp) :
    (q.window = q'.window → q.statement c now p = q'.statement c now' p) ∧
      ∀ s, q'.window = (none, none) → q'.statement c now' p = .ok s →
        (q.statement c now p = .ok s ↔ q.window = (none, none)) := by
  obtain ⟨ht, hc, hcols⟩ := h
  rcases hp with rfl | rfl | rfl | rfl
  · exact readsWindow_aggregate ht hc ⟨"C", by decide, "OUNT(1)", by decide⟩
  · exact readsWindow_aggregate ht hc ⟨"C", by decide, "OUNT(*)", by decide⟩
  · exact readsWindow_function ht hc (hcols (.inl rfl)) "sum" ⟨"S", by decide, "UM(", by decide⟩
  · exact readsWindow_function ht hc (hcols (.inr rfl)) "max" ⟨"M", by decide, "AX(", by decide⟩

/-- The sum of a column on SQL Server, in no order whatever the query asks for, and the sum that a
query with rows to skip makes of an old server. -/
theorem aggregate_reads_sum : ∃ (q q' paged : Query) (now : Timestamp) (s : Statement),
    q.Agrees .sum q' ∧ paged.Agrees .sum q' ∧ q.window = q'.window ∧ q'.window = (none, none) ∧
      q'.statement ⟨.sqlServer, true⟩ now .sum = .ok s ∧
      s.sql = "SELECT SUM([Likes]) FROM [Posts] WHERE [SiteId] = @p1" ∧
      q.statement ⟨.sqlServer, true⟩ now .sum = .ok s ∧
      paged.statement ⟨.sqlServer, true⟩ now .sum ≠ .ok s := by
  let now : Timestamp := ⟨2024, 1, 1, 0, 0, 0, 0, by decide⟩
  let q' := ((Query.ofTable "Posts").select ["Likes"]).filterEq "SiteId" (.int 3)
  let q := (((q'.orderByDesc "Id").skip 0).selectRaw "[Id]").invalidate "posts"
  have h : q.Agrees .sum q' := ⟨rfl, rfl, fun _ => rfl⟩
  have hpaged : (q.skip 20).Agrees .sum q' := ⟨rfl, rfl, fun _ => rfl⟩
  have hw : q.window = q'.window := by decide
  have hsum : Purpose.sum.IsAggregate := by decide
  obtain ⟨hsame, -⟩ := aggregate_reads hsum h ⟨.sqlServer, true⟩ now now
  obtain ⟨-, hwhole⟩ := aggregate_reads hsum hpaged ⟨.sqlServer, true⟩ now now
  refine ⟨q, q', q.skip 20, now, _, h, hpaged, hw, rfl, rfl, by decide +kernel, hsame hw, ?_⟩
  intro hs
  have hnone := (hwhole _ rfl rfl).1 hs
  exact absurd hnone (by decide)

/-- Counting the posts past the first twenty skips the only row of the result. -/
theorem count_keeps_offset : ∃ (q q' : Query) (now : Timestamp), q.Agrees .count q' ∧
    q.statement ⟨.sqlite, false⟩ now .count =
      .ok ⟨"SELECT COUNT(*) FROM \"Posts\" LIMIT -1 OFFSET 20", []⟩ ∧
    q'.statement ⟨.sqlite, false⟩ now .count = .ok ⟨"SELECT COUNT(*) FROM \"Posts\"", []⟩ := by
  let now : Timestamp := ⟨2024, 1, 1, 0, 0, 0, 0, by decide⟩
  exact ⟨(Query.ofTable "Posts").skip 20, .ofTable "Posts", now, ⟨rfl, rfl, fun _ => rfl⟩, rfl, rfl⟩

end Query

end Polydialect
