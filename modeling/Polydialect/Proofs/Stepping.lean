import Polydialect.Proofs.Naming
import Polydialect.Proofs.Serving
import Polydialect.Proofs.Spelling
import Polydialect.Proofs.Wrapping

/-!
# Counting a column up and down

`Repository.incrementAll` and `decrementAll` put the name of the column between brackets and leave
it to `Dialect.wrap` to quote it, so the name ends at its first `]`.

* `Repository.sends_step`: what is sent are statements of one query, and only for a valid name;
* `Repository.sets_of_steps`: such a statement begins with the assignment that was made of the
  brackets;
* `Repository.step_sets_column_iff`: that is the assignment of the quoted column if the name holds
  no `]`, and only then (`Repository.step_loses_bracket` shows a name that does).
-/

namespace Polydialect

open Marker

/-! ## Characters that are not wrapped -/

namespace Dialect

variable {d : Dialect}

theorem wrap_append {p : String} (h : '[' ∉ p.toList) (s : String) :
    d.wrap (p ++ s) = p ++ d.wrap s := by
  rw [← String.toList_inj, wrap, String.toList_ofList, String.toList_append,
    Delimiters.wrapFrom_append h, String.toList_append, wrap, String.toList_ofList]

theorem wrap_eq_self {s : String} (h : '[' ∉ s.toList) : d.wrap s = s := by
  have hs := wrap_append (d := d) h ""
  rwa [String.append_empty, show d.wrap "" = "" from by cases d <;> rfl, String.append_empty] at hs

/-- A name between brackets ends at its first closing one. -/
theorem wrap_bracket {name : String} (h : ']' ∉ name.toList) (s : String) :
    d.wrap ("[" ++ name ++ "]" ++ s) = d.quote name ++ d.wrap s := by
  rw [← String.toList_inj, wrap, String.toList_ofList]
  have hlist : ("[" ++ name ++ "]" ++ s).toList = '[' :: (name.toList ++ ']' :: s.toList) := by
    simp
  rw [hlist, Delimiters.wrapFrom, if_pos rfl, Delimiters.wrapFrom_bracket h]
  simp [quote, wrap]

end Dialect

/-! ## The two changes -/

/-- Adding a number to a column, or taking one from it. -/
inductive Change where
  | increment
  | decrement
  deriving DecidableEq, Repr

namespace Change

variable (k : Change) (d : Dialect) (n : Int64)

/-- An expression with the change. -/
def apply (expression : String) : String :=
  match k with
  | increment => d.increment expression n
  | decrement => d.decrement expression n

def sign : Change → String
  | increment => " + "
  | decrement => " - "

/-- The assignment of the change to a column. -/
def assignment (column : String) : String :=
  d.quote column ++ " = " ++ k.apply d n (d.quote column)

/-- What stands before the column in the changed expression, and behind it. -/
def before : String := " = " ++ d.nullFunction ++ "("

def behind : String := ", 0)" ++ k.sign ++ toString n.toInt

theorem equals_apply (expression : String) :
    " = " ++ k.apply d n expression = before d ++ (expression ++ k.behind n) := by
  cases k <;>
    simp [apply, Dialect.increment, Dialect.decrement, Dialect.orZero, before, behind, sign,
      String.append_assoc]

theorem assignment_eq (column : String) : k.assignment d n column =
    d.quote column ++ (before d ++ (d.quote column ++ k.behind n)) := by
  rw [assignment, String.append_assoc, equals_apply]

theorem plain_before : PlainText (before d) := by
  cases d <;> decide

theorem plain_behind : PlainText (k.behind n) := by
  have hsign : PlainText (", 0)" ++ k.sign) := by
    cases k <;> decide
  exact plainText_append.2 ⟨hsign, PlainText.toString_int _⟩

/-- The assignment before the name between brackets is quoted. -/
def source (column : String) : String :=
  "[" ++ column ++ "]" ++ (" = " ++ k.apply d n ("[" ++ column ++ "]"))

variable {k d n}

theorem wrap_source {column : String} (h : ']' ∉ column.toList) :
    d.wrap (k.source d n column) = k.assignment d n column := by
  rw [source, equals_apply, Dialect.wrap_bracket h, Dialect.wrap_append (plain_before d).no_bracket,
    Dialect.wrap_bracket h, Dialect.wrap_eq_self (k.plain_behind n).no_bracket, assignment_eq]

end Change

/-! ## Names that hold a bracket -/

namespace Delimiters

/-- A run of closing brackets that is doubled is longer. -/
theorem exists_after_brackets (name t t' : List Char) (j : Nat) :
    ∃ u c v w, name ++ ']' :: ' ' :: t = u ++ c :: v ∧
      List.replicate (j + 1) ']' ++ double ⟨'[', ']'⟩ name ++ ']' :: t' = u ++ ']' :: w ∧
      c ≠ ']' := by
  induction name generalizing j with
  | nil =>
    refine ⟨[']'], ' ', t, List.replicate j ']' ++ t', rfl, ?_, by decide⟩
    have hlast : List.replicate j ']' ++ ']' :: t' = ']' :: (List.replicate j ']' ++ t') := by
      rw [← List.cons_append, ← List.replicate_succ, List.replicate_succ', List.append_assoc]
      rfl
    rw [List.replicate_succ, double, List.flatMap_nil, List.append_nil, List.cons_append, hlast]
    rfl
  | cons c name ih =>
    by_cases hc : c = ']'
    · subst hc
      obtain ⟨u, c, v, w, h1, h2, hne⟩ := ih (j + 1)
      refine ⟨']' :: u, c, v, w, by rw [List.cons_append, h1]; rfl, ?_, hne⟩
      have hpair : List.replicate j ']' ++ (']' :: ']' :: double ⟨'[', ']'⟩ name) =
          List.replicate (j + 2) ']' ++ double ⟨'[', ']'⟩ name := by
        simp [List.replicate_succ']
      rw [double_cons, if_pos rfl, List.replicate_succ]
      show ']' :: (List.replicate j ']' ++ (']' :: ']' :: double ⟨'[', ']'⟩ name) ++ ']' :: t') = _
      rw [hpair, h2]
      rfl
    · exact ⟨[], c, name ++ ']' :: ' ' :: t, _, rfl, rfl, hc⟩

/-- A name with a closing bracket and the doubled name differ first where the name has no bracket
and the doubled one has. -/
theorem exists_differs {name : List Char} (h : ']' ∈ name) (t t' : List Char) :
    ∃ u c v w, name ++ ']' :: ' ' :: t = u ++ c :: v ∧
      double ⟨'[', ']'⟩ name ++ ']' :: t' = u ++ ']' :: w ∧ c ≠ ']' := by
  induction name with
  | nil => cases h
  | cons c name ih =>
    by_cases hc : c = ']'
    · subst hc
      obtain ⟨u, c, v, w, h1, h2, hne⟩ := exists_after_brackets name t t' 0
      refine ⟨']' :: u, c, v, w, by rw [List.cons_append, h1]; rfl, ?_, hne⟩
      rw [double_cons, if_pos rfl]
      show ']' :: (List.replicate 1 ']' ++ double ⟨'[', ']'⟩ name ++ ']' :: t') = _
      rw [h2]
      rfl
    · obtain ⟨u, c', v, w, h1, h2, hne⟩ := ih ((List.mem_cons.1 h).resolve_left (Ne.symm hc))
      refine ⟨c :: u, c', v, w, by rw [List.cons_append, h1]; rfl, ?_, hne⟩
      rw [double_cons, if_neg hc]
      show c :: (double ⟨'[', ']'⟩ name ++ ']' :: t') = _
      rw [h2]
      rfl

end Delimiters

namespace Change

variable {k : Change} {d : Dialect} {n : Int64}

/-- What becomes of the brackets around such a name is not the quoted name. -/
theorem exists_differs {column : String} (h : ']' ∈ column.toList) (rest rest' : String) :
    ∃ u c v w, (d.wrap (k.source d n column) ++ rest).toList = u ++ c :: v ∧
      (k.assignment d n column ++ rest').toList = u ++ ']' :: w ∧ c ≠ ']' := by
  have hsource : (k.source d n column).toList = '[' :: (column.toList ++ ']' :: ' ' ::
      ("= " ++ k.apply d n ("[" ++ column ++ "]")).toList) := by
    simp [source]
  have hassignment : (k.assignment d n column).toList = d.delimiters.opening ::
      (d.delimiters.double column.toList ++ d.delimiters.closing ::
        (" = " ++ k.apply d n (d.quote column)).toList) := by
    simp [assignment, Dialect.quote, Delimiters.quote]
  by_cases hd : d = .sqlServer
  · subst hd
    obtain ⟨u, c, v, w, h1, h2, hne⟩ := Delimiters.exists_differs h
      (("= " ++ k.apply .sqlServer n ("[" ++ column ++ "]")).toList ++ rest.toList)
      ((" = " ++ k.apply .sqlServer n (Dialect.sqlServer.quote column)).toList ++ rest'.toList)
    refine ⟨'[' :: u, c, v, w, ?_, ?_, hne⟩
    · rw [Dialect.wrap_sqlServer, String.toList_append, hsource, List.cons_append, List.cons_append,
        ← h1, List.append_assoc]
      rfl
    · rw [String.toList_append, hassignment, List.cons_append, List.cons_append, ← h2,
        List.append_assoc]
      rfl
  · -- the name ends at its first bracket, where the quoted name goes on
    obtain ⟨p, r, hcolumn, hp⟩ := List.eq_append_cons_of_mem h
    have hclosing : ']' ≠ d.delimiters.closing := by
      cases d with
      | sqlServer => exact absurd rfl hd
      | mysql | postgres | oracle | sqlite => decide
    obtain ⟨v, hwrap⟩ : ∃ v, (d.wrap (k.source d n column)).toList =
        d.delimiters.opening :: d.delimiters.double p ++ d.delimiters.closing :: v := by
      rw [Dialect.wrap, String.toList_ofList, hsource, hcolumn, List.append_assoc, List.cons_append,
        Delimiters.wrapFrom, if_pos rfl, Delimiters.wrapFrom_bracket hp, Delimiters.quote]
      exact ⟨_, by rw [List.append_assoc]; rfl⟩
    obtain ⟨w, hquoted⟩ : ∃ w, (k.assignment d n column).toList =
        d.delimiters.opening :: d.delimiters.double p ++ ']' :: w := by
      rw [hassignment, hcolumn, Delimiters.double, List.flatMap_append, List.flatMap_cons,
        if_neg hclosing, List.append_assoc]
      exact ⟨_, rfl⟩
    refine ⟨d.delimiters.opening :: d.delimiters.double p, d.delimiters.closing, v ++ rest.toList,
      w ++ rest'.toList, ?_, ?_, hclosing.symm⟩
    · rw [String.toList_append, hwrap, List.append_assoc]
      rfl
    · rw [String.toList_append, hquoted, List.append_assoc]
      rfl

end Change

/-! ## The statement -/

/-- What can stand behind an assignment: nothing, the next one or the condition. -/
def EndsAssignment (rest : String) : Prop :=
  rest = "" ∨ (∃ more, rest = ", " ++ more) ∨ ∃ more, rest = " WHERE " ++ more

theorem EndsAssignment.append {rest : String} (h : EndsAssignment rest) (more : String)
    (hmore : EndsAssignment more) : EndsAssignment (rest ++ more) := by
  rcases h with rfl | ⟨t, rfl⟩ | ⟨t, rfl⟩
  · rwa [String.empty_append]
  · exact .inr (.inl ⟨t ++ more, String.append_assoc⟩)
  · exact .inr (.inr ⟨t ++ more, String.append_assoc⟩)

/-- The statement is an UPDATE that makes the assignment first. -/
def Statement.Sets (d : Dialect) (table assignment : String) (st : Statement) : Prop :=
  ∃ rest values, EndsAssignment rest ∧
    st = .ofFragment d ⟨"UPDATE " ++ d.quote table ++ " SET " ++ assignment ++ rest, values⟩

theorem Query.ends_filterFragment (d : Dialect) (q : Query) :
    EndsAssignment (q.filterFragment d).text := by
  rw [filterFragment]
  cases q.whereClause? d with
  | none => exact .inl rfl
  | some w => exact .inr (.inr ⟨w.text, String.append_empty⟩)

/-- An UPDATE with one raw assignment makes it first. -/
theorem Query.sets_raw {c : Compiler} {now : Timestamp} {q : Query} {source : Fragment}
    {r : Compiled} (hq : q.action = .update) (ha : q.assignments = [.raw source])
    (h : q.compile c now .action = .ok r) :
    ∃ table, q.table = some table ∧
      r.statement.Sets c.dialect table (c.dialect.wrap source.text) := by
  obtain ⟨s, hs, -⟩ := bind_eq_ok.1 h
  obtain ⟨table, ht, -⟩ := bind_eq_ok.1 hs
  refine ⟨table, target_eq_some ht, ?_⟩
  rw [compile_update hq ht] at h
  obtain ⟨more, hmore, hjoin⟩ : ∃ more, EndsAssignment more ∧
      ", ".intercalate ((Assignment.effective now q.assignments).map
        fun a => (a.fragment c.dialect).text) = c.dialect.wrap source.text ++ more := by
    have hfirst : Assignment.firsts [] [.raw source] = [.raw source] := rfl
    rw [ha, Assignment.effective, hfirst, Assignment.stamped]
    split
    · exact ⟨"", .inl rfl, String.append_empty.symm⟩
    · refine ⟨", " ++ (Assignment.fragment c.dialect (Assignment.stamp now)).text,
        .inr (.inl ⟨_, rfl⟩), ?_⟩
      simp only [List.nil_append, List.cons_append, List.map_cons, List.map_nil,
        String.intercalate_cons_cons, String.intercalate_singleton, String.append_assoc]
      rfl
  refine ⟨more ++ (q.filterFragment c.dialect).text,
    (Assignment.effective now q.assignments).flatMap (fun a => (a.fragment c.dialect).values) ++
      (q.filterFragment c.dialect).values,
    hmore.append _ (q.ends_filterFragment c.dialect), ?_⟩
  rw [← Except.ok.inj h, updateFragment_eq, hjoin]
  simp only [← String.append_assoc]
  rfl

/-! ## Which names are kept -/

theorem Dialect.nameFrom_ne (d : Dialect) {e : Bool} {c : Char} (hc : c ≠ ']') (m : Mode) (j : Nat)
    (v w : List Char) :
    nameFrom e d.placeholder m j (c :: v) ≠ nameFrom e d.placeholder m j (']' :: w) := by
  intro h
  have hbracket : isMarker m ']' = false := by simp [isMarker]
  rw [nameFrom_cons, nameFrom_cons, hbracket] at h
  cases hm : isMarker m c with
  | false =>
    rw [hm] at h
    exact hc (List.cons.inj h).1
  | true =>
    have hplaceholder : ∃ c r, (d.placeholder (j + 1)).toList = c :: r ∧ c ≠ ']' := by
      rw [placeholder, String.toList_append]
      cases d <;> exact ⟨_, _, rfl, by decide⟩
    obtain ⟨c', r, hname, hc'⟩ := hplaceholder
    rw [hm, if_pos rfl, hname] at h
    exact hc' (List.cons.inj h).1

theorem Statement.sets_assignment_iff {d : Dialect} {k : Change} {n : Int64} {table column : String}
    {st : Statement} (h : st.Sets d table (d.wrap (k.source d n column))) :
    st.Sets d table (k.assignment d n column) ↔ ']' ∉ column.toList := by
  constructor
  · rintro ⟨rest, values, -, hst⟩ hcolumn
    obtain ⟨rest', values', -, hst'⟩ := h
    obtain ⟨u, c, v, w, hwrap, hassignment, hc⟩ :=
      Change.exists_differs (k := k) (d := d) (n := n) hcolumn rest' rest
    let head := "UPDATE " ++ d.quote table ++ " SET "
    have htext (s t : String) : (head ++ s ++ t).toList = head.toList ++ (s ++ t).toList := by
      rw [String.append_assoc, String.toList_append]
    have hsql := congrArg Statement.sql (hst.symm.trans hst')
    rw [sql_ofFragment, sql_ofFragment] at hsql
    have hlist := String.ofList_injective hsql
    -- up to the first difference both texts are named alike
    rw [htext, htext, hwrap, hassignment, ← List.append_assoc, ← List.append_assoc,
      nameFrom_append _ _ (head.toList ++ u) (']' :: w),
      nameFrom_append _ _ (head.toList ++ u) (c :: v)] at hlist
    exact d.nameFrom_ne hc _ _ _ _ (List.append_cancel_left hlist).symm
  · intro hcolumn
    rwa [Change.wrap_source hcolumn] at h

/-- The scanner passes over the assignment to such a name. -/
theorem Change.whole_assignment (k : Change) (d : Dialect) (n : Int64) {column : String}
    (h : ']' ∉ column.toList) : Whole d.backslashEscapes (k.assignment d n column).toList := by
  have hname : Whole d.backslashEscapes (d.quote column).toList :=
    (d.whole_quote_iff column).2 fun _ => bracketSafe_of_not_mem h
  rw [assignment_eq, String.toList_append, String.toList_append, String.toList_append]
  exact hname.append ((Whole.of_plain (plain_before d)).append
    (hname.append (Whole.of_plain (k.plain_behind n))))

theorem EndsAssignment.named {rest : String} (h : EndsAssignment rest) (e : Bool)
    (name : Nat → String) : EndsAssignment (nameAll e name rest) := by
  rcases h with rfl | ⟨more, rfl⟩ | ⟨more, rfl⟩
  · exact .inl rfl
  · exact .inr (.inl ⟨_, nameAll_plain_append (by decide) more⟩)
  · exact .inr (.inr ⟨_, nameAll_plain_append (by decide) more⟩)

/-- Naming the markers leaves the assignment as it is, if the name of the table is passed over. -/
theorem Statement.Sets.sql_eq {d : Dialect} {k : Change} {n : Int64} {table column : String}
    {st : Statement} (h : st.Sets d table (k.assignment d n column))
    (hcolumn : ']' ∉ column.toList) (htable : d = .sqlServer → BracketSafe table.toList) :
    ∃ rest, EndsAssignment rest ∧
      st.sql = "UPDATE " ++ d.quote table ++ " SET " ++ k.assignment d n column ++ rest := by
  obtain ⟨rest, values, hrest, rfl⟩ := h
  refine ⟨_, hrest.named d.backslashEscapes d.placeholder, ?_⟩
  have hhead : Whole d.backslashEscapes ("UPDATE " ++ d.quote table ++ " SET ").toList := by
    have hupdate : PlainText "UPDATE " := by decide
    have hset : PlainText " SET " := by decide
    rw [String.toList_append, String.toList_append]
    exact ((Whole.of_plain hupdate).append ((d.whole_quote_iff table).2 htable)).append
      (Whole.of_plain hset)
  rw [sql_ofFragment]
  refine nameAll_whole_append ?_ rest
  rw [String.toList_append]
  exact hhead.append (k.whole_assignment d n hcolumn)

/-- An engine reads the column as one name, both times, and nothing else of it. -/
theorem Change.lex_assignment (k : Change) (d : Dialect) (n : Int64) (table column rest : String) :
    Sql.lex d.delimiters
        ("UPDATE " ++ d.quote table ++ " SET " ++ k.assignment d n column ++ rest) =
      Sql.lex d.delimiters ("UPDATE " ++ d.quote table ++ " SET ") ++
        .symbol (.name column) :: (Sql.lex d.delimiters (before d) ++
          .symbol (.name column) :: Sql.lex d.delimiters (k.behind n ++ rest)) := by
  have hhead : (Sql.Scan.between.after d.delimiters
      ("UPDATE " ++ d.quote table ++ " SET ").toList).IsBare := by
    have hupdate : Sql.Scan.between.after d.delimiters "UPDATE ".toList = .between := by
      cases d <;> decide
    have hname :
        ¬ (Sql.Scan.between.after d.delimiters ("UPDATE " ++ d.quote table).toList).IsOpen := by
      rw [String.toList_append, (Sql.Scan.tokens_append_of_between hupdate _).2]
      exact (Sql.lex_quote d table).2
    rw [String.toList_append]
    show (Sql.Scan.between.after d.delimiters (_ ++ ' ' :: "SET ".toList)).IsBare
    rw [(Sql.Scan.tokens_append hname (Sql.Scan.separates_blank d)).2]
    cases d <;> decide
  have hbefore : (Sql.Scan.between.after d.delimiters (before d).toList).IsBare := by
    cases d <;> decide
  have hbehind : (k.behind n ++ rest).toList.head? ≠ some d.delimiters.closing := by
    have hhead : (k.behind n ++ rest).toList.head? = some ',' := by simp [behind]
    rw [hhead]
    cases d <;> decide
  have hmiddle : (before d ++ d.quote column ++ (k.behind n ++ rest)).toList.head? ≠
      some d.delimiters.closing := by
    have hhead : (before d ++ d.quote column ++ (k.behind n ++ rest)).toList.head? = some ' ' := by
      simp [before]
    rw [hhead]
    cases d <;> decide
  have htext : "UPDATE " ++ d.quote table ++ " SET " ++ k.assignment d n column ++ rest =
      "UPDATE " ++ d.quote table ++ " SET " ++ d.quote column ++
        (before d ++ d.quote column ++ (k.behind n ++ rest)) := by
    rw [assignment_eq]
    simp only [String.append_assoc]
  rw [htext, Sql.lex_quote_between d hhead hmiddle, Sql.lex_quote_between d hbefore hbehind]

/-- What a query asks of the cache sends nothing. -/
theorem Caching.sends_prepare_bind {α : Type} {db : Database} {P : Statement → Prop} {q : Query}
    {f : Query × Option Cache.Directive → Run α}
    (hf : ∀ directive, Step.Sends db P (f (q.clearCaching, directive))) :
    Step.Sends db P (prepare q >>= f : Run α) := by
  by_cases hc : ∃ key policy, q.caching = some ⟨.invalidate, key, policy⟩
  · obtain ⟨key, policy, hc⟩ := hc
    have hprepare : prepare q = remove key >>= fun _ => pure (q.clearCaching, none) := by
      rw [prepare, hc]
    rw [hprepare, bind_assoc]
    exact Run.sends_keeps_bind (keeps_remove (Session.hidesCache_sent db) key) fun _ _ _ => hf none
  · rw [prepare_of_not_invalidate fun key policy h => hc ⟨key, policy, h⟩]
    exact hf q.caching

namespace Repository

variable {α : Type} {r : Repository α} {k : Change} {q : Query} {column : String} {n : Int64}

/-- Changes a column on every row of a query. -/
def step (r : Repository α) (k : Change) (q : Query) (column : String) (n : Int64) : Run UInt64 :=
  match k with
  | .increment => r.incrementAll q column n
  | .decrement => r.decrementAll q column n

/-- The query of the UPDATE. -/
def changing (r : Repository α) (k : Change) (q : Query) (column : String) (n : Int64) : Query :=
  (r.onTable (stepQuery q column (k.apply r.db.dialect n)).asUpdate).clearCaching

/-- A statement that is made of it. -/
def Steps (r : Repository α) (k : Change) (q : Query) (column : String) (n : Int64)
    (st : Statement) : Prop :=
  ∃ isLegacy now c, (r.changing k q column n).compile ⟨r.db.dialect, isLegacy⟩ now .action = .ok c ∧
    c.statement = st

theorem assignments_changing : (r.changing k q column n).assignments =
    [.raw ⟨k.source r.db.dialect n column, []⟩] := by
  show [Assignment.raw ⟨_, []⟩] = _
  rw [Change.source, String.append_assoc]

theorem sets_of_steps {st : Statement} (h : r.Steps k q column n st) :
    st.Sets r.db.dialect r.table (r.db.dialect.wrap (k.source r.db.dialect n column)) := by
  obtain ⟨isLegacy, now, c, hc, rfl⟩ := h
  obtain ⟨table, htable, hsets⟩ := Query.sets_raw rfl assignments_changing hc
  cases htable
  exact hsets

/-- What an operation sends are such statements, and it sends none for a name that is not valid. -/
theorem sends_step (r : Repository α) (k : Change) (q : Query) (column : String) (n : Int64) :
    Step.Sends r.db (fun st => Identifier.Valid column ∧ r.Steps k q column n st)
      (r.step k q column n) := by
  have hstep : r.step k q column n = r.stepAll q column (k.apply r.db.dialect n) := by
    cases k <;> rfl
  rw [hstep, stepAll]
  refine Run.sends_keeps_bind (fun s => rfl) fun _ s hcheck => ?_
  have hvalid : Identifier.Valid column := Identifier.check_eq_ok_iff.1 hcheck
  rw [updateAll, runWrite]
  refine Caching.sends_prepare_bind fun directive => ?_
  refine Database.sends_compile_bind fun isLegacy now c hc => ?_
  exact Database.sends_execute ⟨hvalid, isLegacy, now, c, hc, rfl⟩

/-- On a table with a valid name there is such a statement. -/
theorem exists_steps (ht : Identifier.Valid r.table) (isLegacy : Bool) (now : Timestamp) :
    ∃ c, (r.changing k q column n).compile ⟨r.db.dialect, isLegacy⟩ now .action = .ok c := by
  have htarget : (r.changing k q column n).target = .ok r.table :=
    Query.target_eq_ok_iff.2 ⟨rfl, ht⟩
  exact ⟨_, Query.compile_update rfl htarget⟩

/-- **Which columns can be counted.** Adding a number to a column or taking one from it sends an
UPDATE whose first assignment is the one of the quoted column if the name holds no `]`, and only
then. If the name of the table is passed over, too, the assignment stands so in the SQL, and an
engine reads the column as one name, both times, and nothing else of it. -/
theorem step_sets_column_iff (r : Repository α) (k : Change) (q : Query) (column : String)
    (n : Int64) :
    let d := r.db.dialect
    Step.Sends r.db (fun st => Identifier.Valid column ∧ r.Steps k q column n st)
      (r.step k q column n) ∧
    (Identifier.Valid r.table → ∀ isLegacy now,
      ∃ c, (r.changing k q column n).compile ⟨d, isLegacy⟩ now .action = .ok c) ∧
    ∀ st, r.Steps k q column n st →
      (st.Sets d r.table (k.assignment d n column) ↔ ']' ∉ column.toList) ∧
      (']' ∉ column.toList → (d = .sqlServer → BracketSafe r.table.toList) →
        ∃ rest, EndsAssignment rest ∧
          st.sql = "UPDATE " ++ d.quote r.table ++ " SET " ++ k.assignment d n column ++ rest ∧
          Sql.lex d.delimiters st.sql =
            Sql.lex d.delimiters ("UPDATE " ++ d.quote r.table ++ " SET ") ++
              .symbol (.name column) :: (Sql.lex d.delimiters (" = " ++ d.nullFunction ++ "(") ++
                .symbol (.name column) :: Sql.lex d.delimiters
                  (", 0)" ++ k.sign ++ toString n.toInt ++ rest))) := by
  intro d
  refine ⟨r.sends_step k q column n, fun ht isLegacy now => exists_steps ht isLegacy now, ?_⟩
  intro st hst
  have hiff := Statement.sets_assignment_iff (sets_of_steps hst)
  refine ⟨hiff, ?_⟩
  intro hcolumn htable
  obtain ⟨rest, hrest, hsql⟩ := (hiff.2 hcolumn).sql_eq hcolumn htable
  refine ⟨rest, hrest, hsql, ?_⟩
  rw [hsql]
  exact k.lex_assignment d n r.table column rest

/-- A name on SQLite that holds a bracket: the name ends there, and the rest of it stands outside
quotes. -/
theorem step_loses_bracket : ∃ (r : Repository Record) (now : Timestamp) (c : Compiled),
    r.db.dialect = .sqlite ∧ Identifier.Valid "a]b" ∧
      (r.changing .increment Query.empty "a]b" 1).compile ⟨.sqlite, false⟩ now .action = .ok c ∧
      c.statement.sql =
        "UPDATE \"t\" SET \"a\"b] = IFNULL(\"a\"b], 0) + 1, \"LastModifiedDate\" = ?1" ∧
      ¬ c.statement.Sets .sqlite "t" (Change.increment.assignment .sqlite 1 "a]b") := by
  let now : Timestamp := ⟨2024, 1, 1, 0, 0, 0, 0, by decide⟩
  let r : Repository Record := ⟨⟨.sqlite, "", 0⟩, "t", []⟩
  let q := r.changing .increment Query.empty "a]b" 1
  have hc : q.compile ⟨.sqlite, false⟩ now .action =
      .ok ⟨.ofFragment .sqlite (q.updateFragment .sqlite now "t"), q.caching⟩ :=
    Query.compile_update rfl (by decide)
  have htext : (q.updateFragment .sqlite now "t").text =
      "UPDATE \"t\" SET \"a\"b] = IFNULL(\"a\"b], 0) + 1, \"LastModifiedDate\" = ?" := by
    decide +kernel
  have hsql : (Statement.ofFragment .sqlite (q.updateFragment .sqlite now "t")).sql =
      "UPDATE \"t\" SET \"a\"b] = IFNULL(\"a\"b], 0) + 1, \"LastModifiedDate\" = ?1" := by
    rw [Statement.sql_ofFragment, htext]
    decide +kernel
  refine ⟨r, now, _, rfl, ?_, hc, hsql, ?_⟩
  · decide
  · intro hsets
    have hiff := Statement.sets_assignment_iff (sets_of_steps ⟨false, now, _, hc, rfl⟩)
    exact hiff.1 hsets (by decide)

end Repository

end Polydialect
