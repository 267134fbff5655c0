import Polydialect.Proofs.Binding

/-!
# Which names are checked

A query gives names at eight places, and the statement has all of them between the delimiters of the
dialect. Compiling checks the names of the table, of the columns of an INSERT and of the column of
an aggregate (`Query.checked`); the other names are quoted as they are (`Query.unchecked`).

* `Dialect.Quotes` says that a text holds a quoted name, and is followed through the clauses:
  `Condition.quotes_fragment` by induction on the tree, `Selection.quotes_text` for every window;
* `Query.isOk_compile_iff`: what compiles is decided by the checked names alone;
* `Query.compile_checks`: the statement holds all names, so they are all valid exactly where
  the unchecked ones are (`Query.order_quotes_empty_name` shows one that is not).
-/

namespace Polydialect

open Marker

/-! ## Quoted names in a text -/

/-- A text holds a name as the dialect quotes it. -/
def Dialect.Quotes (d : Dialect) (name text : String) : Prop :=
  (d.quote name).toList <:+: text.toList

/-- A statement holds a quoted name, with the markers named that the scanner meets in it. -/
def Statement.Quotes (d : Dialect) (name : String) (s : Statement) : Prop :=
  ∃ m k, nameFrom d.backslashEscapes d.placeholder m k (d.quote name).toList <:+: s.sql.toList

namespace Dialect

variable {d : Dialect} {n s : String}

theorem Quotes.self : d.Quotes n (d.quote n) := List.infix_rfl

theorem Quotes.append_right (h : d.Quotes n s) (t : String) : d.Quotes n (s ++ t) := by
  rw [Quotes, String.toList_append]
  exact h.trans (List.prefix_append _ _).isInfix

theorem Quotes.append_left (h : d.Quotes n s) (t : String) : d.Quotes n (t ++ s) := by
  rw [Quotes, String.toList_append]
  exact h.trans (List.suffix_append _ _).isInfix

theorem Quotes.intercalate {ss : List String} (h : ∃ s ∈ ss, d.Quotes n s) (sep : String) :
    d.Quotes n (sep.intercalate ss) := by
  obtain ⟨s, hs, h⟩ := h
  induction ss with
  | nil => cases hs
  | cons t ss ih =>
    cases ss with
    | nil => simpa [List.mem_singleton.1 hs] using h
    | cons u ss =>
      rw [String.intercalate_cons_cons]
      rcases List.mem_cons.1 hs with rfl | hs
      · exact (h.append_right _).append_right _
      · exact (ih hs).append_left _

/-- The marker of a value is no part of a quoted name, but a `?` in the name may be taken for
one. -/
theorem Quotes.ofFragment {f : Fragment} (h : d.Quotes n f.text) :
    (Statement.ofFragment d f).Quotes d n := by
  obtain ⟨pre, post, h⟩ := h
  refine ⟨pre.foldl (Mode.next d.backslashEscapes) .outside,
    countFrom d.backslashEscapes .outside pre, ?_⟩
  simp only [Statement.ofFragment, nameAll, ← h, nameFrom_append, String.toList_ofList]
  exact ⟨_, _, by rw [Nat.zero_add]; rfl⟩

end Dialect

/-- A name without question marks stands in the statement as it is. -/
theorem Statement.Quotes.quotes {d : Dialect} {n : String} {s : Statement} (h : s.Quotes d n)
    (hn : '?' ∉ (d.quote n).toList) : d.Quotes n s.sql := by
  obtain ⟨m, k, h⟩ := h
  rwa [nameFrom_eq_self (countFrom_eq_zero hn m)] at h

/-! ## Names of the clauses -/

namespace Condition

mutual

/-- The columns that a tree names, from left to right; nothing is asked of a column that is to be
among no values. -/
def columns : Condition → List String
  | .compare column _ _ | .isNull column | .isIn column (_ :: _) => [column]
  | .isIn _ [] | .raw _ => []
  | .group _ members => columnsOfAll members
  | .not inner => columns inner

/-- The columns that a list of trees names. -/
def columnsOfAll : List Condition → List String
  | [] => []
  | c :: cs => columns c ++ columnsOfAll cs

end

theorem columnsOfAll_eq_flatMap (cs : List Condition) : columnsOfAll cs = cs.flatMap columns := by
  induction cs with
  | nil => rfl
  | cons c cs ih => rw [columnsOfAll, ih, List.flatMap_cons]

variable {d : Dialect} {n : String}

theorem quotes_comparison (column : String) (op : Comparison) (value : Value) :
    d.Quotes column (comparison d column op value).text := by
  have h (t : String) : d.Quotes column (d.quote column ++ t) := Dialect.Quotes.self.append_right t
  unfold comparison
  split
  · exact h " IS NULL"
  · exact h " IS NOT NULL"
  · exact ((h " ").append_right _).append_right " ?"

theorem quotes_fragment {c : Condition} (h : n ∈ c.columns) : d.Quotes n (c.fragment d).text := by
  induction c using Condition.induct with
  | compare column op value =>
    rw [columns, List.mem_singleton] at h
    rw [fragment, h]
    exact quotes_comparison column op value
  | isIn column values =>
    cases values with
    | nil => cases h
    | cons v vs =>
      rw [columns, List.mem_singleton] at h
      rw [fragment, h]
      exact ((Dialect.Quotes.self.append_right " IN (").append_right _).append_right ")"
  | isNull column =>
    rw [columns, List.mem_singleton] at h
    rw [fragment, h]
    exact Dialect.Quotes.self.append_right " IS NULL"
  | raw source => cases h
  | group k members ih =>
    rw [columns, columnsOfAll_eq_flatMap] at h
    obtain ⟨c, hc, hn⟩ := List.mem_flatMap.1 h
    cases members with
    | nil => cases hc
    | cons m ms =>
      rw [fragment, ← fragments, fragments_eq_map]
      refine ((Dialect.Quotes.intercalate ⟨(c.fragment d).text, ?_, ih c hc hn⟩ _).append_left
        _).append_right _
      rw [List.map_map]
      exact List.mem_map_of_mem hc
  | not inner ih =>
    rw [columns] at h
    exact ((ih h).append_left _).append_right _

end Condition

namespace Assignment

/-- The column of an assignment of a value. -/
def column? : Assignment → Option String
  | .value column _ => some column
  | .raw _ => none

theorem quotes_fragment {d : Dialect} {n : String} {a : Assignment} (h : a.column? = some n) :
    d.Quotes n (a.fragment d).text := by
  cases a with
  | value column v =>
    cases h
    exact Dialect.Quotes.self.append_right " = ?"
  | raw source => cases h

end Assignment

namespace Selection

/-- One of the clauses of a SELECT holds a quoted name. -/
def Quotes (d : Dialect) (n : String) (s : Selection) : Prop :=
  n = s.table ∨ d.Quotes n s.columns ∨ (∃ f, s.filter = some f ∧ d.Quotes n f) ∨
    ∃ o, s.order = some o ∧ d.Quotes n o

variable {d : Dialect} {n : String} {s : Selection}

theorem quotes_clause {keyword : String} {o : Option String} (h : ∃ t, o = some t ∧ d.Quotes n t) :
    d.Quotes n (clause keyword o) := by
  obtain ⟨t, rfl, h⟩ := h
  exact h.append_left _

/-- The select list and what follows it hold the names. -/
theorem quotes_columns_append (h : s.Quotes d n) : d.Quotes n (s.columns ++ s.source d) := by
  unfold source
  rcases h with rfl | h | h | h
  · exact (((Dialect.Quotes.self.append_left _).append_right _).append_right _).append_left _
  · exact h.append_right _
  · exact (((quotes_clause h).append_left _).append_right _).append_left _
  · exact ((quotes_clause h).append_left _).append_left _

theorem quotes_base (h : s.Quotes d n) : d.Quotes n (s.base d) := by
  rw [base, String.append_assoc]
  exact (quotes_columns_append h).append_left _

theorem quotes_orderOrConstant (h : ∃ o, s.order = some o ∧ d.Quotes n o) :
    d.Quotes n s.orderOrConstant := by
  obtain ⟨o, ho, h⟩ := h
  rwa [orderOrConstant, ho]

theorem quotes_rowNumbered (h : s.Quotes d n) (range : String) :
    d.Quotes n (s.rowNumbered d range) := by
  unfold rowNumbered
  refine .append_right (.append_right ?_ _) _
  rcases h with rfl | h | h | h
  · exact (Dialect.Quotes.self.append_left _).append_right _
  · exact (((((h.append_left _).append_right _).append_right _).append_right _).append_right
      _).append_right _
  · exact (quotes_clause h).append_left _
  · exact (((quotes_orderOrConstant h).append_left _).append_right _).append_right _
      |>.append_right _

/-- Whatever the window is, the statement has all clauses. -/
theorem quotes_text (h : s.Quotes d n) {sql : String} (hsql : s.text d = .ok sql) :
    d.Quotes n sql := by
  cases text_eq_ok_iff.1 hsql with
  | paged => exact (quotes_base h).append_right _
  | whole => exact quotes_base h
  | top =>
    rw [String.append_assoc]
    exact (quotes_columns_append h).append_left _
  | ordered =>
    refine (quotes_base ?_).append_right _
    exact h.imp_right (.imp_right (.imp_right fun ho => ⟨_, rfl, quotes_orderOrConstant ho⟩))
  | numbered => exact quotes_rowNumbered h _

end Selection

/-! ## Names of a query -/

namespace Query

/-- The names that are checked before a statement for a purpose is made. -/
def checked (p : Purpose) (q : Query) : List String :=
  q.table.toList ++
    match p with
    | .existence | .count => []
    | .sum | .max => q.columns
    | .action | .insertedId => if q.action = .insert then q.values.map (·.1) else []

/-- The columns that the condition names. -/
def filterColumns (q : Query) : List String := q.conditions.flatMap Condition.columns

/-- The names that are quoted as they are. -/
def unchecked (now : Timestamp) (p : Purpose) (q : Query) : List String :=
  match p with
  | .existence | .count | .sum | .max => q.filterColumns
  | .action | .insertedId =>
    match q.action with
    | .select => q.columns ++ q.filterColumns ++ q.orders.map (·.column)
    | .insert => []
    | .update =>
      (Assignment.effective now q.assignments).filterMap Assignment.column? ++ q.filterColumns
    | .delete => q.filterColumns

/-- The names that stand in the statement. -/
def names (now : Timestamp) (p : Purpose) (q : Query) : List String :=
  q.checked p ++ q.unchecked now p

/-- A SELECT is made for the purpose. -/
def Selects (p : Purpose) (q : Query) : Prop :=
  match p with
  | .existence | .count | .sum | .max => True
  | .action => q.action = .select
  | .insertedId => False

instance (p : Purpose) (q : Query) : Decidable (q.Selects p) :=
  match p with
  | .existence | .count | .sum | .max => inferInstanceAs (Decidable True)
  | .action => inferInstanceAs (Decidable (_ = _))
  | .insertedId => inferInstanceAs (Decidable False)

/-- Where a SELECT is over numbered rows, the numbers fit. -/
def NumbersFit (c : Compiler) (p : Purpose) (q : Query) : Prop :=
  q.Selects p → (q.selection c "" "").HasText c.dialect

instance (c : Compiler) (p : Purpose) (q : Query) : Decidable (q.NumbersFit c p) :=
  inferInstanceAs (Decidable (_ → _))

/-- What a purpose asks of a query, names and windows apart. -/
def Fits (p : Purpose) (q : Query) : Prop :=
  q.table ≠ none ∧
    match p with
    | .existence | .count => True
    | .sum | .max => q.columns.length = 1
    | .action => q.action = .insert → q.values ≠ []
    | .insertedId => q.action = .insert ∧ q.values ≠ []

instance (p : Purpose) (q : Query) : Decidable (q.Fits p) :=
  match p with
  | .existence | .count => inferInstanceAs (Decidable (_ ∧ True))
  | .sum | .max => inferInstanceAs (Decidable (_ ∧ _ = 1))
  | .action => inferInstanceAs (Decidable (_ ∧ (_ → _)))
  | .insertedId => inferInstanceAs (Decidable (_ ∧ _ ∧ _))

variable {d : Dialect} {n : String} {q : Query}

/-! ### Names in the fragments -/

theorem quotes_whereClause (h : n ∈ q.filterColumns) :
    ∃ w, q.whereClause? d = some w ∧ d.Quotes n w.text := by
  obtain ⟨c, hc, hn⟩ := List.mem_flatMap.1 h
  have hne : q.conditions.isEmpty = false := List.isEmpty_eq_false_iff_exists_mem.2 ⟨c, hc⟩
  refine ⟨_, by rw [whereClause?, Condition.whereClause?, hne, if_neg (by decide)], ?_⟩
  refine .intercalate ⟨(c.fragment d).text, ?_, Condition.quotes_fragment hn⟩ _
  rw [Condition.fragments_eq_map, List.map_map]
  exact List.mem_map_of_mem hc

theorem quotes_filtered {f : Fragment} (h : d.Quotes n f.text ∨ n ∈ q.filterColumns) :
    d.Quotes n (q.filtered d f).text := by
  rw [filtered_eq_append]
  rcases h with h | h
  · exact h.append_right _
  · obtain ⟨w, hw, h⟩ := quotes_whereClause (d := d) h
    rw [filterFragment, hw]
    exact ((h.append_left _).append_right _).append_left _

theorem quotes_orderList (h : n ∈ q.orders.map (·.column)) :
    ∃ o, q.orderList? d = some o ∧ d.Quotes n o := by
  obtain ⟨o, ho, rfl⟩ := List.mem_map.1 h
  have hne : q.orders.isEmpty = false := List.isEmpty_eq_false_iff_exists_mem.2 ⟨o, ho⟩
  have hlist : q.orderList? d = some (", ".intercalate
      (q.orders.map fun o => d.quote o.column ++ " " ++ o.direction.text)) := by
    rw [orderList?, hne]
    rfl
  refine ⟨_, hlist, ?_⟩
  refine .intercalate ⟨d.quote o.column ++ " " ++ o.direction.text, ?_, ?_⟩ _
  · exact List.mem_map.2 ⟨o, ho, rfl⟩
  · exact (Dialect.Quotes.self.append_right _).append_right _

theorem quotes_selectList (h : n ∈ q.columns) : d.Quotes n (q.selectList d) := by
  have hmem : d.quote n ∈ q.columns.map d.quote ++ q.rawColumns.map d.wrap :=
    List.mem_append_left _ (List.mem_map_of_mem h)
  have hne := List.isEmpty_eq_false_iff_exists_mem.2 ⟨_, hmem⟩
  simp only [selectList, hne, Bool.false_eq_true, if_false]
  exact .intercalate ⟨_, hmem, .self⟩ _

/-- The SELECT of a list holds the names of the list, the table, the condition and the ordering. -/
theorem quotes_selectFragment {c : Compiler} {table list : String} {f : Fragment}
    (hf : q.selectFragment c table list = .ok f)
    (h : n = table ∨ c.dialect.Quotes n list ∨ n ∈ q.filterColumns ∨ n ∈ q.orders.map (·.column)) :
    c.dialect.Quotes n f.text := by
  obtain ⟨sql, hsql, hf⟩ := bind_eq_ok.1 hf
  cases hf
  refine Selection.quotes_text (s := q.selection c table list)
    (h.imp_right (.imp_right (.imp (fun hw => ?_) quotes_orderList))) hsql
  obtain ⟨w, hw, hn⟩ := quotes_whereClause (d := c.dialect) hw
  exact ⟨w.text, by rw [selection, hw]; rfl, hn⟩

theorem quotes_insertFragment {table : String} {f : Fragment} (hf : q.insertFragment d table = .ok f)
    (h : n = table ∨ n ∈ q.values.map (·.1)) : d.Quotes n f.text := by
  rw [insertFragment] at hf
  split at hf
  · cases hf
  · obtain ⟨-, -, hf⟩ := bind_eq_ok.1 hf
    cases hf
    refine .append_right ?_ _
    show d.Quotes n ("INSERT INTO " ++ d.quote table ++ " (" ++ d.quoteAll (q.values.map (·.1)) ++ ")")
    refine .append_right ?_ _
    rcases h with rfl | h
    · exact ((Dialect.Quotes.self.append_left _).append_right _).append_right _
    · exact .append_left (.intercalate ⟨_, List.mem_map_of_mem h, .self⟩ _) _

theorem quotes_updateFragment {now : Timestamp} {table : String}
    (h : n = table ∨ n ∈ (Assignment.effective now q.assignments).filterMap Assignment.column? ∨
      n ∈ q.filterColumns) : d.Quotes n (q.updateFragment d now table).text := by
  refine quotes_filtered (or_assoc.2 h |>.imp_left fun h => .append_right ?_ _)
  rcases h with rfl | h
  · exact ((Dialect.Quotes.self.append_left _).append_right _).append_right _
  · obtain ⟨a, ha, hn⟩ := List.mem_filterMap.1 h
    refine .append_left (.intercalate ⟨_, ?_, Assignment.quotes_fragment hn⟩ _) _
    rw [List.map_map]
    exact List.mem_map_of_mem ha

theorem quotes_deleteFragment {table : String} (h : n = table ∨ n ∈ q.filterColumns) :
    d.Quotes n (q.deleteFragment d table).text :=
  quotes_filtered (h.imp_left fun h => by rw [h]; exact Dialect.Quotes.self.append_left _)

/-- The fragment of the query's own action holds the names, those of an INSERT after their check. -/
theorem quotes_actionFragment {c : Compiler} {now : Timestamp} {table : String} {f : Fragment}
    (ht : q.table = some table) (hf : q.actionFragment c now table = .ok f)
    (hn : n ∈ q.names now .action) : c.dialect.Quotes n f.text := by
  rw [names, checked, unchecked, ht] at hn
  rw [actionFragment] at hf
  cases hq : q.action with
  | select =>
    rw [hq] at hn hf
    simp only [Option.toList_some, List.mem_append, List.mem_singleton, reduceCtorEq, if_false,
      List.not_mem_nil, or_false, or_assoc] at hn
    exact quotes_selectFragment hf (hn.imp_right (.imp_left quotes_selectList))
  | insert =>
    rw [hq] at hn hf
    simp only [Option.toList_some, List.mem_append, List.mem_singleton, if_true, List.not_mem_nil,
      or_false] at hn
    exact quotes_insertFragment hf hn
  | update =>
    rw [hq] at hn hf
    cases hf
    simp only [Option.toList_some, List.mem_append, List.mem_singleton, reduceCtorEq, if_false,
      List.not_mem_nil, or_false] at hn
    exact quotes_updateFragment hn
  | delete =>
    rw [hq] at hn hf
    cases hf
    simp only [Option.toList_some, List.mem_append, List.mem_singleton, reduceCtorEq, if_false,
      List.not_mem_nil, or_false] at hn
    exact quotes_deleteFragment hn

theorem quotes_compileAction {c : Compiler} {now : Timestamp} {s : Statement}
    (h : q.compileAction c now = .ok s) (hn : n ∈ q.names now .action) :
    s.Quotes c.dialect n := by
  obtain ⟨table, ht, h⟩ := bind_eq_ok.1 h
  obtain ⟨f, hf, h⟩ := bind_eq_ok.1 h
  cases h
  exact (quotes_actionFragment (target_eq_some ht) hf hn).ofFragment

theorem quotes_compileAggregate {c : Compiler} {expression : String} {s : Statement}
    (h : q.compileAggregate c expression = .ok s)
    (hn : n ∈ q.table ∨ c.dialect.Quotes n expression ∨ n ∈ q.filterColumns) :
    s.Quotes c.dialect n := by
  obtain ⟨table, ht, h⟩ := bind_eq_ok.1 h
  obtain ⟨f, hf, h⟩ := bind_eq_ok.1 h
  cases h
  rw [target_eq_some ht, Option.mem_some] at hn
  refine Dialect.Quotes.ofFragment (quotes_selectFragment hf ?_)
  exact (hn.imp_left Eq.symm).imp_right (.imp_right .inl)

theorem quotes_function {c : Compiler} {operation opening : String} {s : Statement}
    (h : (do q.compileAggregate c (opening ++ (← q.aggregated c.dialect operation) ++ ")")) = .ok s)
    (hn : n ∈ q.table ∨ n ∈ q.columns ∨ n ∈ q.filterColumns) : s.Quotes c.dialect n := by
  obtain ⟨column, hc, h⟩ := bind_eq_ok.1 h
  refine quotes_compileAggregate h (hn.imp_right (.imp_left fun hn => ?_))
  rw [aggregated] at hc
  split at hc
  · cases hc
  · rename_i name hname
    obtain ⟨-, -, hc⟩ := bind_eq_ok.1 hc
    cases hc
    rw [hname, List.mem_singleton] at hn
    rw [hn]
    exact (Dialect.Quotes.self.append_left _).append_right _
  · cases hc

theorem quotes_statement {c : Compiler} {now : Timestamp} {p : Purpose} {s : Statement}
    (h : q.statement c now p = .ok s) (hn : n ∈ q.names now p) : s.Quotes c.dialect n := by
  cases p with
  | action => exact quotes_compileAction h hn
  | existence | count =>
    simp only [names, checked, unchecked, List.append_nil, List.mem_append,
      Option.mem_toList] at hn
    exact quotes_compileAggregate h (hn.imp_right .inr)
  | sum | max =>
    simp only [names, checked, unchecked, List.mem_append, Option.mem_toList, or_assoc] at hn
    exact quotes_function h hn
  | insertedId =>
    simp only [statement, compileInserting] at h
    split at h
    · cases h
    · obtain ⟨t, ht, h⟩ := bind_eq_ok.1 h
      cases h
      obtain ⟨m, k, hq⟩ := quotes_compileAction ht hn
      refine ⟨m, k, hq.trans ?_⟩
      rw [insertReturning_eq_append, String.toList_append]
      exact (List.prefix_append _ _).isInfix

/-! ### What compiles -/

/-- A computation after a check. -/
theorem check_bind_eq_ok {α : Type} {x : Except Error Unit} {y : Except Error α} {a : α} :
    (do x; y) = .ok a ↔ x = .ok () ∧ y = .ok a := by
  rw [bind_eq_ok]
  exact ⟨fun ⟨(), h⟩ => h, fun h => ⟨(), h⟩⟩

theorem target_eq_ok_iff {table : String} :
    q.target = .ok table ↔ q.table = some table ∧ Identifier.Valid table := by
  rw [target]
  cases q.table with
  | none => simp
  | some t =>
    show (do Identifier.check t; .ok t) = .ok table ↔ _
    rw [check_bind_eq_ok, Identifier.check_eq_ok_iff, Option.some_inj, Except.ok.injEq, and_comm]
    exact and_congr_right fun h => by rw [h]

theorem isOk_insertFragment {table : String} : (∃ f, q.insertFragment d table = .ok f) ↔
    q.values ≠ [] ∧ ∀ n ∈ q.values.map (·.1), Identifier.Valid n := by
  rw [insertFragment, ← Identifier.checkAll_eq_ok_iff]
  split
  · rename_i h
    simp [List.isEmpty_iff.1 h]
  · rename_i h
    simp only [check_bind_eq_ok, exists_and_left]
    have hne : q.values ≠ [] := by simpa using h
    exact ⟨fun h => ⟨hne, h.1⟩, fun h => ⟨h.2, _, rfl⟩⟩

theorem isOk_selectFragment {c : Compiler} {table list : String} :
    (∃ f, q.selectFragment c table list = .ok f) ↔ (q.selection c "" "").HasText c.dialect := by
  have htext : (q.selection c table list).HasText c.dialect ↔
      (q.selection c "" "").HasText c.dialect := Selection.hasText_congr rfl rfl rfl
  rw [← htext, ← Selection.exists_text_iff]
  constructor
  · rintro ⟨f, hf⟩
    obtain ⟨sql, hsql, -⟩ := bind_eq_ok.1 hf
    exact ⟨sql, hsql⟩
  · rintro ⟨sql, hsql⟩
    exact ⟨_, bind_eq_ok.2 ⟨sql, hsql, rfl⟩⟩

theorem isOk_actionFragment {c : Compiler} {now : Timestamp} {table : String} :
    (∃ f, q.actionFragment c now table = .ok f) ↔
      (q.action = .select → (q.selection c "" "").HasText c.dialect) ∧
        (q.action = .insert → q.values ≠ [] ∧ ∀ n ∈ q.values.map (·.1), Identifier.Valid n) := by
  rw [actionFragment]
  cases q.action with
  | select => simpa using isOk_selectFragment
  | insert => simpa using isOk_insertFragment
  | update | delete => exact iff_of_true ⟨_, rfl⟩ (by simp)

theorem isOk_compileAction {c : Compiler} {now : Timestamp} :
    (∃ s, q.compileAction c now = .ok s) ↔
      (∃ table, q.table = some table ∧ Identifier.Valid table) ∧
        (q.action = .select → (q.selection c "" "").HasText c.dialect) ∧
          (q.action = .insert → q.values ≠ [] ∧ ∀ n ∈ q.values.map (·.1), Identifier.Valid n) := by
  constructor
  · rintro ⟨s, h⟩
    obtain ⟨table, ht, h⟩ := bind_eq_ok.1 h
    obtain ⟨f, hf, -⟩ := bind_eq_ok.1 h
    exact ⟨⟨table, target_eq_ok_iff.1 ht⟩, isOk_actionFragment.1 ⟨f, hf⟩⟩
  · rintro ⟨⟨table, ht⟩, h⟩
    obtain ⟨f, hf⟩ : ∃ f, q.actionFragment c now table = .ok f := isOk_actionFragment.2 h
    exact ⟨_, bind_eq_ok.2 ⟨table, target_eq_ok_iff.2 ht, bind_eq_ok.2 ⟨f, hf, rfl⟩⟩⟩

theorem isOk_compileAggregate {c : Compiler} {expression : String} :
    (∃ s, q.compileAggregate c expression = .ok s) ↔
      (∃ table, q.table = some table ∧ Identifier.Valid table) ∧
        (q.selection c "" "").HasText c.dialect := by
  -- without its ordering the query has the same window
  have htext : (q.clearOrder.selection c "" "").HasText c.dialect ↔
      (q.selection c "" "").HasText c.dialect := Selection.hasText_congr rfl rfl rfl
  rw [← htext]
  constructor
  · rintro ⟨s, h⟩
    obtain ⟨table, ht, h⟩ := bind_eq_ok.1 h
    obtain ⟨f, hf, -⟩ := bind_eq_ok.1 h
    exact ⟨⟨table, target_eq_ok_iff.1 ht⟩, isOk_selectFragment.1 ⟨f, hf⟩⟩
  · rintro ⟨⟨table, ht⟩, h⟩
    obtain ⟨f, hf⟩ : ∃ f, q.clearOrder.selectFragment c table expression = .ok f :=
      isOk_selectFragment.2 h
    exact ⟨_, bind_eq_ok.2 ⟨table, target_eq_ok_iff.2 ht, bind_eq_ok.2 ⟨f, hf, rfl⟩⟩⟩

theorem isOk_aggregated {operation : String} : (∃ column, q.aggregated d operation = .ok column) ↔
    q.columns.length = 1 ∧ ∀ n ∈ q.columns, Identifier.Valid n := by
  rw [aggregated]
  split
  · rename_i h
    simp [h]
  · rename_i column h
    simp only [check_bind_eq_ok, Identifier.check_eq_ok_iff, exists_and_left, h, List.length_singleton,
      List.forall_mem_singleton]
    exact ⟨fun h => ⟨trivial, h.1⟩, fun h => ⟨h.2, _, rfl⟩⟩
  · rename_i columns hnil hone
    have hlen : q.columns.length ≠ 1 := fun h => by
      obtain ⟨column, h⟩ := List.length_eq_one_iff.1 h
      exact hone column h
    simp [hlen]

theorem isOk_function {c : Compiler} {operation opening : String} :
    (∃ s, (do q.compileAggregate c (opening ++ (← q.aggregated c.dialect operation) ++ ")")) =
      .ok s) ↔
      ((∃ table, q.table = some table ∧ Identifier.Valid table) ∧
        (q.selection c "" "").HasText c.dialect) ∧
        q.columns.length = 1 ∧ ∀ n ∈ q.columns, Identifier.Valid n := by
  constructor
  · rintro ⟨s, h⟩
    obtain ⟨column, hc, h⟩ := bind_eq_ok.1 h
    exact ⟨isOk_compileAggregate.1 ⟨s, h⟩, isOk_aggregated.1 ⟨column, hc⟩⟩
  · rintro ⟨ht, hc⟩
    obtain ⟨column, hc⟩ : ∃ column, q.aggregated c.dialect operation = .ok column :=
      isOk_aggregated.2 hc
    obtain ⟨s, hs⟩ := isOk_compileAggregate.2 ht
    exact ⟨s, bind_eq_ok.2 ⟨column, hc, hs⟩⟩

theorem isOk_compileInserting {c : Compiler} {now : Timestamp} :
    (∃ s, q.compileInserting c now = .ok s) ↔
      q.action = .insert ∧ ∃ s, q.compileAction c now = .ok s := by
  rw [compileInserting]
  split
  · rename_i h
    simp [h]
  · rename_i h
    constructor
    · rintro ⟨s, hs⟩
      obtain ⟨t, ht, -⟩ := bind_eq_ok.1 hs
      exact ⟨Decidable.of_not_not h, t, ht⟩
    · rintro ⟨-, s, hs⟩
      exact ⟨_, bind_eq_ok.2 ⟨s, hs, rfl⟩⟩

/-- What compiles is decided by the shape of the query, by the numbers of its rows and by the
checked names. -/
theorem isOk_compile_iff {c : Compiler} {now : Timestamp} {p : Purpose} :
    (∃ r, q.compile c now p = .ok r) ↔
      q.Fits p ∧ q.NumbersFit c p ∧ ∀ n ∈ q.checked p, Identifier.Valid n := by
  have hs : (∃ r, q.compile c now p = .ok r) ↔ ∃ s, q.statement c now p = .ok s := by
    constructor
    · rintro ⟨r, h⟩
      obtain ⟨s, hs, -⟩ := bind_eq_ok.1 h
      exact ⟨s, hs⟩
    · rintro ⟨s, hs⟩
      exact ⟨_, bind_eq_ok.2 ⟨s, hs, rfl⟩⟩
  have ht : (∃ table, q.table = some table ∧ Identifier.Valid table) ↔
      q.table ≠ none ∧ ∀ n ∈ q.table.toList, Identifier.Valid n := by
    cases q.table <;> simp
  have hins (P : Prop) (l : List String) : (q.action = .insert → P ∧ ∀ n ∈ l, Identifier.Valid n) ↔
      (q.action = .insert → P) ∧
        ∀ n ∈ (if q.action = .insert then l else []), Identifier.Valid n := by
    by_cases h : q.action = .insert <;> simp [h]
  rw [hs]
  cases p with
  | action =>
    refine isOk_compileAction.trans ?_
    rw [ht, hins]
    show _ ↔ (_ ∧ _) ∧ (q.action = .select → _) ∧ ∀ n ∈ q.table.toList ++ _, _
    rw [List.forall_mem_append]
    constructor
    · rintro ⟨⟨htable, hvalid⟩, hfits, hv, hvalues⟩
      exact ⟨⟨htable, hv⟩, hfits, hvalid, hvalues⟩
    · rintro ⟨⟨htable, hv⟩, hfits, hvalid, hvalues⟩
      exact ⟨⟨htable, hvalid⟩, hfits, hv, hvalues⟩
  | existence | count =>
    refine isOk_compileAggregate.trans ?_
    rw [ht]
    show _ ↔ (_ ∧ True) ∧ (True → _) ∧ ∀ n ∈ q.table.toList ++ [], _
    rw [List.append_nil]
    constructor
    · rintro ⟨⟨htable, hvalid⟩, hfits⟩
      exact ⟨⟨htable, trivial⟩, fun _ => hfits, hvalid⟩
    · rintro ⟨⟨htable, -⟩, hfits, hvalid⟩
      exact ⟨⟨htable, hvalid⟩, hfits trivial⟩
  | sum | max =>
    refine isOk_function.trans ?_
    rw [ht]
    show _ ↔ (_ ∧ _) ∧ (True → _) ∧ ∀ n ∈ q.table.toList ++ q.columns, _
    rw [List.forall_mem_append]
    constructor
    · rintro ⟨⟨⟨htable, hvalid⟩, hfits⟩, hone, hcolumns⟩
      exact ⟨⟨htable, hone⟩, fun _ => hfits, hvalid, hcolumns⟩
    · rintro ⟨⟨htable, hone⟩, hfits, hvalid, hcolumns⟩
      exact ⟨⟨⟨htable, hvalid⟩, hfits trivial⟩, hone, hcolumns⟩
  | insertedId =>
    refine isOk_compileInserting.trans ?_
    rw [isOk_compileAction, ht, hins]
    show _ ↔ (_ ∧ q.action = .insert ∧ _) ∧ (False → _) ∧ ∀ n ∈ q.table.toList ++ _, _
    rw [List.forall_mem_append]
    constructor
    · rintro ⟨hi, ⟨htable, hvalid⟩, -, hv, hvalues⟩
      exact ⟨⟨htable, hi, hv hi⟩, nofun, hvalid, hvalues⟩
    · rintro ⟨⟨htable, hi, hv⟩, -, hvalid, hvalues⟩
      exact ⟨hi, ⟨htable, hvalid⟩, fun hselect => absurd (hi.symm.trans hselect) nofun,
        fun _ => hv, hvalues⟩

/-- Whether a query compiles is decided by its shape, by the names of the table, of the columns of
an INSERT and of the column of an aggregate, and on a server without a text for windows by the
numbers of the rows. What compiles holds every name of the query between the delimiters of the
dialect, so its names are all valid exactly where the others are. -/
theorem compile_checks (c : Compiler) (now : Timestamp) (p : Purpose) (q : Query) :
    ((∃ r, q.compile c now p = .ok r) ↔
        q.Fits p ∧ q.NumbersFit c p ∧ ∀ n ∈ q.checked p, Identifier.Valid n) ∧
      ∀ r, q.compile c now p = .ok r →
        (∀ n ∈ q.names now p, r.statement.Quotes c.dialect n) ∧
          ((∀ n ∈ q.names now p, Identifier.Valid n) ↔
            ∀ n ∈ q.unchecked now p, Identifier.Valid n) := by
  refine ⟨isOk_compile_iff, fun r h => ⟨fun n hn => ?_, ?_⟩⟩
  · obtain ⟨s, hs, h⟩ := bind_eq_ok.1 h
    cases h
    exact quotes_statement hs hn
  · obtain ⟨-, -, hchecked⟩ := isOk_compile_iff.1 ⟨r, h⟩
    rw [names, List.forall_mem_append]
    exact ⟨fun h => h.2, fun h => ⟨hchecked, h⟩⟩

/-- An UPDATE on SQL Server whose condition is a tree: its names are those of the table, of the
assignments, one of which is made by itself, and of the tree. -/
theorem compile_checks_update : ∃ (q : Query) (now : Timestamp) (r : Compiled),
    q.compile ⟨.sqlServer, true⟩ now .action = .ok r ∧
      r.statement.sql = "UPDATE [Posts] SET [Title] = @p1, [LastModifiedDate] = @p2 " ++
        "WHERE (NOT ([Id] > @p3) OR [Guid] IS NULL)" ∧
      q.names now .action = ["Posts", "Title", "LastModifiedDate", "Id", "Guid"] ∧
      (∀ n ∈ q.names now .action, r.statement.Quotes .sqlServer n) ∧
      ∀ n ∈ q.names now .action, Identifier.Valid n := by
  let now : Timestamp := ⟨2024, 1, 1, 0, 0, 0, 0, by decide⟩
  let tree := Condition.group .or [.not (.compare "Id" .gt (.int 0)), .isNull "Guid"]
  let q := ((Query.ofTable "Posts").set "Title" (.text "second")).filter tree
  obtain ⟨-, hnames⟩ := compile_checks ⟨.sqlServer, true⟩ now .action q
  have hr : q.compile ⟨.sqlServer, true⟩ now .action = .ok ⟨.ofFragment .sqlServer
      (q.updateFragment .sqlServer now "Posts"), none⟩ := rfl
  obtain ⟨hquotes, hvalid⟩ := hnames _ hr
  exact ⟨q, now, _, hr, by decide +kernel, rfl, hquotes, hvalid.2 (by decide)⟩

/-- An ordering by a column without a name compiles. -/
theorem order_quotes_empty_name : ∃ (q : Query) (now : Timestamp) (r : Compiled),
    q.compile ⟨.sqlite, false⟩ now .action = .ok r ∧
      r.statement.sql = "SELECT * FROM \"Posts\" ORDER BY \"\" ASC" ∧
      "" ∈ q.orders.map (·.column) ∧ ¬ Identifier.Valid "" :=
  ⟨(Query.ofTable "Posts").orderBy "", ⟨2024, 1, 1, 0, 0, 0, 0, by decide⟩, _, rfl, rfl, .head _,
    by decide⟩

end Query

end Polydialect
