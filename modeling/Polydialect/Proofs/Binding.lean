import Polydialect.Proofs.Condition
import Polydialect.Proofs.Layout
import Polydialect.Proofs.Selecting
import Polydialect.Query.Compile

/-!
# Where the values of a query stand

The layout of a query (`Query.layout`) says for every purpose what its statement is made of: each
name that the query gives and, behind the column or in the raw SQL that it belongs to, the slot of
each value. A clause of the compiler is a fragment, with text and values apart; clause by clause it
is shown to read as its layout:

* `Condition.laidOut`: a condition, by induction on the tree;
* `Query.laidOut_select`, `laidOut_insert`, `laidOut_update`, `laidOut_delete`: the statements;
* `Query.compile_laidOut`: outside SQL Server, whatever compiles is its layout as it is written,
  with placeholders numbered from left to right and each placeholder bound to the value of its
  slot.
-/

namespace Polydialect

open Marker Fragment

/-- Values with commas between them. -/
def Layout.list (vs : List Value) : Layout := Layout.join ", " (vs.map fun v => [.slot v])

/-! ## Conditions -/

namespace Condition

/-- A comparison; being equal to NULL is being NULL. -/
def comparisonLayout (column : String) (op : Comparison) (value : Value) : Layout :=
  match op, value.isNull with
  | .eq, true => [.name column, .text " IS NULL"]
  | .notEq, true => [.name column, .text " IS NOT NULL"]
  | _, _ => [.name column, .text (" " ++ op.text ++ " "), .slot value]

def membershipLayout (column : String) : List Value → Layout
  | [] => [.text "1 = 0"]
  | v :: vs => [.name column, .text " IN ("] ++ Layout.list (v :: vs) ++ [.text ")"]

mutual

/-- The layout of a condition. -/
def layout (d : Dialect) : Condition → Layout
  | .compare column op value => comparisonLayout column op value
  | .isIn column values => membershipLayout column values
  | .isNull column => [.name column, .text " IS NULL"]
  | .raw source => [.text "("] ++ source.layout d ++ [.text ")"]
  | .group k [] => [.text k.neutral]
  | .group k (c :: cs) =>
    [.text "("] ++ Layout.join k.text (layout d c :: layouts d cs) ++ [.text ")"]
  | .not inner => [.text "NOT ("] ++ layout d inner ++ [.text ")"]

def layouts (d : Dialect) : List Condition → List Layout
  | [] => []
  | c :: cs => layout d c :: layouts d cs

end

theorem layouts_eq_map (d : Dialect) (cs : List Condition) : layouts d cs = cs.map (layout d) := by
  induction cs with
  | nil => rfl
  | cons c cs ih => rw [layouts, ih, List.map_cons]

end Condition

section
variable {d : Dialect}

theorem Fragment.LaidOut.markers (vs : List Value) : LaidOut d (.markers vs) (.list vs) := by
  rw [markers_eq_join, Layout.list]
  exact .join (by decide) fun v _ => .slot v

theorem Fragment.LaidOut.wrap {f : Fragment} {L : Layout} {before after : String}
    (hb : PlainText before) (hf : LaidOut d f L) (ha : PlainText after) :
    LaidOut d (.wrap before f after) ([.text before] ++ L ++ [.text after]) := by
  rw [wrap_eq_append]
  exact ((LaidOut.text hb).append hf).append (.text ha)

theorem Comparison.plain_text (op : Comparison) : PlainText (" " ++ op.text ++ " ") := by
  cases op <;> decide

theorem Direction.plain_text (a : Direction) : PlainText (" " ++ a.text) := by
  cases a <;> decide

theorem Selection.plain_number (n : UInt64) : PlainText (number n) := .toString_nat _

theorem Selection.plain_limitText (d : Dialect) (s : Selection) : PlainText (s.limitText d) := by
  unfold limitText
  split
  · decide
  all_goals
    simp only [plainText_append, plain_number, and_true]
    decide

theorem Selection.exists_rowNumbered_eq (d : Dialect) (s : Selection) (range : String) :
    ∃ rest, s.rowNumbered d range = "SELECT * FROM (SELECT " ++ rest := by
  unfold rowNumbered
  repeat rw [String.append_assoc]
  exact ⟨_, rfl⟩

theorem Conjunction.plain_text (k : Conjunction) : PlainText k.text ∧ PlainText k.neutral := by
  cases k <;> decide

namespace Condition

variable (hd : d ≠ .sqlServer)
include hd

theorem laidOut_comparison (column : String) (op : Comparison) (value : Value) :
    LaidOut d (comparison d column op value) (comparisonLayout column op value) := by
  by_cases h : IsNullTest op value
  · obtain ⟨hv, rfl | rfl⟩ := h
    · simp only [comparison, comparisonLayout, hv]
      exact (LaidOut.name hd column).append (LaidOut.text (s := " IS NULL") (by decide))
    · simp only [comparison, comparisonLayout, hv]
      exact (LaidOut.name hd column).append (LaidOut.text (s := " IS NOT NULL") (by decide))
  · have h1 := ((LaidOut.name hd column).append (.text op.plain_text)).append (.slot value)
    have h2 : comparisonLayout column op value =
        [.name column, .text (" " ++ op.text ++ " "), .slot value] := by
      unfold comparisonLayout
      split <;> simp_all [IsNullTest]
    rw [comparison_eq_append h, h2]
    exact h1

theorem laidOut_membership (column : String) (values : List Value) :
    LaidOut d (membership d column values) (membershipLayout column values) := by
  cases values with
  | nil => exact .text (by decide)
  | cons v vs =>
    rw [membership, membershipLayout, wrap_eq_append, ofText_append]
    exact (((LaidOut.name hd column).append (.text (s := " IN (") (by decide))).append
      (.markers _)).append (.text (by decide))

/-- A condition reads as its layout if its raw SQL is balanced. -/
theorem laidOut {c : Condition} (h : ∀ f ∈ c.raws, f.Balanced d) :
    LaidOut d (c.fragment d) (c.layout d) := by
  induction c using Condition.induct with
  | compare column op value => exact laidOut_comparison hd column op value
  | isIn column values => exact laidOut_membership hd column values
  | isNull column =>
    exact (LaidOut.name hd column).append (LaidOut.text (s := " IS NULL") (by decide))
  | raw source =>
    exact .wrap (by decide) (.raw (h source (List.mem_singleton_self source))) (by decide)
  | group k members ih =>
    cases members with
    | nil => exact .text k.plain_text.2
    | cons c cs =>
      have hm := LaidOut.join (d := d) k.plain_text.1 fun m hm =>
        ih m hm (forall_raws_group.1 h m hm)
      rw [fragment, layout, fragments_eq_map, layouts_eq_map]
      exact .wrap (by decide) hm (by decide)
  | not inner ih => exact .wrap (by decide) (ih h) (by decide)

end Condition

end

/-! ## Statements of queries -/

namespace Assignment

/-- The raw SQL of an assignment. -/
def raw? : Assignment → Option Fragment
  | .value .. => none
  | .raw source => some source

/-- The layout of an assignment. -/
def layout (d : Dialect) : Assignment → Layout
  | .value column v => [.name column, .text " = ", .slot v]
  | .raw source => source.layout d

/-- A value that is assigned to a name which the scanner passes over. -/
theorem laidOut_value {d : Dialect} {column : String}
    (h : Whole d.backslashEscapes (d.quote column).toList) (v : Value) :
    LaidOut d ((Assignment.value column v).fragment d) ((Assignment.value column v).layout d) := by
  have he : ofText (d.quote column) ++ ofText " = " ++ ⟨"?", [v]⟩ =
      (Assignment.value column v).fragment d := by
    show Fragment.mk _ _ = _
    simp [ofText, fragment, String.append_assoc]
  have hname : LaidOut d (ofText (d.quote column)) [.name column] :=
    .of_whole h rfl fun _ => by simp [Layout.render]
  exact he ▸ (hname.append (.text (s := " = ") (by decide))).append (.slot v)

theorem laidOut {d : Dialect} (hd : d ≠ .sqlServer) {a : Assignment}
    (h : ∀ f ∈ a.raw?, f.Balanced d) : LaidOut d (a.fragment d) (a.layout d) := by
  cases a with
  | value column v => exact laidOut_value (Dialect.whole_quote hd column) v
  | raw source => exact .raw (h source rfl)

theorem mem_firsts {a : Assignment} {seen : List String} {as : List Assignment}
    (h : a ∈ firsts seen as) : a ∈ as := by
  induction as generalizing seen with
  | nil => simp [firsts] at h
  | cons b as ih =>
    rw [firsts] at h
    split at h
    · exact .tail _ (ih h)
    · rcases List.mem_cons.1 h with rfl | h
      · exact .head _
      · exact .tail _ (ih h)

/-- An assignment that is made is one of the query or writes the time of the change. -/
theorem mem_effective {a : Assignment} {now : Timestamp} {as : List Assignment}
    (h : a ∈ effective now as) : a ∈ as ∨ a = .value Column.modifiedName (.timestamp now) := by
  rw [effective, stamped] at h
  split at h
  · exact .inl (mem_firsts h)
  · rcases List.mem_append.1 h with h | h
    · exact .inl (mem_firsts h)
    · exact .inr (List.mem_singleton.1 h)

end Assignment

namespace Query

/-- The raw SQL of a query: selected expressions, which take no values, assignments, conditions. -/
def raws (q : Query) : List Fragment :=
  q.rawColumns.map .ofText ++ q.assignments.filterMap Assignment.raw? ++
    q.conditions.flatMap Condition.raws

/-- The condition with its keyword, if there is one. -/
def filterLayout (d : Dialect) (q : Query) : Layout :=
  if q.conditions.isEmpty then []
  else [.text " WHERE "] ++ Layout.join " AND " (q.conditions.map (·.layout d))

/-- The ordering with its keyword, if there is one. -/
def orderLayout (q : Query) : Layout :=
  if q.orders.isEmpty then []
  else [.text " ORDER BY "] ++
    Layout.join ", " (q.orders.map fun o => [.name o.column, .text (" " ++ o.direction.text)])

/-- The columns and expressions of a SELECT. -/
def itemsLayout (d : Dialect) (q : Query) : Layout :=
  let items := q.columns.map (fun c => [.name c]) ++
    q.rawColumns.map fun r => (Fragment.ofText r).layout d
  if items.isEmpty then [.text "*"] else Layout.join ", " items

/-- The text of a query's window. -/
def windowText (d : Dialect) (q : Query) : String :=
  Selection.limitText d ⟨"", "", none, none, q.offset, q.limit, false⟩

/-- The table of a query. -/
def tablePiece (q : Query) : Piece := .name (q.table.getD "")

/-- A SELECT of items. -/
def selectLayout (d : Dialect) (q : Query) (items : Layout) : Layout :=
  [.text "SELECT "] ++ items ++ [.text " FROM ", q.tablePiece] ++ q.filterLayout d ++
    q.orderLayout ++ [.text (q.windowText d)]

/-- An INSERT, the values in the order of their columns. -/
def insertLayout (q : Query) : Layout :=
  [.text "INSERT INTO ", q.tablePiece, .text " ("] ++
    Layout.join ", " (q.values.map fun p => [.name p.1]) ++ [.text ")", .text " VALUES ("] ++
    Layout.list (q.values.map (·.2)) ++ [.text ")"]

/-- An UPDATE, the assignments that are made before the condition. -/
def updateLayout (d : Dialect) (now : Timestamp) (q : Query) : Layout :=
  [.text "UPDATE ", q.tablePiece, .text " SET "] ++
    Layout.join ", " ((Assignment.effective now q.assignments).map (·.layout d)) ++
    q.filterLayout d

def deleteLayout (d : Dialect) (q : Query) : Layout :=
  [.text "DELETE FROM ", q.tablePiece] ++ q.filterLayout d

def actionLayout (d : Dialect) (now : Timestamp) (q : Query) : Layout :=
  match q.action with
  | .select => q.selectLayout d (q.itemsLayout d)
  | .insert => q.insertLayout
  | .update => q.updateLayout d now
  | .delete => q.deleteLayout d

/-- What follows an INSERT that gives back its identity. -/
def returningLayout : Dialect → Layout
  | .mysql => [.text "; SELECT LAST_INSERT_ID()"]
  | .sqlServer => [.text "; SELECT CAST(SCOPE_IDENTITY() AS int)"]
  | .postgres | .sqlite => [.text " RETURNING ", .name Column.idName]
  | .oracle => [.text " RETURNING ", .name Column.idName, .text " INTO :out_id"]

/-- A SELECT of an aggregate of the selected column. -/
def aggregateLayout (d : Dialect) (q : Query) (opening : String) : Layout :=
  q.clearOrder.selectLayout d ([.text opening] ++ q.columns.map .name ++ [.text ")"])

/-- The layout of a query's statement for a purpose. -/
def layout (d : Dialect) (now : Timestamp) (p : Purpose) (q : Query) : Layout :=
  match p with
  | .action => q.actionLayout d now
  | .existence => q.clearOrder.selectLayout d [.text "COUNT(1)"]
  | .count => q.clearOrder.selectLayout d [.text "COUNT(*)"]
  | .sum => q.aggregateLayout d "SUM("
  | .max => q.aggregateLayout d "MAX("
  | .insertedId => q.actionLayout d now ++ returningLayout d

/-! ## Clauses -/

section
variable {d : Dialect} (q : Query)

/-- The condition with its keyword, as a fragment. -/
def filterFragment (d : Dialect) (q : Query) : Fragment :=
  match q.whereClause? d with
  | none => .ofText ""
  | some w => .wrap " WHERE " w ""

/-- The ordering with its keyword, as text. -/
def orderText (d : Dialect) (q : Query) : String := Selection.clause " ORDER BY " (q.orderList? d)

theorem filtered_eq_append (f : Fragment) : q.filtered d f = f ++ q.filterFragment d := by
  rw [filtered, filterFragment]
  cases q.whereClause? d with
  | none =>
    show f = Fragment.mk _ _
    simp [ofText]
  | some w => rfl

theorem selectFragment_eq_append (c : Compiler) (hd : c.dialect ≠ .sqlServer)
    (table list : String) :
    q.selectFragment c table list =
      .ok (ofText ("SELECT " ++ list ++ (" FROM " ++ c.dialect.quote table)) ++
        q.filterFragment c.dialect ++
        ofText (q.orderText c.dialect ++ q.windowText c.dialect)) := by
  rw [selectFragment, filterFragment, Selection.text_of_ne hd]
  refine congrArg Except.ok ?_
  simp only [selection, Selection.base, Selection.source]
  -- a missing condition is the empty text here and an empty fragment there
  cases q.whereClause? c.dialect with
  | none =>
    show _ = Fragment.mk _ _
    simp [ofText, Selection.clause, orderText, windowText, String.append_assoc]
    rfl
  | some w =>
    show _ = Fragment.mk _ _
    simp [ofText, Fragment.wrap, Selection.clause, orderText, windowText, String.append_assoc]
    rfl

theorem laidOut_filter (hd : d ≠ .sqlServer) (hraw : ∀ f ∈ q.raws, f.Balanced d) :
    LaidOut d (q.filterFragment d) (q.filterLayout d) := by
  have hc : ∀ c ∈ q.conditions, ∀ f ∈ c.raws, f.Balanced d := fun c hc f hf =>
    hraw f (List.mem_append_right _ (List.mem_flatMap.2 ⟨c, hc, hf⟩))
  rw [filterFragment, filterLayout, whereClause?, Condition.whereClause?]
  by_cases he : q.conditions.isEmpty
  · rw [if_pos he, if_pos he]
    exact .nil
  · have hs : PlainText " AND " := by decide
    have hj := LaidOut.join hs fun c h => Condition.laidOut hd (hc c h)
    rw [if_neg he, if_neg he, Condition.fragments_eq_map]
    rw [← List.append_nil (_ ++ _)]
    simp only [wrap_eq_append]
    exact ((LaidOut.text (by decide)).append hj).append .nil

theorem laidOut_order (hd : d ≠ .sqlServer) :
    LaidOut d (.ofText (q.orderText d)) q.orderLayout := by
  rw [orderText, orderList?, orderLayout]
  by_cases he : q.orders.isEmpty
  · rw [if_pos he, if_pos he]
    exact .nil
  · have ho (o : Order) : LaidOut d (.ofText (d.quote o.column ++ " " ++ o.direction.text))
        [.name o.column, .text (" " ++ o.direction.text)] := by
      rw [String.append_assoc, ofText_append]
      exact (LaidOut.name hd o.column).append (.text o.direction.plain_text)
    have hs : PlainText ", " := by decide
    have hj := LaidOut.join hs fun o (_ : o ∈ q.orders) => ho o
    rw [if_neg he, if_neg he, Selection.clause, ofText_append, ofText_intercalate, List.map_map]
    exact (LaidOut.text (by decide)).append hj

theorem laidOut_window : LaidOut d (.ofText (q.windowText d)) [.text (q.windowText d)] :=
  .text (Selection.plain_limitText d _)

theorem laidOut_items (hd : d ≠ .sqlServer) (hraw : ∀ f ∈ q.raws, f.Balanced d) :
    LaidOut d (.ofText (q.selectList d)) (q.itemsLayout d) := by
  have hr : ∀ r ∈ q.rawColumns, (Fragment.ofText r).Balanced d := fun r hr =>
    hraw _ (List.mem_append_left _ (List.mem_append_left _ (List.mem_map_of_mem hr)))
  let items : List (String × Layout) := q.columns.map (fun c => (d.quote c, [.name c])) ++
    q.rawColumns.map fun r => (d.wrap r, (Fragment.ofText r).layout d)
  have hi : ∀ i ∈ items, LaidOut d (.ofText i.1) i.2 := by
    intro i hi
    rcases List.mem_append.1 hi with hi | hi
    · obtain ⟨c, -, rfl⟩ := List.mem_map.1 hi
      exact LaidOut.name hd c
    · obtain ⟨r, h, rfl⟩ := List.mem_map.1 hi
      exact LaidOut.raw (f := .ofText r) (hr r h)
  have hs : q.selectList d =
      if items.isEmpty then "*" else ", ".intercalate (items.map (·.1)) := by
    simp [selectList, items, Function.comp_def]
  have hl : q.itemsLayout d =
      if items.isEmpty then [.text "*"] else Layout.join ", " (items.map (·.2)) := by
    simp [itemsLayout, items, Function.comp_def]
  rw [hs, hl]
  split
  · exact .text (by decide)
  · rw [ofText_intercalate, List.map_map]
    exact .join (by decide) hi

theorem laidOut_select {c : Compiler} (hd : c.dialect ≠ .sqlServer) {table list : String}
    (ht : q.table = some table) {items : Layout}
    (hraw : ∀ f ∈ q.raws, f.Balanced c.dialect) (hi : LaidOut c.dialect (.ofText list) items)
    {f : Fragment} (h : q.selectFragment c table list = .ok f) :
    LaidOut c.dialect f (q.selectLayout c.dialect items) := by
  rw [selectFragment_eq_append q c hd] at h
  cases h
  simp only [ofText_append]
  have h1 := ((LaidOut.text (s := "SELECT ") (by decide)).append hi).append
    ((LaidOut.text (s := " FROM ") (by decide)).append (.name hd table))
  have h2 := (h1.append (laidOut_filter q hd hraw)).append
    ((laidOut_order q hd).append (laidOut_window q))
  simpa [selectLayout, tablePiece, ht] using h2

theorem laidOut_update (hd : d ≠ .sqlServer) {table : String} (ht : q.table = some table)
    (hraw : ∀ f ∈ q.raws, f.Balanced d) (now : Timestamp) :
    LaidOut d (q.updateFragment d now table) (q.updateLayout d now) := by
  have ha : ∀ a ∈ Assignment.effective now q.assignments,
      LaidOut d (a.fragment d) (a.layout d) := by
    intro a ha
    refine Assignment.laidOut hd fun f hf => ?_
    rcases Assignment.mem_effective ha with ha | rfl
    · exact hraw f (List.mem_append_left _ (List.mem_append_right _
        (List.mem_filterMap.2 ⟨a, ha, hf⟩)))
    · cases hf -- the time of the change is a value
  have h1 := ((LaidOut.text (d := d) (s := "UPDATE ") (by decide)).append (.name hd table)).append
    (.text (s := " SET ") (by decide))
  have hs : PlainText ", " := by decide
  have h2 := (h1.append (.join hs ha)).append (laidOut_filter q hd hraw)
  rw [updateFragment, filtered_eq_append, wrap_eq_append, ofText_append, ofText_append]
  simpa [updateLayout, tablePiece, ht, append_ofText_empty] using h2

theorem laidOut_delete (hd : d ≠ .sqlServer) {table : String} (ht : q.table = some table)
    (hraw : ∀ f ∈ q.raws, f.Balanced d) :
    LaidOut d (q.deleteFragment d table) (q.deleteLayout d) := by
  have h := ((LaidOut.text (s := "DELETE FROM ") (by decide)).append (.name hd table)).append
    (laidOut_filter q hd hraw)
  rw [deleteFragment, filtered_eq_append, ofText_append]
  simpa [deleteLayout, tablePiece, ht] using h

theorem laidOut_insert (hd : d ≠ .sqlServer) {table : String} (ht : q.table = some table)
    {f : Fragment} (h : q.insertFragment d table = .ok f) :
    LaidOut d f q.insertLayout := by
  have hn : LaidOut d (.ofText (d.quoteAll (q.values.map (·.1))))
      (Layout.join ", " (q.values.map fun p => [.name p.1])) := by
    rw [Dialect.quoteAll, ofText_intercalate, List.map_map, List.map_map]
    exact .join (by decide) fun p _ => .name hd p.1
  have h1 := ((LaidOut.text (s := "INSERT INTO ") (by decide)).append (.name hd table)).append
    (.text (s := " (") (by decide))
  have hv : PlainText " VALUES (" ∧ PlainText ")" := by decide
  have h2 := ((h1.append hn).append (.text hv.2)).append
    (.wrap hv.1 (.markers (q.values.map (·.2))) hv.2)
  rw [insertFragment] at h
  split at h
  · cases h
  · obtain ⟨-, -, h⟩ := bind_eq_ok.1 h
    cases h
    simp only [ofText_append]
    simpa [insertLayout, tablePiece, ht] using h2

theorem laidOut_action {c : Compiler} (hd : c.dialect ≠ .sqlServer) {now : Timestamp}
    {table : String} (ht : q.table = some table) (hraw : ∀ f ∈ q.raws, f.Balanced c.dialect)
    {f : Fragment} (h : q.actionFragment c now table = .ok f) :
    LaidOut c.dialect f (q.actionLayout c.dialect now) := by
  rw [actionFragment] at h
  rw [actionLayout]
  cases ha : q.action with rw [ha] at h
  | select => exact laidOut_select q hd ht hraw (laidOut_items q hd hraw) h
  | insert => exact laidOut_insert q hd ht h
  | update =>
    cases h
    exact laidOut_update q hd ht hraw now
  | delete =>
    cases h
    exact laidOut_delete q hd ht hraw

end

/-! ## Statements -/

theorem target_eq_some {q : Query} {table : String} (h : q.target = .ok table) :
    q.table = some table := by
  rw [target] at h
  split at h
  · cases h
  · rename_i t ht
    obtain ⟨-, -, h⟩ := bind_eq_ok.1 h
    cases h
    exact ht

theorem writes_action {c : Compiler} (hd : c.dialect ≠ .sqlServer) {now : Timestamp} {q : Query}
    (hraw : ∀ f ∈ q.raws, f.Balanced c.dialect) {s : Statement}
    (h : q.compileAction c now = .ok s) : s.Writes c.dialect (q.actionLayout c.dialect now) := by
  obtain ⟨table, ht, h⟩ := bind_eq_ok.1 h
  obtain ⟨f, hf, h⟩ := bind_eq_ok.1 h
  cases h
  exact (laidOut_action q hd (target_eq_some ht) hraw hf).writes

theorem writes_aggregate {c : Compiler} (hd : c.dialect ≠ .sqlServer) {q : Query}
    (hraw : ∀ f ∈ q.raws, f.Balanced c.dialect) {s : Statement} {expression : String}
    {items : Layout} (hi : LaidOut c.dialect (.ofText expression) items)
    (h : q.compileAggregate c expression = .ok s) :
    s.Writes c.dialect (q.clearOrder.selectLayout c.dialect items) := by
  obtain ⟨table, ht, h⟩ := bind_eq_ok.1 h
  obtain ⟨f, hf, h⟩ := bind_eq_ok.1 h
  cases h
  exact (laidOut_select q.clearOrder hd (target_eq_some ht) hraw hi hf).writes

theorem writes_function {c : Compiler} (hd : c.dialect ≠ .sqlServer) {q : Query}
    (hraw : ∀ f ∈ q.raws, f.Balanced c.dialect) {s : Statement} {operation opening : String}
    (ho : PlainText opening)
    (h : (do q.compileAggregate c (opening ++ (← q.aggregated c.dialect operation) ++ ")")) =
      .ok s) :
    s.Writes c.dialect (q.aggregateLayout c.dialect opening) := by
  obtain ⟨column, hc, h⟩ := bind_eq_ok.1 h
  refine writes_aggregate hd hraw ?_ h
  rw [aggregated] at hc
  split at hc
  · cases hc
  · rename_i name hn
    obtain ⟨-, -, hc⟩ := bind_eq_ok.1 hc
    cases hc
    rw [hn]
    simp only [ofText_append]
    exact ((LaidOut.text ho).append (.name hd name)).append (.text (by decide))
  · cases hc

theorem values_returning (d : Dialect) : (returningLayout d).values = [] := by cases d <;> rfl

theorem render_returning (d : Dialect) (k : Nat) :
    (returningLayout d).render d k = (returningLayout d).render d 0 := by cases d <;> rfl

theorem insertReturning_eq_append (d : Dialect) (insert : String) :
    d.insertReturning insert Column.idName = insert ++ (returningLayout d).sql d := by
  rw [← String.toList_inj]
  cases d <;> simp [Dialect.insertReturning, returningLayout, Layout.sql, Layout.render]

theorem writes_inserting {c : Compiler} (hd : c.dialect ≠ .sqlServer) {now : Timestamp}
    {q : Query} (hraw : ∀ f ∈ q.raws, f.Balanced c.dialect) {s : Statement}
    (h : q.compileInserting c now = .ok s) :
    s.Writes c.dialect (q.actionLayout c.dialect now ++ returningLayout c.dialect) := by
  rw [compileInserting] at h
  split at h
  · cases h
  · obtain ⟨t, ht, h⟩ := bind_eq_ok.1 h
    cases h
    have hw := (writes_action hd hraw ht).append_unbound (values_returning _) (render_returning _)
    rwa [← insertReturning_eq_append] at hw

theorem writes_statement {c : Compiler} (hd : c.dialect ≠ .sqlServer) {now : Timestamp}
    {p : Purpose} {q : Query} (hraw : ∀ f ∈ q.raws, f.Balanced c.dialect) {s : Statement}
    (h : q.statement c now p = .ok s) : s.Writes c.dialect (q.layout c.dialect now p) := by
  cases p with
  | action => exact writes_action hd hraw h
  | existence => exact writes_aggregate hd hraw (.text (by decide)) h
  | count => exact writes_aggregate hd hraw (.text (by decide)) h
  | sum => exact writes_function hd hraw (by decide) h
  | max => exact writes_function hd hraw (by decide) h
  | insertedId => exact writes_inserting hd hraw h

/-- Outside SQL Server, what compiles is the layout of the query as it is written: the placeholders
are numbered from left to right, and each is bound to the value of its slot. -/
theorem compile_laidOut {c : Compiler} {now : Timestamp} {p : Purpose} {q : Query} {r : Compiled}
    (hd : c.dialect ≠ .sqlServer) (hraw : ∀ f ∈ q.raws, f.Balanced c.dialect)
    (h : q.compile c now p = .ok r) :
    r.statement.sql = (q.layout c.dialect now p).sql c.dialect ∧
      r.statement.values = (q.layout c.dialect now p).values ∧
      r.statement.bindings.map (·.1) =
        (List.range r.statement.values.length).map (fun i => c.dialect.placeholder (i + 1)) ∧
      ∀ k, r.statement.binding? (c.dialect.placeholder (k + 1)) = r.statement.values[k]? := by
  obtain ⟨s, hs, h⟩ := bind_eq_ok.1 h
  cases h
  obtain ⟨hsql, hb⟩ := writes_statement hd hraw hs
  have hv : s.values = (q.layout c.dialect now p).values := by
    rw [Statement.values, hb, Statement.map_snd_bind]
  refine ⟨hsql, hv, ?_, fun k => ?_⟩
  · show s.bindings.map _ = _
    rw [hv, hb, Statement.map_fst_bind]
    simp only [Nat.zero_add]
  · show s.bindings.lookup _ = _
    rw [hv, hb, ← Statement.lookup_bind c.dialect 0, Nat.zero_add]

/-- An UPDATE on MySQL whose names and raw SQL hold quotes, brackets, backslashes and question
marks. -/
theorem compile_laidOut_update : ∃ (q : Query) (now : Timestamp) (r : Compiled),
    (∀ f ∈ q.raws, f.Balanced .mysql) ∧ q.compile ⟨.mysql, false⟩ now .action = .ok r ∧
      r.statement.sql = "UPDATE \x60t?\x60 SET \x60a\x60\x60?\x60 = @p1, " ++
        "\x60h?\x60 = \x60h?\x60 + @p2, \x60LastModifiedDate\x60 = @p3 " ++
        "WHERE (('\\'?' <> @p4) OR NOT (\x60c\\[\x60 IN (@p5, @p6)))" ∧
      r.statement.values =
        [.text "?", .int 1, .timestamp now, .text "b", .int 2, .int 3] ∧
      r.statement.binding? "@p6" = some (.int 3) := by
  let now : Timestamp := ⟨2024, 1, 1, 0, 0, 0, 0, by decide⟩
  let q := ((Query.ofTable "t?").set "a\x60?" (.text "?")).setRaw "[h?] = [h?] + ?" [.int 1]
  let q := q.filter
    (.group .or [.raw ⟨"'\\'?' <> ?", [.text "b"]⟩, .not (.isIn "c\\[" [.int 2, .int 3])])
  have hraw : ∀ f ∈ q.raws, f.Balanced .mysql := by decide
  obtain ⟨hsql, hvalues, -, hbound⟩ :=
    @compile_laidOut ⟨.mysql, false⟩ now .action q _ (by decide) hraw rfl
  exact ⟨q, now, _, hraw, rfl, hsql.trans (by decide +kernel), hvalues.trans (by decide),
    (hbound 5).trans (by rw [hvalues]; decide)⟩

end Query

end Polydialect
