import Polydialect.Proofs.Altering

/-!
# Tables that are rebuilt around an identity

The statements of the plan that rebuilds a table are read back one by one (`Sql.readStep?`): a table
is created, rows are copied from one table into another, a table is dropped, and one is renamed.

* `Sql.cutNames?_names`: names with commas between them are read up to whatever follows them;
* `Schema.readStep?_copyText`: the copy goes from the columns of the table into those of the same
  names;
* `Schema.rebuild_keeps_columns`: the four statements of a plan, and what makes it fail.
-/

namespace Polydialect

namespace Sql

/-! ## Statements that make and move tables -/

/-- A statement on whole tables. -/
inductive TableStep where
  | create (table : String) (items : List TableItem)
  /-- Rows of a table are put into columns of another one, in an order. -/
  | copy (target : String) (targetColumns : List String) (source : String)
    (sourceColumns : List String) (order : List (Token Unit))
  | drop (table : String)
  | rename (table name : String)
  deriving DecidableEq

/-- Names with commas between them, and the tokens behind the last one. -/
def cutNames? : List (Token Unit) → Option (List String × List (Token Unit))
  | .symbol (.name n) :: .symbol .comma :: ts => (cutNames? ts).map fun p => (n :: p.1, p.2)
  | .symbol (.name n) :: ts => some ([n], ts)
  | _ => none

/-- The copy into a target, behind its opening parenthesis. -/
def readCopy? (target : String) (ts : List (Token Unit)) : Option TableStep :=
  match cutNames? ts with
  | some (targetColumns, .symbol .closing :: .symbol (.word "SELECT") :: ts) =>
    match cutNames? ts with
    | some (sourceColumns, .symbol (.word "FROM") :: .symbol (.name source) ::
        .symbol (.word "ORDER") :: .symbol (.word "BY") :: order) =>
      some (.copy target targetColumns source sourceColumns order)
    | _ => none
  | _ => none

/-- A statement on whole tables other than one that creates a table. -/
def readStepTokens? : List (Token Unit) → Option TableStep
  | [.symbol (.word "DROP"), .symbol (.word "TABLE"), .symbol (.name table)] => some (.drop table)
  | [.symbol (.word "ALTER"), .symbol (.word "TABLE"), .symbol (.name table),
      .symbol (.word "RENAME"), .symbol (.word "TO"), .symbol (.name n)] => some (.rename table n)
  | .symbol (.word "INSERT") :: .symbol (.word "INTO") :: .symbol (.name target) ::
      .symbol .opening :: ts => readCopy? target ts
  | _ => none

/-- The statement on whole tables that a text is. -/
def readStep? (d : Dialect) (s : String) : Option TableStep :=
  ((readTable? d s).map fun p => .create p.1 p.2).or (readStepTokens? (lex d.delimiters s))

/-- What begins with another word creates no table. -/
theorem readStep?_of_tokens {d : Dialect} {s w : String} {ts : List (Token Unit)}
    (hs : lex d.delimiters s = .symbol (.word w) :: ts) (hw : w ≠ "CREATE") :
    readStep? d s = readStepTokens? (.symbol (.word w) :: ts) := by
  have hlines : dropLines (.symbol (.word w) :: ts) = .symbol (.word w) :: dropLines ts :=
    List.filter_cons_of_pos (by simp [lineBreak])
  have hnone (us : List (Token Unit)) : readTableTokens? (.symbol (.word w) :: us) = none := by
    unfold readTableTokens?
    split
    · rename_i heq
      cases heq
      exact absurd rfl hw
    · rfl
  rw [readStep?, readTable?, hs, hlines, hnone]
  rfl

theorem cutNames?_names {names : List String} (hne : names ≠ []) {rest : List (Token Unit)}
    (hrest : rest.head? ≠ some (.symbol .comma)) :
    cutNames? (nameTokens names ++ rest) = some (names, rest) := by
  induction names with
  | nil => exact absurd rfl hne
  | cons n names ih =>
    cases names with
    | nil =>
      cases rest with
      | nil => simp [nameTokens, cutNames?]
      | cons t rest =>
        have ht : t ≠ .symbol .comma := by simpa using hrest
        simp [nameTokens, cutNames?, ht]
    | cons m names =>
      have hrest := ih (List.cons_ne_nil m names)
      rw [nameTokens_cons_cons, List.cons_append, List.cons_append, cutNames?, hrest]
      rfl

/-- The tokens of a copy, behind the opening parenthesis. -/
def copyTokens (targetColumns : List String) (source : String) (sourceColumns : List String)
    (order : List (Token Unit)) : List (Token Unit) :=
  nameTokens targetColumns ++ .symbol .closing :: .symbol (.word "SELECT") ::
    (nameTokens sourceColumns ++ .symbol (.word "FROM") :: .symbol (.name source) ::
      .symbol (.word "ORDER") :: .symbol (.word "BY") :: order)

theorem readCopy?_copyTokens {targetColumns sourceColumns : List String}
    (htarget : targetColumns ≠ []) (hsource : sourceColumns ≠ []) (target source : String)
    (order : List (Token Unit)) :
    readCopy? target (copyTokens targetColumns source sourceColumns order) =
      some (.copy target targetColumns source sourceColumns order) := by
  let behind : List (Token Unit) := .symbol (.word "FROM") :: .symbol (.name source) ::
    .symbol (.word "ORDER") :: .symbol (.word "BY") :: order
  have hsources : cutNames? (nameTokens sourceColumns ++ behind) = some (sourceColumns, behind) :=
    cutNames?_names hsource (by simp [behind])
  have htargets : cutNames? (copyTokens targetColumns source sourceColumns order) =
      some (targetColumns, .symbol .closing :: .symbol (.word "SELECT") ::
        (nameTokens sourceColumns ++ behind)) :=
    cutNames?_names htarget (by simp)
  simp only [readCopy?, htargets, hsources, behind]

end Sql

namespace Schema

open Sql

variable {d : Dialect} {table order : String} {live cs : List Column}

/-! ## The statements of a plan -/

theorem phrase_dropTable (d : Dialect) (table : String) :
    Phrase d ("DROP TABLE " ++ d.quote table)
      [.symbol (.word "DROP"), .symbol (.word "TABLE"), .symbol (.name table)] := by
  have hdrop : Leaves d "DROP TABLE " [.symbol (.word "DROP"), .symbol (.word "TABLE")] := by
    cases d <;> decide
  exact hdrop.append (.quote d table)

theorem readStep?_dropTable (d : Dialect) (table : String) :
    readStep? d ("DROP TABLE " ++ d.quote table) = some (.drop table) :=
  readStep?_of_tokens (phrase_dropTable d table).tokens (by decide)

theorem phrase_rename (d : Dialect) (table n : String) :
    Phrase d ("ALTER TABLE " ++ d.quote table ++ " RENAME TO " ++ d.quote n)
      [.symbol (.word "ALTER"), .symbol (.word "TABLE"), .symbol (.name table),
        .symbol (.word "RENAME"), .symbol (.word "TO"), .symbol (.name n)] := by
  have hrename : Leaves d " RENAME TO " [.symbol (.word "RENAME"), .symbol (.word "TO")] := by
    cases d <;> decide
  exact ((phrase_alterTable d table).append_leaves hrename (by decide)).append (.quote d n)

theorem readStep?_rename (d : Dialect) (table n : String) :
    readStep? d ("ALTER TABLE " ++ d.quote table ++ " RENAME TO " ++ d.quote n) =
      some (.rename table n) :=
  readStep?_of_tokens (phrase_rename d table n).tokens (by decide)

theorem readStep?_createText (hne : cs ≠ []) :
    readStep? d (createText d table cs) = some (.create table (tableItems d cs)) := by
  rw [readStep?, readTable?_createText hne]
  rfl

/-- The tokens of the copy; the order is at its end, and is whatever it is. -/
theorem lex_copyText (d : Dialect) (table : String) (live : List Column) (order : String) :
    lex d.delimiters (copyText d table live order) =
      .symbol (.word "INSERT") :: .symbol (.word "INTO") :: .symbol (.name (stagingName table)) ::
        .symbol .opening ::
          copyTokens (names live) table (names live) (lex d.delimiters order) := by
  have hinsert : Leaves d "INSERT INTO " [.symbol (.word "INSERT"), .symbol (.word "INTO")] := by
    cases d <;> decide
  have hopen : Leaves d " (" [.symbol .opening] := by cases d <;> decide
  have hselect : Leaves d ") SELECT " [.symbol .closing, .symbol (.word "SELECT")] := by
    cases d <;> decide
  have hfrom : Leaves d " FROM " [.symbol (.word "FROM")] := by cases d <;> decide
  have horder : Leaves d " ORDER BY " [.symbol (.word "ORDER"), .symbol (.word "BY")] := by
    cases d <;> decide
  have hnames : Phrase d (d.quoteAll (live.map (·.name))) (nameTokens (names live)) :=
    .quoteAll d (names live)
  have hhead := ((((((hinsert.append (.quote d (stagingName table))).append_leaves hopen
    (by decide)).append hnames).append_leaves hselect (by decide)).append hnames).append_leaves hfrom
    (by decide)).append (.quote d table)
  have htext := hhead.append_leaves horder (by decide)
  have happend : lex d.delimiters (copyText d table live order) = _ := htext.lex_append order
  rw [happend, copyTokens]
  simp only [List.append_assoc, List.cons_append, List.nil_append]

/-- The copy takes the columns of the table to those of the same names, whatever the order is. -/
theorem readStep?_copyText (hne : live ≠ []) (d : Dialect) (table order : String) :
    readStep? d (copyText d table live order) =
      some (.copy (stagingName table) (names live) table (names live) (lex d.delimiters order)) := by
  have hnames : names live ≠ [] := fun hnil => hne (List.map_eq_nil_iff.1 hnil)
  exact (readStep?_of_tokens (lex_copyText d table live order) (by decide)).trans
    (readCopy?_copyTokens hnames hnames _ table _)

/-! ## The plan -/

/-- The plan for a table with columns: the copy is created and filled, the table is dropped, and the
copy gets its name. -/
theorem rebuild_of_valid (htable : Identifier.Valid table)
    (hstaging : Identifier.Valid (stagingName table)) (hlive : ∀ c ∈ live, Identifier.Valid c.name)
    (hne : live ≠ []) (d : Dialect) (order : String) :
    rebuild d table live order =
      .ok [createText d (stagingName table) ((rebuiltColumns live).map Column.normalized),
        copyText d table live order, "DROP TABLE " ++ d.quote table,
        "ALTER TABLE " ++ d.quote (stagingName table) ++ " RENAME TO " ++ d.quote table] := by
  have hcolumns : ∀ c ∈ rebuiltColumns live, Identifier.Valid c.name := by
    refine List.forall_mem_cons.2 ⟨by decide, List.forall_mem_map.2 hlive⟩
  have hcreate : createTable d (stagingName table) (rebuiltColumns live) = .ok _ :=
    createTable_eq_ok_iff.2 ⟨hstaging, List.cons_ne_nil _ _, hcolumns, rfl⟩
  have hempty : live.isEmpty = false := by simpa using hne
  rw [rebuild, dropTable, Identifier.check_eq_ok_iff.2 htable, Identifier.check_eq_ok_iff.2 hstaging,
    hcreate, hempty]
  rfl

/-- No plan is made for a table whose name, or the name of its copy, is no identifier. -/
theorem rebuild_of_not_valid
    (h : ¬ (Identifier.Valid table ∧ Identifier.Valid (stagingName table))) (d : Dialect)
    (live : List Column) (order : String) :
    ∃ name fault, (name = table ∨ name = stagingName table) ∧
      Identifier.fault? name = some fault ∧
      rebuild d table live order = .error (.misuse (.identifier name fault)) := by
  cases htable : Identifier.fault? table with
  | some fault =>
    refine ⟨table, fault, .inl rfl, htable, ?_⟩
    rw [rebuild, Identifier.check, htable]
    rfl
  | none =>
    cases hstaging : Identifier.fault? (stagingName table) with
    | none => exact absurd ⟨htable, hstaging⟩ h
    | some fault =>
      refine ⟨stagingName table, fault, .inr rfl, hstaging, ?_⟩
      rw [rebuild, Identifier.check, htable, Identifier.check, hstaging]
      rfl

/-- The columns of the copy have one identity, the new one, where none of the live columns is named
as it is: the flags of these are cleared. -/
theorem filter_becomesIdentity_rebuiltColumns (h : hasColumn live Column.idName = false) :
    (rebuiltColumns live).filter becomesIdentity = [.identityColumn] := by
  have hplain : ∀ c ∈ live, becomesIdentity { c with isIdentity := false, isPrimaryKey := false } =
      false := by
    intro c hc
    have hnamed : c.isNamed Column.idName = false := by
      simpa using List.any_eq_false.1 h c hc
    exact hnamed
  have hrest : (live.map fun c => { c with isIdentity := false, isPrimaryKey := false }).filter
      becomesIdentity = [] := by
    refine List.filter_eq_nil_iff.2 (List.forall_mem_map.2 fun c hc => ?_)
    rw [hplain c hc]
    decide
  rw [rebuiltColumns, List.filter_cons_of_pos (by decide), hrest]

/-- What is read of the plan that rebuilds a table: the copy is created with the columns of the
table behind a new one, which is the only identity and the only key; it is filled from these
columns, into the same ones; then the table is dropped and the copy takes its name. -/
theorem rebuild_keeps_columns (hlive : ∀ c ∈ live, Identifier.Valid c.name) (hne : live ≠ [])
    (hid : hasColumn live Column.idName = false) (d : Dialect) (table order : String) :
    (¬ (Identifier.Valid table ∧ Identifier.Valid (stagingName table)) ∧
      ∃ name fault, (name = table ∨ name = stagingName table) ∧
        Identifier.fault? name = some fault ∧
        rebuild d table live order = .error (.misuse (.identifier name fault))) ∨
    ((Identifier.Valid table ∧ Identifier.Valid (stagingName table)) ∧
      ∃ create copy drop rename items, rebuild d table live order = .ok [create, copy, drop, rename] ∧
        readStep? d create = some (.create (stagingName table) items) ∧
        items.filterMap TableItem.column? = Column.idName :: names live ∧
        identities d items = [Column.idName] ∧ keys items = [[Column.idName]] ∧
        readStep? d copy = some (.copy (stagingName table) (names live) table (names live)
          (lex d.delimiters order)) ∧
        readStep? d drop = some (.drop table) ∧
        readStep? d rename = some (.rename (stagingName table) table)) := by
  by_cases hvalid : Identifier.Valid table ∧ Identifier.Valid (stagingName table)
  · have hidentity : identityColumns ((rebuiltColumns live).map Column.normalized) =
        [Column.identityColumn.normalized] := by
      rw [identityColumns_normalized, filter_becomesIdentity_rebuiltColumns hid]
      rfl
    refine .inr ⟨hvalid, _, _, _, _, _, rebuild_of_valid hvalid.1 hvalid.2 hlive hne d order,
      readStep?_createText (by simp [rebuiltColumns]), ?_, ?_, ?_, readStep?_copyText hne d table order,
      readStep?_dropTable d table, readStep?_rename d (stagingName table) table⟩
    · rw [columns_tableItems, map_name_normalized, rebuiltColumns, List.map_cons, List.map_map]
      rfl
    · rw [identities_tableItems, hidentity]
      rfl
    · rw [keys_of_identityColumns_cons hidentity]
      cases d.identityIsKey <;> rfl
  · exact .inl ⟨hvalid, rebuild_of_not_valid hvalid d live order⟩

/-- The columns of a table of notes without an identity; one is a key. -/
private def noteColumns : List Column :=
  [⟨"Guid", .text, 0, true, false, false⟩, .plain "a]b" .varchar, .plain "a]b" .integer]

theorem rebuild_keeps_columns_notes :
    (∀ c ∈ noteColumns, Identifier.Valid c.name) ∧ noteColumns ≠ [] ∧
      hasColumn noteColumns Column.idName = false ∧
    ∃ create copy drop rename items,
      rebuild .sqlServer "Notes" noteColumns "rowid" = .ok [create, copy, drop, rename] ∧
      readStep? .sqlServer create = some (.create "Notes_new" items) ∧
      items.filterMap TableItem.column? = ["Id", "Guid", "a]b", "a]b"] ∧
      identities .sqlServer items = ["Id"] ∧ keys items = [["Id"]] ∧
      readStep? .sqlServer copy = some (.copy "Notes_new" ["Guid", "a]b", "a]b"] "Notes"
        ["Guid", "a]b", "a]b"] [.symbol (.word "ROWID")]) ∧
      readStep? .sqlServer drop = some (.drop "Notes") ∧
      readStep? .sqlServer rename = some (.rename "Notes_new" "Notes") := by
  have hlive : ∀ c ∈ noteColumns, Identifier.Valid c.name := by decide
  have hid : hasColumn noteColumns Column.idName = false := by decide
  refine ⟨hlive, List.cons_ne_nil _ _, hid, ?_⟩
  have hplan := rebuild_keeps_columns hlive (List.cons_ne_nil _ _) hid .sqlServer "Notes" "rowid"
  exact (hplan.resolve_left fun h => h.1 (by decide)).2

end Schema

end Polydialect
