import Polydialect.Proofs.Rebuilding
import Polydialect.Schema.Index

/-!
# The names that plans quote

The names that are quoted in a text are the tokens that are names (`Sql.quotedNames`). Those of a
plan are the names that it checks, and names that it makes itself: of a copy, which is checked as
well, and of a key, which is not (`Schema.constraintName?`). What an order quotes is its own.

* `Sql.Token.names_intercalate`, `Schema.names_lex_typeText`: separators and types quote nothing;
* `Schema.quotedNames_createText` and its like: the names that each statement quotes, in order;
* `Schema.Quotes`: what the names of a plan are, for each kind of plan;
* `Schema.plan_quotes_valid_names_iff`: so all of them are valid exactly if the name of the key is
  not too long, and what the order quotes is valid.
-/

namespace Polydialect

namespace Sql

namespace Token

/-- The name that a token is. -/
def name? : Token Unit → Option String
  | .symbol (.name n) => some n
  | _ => none

/-- The names among tokens, in order. -/
def names (ts : List (Token Unit)) : List String := ts.filterMap name?

@[simp] theorem names_nil : names [] = [] := rfl

@[simp] theorem names_name (n : String) (ts : List (Token Unit)) :
    names (.symbol (.name n) :: ts) = n :: names ts := rfl

@[simp] theorem names_word (w : String) (ts : List (Token Unit)) :
    names (.symbol (.word w) :: ts) = names ts := rfl

@[simp] theorem names_opening (ts : List (Token Unit)) :
    names (.symbol .opening :: ts) = names ts := rfl

@[simp] theorem names_closing (ts : List (Token Unit)) :
    names (.symbol .closing :: ts) = names ts := rfl

@[simp] theorem names_lineBreak (ts : List (Token Unit)) : names (lineBreak :: ts) = names ts := rfl

@[simp] theorem names_append (ts us : List (Token Unit)) :
    names (ts ++ us) = names ts ++ names us :=
  List.filterMap_append

/-- A separator without names adds none. -/
theorem names_intercalate {sep : List (Token Unit)} (hsep : names sep = [])
    (parts : List (List (Token Unit))) :
    names (List.intercalate sep parts) = parts.flatMap names := by
  induction parts with
  | nil => rfl
  | cons part parts ih =>
    cases parts with
    | nil => simp
    | cons part' parts => simp [List.intercalate_cons_cons, hsep, ih]

@[simp] theorem names_nameTokens (ns : List String) : names (nameTokens ns) = ns := by
  rw [nameTokens, names_intercalate rfl]
  induction ns with
  | nil => rfl
  | cons n ns ih => simp [ih]

end Token

variable {d : Dialect}

/-- The names that are quoted in a text, in order. -/
def quotedNames (d : Dialect) (s : String) : List String := Token.names (lex d.delimiters s)

theorem Phrase.quotedNames {s : String} {ts : List (Token Unit)} (h : Phrase d s ts) :
    Sql.quotedNames d s = Token.names ts := congrArg Token.names h.tokens

end Sql

theorem Identifier.valid_iff {name : String} :
    Valid name ↔
      name ≠ "" ∧ '\x00' ∉ name.toList ∧ name.utf8ByteSize ≤ maxIdentifierBytes := by
  unfold Valid fault?
  split_ifs with hempty hnull hlong
  · simp_all
  · simp_all
  · simp [Nat.not_le.2 hlong]
  · simp_all

namespace Schema

open Sql

variable {d : Dialect} {table : String} {cs live : List Column}

/-! ## The names in a statement -/

/-- A type quotes nothing. -/
theorem names_lex_typeText (d : Dialect) (c : Column) (added : Bool) :
    Token.names (lex d.delimiters (typeText d c added)) = [] := by
  have hidentity : Token.names (lex d.delimiters (d.identityType added)) = [] := by
    cases d <;> cases added <;> decide +kernel
  have hunbounded : Token.names (lex d.delimiters d.textType) = [] := by
    cases d <;> decide +kernel
  have hbounded (n : Nat) :
      Token.names (lex d.delimiters (d.varcharName ++ "(" ++ toString n ++ ")")) = [] := by
    obtain ⟨w, htext, -⟩ := phrase_bounded d n
    rw [htext.tokens]
    rfl
  have hnative : Token.names (lex d.delimiters (d.nativeType c)) = [] := by
    cases ht : c.type with
    | varchar =>
      simp only [Dialect.nativeType, ht, Dialect.varcharType]
      split
      · split
        · exact hunbounded
        · exact hbounded _
      · exact hbounded _
    | text | integer | boolean | datetime | decimal =>
      simp only [Dialect.nativeType, ht]
      cases d <;> decide +kernel
  unfold typeText
  split
  · exact hidentity
  · exact hnative

/-- The name that a dialect gives to the key of a table, if it names keys. -/
def constraintName? (d : Dialect) (table : String) : Option String :=
  if d = .mysql ∨ d = .sqlite then none else some ("PK_" ++ table)

/-- The names in an item of a table. -/
theorem names_itemTokens_column (d : Dialect) (table : String) (c : Column) :
    Token.names (itemTokens d table (columnItem d c)) = [c.name] := by
  simp [columnItem, itemTokens, names_lex_typeText]

theorem names_itemTokens_key (d : Dialect) (table : String) (columns : List String) :
    Token.names (itemTokens d table (.key columns)) =
      (constraintName? d table).toList ++ columns := by
  cases d <;> simp [itemTokens, constraintName?]

/-- The names in the key of a table. -/
def keyNames (d : Dialect) (table : String) (cs : List Column) : List String :=
  ((keyItem? d cs).map fun columns => (constraintName? d table).toList ++ columns).getD []

/-- The names in a new table: its own, those of its columns, and those in its key. -/
theorem quotedNames_createText (d : Dialect) (table : String) (cs : List Column) :
    quotedNames d (createText d table cs) = table :: names cs ++ keyNames d table cs := by
  have hoptions : Token.names (lex d.delimiters d.tableOptions) = [] := by
    cases d <;> decide +kernel
  have hitems : ((tableItems d cs).map (itemTokens d table)).flatMap Token.names =
      names cs ++ keyNames d table cs := by
    rw [tableItems, List.map_append, List.flatMap_append]
    congr 1
    · simp [names, List.flatMap_map, names_itemTokens_column, ← List.map_eq_flatMap]
    · unfold keyNames
      cases keyItem? d cs <;> simp [names_itemTokens_key]
  have hcomma : Token.names [.symbol .comma, lineBreak] = [] := rfl
  rw [(phrase_createText d table cs).quotedNames]
  simp [Token.names_intercalate hcomma, hitems, hoptions]

theorem quotedNames_addColumn (d : Dialect) (table : String) (c : Column) :
    quotedNames d (d.addColumn table (columnDefinition d c true)) = [table, c.name] := by
  have hwords : Token.names (addWords d) = [] := by cases d <;> rfl
  rw [(phrase_addColumn d table c).quotedNames]
  simp [hwords, names_lex_typeText]

theorem quotedNames_dropColumn (d : Dialect) (table n : String) :
    quotedNames d (d.dropColumn table n) = [table, n] := (phrase_dropColumn d table n).quotedNames

theorem quotedNames_dropTable (d : Dialect) (table : String) :
    quotedNames d ("DROP TABLE " ++ d.quote table) = [table] :=
  (phrase_dropTable d table).quotedNames

theorem quotedNames_rename (d : Dialect) (table n : String) :
    quotedNames d ("ALTER TABLE " ++ d.quote table ++ " RENAME TO " ++ d.quote n) = [table, n] :=
  (phrase_rename d table n).quotedNames

theorem quotedNames_copyText (d : Dialect) (table : String) (live : List Column) (order : String) :
    quotedNames d (copyText d table live order) =
      stagingName table :: names live ++ names live ++ table :: quotedNames d order := by
  rw [quotedNames, lex_copyText, quotedNames]
  simp [copyTokens]

/-! ## Indexes -/

theorem readTokens_eq_ok_iff {tokens : List String} {orders : List Order} :
    readTokens tokens = .ok orders ↔
      (∀ t ∈ tokens, Identifier.Valid (readToken t).column) ∧ tokens.map readToken = orders := by
  induction tokens generalizing orders with
  | nil => simp [readTokens, pure, Except.pure]
  | cons t tokens ih =>
    rw [List.forall_mem_cons, ← Identifier.check_eq_ok_iff, readTokens]
    cases Identifier.check (readToken t).column with
    | error e => simp [bind, Except.bind]
    | ok =>
      cases hrest : readTokens tokens with
      | error e =>
        have hfails : ¬ ∀ t ∈ tokens, Identifier.Valid (readToken t).column := by
          intro hvalid
          cases hrest.symm.trans (ih.2 ⟨hvalid, rfl⟩)
        simp [bind, Except.bind, hfails]
      | ok rest =>
        obtain ⟨hvalid, rfl⟩ := ih.1 hrest
        exact ⟨fun h => ⟨⟨rfl, hvalid⟩, Except.ok.inj h⟩, fun h => congrArg Except.ok h.2⟩

/-- The text that creates an index. -/
def indexText (d : Dialect) (table index : String) (orders : List Order) : String :=
  "CREATE INDEX " ++ d.quote index ++ " ON " ++ d.quote table ++ " (" ++
    ", ".intercalate (orders.map fun o => d.quote o.column ++ " " ++ o.direction.text) ++ ")"

theorem createIndex_eq_ok_iff {index text : String} {tokens : List String} :
    createIndex d table index tokens = .ok text ↔
      Identifier.Valid table ∧ Identifier.Valid index ∧ tokens ≠ [] ∧
        (∀ t ∈ tokens, Identifier.Valid (readToken t).column) ∧
        indexText d table index (tokens.map readToken) = text := by
  rw [createIndex, ← Identifier.check_eq_ok_iff, ← Identifier.check_eq_ok_iff]
  cases tokens with
  | nil => simp [bind_eq_ok, throw, throwThe, MonadExceptOf.throw]
  | cons t tokens =>
    simp only [List.isEmpty_cons, Bool.false_eq_true, if_false, bind_eq_ok, Unique.exists_iff]
    refine and_congr_right' (and_congr_right' ?_)
    constructor
    · rintro ⟨orders, horders, htext⟩
      obtain ⟨hvalid, rfl⟩ := readTokens_eq_ok_iff.1 horders
      exact ⟨List.cons_ne_nil _ _, hvalid, Except.ok.inj htext⟩
    · rintro ⟨-, hvalid, rfl⟩
      exact ⟨_, readTokens_eq_ok_iff.2 ⟨hvalid, rfl⟩, rfl⟩

theorem phrase_order (d : Dialect) (o : Order) :
    Phrase d (d.quote o.column ++ " " ++ o.direction.text)
      [.symbol (.name o.column), .symbol (.word o.direction.text)] := by
  have hdirection : Phrase d o.direction.text [.symbol (.word o.direction.text)] := by
    cases d <;> cases o.direction <;> exact ⟨by decide, by decide⟩
  exact ((Phrase.quote d o.column).append_leaves (.blank d) (by decide)).append hdirection

/-- The tokens of a statement that creates an index. -/
def indexTokens (table index : String) (orders : List Order) : List (Sql.Token Unit) :=
  .symbol (.word "CREATE") :: .symbol (.word "INDEX") :: .symbol (.name index) ::
    .symbol (.word "ON") :: .symbol (.name table) :: .symbol .opening ::
      (List.intercalate [.symbol .comma] (orders.map fun o =>
        [.symbol (.name o.column), .symbol (.word o.direction.text)]) ++ [.symbol .closing])

theorem phrase_indexText (d : Dialect) (table index : String) (orders : List Order) :
    Phrase d (indexText d table index orders) (indexTokens table index orders) := by
  have hcreate : Leaves d "CREATE INDEX " [.symbol (.word "CREATE"), .symbol (.word "INDEX")] := by
    cases d <;> decide
  have hon : Leaves d " ON " [.symbol (.word "ON")] := by cases d <;> decide
  have hopen : Leaves d " (" [.symbol .opening] := by cases d <;> decide
  have hcomma : Leaves d ", " [.symbol .comma] := by cases d <;> decide
  have horders : Phrase d
      (", ".intercalate (orders.map fun o => d.quote o.column ++ " " ++ o.direction.text))
      (List.intercalate [.symbol .comma] (orders.map fun o =>
        [.symbol (.name o.column), .symbol (.word o.direction.text)])) := by
    refine .intercalate hcomma (by decide) ?_
    rw [List.forall₂_map_left_iff, List.forall₂_map_right_iff, List.forall₂_same]
    exact fun o _ => phrase_order d o
  have hhead := (((hcreate.append (.quote d index)).append_leaves hon (by decide)).append
    (.quote d table)).append_leaves hopen (by decide)
  exact (hhead.append horders).append (.closing d) (by decide)

theorem quotedNames_indexText (d : Dialect) (table index : String) (orders : List Order) :
    quotedNames d (indexText d table index orders) =
      index :: table :: orders.map (·.column) := by
  have hcomma : Token.names [.symbol .comma] = [] := rfl
  rw [(phrase_indexText d table index orders).quotedNames]
  simp [indexTokens, Token.names_intercalate hcomma, List.flatMap_map, ← List.map_eq_flatMap]

/-! ## Plans -/

theorem mem_names_of_mem_keyColumns {n : String} (h : n ∈ keyColumns cs) : n ∈ names cs := by
  unfold keyColumns at h
  split at h
  · rename_i c hc
    rw [List.mem_singleton.1 h]
    exact List.mem_map_of_mem (List.mem_of_find?_eq_some hc)
  · exact (List.filter_sublist.map _).subset h

theorem keyItem?_eq_some_iff {columns : List String} :
    keyItem? d cs = some columns ↔
      keyColumns cs ≠ [] ∧ hasInlineKey d cs = false ∧ keyColumns cs = columns := by
  unfold keyItem?
  cases hinline : hasInlineKey d cs <;> cases hkeys : keyColumns cs <;> simp

/-- A dialect that names keys declares none with the type of an identity. -/
theorem hasInlineKey_eq_false {n : String} (h : constraintName? d table = some n) :
    hasInlineKey d cs = false := by
  have hkey : d.identityIsKey = false := by
    cases d with
    | sqlite => cases h
    | mysql | sqlServer | postgres | oracle => rfl
  rw [hasInlineKey, hkey, Bool.and_false]

/-- The names in a new table are its own, those of its columns, and that of its key if it has
one. -/
theorem mem_quotedNames_createText {n : String} :
    n ∈ quotedNames d (createText d table cs) ↔
      n = table ∨ n ∈ names cs ∨ keyColumns cs ≠ [] ∧ constraintName? d table = some n := by
  have hmem : n ∈ keyNames d table cs ↔ ∃ columns, keyItem? d cs = some columns ∧
      (constraintName? d table = some n ∨ n ∈ columns) := by
    unfold keyNames
    cases keyItem? d cs <;> simp
  rw [quotedNames_createText, List.cons_append, List.mem_cons, List.mem_append, hmem]
  refine or_congr_right ⟨?_, ?_⟩
  · rintro (hname | ⟨columns, hitem, hconstraint | hcolumn⟩)
    · exact .inl hname
    · exact .inr ⟨(keyItem?_eq_some_iff.1 hitem).1, hconstraint⟩
    · obtain ⟨-, -, rfl⟩ := keyItem?_eq_some_iff.1 hitem
      exact .inl (mem_names_of_mem_keyColumns hcolumn)
  · rintro (hname | ⟨hkeys, hconstraint⟩)
    · exact .inl hname
    · have hitem := keyItem?_eq_some_iff.2 ⟨hkeys, hasInlineKey_eq_false hconstraint, rfl⟩
      exact .inr ⟨_, hitem, .inl hconstraint⟩

/-- The plan of statements. -/
inductive Plan where
  | create (table : String) (columns : List Column)
  | alter (table : String) (requested live : List Column) (dropped : List String)
  | addIdentity (table : String)
  | rebuild (table : String) (live : List Column) (order : String)
  | createIndex (table index : String) (tokens : List String)
  | drop (table : String)

namespace Plan

/-- The statements of a plan. -/
def texts (d : Dialect) : Plan → Except Error (List String)
  | create table columns => return [← createTable d table columns]
  | alter table requested live dropped => alterTable d table requested live dropped
  | addIdentity table => return [← Schema.addIdentity d table]
  | rebuild table live order => Schema.rebuild d table live order
  | createIndex table index tokens => return [← Schema.createIndex d table index tokens]
  | drop table => return [← dropTable d table]

/-- The table that is created with a key, if one is. -/
def keyed? : Plan → Option String
  | create table columns =>
    if keyColumns (columns.map Column.normalized) = [] then none else some table
  | rebuild table _ _ => some (stagingName table)
  | alter .. | addIdentity _ | createIndex .. | drop _ => none

/-- The name of the key that is declared. -/
def keyName? (d : Dialect) (p : Plan) : Option String := p.keyed?.bind (constraintName? d)

/-- What the order in which a copy is filled quotes by itself. -/
def orderNames (d : Dialect) : Plan → List String
  | rebuild _ live order => if live.isEmpty then [] else quotedNames d order
  | create .. | alter .. | addIdentity _ | createIndex .. | drop _ => []

end Plan

/-- The names in statements are valid but for that of a key and for others, and these are there. -/
structure Quotes (d : Dialect) (texts : List String) (key : Option String)
    (others : List String) : Prop where
  valid : ∀ n ∈ texts.flatMap (quotedNames d), Identifier.Valid n ∨ key = some n ∨ n ∈ others
  key : ∀ n, key = some n → n ∈ texts.flatMap (quotedNames d)
  others : ∀ n ∈ others, n ∈ texts.flatMap (quotedNames d)

/-- Statements with valid names only. -/
theorem Quotes.of_valid {texts : List String}
    (h : ∀ n ∈ texts.flatMap (quotedNames d), Identifier.Valid n) : Quotes d texts none [] :=
  ⟨fun n hn => .inl (h n hn), fun _ h => absurd h (by simp), fun _ h => absurd h List.not_mem_nil⟩

theorem Quotes.append {texts texts' : List String} {key : Option String}
    {others others' : List String}
    (h : Quotes d texts key others) (h' : Quotes d texts' none others') :
    Quotes d (texts ++ texts') key (others ++ others') := by
  refine ⟨?_, ?_, ?_⟩
  · intro n hn
    rw [List.flatMap_append, List.mem_append] at hn
    rcases hn with hn | hn
    · rcases h.valid n hn with hvalid | hkey | hother
      · exact .inl hvalid
      · exact .inr (.inl hkey)
      · exact .inr (.inr (List.mem_append_left _ hother))
    · rcases h'.valid n hn with hvalid | hkey | hother
      · exact .inl hvalid
      · cases hkey
      · exact .inr (.inr (List.mem_append_right _ hother))
  · intro n hn
    rw [List.flatMap_append]
    exact List.mem_append_left _ (h.key n hn)
  · intro n hn
    rw [List.flatMap_append]
    rcases List.mem_append.1 hn with hn | hn
    · exact List.mem_append_left _ (h.others n hn)
    · exact List.mem_append_right _ (h'.others n hn)

theorem quotes_createText (htable : Identifier.Valid table)
    (hcolumns : ∀ n ∈ names cs, Identifier.Valid n) (d : Dialect) :
    Quotes d [createText d table cs]
      ((if keyColumns cs = [] then none else some table).bind (constraintName? d)) [] := by
  have hkey (n : String) :
      (if keyColumns cs = [] then none else some table).bind (constraintName? d) = some n ↔
        keyColumns cs ≠ [] ∧ constraintName? d table = some n := by
    by_cases hkeys : keyColumns cs = [] <;> simp [hkeys]
  refine ⟨fun n hn => ?_, fun n hn => ?_, fun n hn => absurd hn List.not_mem_nil⟩
  · rw [List.flatMap_singleton, mem_quotedNames_createText] at hn
    rcases hn with rfl | hname | hconstraint
    · exact .inl htable
    · exact .inl (hcolumns n hname)
    · exact .inr (.inl ((hkey n).2 hconstraint))
  · rw [List.flatMap_singleton, mem_quotedNames_createText]
    exact .inr (.inr ((hkey n).1 hn))

theorem createTable_quotes {text : String} (h : createTable d table cs = .ok text) :
    Quotes d [text] ((Plan.create table cs).keyName? d) [] := by
  obtain ⟨htable, -, hcolumns, rfl⟩ := createTable_eq_ok_iff.1 h
  refine quotes_createText htable ?_ d
  rw [names, map_name_normalized]
  exact List.forall_mem_map.2 hcolumns

theorem alterTable_quotes {requested : List Column} {dropped texts : List String}
    (h : alterTable d table requested live dropped = .ok texts) : Quotes d texts none [] := by
  obtain ⟨htable, hrequested, hdropped, rfl⟩ := alterTable_eq_ok_iff.1 h
  have hadded : ∀ c ∈ missing requested live, ∀ n ∈ quotedNames d (addition d table c),
      Identifier.Valid n := by
    intro c hc
    have hname : Identifier.Valid c.name := hrequested c (List.mem_of_mem_filter hc)
    rw [addition, quotedNames_addColumn, Column.normalized_name]
    simp [htable, hname]
  have hgone : ∀ m ∈ leaving dropped live, ∀ n ∈ quotedNames d (d.dropColumn table m),
      Identifier.Valid n := by
    intro m hm
    rw [quotedNames_dropColumn]
    simp [htable, hdropped m (List.mem_of_mem_filter hm)]
  refine .of_valid fun n hn => ?_
  rw [List.flatMap_append, List.mem_append, List.mem_flatMap, List.mem_flatMap] at hn
  rcases hn with ⟨text, htext, hn⟩ | ⟨text, htext, hn⟩
  · obtain ⟨c, hc, rfl⟩ := List.mem_map.1 htext
    exact hadded c hc n hn
  · obtain ⟨m, hm, rfl⟩ := List.mem_map.1 htext
    exact hgone m hm n hn

theorem addIdentity_quotes {text : String} (h : addIdentity d table = .ok text) :
    Quotes d [text] none [] := by
  obtain ⟨⟨⟩, htable, htext⟩ := bind_eq_ok.1 h
  cases htext
  have hid : Identifier.Valid Column.identityColumn.name := by decide
  refine .of_valid ?_
  rw [List.flatMap_singleton, quotedNames_addColumn]
  simp [Identifier.check_eq_ok_iff.1 htable, hid]

theorem dropTable_eq_ok_iff {text : String} :
    dropTable d table = .ok text ↔
      Identifier.Valid table ∧ "DROP TABLE " ++ d.quote table = text := by
  rw [dropTable, bind_eq_ok, ← Identifier.check_eq_ok_iff, Unique.exists_iff]
  exact and_congr_right' (Except.ok.injEq _ _).to_iff

theorem quotes_dropTable (htable : Identifier.Valid table) (d : Dialect) :
    Quotes d ["DROP TABLE " ++ d.quote table] none [] := by
  refine .of_valid ?_
  rw [List.flatMap_singleton, quotedNames_dropTable]
  simp [htable]

theorem createIndex_quotes {index text : String} {tokens : List String}
    (h : createIndex d table index tokens = .ok text) : Quotes d [text] none [] := by
  obtain ⟨htable, hindex, -, htokens, rfl⟩ := createIndex_eq_ok_iff.1 h
  refine .of_valid ?_
  rw [List.flatMap_singleton, quotedNames_indexText]
  simpa [htable, hindex] using htokens

theorem rebuild_eq_ok_iff {texts : List String} {order : String} :
    rebuild d table live order = .ok texts ↔
      Identifier.Valid table ∧ Identifier.Valid (stagingName table) ∧
        ∃ create, createTable d (stagingName table) (rebuiltColumns live) = .ok create ∧
          create :: (if live.isEmpty then [] else [copyText d table live order]) ++
            ["DROP TABLE " ++ d.quote table,
              "ALTER TABLE " ++ d.quote (stagingName table) ++ " RENAME TO " ++ d.quote table] =
            texts := by
  rw [← Identifier.check_eq_ok_iff, ← Identifier.check_eq_ok_iff, rebuild]
  simp only [bind_eq_ok, Unique.exists_iff]
  refine and_congr_right fun htable => and_congr_right fun _ => exists_congr fun create => ?_
  have hdrop := dropTable_eq_ok_iff (d := d).2 ⟨Identifier.check_eq_ok_iff.1 htable, rfl⟩
  rw [hdrop]
  simp [pure, Except.pure]

theorem quotes_copyText (hstaging : Identifier.Valid (stagingName table))
    (htable : Identifier.Valid table) (hlive : ∀ n ∈ names live, Identifier.Valid n)
    (d : Dialect) (order : String) :
    Quotes d [copyText d table live order] none (quotedNames d order) := by
  refine ⟨fun n hn => ?_, fun n hn => absurd hn (by simp), fun n hn => ?_⟩
  · rw [List.flatMap_singleton, quotedNames_copyText] at hn
    simp only [List.mem_append, List.mem_cons] at hn
    rcases hn with ((rfl | hn) | hn) | rfl | hn
    · exact .inl hstaging
    · exact .inl (hlive n hn)
    · exact .inl (hlive n hn)
    · exact .inl htable
    · exact .inr (.inr hn)
  · rw [List.flatMap_singleton, quotedNames_copyText]
    simp [hn]

/-- A rebuilt table has a key, that of its identity. -/
theorem keyName?_rebuild (d : Dialect) (table order : String) (live : List Column) :
    (Plan.create (stagingName table) (rebuiltColumns live)).keyName? d =
      (Plan.rebuild table live order).keyName? d := rfl

theorem rebuild_quotes {texts : List String} {order : String}
    (h : rebuild d table live order = .ok texts) :
    Quotes d texts ((Plan.rebuild table live order).keyName? d)
      ((Plan.rebuild table live order).orderNames d) := by
  obtain ⟨htable, hstaging, create, hcreate, rfl⟩ := rebuild_eq_ok_iff.1 h
  -- the names of the live columns are checked when the copy is created
  have hlive : ∀ n ∈ names live, Identifier.Valid n := by
    have hall := (createTable_eq_ok_iff.1 hcreate).2.2.1
    rw [rebuiltColumns, List.forall_mem_cons, List.forall_mem_map] at hall
    exact List.forall_mem_map.2 hall.2
  have hcopy : Quotes d (if live.isEmpty then [] else [copyText d table live order]) none
      ((Plan.rebuild table live order).orderNames d) := by
    cases live with
    | nil => exact .of_valid fun n hn => absurd hn List.not_mem_nil
    | cons c live => exact quotes_copyText hstaging htable hlive d order
  have hrename : Quotes d
      ["ALTER TABLE " ++ d.quote (stagingName table) ++ " RENAME TO " ++ d.quote table]
      none [] := by
    refine .of_valid ?_
    rw [List.flatMap_singleton, quotedNames_rename]
    simp [hstaging, htable]
  have hall := ((createTable_quotes hcreate).append hcopy).append
    ((quotes_dropTable htable d).append hrename)
  simpa [keyName?_rebuild d table order live] using hall

theorem Plan.quotes {p : Plan} {texts : List String} (h : p.texts d = .ok texts) :
    Quotes d texts (p.keyName? d) (p.orderNames d) := by
  cases p with
  | create table columns =>
    obtain ⟨text, htext, htexts⟩ := bind_eq_ok.1 h
    cases htexts
    exact createTable_quotes htext
  | alter table requested live dropped => exact alterTable_quotes h
  | addIdentity table =>
    obtain ⟨text, htext, htexts⟩ := bind_eq_ok.1 h
    cases htexts
    exact addIdentity_quotes htext
  | rebuild table live order => exact rebuild_quotes h
  | createIndex table index tokens =>
    obtain ⟨text, htext, htexts⟩ := bind_eq_ok.1 h
    cases htexts
    exact createIndex_quotes htext
  | drop table =>
    obtain ⟨text, htext, htexts⟩ := bind_eq_ok.1 h
    cases htexts
    obtain ⟨htable, rfl⟩ := dropTable_eq_ok_iff.1 htext
    exact quotes_dropTable htable d

/-- The table that gets a key has a valid name. -/
theorem Plan.valid_of_keyed? {p : Plan} {texts : List String} (h : p.texts d = .ok texts)
    {t : String} (ht : p.keyed? = some t) : Identifier.Valid t := by
  cases p with
  | create table columns =>
    obtain ⟨text, htext, -⟩ := bind_eq_ok.1 h
    rw [keyed?] at ht
    split at ht
    · cases ht
    · cases ht
      exact (createTable_eq_ok_iff.1 htext).1
  | rebuild table live order =>
    cases ht
    exact (rebuild_eq_ok_iff.1 h).2.1
  | alter | addIdentity | createIndex | drop => cases ht

/-- Of the name of a key only its length can be wrong. -/
theorem valid_constraintName_iff (htable : Identifier.Valid table) {n : String}
    (h : constraintName? d table = some n) :
    Identifier.Valid n ↔ n.utf8ByteSize ≤ maxIdentifierBytes := by
  obtain ⟨-, hnull, -⟩ := Identifier.valid_iff.1 htable
  unfold constraintName? at h
  split at h
  · cases h
  · obtain rfl := Option.some.inj h
    rw [Identifier.valid_iff]
    simp [hnull]

/-- **The names in a plan.** Every name that is quoted is valid, but for the name of the key and for
what the order quotes by itself. So all names are valid exactly if the name of the key, which is
made of `PK_` and the name of the table, has at most 128 bytes, and what the order quotes is valid:
the name of the key is checked nowhere. -/
theorem plan_quotes_valid_names_iff {p : Plan} {texts : List String} (h : p.texts d = .ok texts) :
    (∀ n ∈ texts.flatMap (quotedNames d),
      Identifier.Valid n ∨ p.keyName? d = some n ∨ n ∈ p.orderNames d) ∧
    ((∀ n ∈ texts.flatMap (quotedNames d), Identifier.Valid n) ↔
      (∀ n, p.keyName? d = some n → n.utf8ByteSize ≤ maxIdentifierBytes) ∧
        ∀ n ∈ p.orderNames d, Identifier.Valid n) := by
  have hquotes := p.quotes h
  have hkey : ∀ n, p.keyName? d = some n →
      (Identifier.Valid n ↔ n.utf8ByteSize ≤ maxIdentifierBytes) := by
    intro n hn
    obtain ⟨t, ht, hname⟩ := Option.bind_eq_some_iff.1 hn
    exact valid_constraintName_iff (p.valid_of_keyed? h ht) hname
  refine ⟨hquotes.valid, fun hall => ⟨fun n hn => ?_, fun n hn => ?_⟩, ?_⟩
  · exact (hkey n hn).1 (hall n (hquotes.key n hn))
  · exact hall n (hquotes.others n hn)
  · rintro ⟨hshort, horder⟩ n hn
    rcases hquotes.valid n hn with hvalid | hname | hother
    · exact hvalid
    · exact (hkey n hname).2 (hshort n hname)
    · exact horder n hother

/-- A table of notes. -/
private def notes : Plan := .create "Notes" [.identityColumn, .plain "Title" .varchar]

theorem plan_quotes_valid_names_iff_notes :
    ∃ texts, notes.texts .oracle = .ok texts ∧
      notes.keyName? .oracle = some "PK_Notes" ∧
      (∀ n ∈ texts.flatMap (quotedNames .oracle),
        Identifier.Valid n ∨ notes.keyName? .oracle = some n ∨ n ∈ notes.orderNames .oracle) ∧
      ((∀ n ∈ texts.flatMap (quotedNames .oracle), Identifier.Valid n) ↔
        (∀ n, notes.keyName? .oracle = some n → n.utf8ByteSize ≤ maxIdentifierBytes) ∧
          ∀ n ∈ notes.orderNames .oracle, Identifier.Valid n) := by
  have h : notes.texts .oracle = .ok _ := rfl
  exact ⟨_, h, rfl, plan_quotes_valid_names_iff h⟩

/-- A name of 126 bytes. -/
private def longName : String := .ofList (List.replicate 126 'a')

/-- On SQL Server a table with a valid name gets a key whose name is no identifier. -/
theorem create_quotes_long_key :
    Identifier.Valid longName ∧
    ∃ text, createTable .sqlServer longName [.identityColumn] = .ok text ∧
      "PK_" ++ longName ∈ quotedNames .sqlServer text ∧
      Identifier.fault? ("PK_" ++ longName) = some .tooLong := by
  have hvalid : Identifier.Valid longName := by decide +kernel
  have hcreate : createTable .sqlServer longName [.identityColumn] = .ok _ :=
    createTable_eq_ok_iff.2 ⟨hvalid, List.cons_ne_nil _ _, by decide, rfl⟩
  refine ⟨hvalid, _, hcreate, ?_, by decide +kernel⟩
  exact mem_quotedNames_createText.2 (.inr (.inr ⟨by decide, rfl⟩))

end Schema

end Polydialect
