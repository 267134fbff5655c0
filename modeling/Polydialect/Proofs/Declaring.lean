import Polydialect.Proofs.Phrase
import Polydialect.Schema.Definition

/-!
# What a new table declares

The text that creates a table is read back as the items between its parentheses: columns with the
tokens of their types, and keys of the table (`Sql.readTable?`). A type declares an identity by the
words of its engine, and a key by PRIMARY KEY, which may also stand as an item of its own.

* `Sql.readItems?_intercalate`: items without a comma of their own are read one by one;
* `Schema.readTable?_createText`: the items of a new table are its columns in their fixed shapes,
  and the key clause where there is one;
* `Schema.declares_one_key_iff`: the table has at most one identity, and one key if any column asks
  for it, exactly if at most one column is an identity (`Schema.declares_two_keys` has two).
-/

namespace Polydialect

namespace Sql

/-! ## Reading the items -/

/-- A token in front of the first item. -/
def pushToken (t : Token Unit) (p : List (List (Token Unit)) × List (Token Unit)) :
    List (List (Token Unit)) × List (Token Unit) :=
  match p with
  | (item :: items, rest) => ((t :: item) :: items, rest)
  | ([], rest) => ([[t]], rest)

/-- The items up to the closing parenthesis, and what stands behind it. A comma between inner
parentheses, as many as the number says, ends no item. -/
def readItems? : Nat → List (Token Unit) → Option (List (List (Token Unit)) × List (Token Unit))
  | _, [] => none
  | 0, .symbol .closing :: ts => some ([[]], ts)
  | 0, .symbol .comma :: ts => (readItems? 0 ts).map fun p => ([] :: p.1, p.2)
  | n + 1, .symbol .closing :: ts => (readItems? n ts).map (pushToken (.symbol .closing))
  | n, .symbol .opening :: ts => (readItems? (n + 1) ts).map (pushToken (.symbol .opening))
  | n, t :: ts => (readItems? n ts).map (pushToken t)

/-- The number of inner parentheses that are open behind the tokens, if none of them ends the item
in which they stand. -/
def nesting? : Nat → List (Token Unit) → Option Nat
  | n, [] => some n
  | 0, .symbol .closing :: _ => none
  | 0, .symbol .comma :: _ => none
  | n + 1, .symbol .closing :: ts => nesting? n ts
  | n, .symbol .opening :: ts => nesting? (n + 1) ts
  | n, _ :: ts => nesting? n ts

/-- The tokens make up one item. -/
def IsItem (ts : List (Token Unit)) : Prop := nesting? 0 ts = some 0

instance (ts : List (Token Unit)) : Decidable (IsItem ts) := inferInstanceAs (Decidable (_ = _))

theorem readItems?_append {n m : Nat} {ts : List (Token Unit)} (h : nesting? n ts = some m)
    (rest : List (Token Unit)) :
    readItems? n (ts ++ rest) = (readItems? m rest).map fun p => ts.foldr pushToken p := by
  fun_induction nesting? n ts with
  | case1 n =>
    obtain rfl := Option.some.inj h
    simp
  | case2 | case3 => cases h
  | case4 n ts ih =>
    rw [List.cons_append, readItems?, ih h, Option.map_map]
    rfl
  | case5 n ts ih =>
    rw [List.cons_append, readItems?, ih h, Option.map_map]
    rfl
  | case6 n t ts h1 h2 h3 h4 ih =>
    rw [List.cons_append, readItems?, ih h, Option.map_map]
    · rfl
    all_goals simp_all

theorem foldr_pushToken (ts item : List (Token Unit)) (items : List (List (Token Unit)))
    (rest : List (Token Unit)) :
    ts.foldr pushToken (item :: items, rest) = ((ts ++ item) :: items, rest) := by
  induction ts with
  | nil => rfl
  | cons t ts ih => rw [List.foldr_cons, ih, pushToken, List.cons_append]

/-- Items with commas between them are read one by one. -/
theorem readItems?_intercalate {items : List (List (Token Unit))} (hne : items ≠ [])
    (h : ∀ item ∈ items, IsItem item) (rest : List (Token Unit)) :
    readItems? 0 (List.intercalate [.symbol .comma] items ++ .symbol .closing :: rest) =
      some (items, rest) := by
  induction items with
  | nil => exact absurd rfl hne
  | cons item items ih =>
    obtain ⟨hitem, hitems⟩ := List.forall_mem_cons.1 h
    cases items with
    | nil =>
      rw [List.intercalate_singleton, readItems?_append hitem, readItems?, Option.map_some,
        foldr_pushToken, List.append_nil]
    | cons item' items =>
      have hrest := ih (List.cons_ne_nil _ _) hitems
      rw [List.intercalate_cons_cons, List.append_assoc, List.append_assoc, readItems?_append hitem,
        List.singleton_append, readItems?, hrest, Option.map_some, Option.map_some,
        foldr_pushToken, List.append_nil]

/-! ## Reading a table -/

/-- What stands between the parentheses of a new table. -/
inductive TableItem where
  | column (name : String) (type : List (Token Unit))
  /-- A primary key of the table. -/
  | key (columns : List String)
  deriving DecidableEq

/-- An item of a table; a key may have a name. -/
def readItem? : List (Token Unit) → Option TableItem
  | .symbol (.name n) :: ts => some (.column n ts)
  | .symbol (.word "CONSTRAINT") :: .symbol (.name _) :: .symbol (.word "PRIMARY") ::
      .symbol (.word "KEY") :: .symbol .opening :: ts
  | .symbol (.word "PRIMARY") :: .symbol (.word "KEY") :: .symbol .opening :: ts =>
    (readNames? [.symbol .closing] ts).map .key
  | _ => none

/-- A line break, which is a blank between items. -/
def lineBreak : Token Unit := .symbol (.other '\n')

/-- The tokens without line breaks. -/
def dropLines (ts : List (Token Unit)) : List (Token Unit) := ts.filter fun t => t ≠ lineBreak

theorem dropLines_of_not_mem {ts : List (Token Unit)} (h : lineBreak ∉ ts) : dropLines ts = ts := by
  refine List.filter_eq_self.2 fun t ht => ?_
  have hne : t ≠ lineBreak := fun he => h (he ▸ ht)
  simpa using hne

theorem dropLines_append (ts us : List (Token Unit)) :
    dropLines (ts ++ us) = dropLines ts ++ dropLines us := List.filter_append ..

/-- Breaks behind the commas and within the items fall away. -/
theorem dropLines_intercalate {items : List (List (Token Unit))}
    (h : ∀ item ∈ items, lineBreak ∉ item) :
    dropLines (List.intercalate [.symbol .comma, lineBreak] items) =
      List.intercalate [.symbol .comma] items := by
  induction items with
  | nil => rfl
  | cons item items ih =>
    obtain ⟨hitem, hitems⟩ := List.forall_mem_cons.1 h
    cases items with
    | nil => simpa using dropLines_of_not_mem hitem
    | cons item' items =>
      rw [List.intercalate_cons_cons, List.intercalate_cons_cons, dropLines_append,
        dropLines_append, dropLines_of_not_mem hitem, ih hitems]
      rfl

/-- The name and the items of a table that tokens create. -/
def readTableTokens? : List (Token Unit) → Option (String × List TableItem)
  | .symbol (.word "CREATE") :: .symbol (.word "TABLE") :: .symbol (.name table) ::
      .symbol .opening :: ts => do
    let (items, _) ← readItems? 0 ts
    return (table, ← items.mapM readItem?)
  | _ => none

/-- The name and the items of a table that a statement creates. -/
def readTable? (d : Dialect) (s : String) : Option (String × List TableItem) :=
  readTableTokens? (dropLines (lex d.delimiters s))

/-- The words by which a type declares an identity. -/
def identityWords : Dialect → List String
  | .mysql => ["AUTO_INCREMENT"]
  | .sqlServer | .oracle => ["IDENTITY"]
  | .postgres => ["SMALLSERIAL", "SERIAL", "BIGSERIAL", "IDENTITY"]
  | .sqlite => ["AUTOINCREMENT"]

/-- Whether a type declares an identity. -/
def declaresIdentity (d : Dialect) (type : List (Token Unit)) : Bool :=
  type.any fun t => (identityWords d).any fun w => t = .symbol (.word w)

/-- Whether a type declares the primary key. -/
def declaresKey : List (Token Unit) → Bool
  | .symbol (.word "PRIMARY") :: .symbol (.word "KEY") :: _ => true
  | _ :: ts => declaresKey ts
  | [] => false

namespace TableItem

/-- The column that is an identity. -/
def identity? (d : Dialect) : TableItem → Option String
  | .column name type => if declaresIdentity d type then some name else none
  | .key _ => none

/-- The columns of the primary key that is declared, with a column or by itself. -/
def key? : TableItem → Option (List String)
  | .column name type => if declaresKey type then some [name] else none
  | .key columns => some columns

def column? : TableItem → Option String
  | .column name _ => some name
  | .key _ => none

end TableItem

/-! ## The text of a type -/

/-- The text of a type: one item, which declares what it is said to. -/
structure TypeText (d : Dialect) (s : String) (isIdentity isKey : Bool) : Prop where
  closed : ¬ (Scan.between.after d.delimiters s.toList).IsOpen
  isItem : IsItem (lex d.delimiters s)
  oneLine : lineBreak ∉ lex d.delimiters s
  identity : declaresIdentity d (lex d.delimiters s) = isIdentity
  key : declaresKey (lex d.delimiters s) = isKey

instance (d : Dialect) (s : String) (isIdentity isKey : Bool) :
    Decidable (TypeText d s isIdentity isKey) :=
  decidable_of_iff
    (¬ (Scan.between.after d.delimiters s.toList).IsOpen ∧ IsItem (lex d.delimiters s) ∧
      lineBreak ∉ lex d.delimiters s ∧
      declaresIdentity d (lex d.delimiters s) = isIdentity ∧
      declaresKey (lex d.delimiters s) = isKey)
    ⟨fun ⟨h1, h2, h3, h4, h5⟩ => ⟨h1, h2, h3, h4, h5⟩, fun ⟨h1, h2, h3, h4, h5⟩ =>
      ⟨h1, h2, h3, h4, h5⟩⟩

variable {d : Dialect}

theorem typeText_identity (d : Dialect) :
    TypeText d (d.identityType false) true d.identityIsKey := by
  cases d <;> decide +kernel

/-- A bounded text is a word of its own and a number in parentheses. -/
theorem phrase_bounded (d : Dialect) (n : Nat) :
    ∃ w, Phrase d (d.varcharName ++ "(" ++ toString n ++ ")")
      [.symbol (.word w), .symbol .opening, .symbol (.number n), .symbol .closing] ∧
      ∀ w' ∈ identityWords d, w ≠ w' := by
  obtain ⟨w, hw, hname⟩ : ∃ w, Leaves d (d.varcharName ++ "(")
      [.symbol (.word w), .symbol .opening] ∧
      ∀ w' ∈ identityWords d, w ≠ w' := by
    cases d with
    | mysql | sqlite => exact ⟨"VARCHAR", by decide, by decide⟩
    | sqlServer => exact ⟨"NVARCHAR", by decide, by decide⟩
    | postgres => exact ⟨"VARCHAR", by decide, by decide⟩
    | oracle => exact ⟨"NVARCHAR2", by decide, by decide⟩
  have htext := hw.append ((Phrase.number d n).append (.closing d) (by decide))
  rw [← String.append_assoc] at htext
  exact ⟨w, htext, hname⟩

theorem typeText_bounded (d : Dialect) (n : Nat) :
    TypeText d (d.varcharName ++ "(" ++ toString n ++ ")") false false := by
  obtain ⟨w, htext, hname⟩ := phrase_bounded d n
  have htokens := htext.tokens
  refine ⟨htext.closed, ?_, ?_, ?_, ?_⟩
  · rw [htokens]
    rfl
  · rw [htokens]
    simp [lineBreak]
  · rw [htokens]
    simpa [declaresIdentity] using hname
  · rw [htokens]
    simp [declaresKey]

theorem typeText_native (d : Dialect) (c : Column) : TypeText d (d.nativeType c) false false := by
  cases ht : c.type with
  | varchar =>
    have hunbounded : TypeText d d.textType false false := by cases d <;> decide +kernel
    simp only [Dialect.nativeType, ht, Dialect.varcharType]
    split
    · split
      · exact hunbounded
      · exact typeText_bounded d _
    · exact typeText_bounded d _
  | text | integer | boolean | datetime | decimal =>
    simp only [Dialect.nativeType, ht]
    cases d <;> decide +kernel

/-! ## The tokens of names -/

theorem nameToken_of_mem {names : List String} {t : Token Unit} (h : t ∈ nameTokens names) :
    t = .symbol .comma ∨ ∃ n, t = .symbol (.name n) := by
  induction names with
  | nil => simp [nameTokens] at h
  | cons n names ih =>
    cases names with
    | nil =>
      have ht : t = .symbol (.name n) := by simpa [nameTokens] using h
      exact .inr ⟨n, ht⟩
    | cons m names =>
      simp only [nameTokens, List.map_cons, List.intercalate_cons_cons, List.mem_append,
        List.mem_singleton] at h ih
      rcases h with (rfl | rfl) | h
      · exact .inr ⟨n, rfl⟩
      · exact .inl rfl
      · exact ih h

theorem nesting?_append {n : Nat} {ts : List (Token Unit)}
    (h : ∀ t ∈ ts, t ≠ .symbol .opening ∧ t ≠ .symbol .closing) (rest : List (Token Unit)) :
    nesting? (n + 1) (ts ++ rest) = nesting? (n + 1) rest := by
  induction ts with
  | nil => rfl
  | cons t ts ih =>
    obtain ⟨⟨hopening, hclosing⟩, hts⟩ := List.forall_mem_cons.1 h
    rw [List.cons_append, nesting?, ih hts]
    all_goals simp_all

theorem lineBreak_not_mem_nameTokens (names : List String) : lineBreak ∉ nameTokens names := by
  intro h
  rcases nameToken_of_mem h with h | ⟨n, h⟩ <;> cases h

theorem nesting?_nameTokens (names : List String) (rest : List (Token Unit)) :
    nesting? 1 (nameTokens names ++ rest) = nesting? 1 rest := by
  refine nesting?_append (fun t ht => ?_) rest
  rcases nameToken_of_mem ht with rfl | ⟨n, rfl⟩ <;> simp

end Sql

namespace Schema

open Sql

variable {d : Dialect} {table : String} {cs : List Column}

/-! ## The items of a new table -/

/-- The text of the type of a column, in a new table or added to one. -/
def typeText (d : Dialect) (c : Column) (added : Bool) : String :=
  if c.isIdentity then d.identityType added else d.nativeType c

/-- A column as an item of a table. -/
def columnItem (d : Dialect) (c : Column) : TableItem :=
  .column c.name (lex d.delimiters (typeText d c false))

/-- The columns of a key that is an item of its own. -/
def keyItem? (d : Dialect) (cs : List Column) : Option (List String) :=
  if (keyColumns cs).isEmpty || hasInlineKey d cs then none else some (keyColumns cs)

/-- The items of a table. -/
def tableItems (d : Dialect) (cs : List Column) : List TableItem :=
  cs.map (columnItem d) ++ ((keyItem? d cs).map TableItem.key).toList

/-- The tokens of an item. -/
def itemTokens (d : Dialect) (table : String) : TableItem → List (Token Unit)
  | .column name type => .symbol (.name name) :: type
  | .key columns =>
    (if d = .mysql ∨ d = .sqlite then []
      else [.symbol (.word "CONSTRAINT"), .symbol (.name ("PK_" ++ table))]) ++
      (.symbol (.word "PRIMARY") :: .symbol (.word "KEY") :: .symbol .opening ::
        (nameTokens columns ++ [.symbol .closing]))

theorem typeText_spec (d : Dialect) (c : Column) :
    TypeText d (typeText d c false) c.isIdentity (c.isIdentity && d.identityIsKey) := by
  unfold typeText
  cases c.isIdentity with
  | true => exact typeText_identity d
  | false => exact typeText_native d c

theorem phrase_columnDefinition (d : Dialect) (c : Column) (added : Bool) :
    Phrase d (columnDefinition d c added)
      (.symbol (.name c.name) :: lex d.delimiters (typeText d c added)) := by
  have hidentity : ¬ (Scan.between.after d.delimiters (d.identityType added).toList).IsOpen := by
    cases d <;> cases added <;> decide +kernel
  have htype : Phrase d (typeText d c added) (lex d.delimiters (typeText d c added)) := by
    refine ⟨rfl, ?_⟩
    unfold typeText
    cases c.isIdentity with
    | true => exact hidentity
    | false => exact (typeText_native d c).closed
  exact ((Phrase.quote d c.name).append_leaves (.blank d) (by decide)).append htype

theorem phrase_primaryKeyClause (d : Dialect) (table : String) (columns : List String) :
    Phrase d (d.primaryKeyClause table columns) (itemTokens d table (.key columns)) := by
  have hkey : Leaves d "PRIMARY KEY (" [.symbol (.word "PRIMARY"), .symbol (.word "KEY"),
      .symbol .opening] := by
    cases d <;> decide
  have hclause := hkey.append ((Phrase.quoteAll d columns).append (.closing d) (by decide))
  rw [← String.append_assoc] at hclause
  have hconstraint : Leaves d "CONSTRAINT " [.symbol (.word "CONSTRAINT")] := by
    cases d <;> decide
  have hnamed := ((hconstraint.append (.quote d ("PK_" ++ table))).append_leaves (.blank d)
    (by decide)).append hclause
  cases d with
  | mysql | sqlite => exact hclause
  | sqlServer | postgres | oracle => exact hnamed

theorem mem_tableItems {item : TableItem} :
    item ∈ tableItems d cs ↔
      (∃ c ∈ cs, columnItem d c = item) ∨ ∃ columns, keyItem? d cs = some columns ∧
        .key columns = item := by
  rw [tableItems, List.mem_append, List.mem_map, Option.mem_toList, Option.map_eq_some_iff]

/-- A key of a table has columns. -/
theorem ne_nil_of_keyItem? {columns : List String} (h : keyItem? d cs = some columns) :
    columns ≠ [] := by
  unfold keyItem? at h
  split at h
  · cases h
  · rename_i hsome
    obtain rfl := Option.some.inj h
    intro hnil
    simp [hnil] at hsome

/-- The tokens of an item are one item, on one line, and are read as it. -/
theorem itemTokens_spec {item : TableItem} (h : item ∈ tableItems d cs) :
    IsItem (itemTokens d table item) ∧ lineBreak ∉ itemTokens d table item ∧
      readItem? (itemTokens d table item) = some item := by
  rcases mem_tableItems.1 h with ⟨c, -, rfl⟩ | ⟨columns, hkey, rfl⟩
  · have htype := typeText_spec d c
    refine ⟨htype.isItem, ?_, rfl⟩
    rw [columnItem, itemTokens, List.mem_cons, not_or]
    exact ⟨by simp [lineBreak], htype.oneLine⟩
  · have hread : readNames? [.symbol .closing] (nameTokens columns ++ [.symbol .closing]) =
        some columns := readNames?_names (ne_nil_of_keyItem? hkey) (by simp)
    have hitem := nesting?_nameTokens columns [.symbol .closing]
    have hbreak := lineBreak_not_mem_nameTokens columns
    rw [lineBreak] at hbreak
    cases d with
    | mysql | sqlite | sqlServer | postgres | oracle =>
      refine ⟨hitem, ?_, ?_⟩
      · simp [itemTokens, lineBreak, hbreak]
      · simp [itemTokens, readItem?, hread]

theorem keyClause?_eq (d : Dialect) (table : String) (cs : List Column) :
    keyClause? d table cs = (keyItem? d cs).map (d.primaryKeyClause table) := by
  unfold keyClause? keyItem?
  dsimp only
  split
  · rfl
  · rfl

theorem phrases_items (d : Dialect) (table : String) (cs : List Column) :
    List.Forall₂ (Phrase d)
      (cs.map (columnDefinition d · false) ++ (keyClause? d table cs).toList)
      ((tableItems d cs).map (itemTokens d table)) := by
  rw [tableItems, keyClause?_eq, List.map_append, List.map_map]
  refine List.rel_append ?_ ?_
  · rw [List.forall₂_map_left_iff, List.forall₂_map_right_iff, List.forall₂_same]
    exact fun c _ => phrase_columnDefinition d c false
  · cases keyItem? d cs with
    | none => exact .nil
    | some columns => exact .cons (phrase_primaryKeyClause d table columns) .nil

theorem phrase_createText (d : Dialect) (table : String) (cs : List Column) :
    Phrase d (createText d table cs)
      (.symbol (.word "CREATE") :: .symbol (.word "TABLE") :: .symbol (.name table) ::
        .symbol .opening :: lineBreak ::
          (List.intercalate [.symbol .comma, lineBreak] ((tableItems d cs).map (itemTokens d table)) ++
            lineBreak :: .symbol .closing :: lex d.delimiters d.tableOptions)) := by
  have hcreate : Leaves d "CREATE TABLE " [.symbol (.word "CREATE"), .symbol (.word "TABLE")] := by
    cases d <;> decide
  have hopen : Leaves d " (\n    " [.symbol .opening, lineBreak] := by
    cases d <;> decide
  have hcomma : Leaves d ",\n    " [.symbol .comma, lineBreak] := by
    cases d <;> decide
  have hend : Phrase d ("\n)" ++ d.tableOptions)
      ([lineBreak, .symbol .closing] ++ lex d.delimiters d.tableOptions) := by
    cases d <;> exact ⟨by decide +kernel, by decide +kernel⟩
  have hitems := Phrase.intercalate hcomma (by decide) (phrases_items d table cs)
  have htext := (((hcreate.append (.quote d table)).append_leaves hopen (by decide)).append
    hitems).append hend ((by decide : Parts "\n)").append _)
  rw [← String.append_assoc] at htext
  simp only [List.cons_append, List.nil_append] at htext
  exact htext

/-- The text of a new table is read as its name and its items. -/
theorem readTable?_createText (hne : cs ≠ []) :
    readTable? d (createText d table cs) = some (table, tableItems d cs) := by
  have hspec : ∀ item ∈ (tableItems d cs).map (itemTokens d table),
      IsItem item ∧ lineBreak ∉ item := by
    intro tokens htokens
    obtain ⟨item, hitem, rfl⟩ := List.mem_map.1 htokens
    exact ⟨(itemTokens_spec hitem).1, (itemTokens_spec hitem).2.1⟩
  have hsome : (tableItems d cs).map (itemTokens d table) ≠ [] := by
    simpa [tableItems] using fun h => absurd h hne
  have hlines : dropLines (lex d.delimiters (createText d table cs)) =
      .symbol (.word "CREATE") :: .symbol (.word "TABLE") :: .symbol (.name table) ::
        .symbol .opening ::
          (List.intercalate [.symbol .comma] ((tableItems d cs).map (itemTokens d table)) ++
            .symbol .closing :: dropLines (lex d.delimiters d.tableOptions)) := by
    have hintercalate := dropLines_intercalate fun item hitem => (hspec item hitem).2
    have hcut (ts : List (Token Unit)) : dropLines (lineBreak :: ts) = dropLines ts := rfl
    rw [(phrase_createText d table cs).tokens]
    show .symbol (.word "CREATE") :: .symbol (.word "TABLE") :: .symbol (.name table) ::
      .symbol .opening :: dropLines (_ ++ lineBreak :: .symbol .closing :: _) = _
    rw [dropLines_append, hintercalate, hcut]
    rfl
  have hread := readItems?_intercalate hsome (fun item hitem => (hspec item hitem).1)
    (dropLines (lex d.delimiters d.tableOptions))
  have hmap : ((tableItems d cs).map (itemTokens d table)).mapM readItem? =
      some (tableItems d cs) := by
    refine mapM_eq_some ?_
    rw [List.forall₂_map_left_iff, List.forall₂_same]
    exact fun item hitem => (itemTokens_spec hitem).2.2
  rw [readTable?, hlines]
  simp only [readTableTokens?, hread, hmap, Option.bind_eq_bind, Option.bind_some]
  rfl

/-! ## Identities and keys -/

/-- The columns that a table declares as identities. -/
def identities (d : Dialect) (items : List TableItem) : List String :=
  items.filterMap (TableItem.identity? d)

/-- The primary keys that a table declares, each by its columns. -/
def keys (items : List TableItem) : List (List String) := items.filterMap TableItem.key?

/-- The columns that are identities. -/
def identityColumns (cs : List Column) : List Column := cs.filter (·.isIdentity)

/-- The columns that are flagged as a key. -/
def flaggedColumns (cs : List Column) : List Column := cs.filter (·.isPrimaryKey)

/-- What is taken of the items is taken of the columns, and of the key clause. -/
theorem filterMap_tableItems {α : Type} (f : TableItem → Option α) (d : Dialect)
    (cs : List Column) :
    (tableItems d cs).filterMap f =
      cs.filterMap (f ∘ columnItem d) ++
        ((keyItem? d cs).bind fun columns => f (.key columns)).toList := by
  rw [tableItems, List.filterMap_append, List.filterMap_map]
  cases keyItem? d cs with
  | none => rfl
  | some columns => cases hf : f (.key columns) <;> simp [hf]

theorem columns_tableItems (d : Dialect) (cs : List Column) :
    (tableItems d cs).filterMap TableItem.column? = cs.map (·.name) := by
  rw [filterMap_tableItems]
  simp only [TableItem.column?, Option.bind_fun_none, Option.toList_none, List.append_nil]
  exact congrFun List.filterMap_eq_map cs

/-- An identity is declared by every column that is one. -/
theorem identities_tableItems (d : Dialect) (cs : List Column) :
    identities d (tableItems d cs) = (identityColumns cs).map (·.name) := by
  have hcolumn : TableItem.identity? d ∘ columnItem d =
      fun c => if c.isIdentity then some c.name else none := by
    funext c
    simp only [Function.comp_apply, columnItem, TableItem.identity?, (typeText_spec d c).identity]
  rw [identities, filterMap_tableItems, hcolumn]
  simp only [TableItem.identity?, Option.bind_fun_none, Option.toList_none, List.append_nil]
  exact List.filterMap_filter.symm.trans (congrFun List.filterMap_eq_map _)

/-- A key is declared by every identity, where its type does so, and by the clause. -/
theorem keys_tableItems (d : Dialect) (cs : List Column) :
    keys (tableItems d cs) =
      (if d.identityIsKey then (identityColumns cs).map fun c => [c.name] else []) ++
        (keyItem? d cs).toList := by
  have hcolumn : TableItem.key? ∘ columnItem d = fun c =>
      if c.isIdentity then (if d.identityIsKey then some [c.name] else none) else none := by
    funext c
    simp only [Function.comp_apply, columnItem, TableItem.key?, (typeText_spec d c).key]
    cases c.isIdentity <;> rfl
  have hinline : cs.filterMap (TableItem.key? ∘ columnItem d) =
      if d.identityIsKey then (identityColumns cs).map fun c => [c.name] else [] := by
    rw [hcolumn]
    refine List.filterMap_filter.symm.trans ?_
    cases d.identityIsKey with
    | true => exact congrFun List.filterMap_eq_map _
    | false => exact List.filterMap_eq_nil_iff.2 fun _ _ => rfl
  have hclause : ((keyItem? d cs).bind fun columns => (TableItem.key columns).key?) =
      keyItem? d cs := Option.bind_fun_some _
  rw [keys, filterMap_tableItems, hinline, hclause]

/-- Without an identity the key is of all columns that are flagged. -/
theorem keys_of_identityColumns_nil (h : identityColumns cs = []) :
    keys (tableItems d cs) =
      if flaggedColumns cs = [] then [] else [(flaggedColumns cs).map (·.name)] := by
  have hnone : Column.identity? cs = none := by
    rw [Column.identity?, ← List.head?_filter]
    exact congrArg List.head? h
  have hnames : keyColumns cs = (flaggedColumns cs).map (·.name) := by rw [keyColumns, hnone]; rfl
  have hinline : hasInlineKey d cs = false := by rw [hasInlineKey, hnone]; rfl
  rw [keys_tableItems, h, keyItem?, hnames, hinline, Bool.or_false]
  cases flaggedColumns cs <;> simp

/-- With identities the first is the key, or each of them by its type. -/
theorem keys_of_identityColumns_cons {c : Column} {rest : List Column}
    (h : identityColumns cs = c :: rest) :
    keys (tableItems d cs) =
      if d.identityIsKey then (c :: rest).map fun c => [c.name] else [[c.name]] := by
  have hsome : Column.identity? cs = some c := by
    rw [Column.identity?, ← List.head?_filter]
    exact congrArg List.head? h
  have hnames : keyColumns cs = [c.name] := by rw [keyColumns, hsome]
  have hinline : hasInlineKey d cs = d.identityIsKey := by rw [hasInlineKey, hsome]; rfl
  rw [keys_tableItems, h, keyItem?, hnames, hinline]
  cases d.identityIsKey <;> simp

/-- Columns in their fixed shapes declare at most one identity, which is the key if it is there;
without one the flagged columns are, if there are any. -/
structure DeclaresOneKey (d : Dialect) (cs : List Column) (items : List TableItem) : Prop where
  identity : (identities d items).length ≤ 1
  keyOfIdentity : ∀ c ∈ cs, c.isIdentity → keys items = [[c.name]]
  keyOfFlags : (∀ c ∈ cs, ¬ c.isIdentity) → keys items =
    if flaggedColumns cs = [] then [] else [(flaggedColumns cs).map (·.name)]

theorem declaresOneKey_iff (d : Dialect) (cs : List Column) :
    DeclaresOneKey d cs (tableItems d cs) ↔ (identityColumns cs).length ≤ 1 := by
  have hlength : (identities d (tableItems d cs)).length = (identityColumns cs).length := by
    rw [identities_tableItems, List.length_map]
  refine ⟨fun h => hlength ▸ h.identity, fun h => ⟨hlength ▸ h, fun c hc hidentity => ?_,
    fun hnone => keys_of_identityColumns_nil (List.filter_eq_nil_iff.2 hnone)⟩⟩
  -- the only identity is the column itself
  have hmem : c ∈ identityColumns cs := List.mem_filter.2 ⟨hc, hidentity⟩
  have hone : identityColumns cs = [c] := by
    obtain ⟨c', hc'⟩ := List.length_eq_one_iff.1
      (Nat.le_antisymm h (List.length_pos_of_mem hmem))
    rw [hc', List.mem_singleton] at hmem
    rw [hc', hmem]
  rw [keys_of_identityColumns_cons hone]
  cases d.identityIsKey <;> rfl

theorem length_keys_le_one_iff (d : Dialect) (cs : List Column) :
    (keys (tableItems d cs)).length ≤ 1 ↔
      (d.identityIsKey = true → (identityColumns cs).length ≤ 1) := by
  cases h : identityColumns cs with
  | nil =>
    rw [keys_of_identityColumns_nil h]
    split_ifs <;> simp
  | cons c rest =>
    rw [keys_of_identityColumns_cons h]
    cases d.identityIsKey <;> simp

/-! ## The columns in their fixed shapes -/

/-- A column becomes an identity by its flag or its name. -/
def becomesIdentity (c : Column) : Bool := c.isIdentity || c.isNamed Column.idName

theorem normalized_isIdentity (c : Column) : c.normalized.isIdentity = becomesIdentity c := by
  unfold Column.normalized Column.reserved becomesIdentity
  split_ifs with hid <;> simp [hid]

theorem identityColumns_normalized (cs : List Column) :
    identityColumns (cs.map Column.normalized) =
      (cs.filter becomesIdentity).map Column.normalized := by
  have hflag : (fun c : Column => c.isIdentity) ∘ Column.normalized = becomesIdentity :=
    funext normalized_isIdentity
  rw [identityColumns, List.filter_map, hflag]

theorem map_name_normalized (cs : List Column) :
    (cs.map Column.normalized).map (·.name) = cs.map (·.name) := by
  rw [List.map_map]
  exact List.map_congr_left fun c _ => c.normalized_name

/-- The text of a new table declares its columns, and among them every identity. It declares one
identity and one key, as it should, exactly if at most one column is flagged as an identity or named
`Id`. With more of them there is more than one key where an identity declares one by its type. -/
theorem declares_one_key_iff {text : String} (h : createTable d table cs = .ok text) :
    ∃ items, readTable? d text = some (table, items) ∧
      items.filterMap TableItem.column? = cs.map (·.name) ∧
      identities d items = (cs.filter becomesIdentity).map (·.name) ∧
      (DeclaresOneKey d (cs.map Column.normalized) items ↔
        (cs.filter becomesIdentity).length ≤ 1) ∧
      ((keys items).length ≤ 1 ↔
        (d.identityIsKey = true → (cs.filter becomesIdentity).length ≤ 1)) := by
  obtain ⟨-, hne, -, rfl⟩ := createTable_eq_ok_iff.1 h
  have hlength : (identityColumns (cs.map Column.normalized)).length =
      (cs.filter becomesIdentity).length := by
    rw [identityColumns_normalized, List.length_map]
  refine ⟨tableItems d (cs.map Column.normalized),
    readTable?_createText (by simpa using hne), ?_, ?_, ?_, ?_⟩
  · rw [columns_tableItems, map_name_normalized]
  · rw [identities_tableItems, identityColumns_normalized, map_name_normalized]
  · rw [declaresOneKey_iff, hlength]
  · rw [length_keys_le_one_iff, hlength]

/-- The columns of a table of posts. -/
private def postColumns : List Column := [.identityColumn, .plain "Title" .varchar]

theorem declares_one_key_iff_posts :
    ∃ text, createTable .sqlite "Posts" postColumns = .ok text ∧
      ∃ items, readTable? .sqlite text = some ("Posts", items) ∧
        items.filterMap TableItem.column? = ["Id", "Title"] ∧
        identities .sqlite items = ["Id"] ∧
        (DeclaresOneKey .sqlite (postColumns.map Column.normalized) items ↔
          (postColumns.filter becomesIdentity).length ≤ 1) ∧
        ((keys items).length ≤ 1 ↔
          (Dialect.sqlite.identityIsKey = true →
            (postColumns.filter becomesIdentity).length ≤ 1)) := by
  have h : createTable .sqlite "Posts" postColumns = .ok _ := rfl
  exact ⟨_, h, declares_one_key_iff h⟩

/-- A column named `Id` beside one that is flagged as an identity. -/
private def twoIdentities : List Column :=
  [.plain "Id" .integer, ⟨"Seq", .integer, 0, false, true, false⟩]

/-- Both columns become identities, and SQLite is told that each of them is the key. -/
theorem declares_two_keys :
    Identifier.Valid "t" ∧ (∀ c ∈ twoIdentities, Identifier.Valid c.name) ∧
      twoIdentities.Pairwise (fun a b => Text.sameName a.name b.name = false) ∧
      ∃ text items, createTable .sqlite "t" twoIdentities = .ok text ∧
        text = "CREATE TABLE \"t\" (\n    \"Id\" INTEGER PRIMARY KEY AUTOINCREMENT,\n" ++
          "    \"Seq\" INTEGER PRIMARY KEY AUTOINCREMENT\n)" ∧
        readTable? .sqlite text = some ("t", items) ∧
        identities .sqlite items = ["Id", "Seq"] ∧ keys items = [["Id"], ["Seq"]] := by
  refine ⟨by decide, by decide, by decide, _, tableItems .sqlite _, rfl, ?_,
    readTable?_createText (by decide), ?_, ?_⟩
  all_goals decide +kernel

end Schema

end Polydialect
