import Polydialect.Proofs.Casing
import Polydialect.Proofs.Declaring
import Polydialect.Proofs.Running
import Polydialect.Schema.Probe

/-!
# Tables counted in a catalog

Two of the probes for a table count the entries of a catalog that pass some tests. The tests are
read from the statement (`Schema.readCount?`): each compares what the catalog says of an entry,
perhaps in one case, with a text of the statement or with a value that is bound to it. A catalog
keeps the name of a table as it was quoted when the table was created.

* `Schema.readCount?_statement`: the tests of the probes, for each engine;
* `Schema.run_counted`: a probe finds a table missing exactly if the count is zero;
* `Schema.probe_counts_created_iff`: a probe never overlooks a table that was created, but for
  PostgreSQL's own catalog, in which a name with capitals is looked up in small letters
  (`Schema.probe_misses_capitals`).
-/

namespace Polydialect.Schema

open Sql

/-! ## Statements that count -/

/-- A table in a catalog. -/
structure Entry where
  name : String
  owner : String

/-- What a catalog says of an entry. -/
inductive Field where
  | name
  | owner
  | kind
  deriving DecidableEq, Repr

/-- What the catalogs call their columns, in capitals. -/
def field? : String → Option Field
  | "TABLE_NAME" | "TABLENAME" | "OBJECT_NAME" | "NAME" => some .name
  | "OWNER" => some .owner
  | "OBJECT_TYPE" | "TYPE" => some .kind
  | _ => none

/-- What is said of a table; the word for its kind is in capitals. -/
def Entry.value (e : Entry) : Field → String
  | .name => e.name
  | .owner => e.owner
  | .kind => "TABLE"

/-- The case in which a column is compared. -/
inductive Fold where
  | exact
  | lower
  | upper
  deriving DecidableEq, Repr

/-- The case that a function gives. -/
def fold? : String → Option Fold
  | "LOWER" => some .lower
  | "UPPER" => some .upper
  | _ => none

def Fold.apply : Fold → String → String
  | .exact => id
  | .lower => Text.lower
  | .upper => Text.upper

/-- A column in a case has to be equal to an operand. -/
structure Test where
  fold : Fold
  field : Field
  operand : List (Token Unit)
  deriving DecidableEq

/-- Reads a comparison for equality. -/
def readTest? : List (Token Unit) → Option Test
  | .symbol (.word function) :: .symbol .opening :: .symbol (.word column) :: .symbol .closing ::
      .symbol (.operator "=") :: operand => do
    return ⟨← fold? function, ← field? column, operand⟩
  | .symbol (.word column) :: .symbol (.operator "=") :: operand => do
    return ⟨.exact, ← field? column, operand⟩
  | _ => none

/-- Reads a statement that counts the entries of a catalog which pass some tests. -/
def readCount? : List (Token Unit) → Option (List Test)
  | .symbol (.word "SELECT") :: .symbol (.word "COUNT") :: .symbol .opening ::
      .symbol (.other '*') :: .symbol .closing :: .symbol (.word "FROM") :: ts =>
    match ts.dropWhile (· ≠ .symbol (.word "WHERE")) with
    | [] => some []
    | _ :: tests => (tests.splitOn (.symbol (.word "AND"))).mapM readTest?
  | _ => none

/-- The word in a text between single quotes. -/
def literal? : List (Token Unit) → Option String
  | [.symbol (.other '\''), .symbol (.word w), .symbol (.other '\'')] => some w
  | _ => none

/-- What an operand stands for: the word that it spells, or the text that is bound to its
placeholder. -/
def operandText? (d : Dialect) (st : Statement) (operand : List (Token Unit)) : Option String :=
  match literal? operand with
  | some w => some w
  | none => (st.bindings.find? fun b => lex d.delimiters b.1 == operand).bind (·.2.text?)

/-- Whether an entry passes a test. -/
def Test.holds (d : Dialect) (st : Statement) (e : Entry) (t : Test) : Bool :=
  operandText? d st t.operand == some (t.fold.apply (e.value t.field))

/-- What a statement counts in a catalog. -/
def count? (d : Dialect) (st : Statement) (catalog : List Entry) : Option Nat :=
  (readCount? (lex d.delimiters st.sql)).map fun tests =>
    catalog.countP fun e => tests.all (·.holds d st e)

/-- The answer of an engine to a statement that counts. -/
def counted (n : Nat) : Reply := .answer 0 [⟨["count"], [.int (.ofNat n)]⟩]

/-! ## The tests of the probes -/

/-- A placeholder as an operand. -/
def bound (d : Dialect) (k : Nat) : List (Token Unit) := lex d.delimiters (d.placeholder k)

/-- The word for tables as an operand. -/
def tableWord : List (Token Unit) :=
  [.symbol (.other '\''), .symbol (.word "TABLE"), .symbol (.other '\'')]

/-- The tests of the probes that count. -/
def probeTests (d : Dialect) : Probe → List Test
  | .catalog =>
    if d = .oracle then
      [⟨.exact, .kind, tableWord⟩, ⟨.exact, .owner, bound d 1⟩, ⟨.upper, .name, bound d 2⟩]
    else [⟨.lower, .name, bound d 1⟩]
  | .ownCatalog =>
    match d with
    | .oracle => [⟨.upper, .name, bound d 1⟩]
    | .sqlite => [⟨.exact, .kind, tableWord⟩, ⟨.exact, .name, bound d 1⟩]
    | _ => [⟨.exact, .name, bound d 1⟩]
  | .rawSelect => []

/-- The engines whose catalogs keep a name as it was quoted. -/
def KeepsNames (d : Dialect) : Prop := d = .postgres ∨ d = .oracle ∨ d = .sqlite

variable {d : Dialect} {p : Probe} {owner table : String} {e : Entry}

/-- The text is the same for all names, which are bound to it. -/
theorem sql_statement (hp : p ≠ .rawSelect) (d : Dialect) (owner table : String) :
    (p.statement d owner table).sql = (p.statement d "" "").sql := by
  refine congrArg (Marker.nameAll d.backslashEscapes d.placeholder) ?_
  cases p with
  | rawSelect => exact absurd rfl hp
  | catalog | ownCatalog => cases d <;> rfl

theorem readCount?_statement (hd : KeepsNames d) (hp : p ≠ .rawSelect) (owner table : String) :
    readCount? (lex d.delimiters (p.statement d owner table).sql) = some (probeTests d p) := by
  -- what is read are the characters of the text with its placeholders, not their encoding
  have hlex : lex d.delimiters (p.statement d "" "").sql =
      Scan.between.tokens d.delimiters (Marker.nameFrom d.backslashEscapes d.placeholder .outside 0
        (p.fragment d "" "").text.toList) := congrArg _ String.toList_ofList
  rw [sql_statement hp, hlex]
  rcases hd with rfl | rfl | rfl <;> cases p <;> first | decide +kernel | exact absurd rfl hp

/-- A value that is bound first is what its placeholder stands for. -/
theorem operandText?_first {st : Statement} {v : String} {rest : List (String × Value)}
    (h : st.bindings = (d.placeholder 1, .text v) :: rest) :
    operandText? d st (bound d 1) = some v := by
  have hword : literal? (bound d 1) = none := by cases d <;> rfl
  have hself : (lex d.delimiters (d.placeholder 1) == bound d 1) = true := beq_self_eq_true _
  simp only [operandText?, hword, h, List.find?_cons, hself]
  rfl

theorem operandText?_second {st : Statement} {v w : String}
    (h : st.bindings = [(d.placeholder 1, .text v), (d.placeholder 2, .text w)]) :
    operandText? d st (bound d 2) = some w := by
  have hword : literal? (bound d 2) = none := by cases d <;> rfl
  have hne : (lex d.delimiters (d.placeholder 1) == bound d 2) = false := by cases d <;> rfl
  have hself : (lex d.delimiters (d.placeholder 2) == bound d 2) = true := beq_self_eq_true _
  simp only [operandText?, hword, h, List.find?_cons, hne, hself]
  rfl

/-! ## What passes the tests -/

/-- The name of a table is found, unless PostgreSQL's own catalog is asked for one with capitals. -/
def FindsName (d : Dialect) (p : Probe) (table : String) : Prop :=
  d = .postgres → p = .ownCatalog → Text.lower table = table

/-- The owner of a table is found. Only Oracle's catalog of objects is asked for one. -/
def FindsOwner (d : Dialect) (p : Probe) (owner : String) (e : Entry) : Prop :=
  d = .oracle → p = .catalog → e.owner = Text.upper owner

theorem holds_iff_of_operand {st : Statement} {t : Test} {v : String}
    (h : operandText? d st t.operand = some v) :
    t.holds d st e = true ↔ v = t.fold.apply (e.value t.field) := by
  rw [Test.holds, h, beq_iff_eq, Option.some.injEq]

theorem holds_kind {st : Statement} : Test.holds d st e ⟨.exact, .kind, tableWord⟩ = true :=
  (holds_iff_of_operand rfl).2 rfl

/-- The standard catalog is asked for a name in the case that is bound. -/
theorem holds_standard (hd : d = .postgres ∨ d = .sqlite) (he : e.name = table) :
    Test.holds d (Probe.catalog.statement d owner table) e ⟨.lower, .name, bound d 1⟩ = true := by
  rcases hd with rfl | rfl
  · refine (holds_iff_of_operand (operandText?_first rfl)).2 ?_
    show Text.lower (Text.lower table) = Text.lower e.name
    rw [he, Text.lower_lower]
  · refine (holds_iff_of_operand (operandText?_first rfl)).2 ?_
    show Text.lower table = Text.lower e.name
    rw [he]

/-- PostgreSQL's own catalog is asked for a name in small letters, but not in one case. -/
theorem holds_postgres (he : e.name = table) :
    Test.holds .postgres (Probe.ownCatalog.statement .postgres owner table) e
      ⟨.exact, .name, bound .postgres 1⟩ = true ↔ Text.lower table = table := by
  refine (holds_iff_of_operand (operandText?_first rfl)).trans ?_
  show Text.lower table = e.name ↔ _
  rw [he]

theorem holds_oracle (he : e.name = table) :
    Test.holds .oracle (Probe.ownCatalog.statement .oracle owner table) e
      ⟨.upper, .name, bound .oracle 1⟩ = true := by
  refine (holds_iff_of_operand (operandText?_first rfl)).2 ?_
  show Text.upper (Text.upper table) = Text.upper e.name
  rw [he, Text.upper_upper]

theorem holds_objects (he : e.name = table) :
    Test.holds .oracle (Probe.catalog.statement .oracle owner table) e
      ⟨.upper, .name, bound .oracle 2⟩ = true := by
  refine (holds_iff_of_operand (operandText?_second rfl)).2 ?_
  show Text.upper (Text.upper table) = Text.upper e.name
  rw [he, Text.upper_upper]

/-- Oracle's objects are asked for an owner in capitals. -/
theorem holds_owner :
    Test.holds .oracle (Probe.catalog.statement .oracle owner table) e
      ⟨.exact, .owner, bound .oracle 1⟩ = true ↔ e.owner = Text.upper owner := by
  refine (holds_iff_of_operand (operandText?_first rfl)).trans ?_
  show Text.upper owner = e.owner ↔ _
  exact eq_comm

theorem holds_sqlite (he : e.name = table) :
    Test.holds .sqlite (Probe.ownCatalog.statement .sqlite owner table) e
      ⟨.exact, .name, bound .sqlite 1⟩ = true := by
  refine (holds_iff_of_operand (operandText?_first rfl)).2 ?_
  show table = e.name
  exact he.symm

/-- What a test of a probe says of the entry for a table. -/
theorem holds_iff (hd : KeepsNames d) (hp : p ≠ .rawSelect) (he : e.name = table) {t : Test}
    (ht : t ∈ probeTests d p) :
    t.holds d (p.statement d owner table) e = true ↔
      (t.field = .name → FindsName d p table) ∧ (t.field = .owner → FindsOwner d p owner e) := by
  cases p with
  | rawSelect => exact absurd rfl hp
  | catalog =>
    have hname : FindsName d .catalog table := fun _ h => by cases h
    by_cases ho : d = .oracle
    · subst ho
      simp only [probeTests, if_pos, List.mem_cons, List.not_mem_nil, or_false] at ht
      rcases ht with rfl | rfl | rfl
      · exact iff_of_true holds_kind ⟨by simp, by simp⟩
      · simp [holds_owner, FindsOwner]
      · exact iff_of_true (holds_objects he) ⟨fun _ => hname, by simp⟩
    · have hstandard : d = .postgres ∨ d = .sqlite := by
        rcases hd with hd | hd | hd
        · exact .inl hd
        · exact absurd hd ho
        · exact .inr hd
      rw [probeTests, if_neg ho, List.mem_singleton] at ht
      subst ht
      exact iff_of_true (holds_standard hstandard he) ⟨fun _ => hname, by simp⟩
  | ownCatalog =>
    rcases hd with rfl | rfl | rfl
    · obtain rfl := List.mem_singleton.1 ht
      simp [holds_postgres he, FindsName]
    · obtain rfl := List.mem_singleton.1 ht
      exact iff_of_true (holds_oracle he) ⟨fun _ => nofun, by simp⟩
    · simp only [probeTests, List.mem_cons, List.not_mem_nil, or_false] at ht
      rcases ht with rfl | rfl
      · exact iff_of_true holds_kind ⟨by simp, by simp⟩
      · exact iff_of_true (holds_sqlite he) ⟨fun _ => nofun, by simp⟩

theorem exists_name_test (hp : p ≠ .rawSelect) (d : Dialect) :
    ∃ t ∈ probeTests d p, t.field = .name := by
  cases p with
  | rawSelect => exact absurd rfl hp
  | catalog | ownCatalog => cases d <;> simp [probeTests]

/-- The entry for a table passes all tests if its name and its owner are found. -/
theorem all_holds_iff (hd : KeepsNames d) (hp : p ≠ .rawSelect) (he : e.name = table) :
    (probeTests d p).all (·.holds d (p.statement d owner table) e) = true ↔
      FindsName d p table ∧ FindsOwner d p owner e := by
  rw [List.all_eq_true]
  refine ⟨fun h => ⟨?_, fun ho hcatalog => ?_⟩, fun h t ht => ?_⟩
  · obtain ⟨t, ht, hfield⟩ := exists_name_test hp d
    exact ((holds_iff hd hp he ht).1 (h t ht)).1 hfield
  · subst ho hcatalog
    exact holds_owner.1 (h _ (by simp [probeTests]))
  · exact (holds_iff hd hp he ht).2 ⟨fun _ => h.1, fun _ => h.2⟩

theorem count?_statement (hd : KeepsNames d) (hp : p ≠ .rawSelect) (owner table : String)
    (catalog : List Entry) :
    count? d (p.statement d owner table) catalog =
      some (catalog.countP fun e =>
        (probeTests d p).all (·.holds d (p.statement d owner table) e)) := by
  rw [count?, readCount?_statement hd hp, Option.map_some]

/-- A catalog that holds nothing but the table. -/
theorem count?_singleton (hd : KeepsNames d) (hp : p ≠ .rawSelect) (he : e.name = table) {n : Nat} :
    count? d (p.statement d owner table) [e] = some n ↔
      (n = 1 ∧ FindsName d p table ∧ FindsOwner d p owner e) ∨
        (n = 0 ∧ ¬ (FindsName d p table ∧ FindsOwner d p owner e)) := by
  rw [count?_statement hd hp, List.countP_singleton, Option.some.injEq, ← all_holds_iff hd hp he]
  generalize (probeTests d p).all _ = passes
  cases passes <;> simp [eq_comm]

/-! ## Running a probe -/

theorem result_queryScalar (db : Database) (st : Statement) (s : Session) (n : Nat) :
    Step.result (db.queryScalar st) (s.script [counted n]) = .ok (some (.int (.ofNat n))) := rfl

/-- A table is missing for a probe exactly if the engine counts none. -/
theorem run_counted (db : Database) (hp : p ≠ .rawSelect) (table : String) (s : Session) {n : Nat}
    (hn : n ≤ Number.maxInt64) :
    (p.run db table).result (s.script [counted n]) = if 0 < n then .exists else .missing := by
  have hcount : (0 < Int64.ofNat n) ↔ 0 < n := by
    have hlt : n < 2 ^ 63 := Nat.lt_succ_of_le hn
    rw [Int64.lt_iff_toInt_lt, Int64.toInt_ofNat_of_lt hlt]
    exact Int.natCast_pos
  have hpresence : Probe.ofCount (.ok (some (.int (.ofNat n)))) =
      if 0 < n then .exists else .missing := by
    show (if 0 < Int64.ofNat n then Presence.exists else .missing) = _
    simp only [hcount]
  rw [← hpresence]
  cases p with
  | rawSelect => exact absurd rfl hp
  | catalog =>
    exact congrArg Probe.ofCount
      (result_queryScalar db (Probe.catalog.statement db.dialect db.owner table) s n)
  | ownCatalog =>
    exact congrArg Probe.ofCount
      (result_queryScalar db (Probe.ownCatalog.statement db.dialect db.owner table) s n)

variable {db : Database} {cs : List Column} {text : String}

theorem name_of_created (hcreate : createTable d table cs = .ok text)
    (hname : (readTable? d text).map Prod.fst = some e.name) : e.name = table := by
  obtain ⟨-, hne, -, rfl⟩ := createTable_eq_ok_iff.1 hcreate
  rw [readTable?_createText (by simpa using hne)] at hname
  exact (Option.some.inj hname).symm

/-- **A probe does not overlook a table that was created, but for one catalog.** The catalog holds
the table under the name that was quoted when it was created. Each probe that counts compares names
with a value that is bound, and the name passes, except that PostgreSQL's own catalog is asked for
the name in small letters and so finds only names that have no others. Whatever else a catalog
holds, the probe then does not answer that the table is missing; on Oracle the objects of an owner
are counted, so the owner has to be found as well. -/
theorem probe_counts_created_iff (hd : KeepsNames db.dialect) (hp : p ≠ .rawSelect)
    (hcreate : createTable db.dialect table cs = .ok text)
    (hname : (readTable? db.dialect text).map Prod.fst = some e.name) (s : Session) :
    readCount? (lex db.dialect.delimiters (p.statement db.dialect db.owner table).sql) =
      some (probeTests db.dialect p) ∧
    (∃ t ∈ probeTests db.dialect p, t.field = .name) ∧
    (∀ t ∈ probeTests db.dialect p, t.field = .name →
      (t.holds db.dialect (p.statement db.dialect db.owner table) e = true ↔
        FindsName db.dialect p table)) ∧
    ((∀ catalog n, e ∈ catalog → catalog.length ≤ Number.maxInt64 →
        count? db.dialect (p.statement db.dialect db.owner table) catalog = some n →
        (p.run db table).result (s.script [counted n]) ≠ .missing) ↔
      FindsName db.dialect p table ∧ FindsOwner db.dialect p db.owner e) := by
  have he := name_of_created hcreate hname
  refine ⟨readCount?_statement hd hp _ _, exists_name_test hp _, fun t ht hfield => ?_,
    fun h => ?_, fun h => ?_⟩
  · rw [holds_iff hd hp he ht, hfield]
    simp
  · -- a catalog with nothing but the table
    by_contra hfails
    refine h [e] 0 (List.mem_singleton_self e) (by rw [List.length_singleton]; decide)
      ((count?_singleton hd hp he).2 (.inr ⟨rfl, hfails⟩)) ?_
    rw [run_counted db hp table s (Nat.zero_le _)]
    rfl
  · intro catalog n hmem hlength hn
    rw [count?_statement hd hp] at hn
    have hle : n ≤ Number.maxInt64 := by
      rw [← Option.some.inj hn]
      exact Nat.le_trans List.countP_le_length hlength
    have hpos : 0 < n := by
      rw [← Option.some.inj hn]
      exact List.countP_pos_iff.2 ⟨e, hmem, (all_holds_iff hd hp he).2 h⟩
    rw [run_counted db hp table s hle, if_pos hpos]
    nofun

/-- A database of PostgreSQL. -/
private def cms : Database := ⟨.postgres, "postgres://app:pw@localhost/cms", 0⟩

theorem statement_postgres (owner table : String) :
    Probe.ownCatalog.statement .postgres owner table =
      ⟨"SELECT COUNT(*) FROM pg_catalog.pg_tables WHERE tablename = $1",
        [("$1", .text (Text.lower table))]⟩ := by
  have hsql : (Probe.ownCatalog.statement .postgres owner table).sql =
      "SELECT COUNT(*) FROM pg_catalog.pg_tables WHERE tablename = $1" := by
    rw [sql_statement (by decide)]
    decide +kernel
  have hbindings : (Probe.ownCatalog.statement .postgres owner table).bindings =
      [("$1", .text (Text.lower table))] := rfl
  rw [← hsql, ← hbindings]

theorem probe_counts_created_iff_posts :
    ∃ text, createTable .postgres "posts" [.identityColumn] = .ok text ∧
      (readTable? .postgres text).map Prod.fst = some "posts" ∧
      Probe.ownCatalog.statement .postgres cms.owner "posts" =
        ⟨"SELECT COUNT(*) FROM pg_catalog.pg_tables WHERE tablename = $1",
          [("$1", .text "posts")]⟩ ∧
      ∀ s : Session, (Probe.ownCatalog.run cms "posts").result (s.script [counted 1]) ≠ .missing := by
  have hcreate : createTable .postgres "posts" [.identityColumn] =
      .ok (createText .postgres "posts" ([Column.identityColumn].map Column.normalized)) :=
    createTable_eq_ok_iff.2 ⟨by decide, List.cons_ne_nil _ _, by decide, rfl⟩
  have hname : (readTable? .postgres
      (createText .postgres "posts" ([Column.identityColumn].map Column.normalized))).map Prod.fst =
        some "posts" :=
    congrArg (Option.map Prod.fst) (readTable?_createText (by simp))
  have hlower : Text.lower "posts" = "posts" := by decide
  have hkeeps : KeepsNames cms.dialect := .inl rfl
  refine ⟨_, hcreate, hname, by rw [statement_postgres, hlower], fun s => ?_⟩
  obtain ⟨-, -, -, hfound⟩ := probe_counts_created_iff (p := .ownCatalog)
    (e := ⟨"posts", "app"⟩) hkeeps (by decide) hcreate hname s
  have hfinds : FindsName cms.dialect .ownCatalog "posts" ∧
      FindsOwner cms.dialect .ownCatalog cms.owner ⟨"posts", "app"⟩ := ⟨fun _ _ => hlower, nofun⟩
  have hentry : Entry.name ⟨"posts", "app"⟩ = "posts" := rfl
  exact hfound.2 hfinds [⟨"posts", "app"⟩] 1 (by simp) (by decide)
    ((count?_singleton hkeeps (by decide) hentry).2 (.inl ⟨rfl, hfinds⟩))

/-- PostgreSQL's own catalog holds `Posts`, is asked for `posts`, and the answer is final: the table
is taken for missing, though it could be selected from. -/
theorem probe_misses_capitals :
    (∃ text, createTable .postgres "Posts" [.identityColumn] = .ok text ∧
      (readTable? .postgres text).map Prod.fst = some "Posts") ∧
    Probe.ownCatalog.statement .postgres cms.owner "Posts" =
      ⟨"SELECT COUNT(*) FROM pg_catalog.pg_tables WHERE tablename = $1",
        [("$1", .text "posts")]⟩ ∧
    count? .postgres (Probe.ownCatalog.statement .postgres cms.owner "Posts")
      [⟨"Posts", "app"⟩] = some 0 ∧
    (∀ s : Session,
      (Probe.ownCatalog.run cms "Posts").result (s.script [counted 0]) = .missing ∧
      (tableExists cms "Posts").result (s.script [.failure "no such view", counted 0]) = false) := by
  have hcreate : createTable .postgres "Posts" [.identityColumn] =
      .ok (createText .postgres "Posts" ([Column.identityColumn].map Column.normalized)) :=
    createTable_eq_ok_iff.2 ⟨by decide, List.cons_ne_nil _ _, by decide, rfl⟩
  have hname : (readTable? .postgres
      (createText .postgres "Posts" ([Column.identityColumn].map Column.normalized))).map Prod.fst =
        some "Posts" :=
    congrArg (Option.map Prod.fst) (readTable?_createText (by simp))
  have hlower : Text.lower "Posts" = "posts" := by decide
  have hmisses : ¬ FindsName .postgres .ownCatalog "Posts" := fun h =>
    absurd (hlower ▸ h rfl rfl) (by decide)
  have hentry : Entry.name ⟨"Posts", "app"⟩ = "Posts" := rfl
  refine ⟨⟨_, hcreate, hname⟩, by rw [statement_postgres, hlower],
    (count?_singleton (.inl rfl) (by decide) hentry).2 (.inr ⟨rfl, fun h => hmisses h.1⟩),
    fun s => ⟨?_, rfl⟩⟩
  rw [run_counted cms (by decide) "Posts" s (Nat.zero_le _)]
  rfl

end Polydialect.Schema
