import Polydialect.Proofs.Declaring

/-!
# What the plan of a changed table does

The statements of a plan are read as additions and drops of columns of the table
(`Sql.readChange?`), and made one after another on the names of its columns, up to ASCII case. An
addition is made if no column has the name, a drop if one has it (`Sql.Change.names?`); so a plan
that can be replayed to its end adds what is absent and drops what is present at that moment.

* `Sql.replay?_adds`, `Sql.replay?_drops`: additions of distinct new names and drops of distinct
  present ones can all be made;
* `Schema.mapM_readChange?`: what is read in a plan is the additions and the drops that are asked
  for, in this order;
* `Schema.alter_converges`: the plan leaves the live and the requested columns without the dropped
  ones, and is empty when it is made again, if nothing is requested and dropped at once.
-/

namespace Polydialect

namespace Sql

/-! ## Names up to ASCII case -/

/-- Whether a name is among others. -/
def hasName (names : List String) (n : String) : Bool := names.any fun m => Text.sameName m n

/-- No name comes twice. -/
def DistinctNames (names : List String) : Prop :=
  names.Pairwise fun m n => Text.sameName m n = false

instance (names : List String) : Decidable (DistinctNames names) :=
  inferInstanceAs (Decidable (List.Pairwise _ names))

theorem hasName_cons (m : String) (names : List String) (n : String) :
    hasName (m :: names) n = (Text.sameName m n || hasName names n) := rfl

theorem hasName_append (names names' : List String) (n : String) :
    hasName (names ++ names') n = (hasName names n || hasName names' n) := List.any_append

theorem hasName_congr {m n : String} (h : Text.sameName m n = true) (names : List String) :
    hasName names m = hasName names n := by
  refine congrArg names.any (funext fun k => ?_)
  rw [Text.sameName_comm k m, Text.sameName_comm k n, Text.sameName_congr_left h]

theorem hasName_eq_false_iff {names : List String} {n : String} :
    hasName names n = false ↔ ∀ m ∈ names, Text.sameName m n = false := by
  simp [hasName]

theorem hasName_of_mem {names : List String} {n : String} (h : n ∈ names) :
    hasName names n = true :=
  List.any_eq_true.2 ⟨n, h, Text.sameName_refl n⟩

theorem hasName_filter {p : String → Bool}
    (hp : ∀ m n, Text.sameName m n = true → p m = p n) (names : List String) (n : String) :
    hasName (names.filter p) n = (hasName names n && p n) := by
  rw [hasName, hasName, List.any_filter]
  induction names with
  | nil => rfl
  | cons m names ih =>
    rw [List.any_cons, List.any_cons, Bool.and_or_distrib_right, ih]
    cases hm : Text.sameName m n with
    | true => rw [hp m n hm, Bool.and_true, Bool.true_and]
    | false => rw [Bool.and_false, Bool.false_and]

/-- Of the names that are none of others, those of a name are all or none. -/
theorem hasName_filter_not (names gone : List String) (n : String) :
    hasName (names.filter fun m => !hasName gone m) n = (hasName names n && !hasName gone n) :=
  hasName_filter (fun _ _ h => by rw [hasName_congr h]) names n

/-! ## Changes -/

/-- A change of the columns of a table. -/
inductive Change where
  | add (name : String) (type : List (Token Unit))
  | drop (name : String)
  deriving DecidableEq

/-- A change behind the name of its table. SQL Server and Oracle know no COLUMN in an addition. -/
def readChangeTokens? (d : Dialect) : List (Token Unit) → Option Change
  | [.symbol (.word "DROP"), .symbol (.word "COLUMN"), .symbol (.name n)] => some (.drop n)
  | .symbol (.word "ADD") :: .symbol (.word "COLUMN") :: .symbol (.name n) :: type =>
    if d = .sqlServer ∨ d = .oracle then none else some (.add n type)
  | .symbol (.word "ADD") :: .symbol (.name n) :: type => some (.add n type)
  | _ => none

/-- The change of a table that a statement makes. -/
def readChange? (d : Dialect) (table s : String) : Option Change :=
  match lex d.delimiters s with
  | .symbol (.word "ALTER") :: .symbol (.word "TABLE") :: .symbol (.name t) :: ts =>
    if t = table then readChangeTokens? d ts else none
  | _ => none

/-- The names of the columns behind a change, if it can be made. -/
def Change.names? (names : List String) : Change → Option (List String)
  | .add n _ => if hasName names n then none else some (names ++ [n])
  | .drop n => if hasName names n then some (names.filter fun m => !Text.sameName m n) else none

/-- The names of the columns behind changes that are made one after another. -/
def replay? (names : List String) (changes : List Change) : Option (List String) :=
  changes.foldlM Change.names? names

theorem replay?_append (names : List String) (changes changes' : List Change) :
    replay? names (changes ++ changes') =
      (replay? names changes).bind fun names' => replay? names' changes' := List.foldlM_append

theorem replay?_cons {names names' : List String} {change : Change}
    (h : change.names? names = some names') (changes : List Change) :
    replay? names (change :: changes) = replay? names' changes := by
  rw [replay?, List.foldlM_cons, h]
  rfl

/-- Columns of distinct names that are all absent can be added. -/
theorem replay?_adds {α : Type} {name : α → String} {type : α → List (Token Unit)} {as : List α}
    (hdistinct : DistinctNames (as.map name)) {names : List String}
    (habsent : ∀ a ∈ as, hasName names (name a) = false) :
    replay? names (as.map fun a => .add (name a) (type a)) = some (names ++ as.map name) := by
  induction as generalizing names with
  | nil => exact congrArg some (List.append_nil names).symm
  | cons a as ih =>
    obtain ⟨ha, has⟩ := List.forall_mem_cons.1 habsent
    obtain ⟨hfirst, hrest⟩ := List.pairwise_cons.1 hdistinct
    have hstep : (Change.add (name a) (type a)).names? names = some (names ++ [name a]) := by
      rw [Change.names?, ha]
      rfl
    -- the column that was added is none of those that follow
    have hnext : ∀ b ∈ as, hasName (names ++ [name a]) (name b) = false := by
      intro b hb
      have hother := hfirst (name b) (List.mem_map_of_mem hb)
      rw [hasName_append, has b hb, hasName_cons, hother]
      rfl
    rw [List.map_cons, replay?_cons hstep, ih hrest hnext, List.map_cons, List.append_assoc]
    rfl

/-- Columns of distinct names that are all present can be dropped. -/
theorem replay?_drops {gone : List String} (hdistinct : DistinctNames gone) {names : List String}
    (hpresent : ∀ n ∈ gone, hasName names n = true) :
    replay? names (gone.map .drop) = some (names.filter fun m => !hasName gone m) := by
  induction gone generalizing names with
  | nil => exact congrArg some (List.filter_eq_self.2 fun _ _ => rfl).symm
  | cons n gone ih =>
    obtain ⟨hn, hgone⟩ := List.forall_mem_cons.1 hpresent
    obtain ⟨hfirst, hrest⟩ := List.pairwise_cons.1 hdistinct
    have hstep : (Change.drop n).names? names =
        some (names.filter fun m => !Text.sameName m n) := by
      rw [Change.names?, hn]
      rfl
    -- the column that was dropped is none of those that follow
    have hnext : ∀ m ∈ gone, hasName (names.filter fun k => !Text.sameName k n) m = true := by
      intro m hm
      have hp : ∀ k l, Text.sameName k l = true →
          (!Text.sameName k n) = !Text.sameName l n :=
        fun k l hkl => by rw [Text.sameName_congr_left hkl]
      rw [hasName_filter hp, hgone m hm, Text.sameName_comm, hfirst m hm]
      rfl
    rw [List.map_cons, replay?_cons hstep, ih hrest hnext, List.filter_filter]
    refine congrArg some (List.filter_congr fun m _ => ?_)
    rw [hasName_cons, Bool.not_or, Text.sameName_comm, Bool.and_comm]

end Sql

namespace Schema

open Sql

variable {d : Dialect} {table : String} {requested live : List Column} {dropped plan : List String}

/-! ## The changes of a plan -/

/-- The requested columns that a table lacks. -/
def missing (requested live : List Column) : List Column :=
  requested.filter fun c => !hasColumn live c.name

/-- The names to drop that a table has. -/
def leaving (dropped : List String) (live : List Column) : List String :=
  dropped.filter fun n => hasColumn live n

theorem alterTable_eq_ok_iff :
    alterTable d table requested live dropped = .ok plan ↔
      Identifier.Valid table ∧ (∀ c ∈ requested, Identifier.Valid c.name) ∧
        (∀ n ∈ dropped, Identifier.Valid n) ∧
        (missing requested live).map (addition d table) ++
          (leaving dropped live).map (d.dropColumn table) = plan := by
  have hnames : (∀ c ∈ requested, Identifier.Valid c.name) ↔
      Identifier.checkAll (requested.map (·.name)) = .ok () := by
    rw [Identifier.checkAll_eq_ok_iff, List.forall_mem_map]
  rw [hnames, ← Identifier.check_eq_ok_iff, ← Identifier.checkAll_eq_ok_iff, alterTable]
  simp only [bind_eq_ok, Unique.exists_iff]
  exact and_congr_right' (and_congr_right' (and_congr_right' (Except.ok.injEq _ _).to_iff))

/-- The changes of a plan: additions of columns in their fixed shapes, then drops. -/
def plannedChanges (d : Dialect) (requested live : List Column) (dropped : List String) :
    List Change :=
  (missing requested live).map
      (fun c => .add c.name (lex d.delimiters (typeText d c.normalized true))) ++
    (leaving dropped live).map .drop

theorem phrase_alterTable (d : Dialect) (table : String) :
    Phrase d ("ALTER TABLE " ++ d.quote table)
      [.symbol (.word "ALTER"), .symbol (.word "TABLE"), .symbol (.name table)] := by
  have halter : Leaves d "ALTER TABLE " [.symbol (.word "ALTER"), .symbol (.word "TABLE")] := by
    cases d <;> decide
  exact halter.append (.quote d table)

/-- The words that add a column. -/
def addWords (d : Dialect) : List (Token Unit) :=
  if d = .sqlServer ∨ d = .oracle then [.symbol (.word "ADD")]
  else [.symbol (.word "ADD"), .symbol (.word "COLUMN")]

theorem phrase_addColumn (d : Dialect) (table : String) (c : Column) :
    Phrase d (d.addColumn table (columnDefinition d c true))
      (.symbol (.word "ALTER") :: .symbol (.word "TABLE") :: .symbol (.name table) ::
        (addWords d ++ .symbol (.name c.name) :: lex d.delimiters (typeText d c true))) := by
  have htable := phrase_alterTable d table
  have hdefinition := phrase_columnDefinition d c true
  have hadd : Leaves d " ADD " [.symbol (.word "ADD")] := by cases d <;> decide
  have haddColumn : Leaves d " ADD COLUMN " [.symbol (.word "ADD"), .symbol (.word "COLUMN")] := by
    cases d <;> decide
  cases d with
  | sqlServer | oracle => exact (htable.append_leaves hadd (by decide)).append hdefinition
  | mysql | postgres | sqlite =>
    exact (htable.append_leaves haddColumn (by decide)).append hdefinition

theorem phrase_dropColumn (d : Dialect) (table n : String) :
    Phrase d (d.dropColumn table n)
      [.symbol (.word "ALTER"), .symbol (.word "TABLE"), .symbol (.name table),
        .symbol (.word "DROP"), .symbol (.word "COLUMN"), .symbol (.name n)] := by
  have hdrop : Leaves d " DROP COLUMN " [.symbol (.word "DROP"), .symbol (.word "COLUMN")] := by
    cases d <;> decide
  exact ((phrase_alterTable d table).append_leaves hdrop (by decide)).append (.quote d n)

theorem readChange?_addition (d : Dialect) (table : String) (c : Column) :
    readChange? d table (addition d table c) =
      some (.add c.name (lex d.delimiters (typeText d c.normalized true))) := by
  have htext := phrase_addColumn d table c.normalized
  rw [Column.normalized_name] at htext
  have htokens : lex d.delimiters (addition d table c) = _ := htext.tokens
  rw [readChange?, htokens]
  cases d <;> simp [addWords, readChangeTokens?]

theorem readChange?_dropColumn (d : Dialect) (table n : String) :
    readChange? d table (d.dropColumn table n) = some (.drop n) := by
  rw [readChange?, (phrase_dropColumn d table n).tokens]
  simp [readChangeTokens?]

/-- A plan is read as the changes that are asked for. -/
theorem mapM_readChange? (h : alterTable d table requested live dropped = .ok plan) :
    plan.mapM (readChange? d table) = some (plannedChanges d requested live dropped) := by
  obtain ⟨-, -, -, rfl⟩ := alterTable_eq_ok_iff.1 h
  refine mapM_eq_some (List.rel_append ?_ ?_)
  · rw [List.forall₂_map_left_iff, List.forall₂_map_right_iff, List.forall₂_same]
    exact fun c _ => readChange?_addition d table c
  · rw [List.forall₂_map_left_iff, List.forall₂_map_right_iff, List.forall₂_same]
    exact fun n _ => readChange?_dropColumn d table n

/-! ## The columns that a plan leaves -/

/-- The names of columns. -/
def names (cs : List Column) : List String := cs.map (·.name)

theorem hasColumn_eq (cs : List Column) (n : String) : hasColumn cs n = hasName (names cs) n := by
  rw [hasColumn, hasName, names, List.any_map]
  rfl

/-- The names that a plan leaves. -/
def plannedNames (requested live : List Column) (dropped : List String) : List String :=
  (names live ++ names (missing requested live)).filter fun m => !hasName (leaving dropped live) m

theorem hasName_missing (requested live : List Column) (n : String) :
    hasName (names (missing requested live)) n =
      (hasName (names requested) n && !hasName (names live) n) := by
  have hfilter : names (missing requested live) =
      (names requested).filter fun m => !hasName (names live) m := by
    simp only [missing, names, List.filter_map, Function.comp_def, hasColumn_eq]
  rw [hfilter, hasName_filter_not]

theorem hasName_leaving (dropped : List String) (live : List Column) (n : String) :
    hasName (leaving dropped live) n = (hasName dropped n && hasName (names live) n) := by
  rw [leaving, hasName_filter fun m k h => by rw [hasColumn_eq, hasColumn_eq, hasName_congr h],
    hasColumn_eq]

theorem hasName_plannedNames (requested live : List Column) (dropped : List String) (n : String) :
    hasName (plannedNames requested live dropped) n = true ↔
      (hasName (names live) n = true ∨ hasName (names requested) n = true) ∧
        ¬ (hasName dropped n = true ∧ hasName (names live) n = true) := by
  rw [plannedNames, hasName_filter_not, hasName_append, hasName_missing, hasName_leaving]
  cases hasName (names live) n <;> cases hasName (names requested) n <;>
    cases hasName dropped n <;> simp

theorem absent_of_mem_missing {c : Column} (hc : c ∈ missing requested live) :
    hasName (names live) c.name = false := by
  simpa [hasColumn_eq] using (List.mem_filter.1 hc).2

theorem distinctNames_missing (h : DistinctNames (names requested)) (live : List Column) :
    DistinctNames (names (missing requested live)) :=
  h.sublist (List.filter_sublist.map _)

theorem distinctNames_plannedNames (hlive : DistinctNames (names live))
    (hrequested : DistinctNames (names requested)) (dropped : List String) :
    DistinctNames (plannedNames requested live dropped) := by
  refine List.Pairwise.filter _
    (List.pairwise_append.2 ⟨hlive, distinctNames_missing hrequested live, ?_⟩)
  intro m hm n hn
  obtain ⟨c, hc, rfl⟩ := List.mem_map.1 hn
  exact hasName_eq_false_iff.1 (absent_of_mem_missing hc) m hm

theorem replay?_plannedChanges (hrequested : DistinctNames (names requested))
    (hdropped : DistinctNames dropped) :
    replay? (names live) (plannedChanges d requested live dropped) =
      some (plannedNames requested live dropped) := by
  have hdrops : ∀ n ∈ leaving dropped live,
      hasName (names live ++ names (missing requested live)) n = true := by
    intro n hn
    have hpresent : hasName (names live) n = true := by
      simpa [hasColumn_eq] using (List.mem_filter.1 hn).2
    rw [hasName_append, hpresent, Bool.true_or]
  have hadds : ∀ c ∈ missing requested live, hasName (names live) c.name = false :=
    fun _ hc => absent_of_mem_missing hc
  rw [plannedChanges, replay?_append, replay?_adds (distinctNames_missing hrequested live) hadds,
    Option.bind_some]
  exact replay?_drops (hdropped.sublist List.filter_sublist) hdrops

/-- What a plan leaves lacks no requested column and has none that is to be dropped. -/
theorem plannedNames_spec (hapart : ∀ c ∈ requested, hasName dropped c.name = false)
    (live : List Column) :
    (∀ c ∈ requested, hasName (plannedNames requested live dropped) c.name = true) ∧
      ∀ n ∈ dropped, hasName (plannedNames requested live dropped) n = false := by
  refine ⟨fun c hc => ?_, fun n hn => ?_⟩
  · have hrequested : hasName (names requested) c.name = true :=
      hasName_of_mem (List.mem_map_of_mem hc)
    refine (hasName_plannedNames requested live dropped c.name).2 ⟨.inr hrequested, ?_⟩
    rintro ⟨hdropped, -⟩
    exact absurd (hapart c hc) (by simp [hdropped])
  · refine Bool.eq_false_iff.2 fun hleft => ?_
    obtain ⟨hwanted, hkept⟩ := (hasName_plannedNames requested live dropped n).1 hleft
    rcases hwanted with hlive | hrequested
    · exact hkept ⟨hasName_of_mem hn, hlive⟩
    · obtain ⟨m, hm, hsame⟩ := List.any_eq_true.1 hrequested
      obtain ⟨c, hc, rfl⟩ := List.mem_map.1 hm
      have hnot : hasName dropped n = false := hasName_congr hsame dropped ▸ hapart c hc
      exact absurd hnot (by simp [hasName_of_mem hn])

/-- A plan is made of valid names, and can be replayed on the live columns to its end: whatever it
adds is absent at that moment, and whatever it drops is present. It leaves the live and the
requested columns but for the dropped ones that were live, and drops no other live column. If
nothing is requested and dropped at once, the plan for what it leaves is empty. -/
theorem alter_converges (hlive : DistinctNames (names live))
    (hrequested : DistinctNames (names requested)) (hdropped : DistinctNames dropped) :
    ((∃ plan, alterTable d table requested live dropped = .ok plan) ↔
      Identifier.Valid table ∧ (∀ c ∈ requested, Identifier.Valid c.name) ∧
        ∀ n ∈ dropped, Identifier.Valid n) ∧
    ∀ plan, alterTable d table requested live dropped = .ok plan →
      ∃ changes final, plan.mapM (readChange? d table) = some changes ∧
        replay? (names live) changes = some final ∧ DistinctNames final ∧
        (∀ n, hasName final n = true ↔
          (hasName (names live) n = true ∨ hasName (names requested) n = true) ∧
            ¬ (hasName dropped n = true ∧ hasName (names live) n = true)) ∧
        (∀ n, .drop n ∈ changes → n ∈ dropped) ∧
        (∀ c ∈ live, hasName dropped c.name = false → c.name ∈ final) ∧
        ((∀ c ∈ requested, hasName dropped c.name = false) →
          ∀ live', (∀ n, hasColumn live' n = hasName final n) →
            alterTable d table requested live' dropped = .ok []) := by
  refine ⟨?_, fun plan hplan => ?_⟩
  · simp only [alterTable_eq_ok_iff, exists_and_left, exists_eq', and_true]
  refine ⟨_, _, mapM_readChange? hplan, replay?_plannedChanges hrequested hdropped,
    distinctNames_plannedNames hlive hrequested dropped,
    hasName_plannedNames requested live dropped, ?_, ?_, ?_⟩
  · intro n hn
    rcases List.mem_append.1 hn with hadd | hdrop
    · obtain ⟨c, -, hc⟩ := List.mem_map.1 hadd
      cases hc
    · obtain ⟨m, hm, hmn⟩ := List.mem_map.1 hdrop
      obtain rfl := Change.drop.inj hmn
      exact (List.mem_filter.1 hm).1
  · intro c hc hkept
    have hstays : hasName (leaving dropped live) c.name = false := by
      rw [hasName_leaving, hkept, Bool.false_and]
    refine List.mem_filter.2 ⟨List.mem_append_left _ (List.mem_map_of_mem hc), ?_⟩
    rw [hstays]
    rfl
  · intro hapart live' hlive'
    obtain ⟨hpresent, habsent⟩ := plannedNames_spec hapart live
    have hmissing : missing requested live' = [] :=
      List.filter_eq_nil_iff.2 fun c hc => by simp [hlive', hpresent c hc]
    have hleaving : leaving dropped live' = [] :=
      List.filter_eq_nil_iff.2 fun n hn => by simp [hlive', habsent n hn]
    obtain ⟨htable, hnames, hnames', -⟩ := alterTable_eq_ok_iff.1 hplan
    refine alterTable_eq_ok_iff.2 ⟨htable, hnames, hnames', ?_⟩
    rw [hmissing, hleaving]
    rfl

/-- The columns of a table of posts. -/
private def livePosts : List Column :=
  [.identityColumn, .plain "Title" .varchar, .plain "Obsolete" .text]

/-- The columns that a table of posts should have. -/
private def requestedPosts : List Column :=
  [.identityColumn, .plain "title" .varchar, .plain "Score" .integer]

theorem alter_converges_posts :
    DistinctNames (names livePosts) ∧ DistinctNames (names requestedPosts) ∧
      DistinctNames ["obsolete"] ∧
    ((∃ plan, alterTable .sqlite "Posts" requestedPosts livePosts ["obsolete"] = .ok plan) ↔
      Identifier.Valid "Posts" ∧ (∀ c ∈ requestedPosts, Identifier.Valid c.name) ∧
        ∀ n ∈ ["obsolete"], Identifier.Valid n) ∧
    ∀ plan, alterTable .sqlite "Posts" requestedPosts livePosts ["obsolete"] = .ok plan →
      ∃ changes final, plan.mapM (readChange? .sqlite "Posts") = some changes ∧
        replay? (names livePosts) changes = some final ∧ DistinctNames final ∧
        (∀ n, hasName final n = true ↔
          (hasName (names livePosts) n = true ∨ hasName (names requestedPosts) n = true) ∧
            ¬ (hasName ["obsolete"] n = true ∧ hasName (names livePosts) n = true)) ∧
        (∀ n, .drop n ∈ changes → n ∈ ["obsolete"]) ∧
        (∀ c ∈ livePosts, hasName ["obsolete"] c.name = false → c.name ∈ final) ∧
        ((∀ c ∈ requestedPosts, hasName ["obsolete"] c.name = false) →
          ∀ live', (∀ n, hasColumn live' n = hasName final n) →
            alterTable .sqlite "Posts" requestedPosts live' ["obsolete"] = .ok []) := by
  have hlive : DistinctNames (names livePosts) := by decide
  have hrequested : DistinctNames (names requestedPosts) := by decide
  have hdropped : DistinctNames ["obsolete"] := by decide
  exact ⟨hlive, hrequested, hdropped, alter_converges hlive hrequested hdropped⟩

/-- The table gets its new column, keeps the one that is spelled otherwise and loses the last. -/
example :
    alterTable .sqlite "Posts" requestedPosts livePosts ["obsolete"] =
      .ok ["ALTER TABLE \"Posts\" ADD COLUMN \"Score\" INTEGER",
        "ALTER TABLE \"Posts\" DROP COLUMN \"obsolete\""] := by
  decide +kernel

end Schema

end Polydialect
