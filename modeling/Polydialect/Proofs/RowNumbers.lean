import Polydialect.Proofs.Phrase

/-!
# Pages by row numbers

SQL Server before 2012 has no text for a window: the rows are numbered in a derived table, and the
statement around it keeps a range of the numbers. `Sql.readOuter?` reads this statement (what it
shows of the derived table, the range, and whether it is ordered by the number), and `Sql.Engine`
says what a page is for an engine with any rows and any meaning of the clauses.

* `Selection.contains_range`: the range is the window, and it is written if its numbers are words of
  64 bits (`Selection.row_range_iff`; in `Selection.row_range_overflows` one is not);
* `Sql.Engine.numbers_iff`: of rows that are numbered, the range keeps those of the window, and the
  statement gives them in any arrangement unless it is ordered by the number;
* `Selection.numbered_pages`: so the statement gives the rows of the page, each with its number, in
  any order (`Selection.numbered_pages_differ`).
-/

namespace Polydialect

namespace Sql

/-! ## Reading the statement -/

/-- Numbers of rows, from the first one on and up to the last one, if there is one. -/
structure Range where
  first : Nat
  last : Option Nat
  deriving DecidableEq

/-- The number is in the range. -/
def Range.Contains (g : Range) (r : Int) : Prop := g.first ≤ r ∧ ∀ n ∈ g.last, r ≤ n

instance (g : Range) (r : Int) : Decidable (g.Contains r) := inferInstanceAs (Decidable (_ ∧ _))

/-- The row with the number, counted from 1, is in the window: behind the rows that are skipped, and
among those that are taken. -/
def InWindow (w : Nat × Option Nat) (r : Int) : Prop := w.1 < r ∧ ∀ n ∈ w.2, r ≤ w.1 + n

instance (w : Nat × Option Nat) (r : Int) : Decidable (InWindow w r) :=
  inferInstanceAs (Decidable (_ ∧ _))

/-- The statement around a derived table with numbered rows. -/
structure Outer where
  /-- The columns that it shows, all of them for `*`. -/
  shown : Option (List String)
  range : Range
  /-- Ordered by the number. -/
  isSorted : Bool
  deriving DecidableEq

/-- The column of row numbers: what is written before the ordering and behind it. -/
def readNumbering? : List (Token Unit) → List (Token Unit) → Option String
  | [.symbol .comma, .symbol (.word "ROW_NUMBER"), .symbol .opening, .symbol .closing,
      .symbol (.word "OVER"), .symbol .opening, .symbol (.word "ORDER"), .symbol (.word "BY")],
    [.symbol .closing, .symbol (.word "AS"), .symbol (.name number)] => some number
  | _, _ => none

/-- The select list of the statement around the derived table. -/
def readShown? : List (Token Unit) → Option (Option (List String))
  | [.symbol (.word "SELECT"), .symbol (.other '*'), .symbol (.word "FROM"), .symbol .opening] =>
    some none
  | .symbol (.word "SELECT") :: ts =>
    (readNames? [.symbol (.word "FROM"), .symbol .opening] ts).map some
  | _ => none

/-- A condition on the number, and what stands behind it. -/
def readRange? (number : String) : List (Token Unit) → Option (Range × List (Token Unit))
  | .symbol (.name c) :: .symbol (.word "BETWEEN") :: .symbol (.number first) ::
      .symbol (.word "AND") :: .symbol (.number last) :: ts =>
    if c = number then some (⟨first, some last⟩, ts) else none
  | .symbol (.name c) :: .symbol (.operator ">=") :: .symbol (.number first) :: ts =>
    if c = number then some (⟨first, none⟩, ts) else none
  | _ => none

/-- An ordering by the number, or none. -/
def readSorted? (number : String) : List (Token Unit) → Option Bool
  | [] => some false
  | [.symbol (.word "ORDER"), .symbol (.word "BY"), .symbol (.name c)] =>
    if c = number then some true else none
  | _ => none

/-- The statement around a derived table: what is written before it and behind it. -/
def readOuter? (number : String) (lead : List (Token Unit)) : List (Token Unit) → Option Outer
  | .symbol .closing :: .symbol (.word "AS") :: .symbol (.name _) ::
      .symbol (.word "WHERE") :: ts => do
      let shown ← readShown? lead
      let (range, ts) ← readRange? number ts
      return ⟨shown, range, ← readSorted? number ts⟩
  | _ => none

/-! ## Pages -/

/-- What an engine makes of the clauses of a SELECT, over rows of a table. -/
structure Engine (ρ : Type) where
  /-- The columns of a select list. -/
  names : String → List String
  /-- What a select list shows of a row. -/
  values : String → ρ → List Value
  keeps : String → ρ → Bool
  /-- In an ordering the first row may stand before the second one. -/
  before : String → ρ → ρ → Prop
  before_total : ∀ order r r', before order r r' ∨ before order r' r
  before_trans : ∀ order {r r' r''}, before order r r' → before order r' r'' → before order r r''
  /-- A constant orders nothing. -/
  before_constant : ∀ r r', before "(SELECT 0)" r r'

/-- What a statement gives. -/
structure Page where
  header : List String
  rows : List (List Value)
  deriving DecidableEq

/-- The page without its last column. -/
def Page.dropLast (p : Page) : Page := ⟨p.header.dropLast, p.rows.map List.dropLast⟩

/-- The part of a list in a window. -/
def cut {α : Type} (w : Nat × Option Nat) (as : List α) : List α :=
  match w.2 with
  | none => as.drop w.1
  | some n => (as.drop w.1).take n

namespace Engine

variable {ρ : Type} (e : Engine ρ)

/-- The rows of a table that the filter keeps, in an arrangement that the ordering allows. -/
structure Arranges (s : Selection) (table rows : List ρ) : Prop where
  perm : rows.Perm (table.filter fun r => s.filter.all (e.keeps · r))
  ordered : rows.Pairwise (e.before s.orderOrConstant)

/-- The statement with a window may give the page. -/
def Pages (s : Selection) (w : Nat × Option Nat) (table : List ρ) (page : Page) : Prop :=
  ∃ rows, e.Arranges s table rows ∧
    page = ⟨e.names s.columns, (cut w rows).map (e.values s.columns)⟩

/-- What a select list shows of a row, and the number of the row. -/
def numbered (s : Selection) (p : ρ × Nat) : List Value :=
  e.values s.columns p.1 ++ [.int (Int64.ofNat p.2)]

/-- What is shown of the columns of a derived table. -/
def project (shown : Option (List String)) (header : List String) (row : List Value) :
    List Value :=
  match shown with
  | none => row
  | some names => names.filterMap fun n => (header.zip row).lookup n

/-- The statement over numbered rows may give the page: the rows are numbered in an arrangement, and
those of the range are kept. -/
def NumbersPages (s : Selection) (number : String) (o : Outer) (table : List ρ) (page : Page) :
    Prop :=
  ∃ (rows : List ρ) (kept : List (ρ × Nat)), e.Arranges s table rows ∧
    kept.Perm ((rows.zipIdx 1).filter fun p => o.range.Contains p.2) ∧
    (o.isSorted → kept.Pairwise fun p q => p.2 ≤ q.2) ∧
    page = ⟨o.shown.getD (e.names s.columns ++ [number]),
      kept.map fun p => project o.shown (e.names s.columns ++ [number]) (e.numbered s p)⟩

end Engine

/-! ## The rows of a range -/

section Cut

variable {α : Type}

theorem filter_lt_zipIdx (k skip : Nat) (as : List α) :
    ((as.zipIdx (k + 1)).filter fun p => k + skip < p.2) =
      (as.drop skip).zipIdx (k + skip + 1) := by
  induction as generalizing k skip with
  | nil => simp
  | cons a as ih =>
    cases skip with
    | zero =>
      refine List.filter_eq_self.2 fun p hp => ?_
      have hle := List.le_snd_of_mem_zipIdx hp
      simp
      omega
    | succ skip =>
      have hstep := ih (k + 1) skip
      rw [show k + 1 + skip = k + (skip + 1) by omega] at hstep
      rw [List.zipIdx_cons, List.filter_cons_of_neg (by simp), hstep, List.drop_succ_cons]

theorem filter_le_zipIdx (k n : Nat) (as : List α) :
    ((as.zipIdx (k + 1)).filter fun p => p.2 ≤ k + n) = (as.take n).zipIdx (k + 1) := by
  induction as generalizing k n with
  | nil => simp
  | cons a as ih =>
    cases n with
    | zero =>
      refine List.filter_eq_nil_iff.2 fun p hp => ?_
      have hle := List.le_snd_of_mem_zipIdx hp
      simp
      omega
    | succ n =>
      have hstep := ih (k + 1) n
      rw [show k + 1 + n = k + (n + 1) by omega] at hstep
      rw [List.zipIdx_cons, List.filter_cons_of_pos (by simp), hstep, List.take_succ_cons,
        List.zipIdx_cons]

/-- The rows whose numbers are in the window are the rows of the window, with their numbers. -/
theorem filter_zipIdx (w : Nat × Option Nat) (as : List α) :
    ((as.zipIdx 1).filter fun p => InWindow w p.2) = (cut w as).zipIdx (w.1 + 1) := by
  have hskip := filter_lt_zipIdx 0 w.1 as
  simp only [Nat.zero_add] at hskip
  cases hw : w.2 with
  | none =>
    rw [cut, hw, ← hskip]
    refine List.filter_congr fun p _ => ?_
    simp [InWindow, hw]
  | some n =>
    simp only [cut, hw]
    rw [← filter_le_zipIdx, ← hskip, List.filter_filter]
    refine List.filter_congr fun p _ => ?_
    have hle : (p.2 : Int) ≤ w.1 + n ↔ p.2 ≤ w.1 + n := by omega
    simp [InWindow, hw, hle, and_comm]

theorem exists_perm_drop {skip : Nat} {as bs : List α} (h : bs.Perm (as.drop skip)) :
    ∃ as' : List α, as'.Perm as ∧ as'.drop skip = bs := by
  refine ⟨as.take skip ++ bs, ?_, ?_⟩
  · have hperm := h.append_left (as.take skip)
    rwa [List.take_append_drop] at hperm
  · by_cases hlen : skip ≤ as.length
    · exact List.drop_left' (List.length_take_of_le hlen)
    · rw [List.drop_eq_nil_of_le (by omega), List.perm_nil] at h
      subst h
      simp

theorem exists_perm_take {n : Nat} {as bs : List α} (h : bs.Perm (as.take n)) :
    ∃ as' : List α, as'.Perm as ∧ as'.take n = bs := by
  refine ⟨bs ++ as.drop n, ?_, ?_⟩
  · have hperm := h.append_right (as.drop n)
    rwa [List.take_append_drop] at hperm
  · have hlength := h.length_eq
    rw [List.length_take] at hlength
    by_cases hlen : n ≤ as.length
    · exact List.take_left' (by omega)
    · rw [List.drop_eq_nil_of_le (by omega), List.append_nil, List.take_of_length_le (by omega)]

/-- Every arrangement of the rows in a window is in the window of an arrangement. -/
theorem exists_perm_cut {w : Nat × Option Nat} {as bs : List α} (h : bs.Perm (cut w as)) :
    ∃ as' : List α, as'.Perm as ∧ cut w as' = bs := by
  unfold cut at h ⊢
  cases hw : w.2 with
  | none =>
    rw [hw] at h
    exact exists_perm_drop h
  | some n =>
    rw [hw] at h
    obtain ⟨cs, hcs, hbs⟩ := exists_perm_take h
    obtain ⟨as', has, hdrop⟩ := exists_perm_drop hcs
    exact ⟨as', has, by simp only [hdrop, hbs]⟩

end Cut

namespace Engine

variable {ρ : Type} {e : Engine ρ} {s : Selection} {number : String} {o : Outer}
  {w : Nat × Option Nat} {table : List ρ} {page : Page}

/-- The statement gives the rows of the window with their numbers, in any arrangement unless it is
ordered by the number. -/
theorem numbers_iff (hrange : ∀ r : Int, o.range.Contains r ↔ InWindow w r) :
    e.NumbersPages s number o table page ↔
      ∃ (rows : List ρ) (kept : List (ρ × Nat)), e.Arranges s table rows ∧
        kept.Perm ((cut w rows).zipIdx (w.1 + 1)) ∧
        (o.isSorted → kept.Pairwise fun p q => p.2 ≤ q.2) ∧
        page = ⟨o.shown.getD (e.names s.columns ++ [number]),
          kept.map fun p => project o.shown (e.names s.columns ++ [number]) (e.numbered s p)⟩ := by
  have hkept (rows : List ρ) : ((rows.zipIdx 1).filter fun p => o.range.Contains p.2) =
      (cut w rows).zipIdx (w.1 + 1) := by
    rw [← filter_zipIdx]
    refine List.filter_congr fun p _ => ?_
    simp [hrange]
  simp only [NumbersPages, hkept]

/-- All the columns without an ordering: the rows of the window, each with its number behind it, in
any arrangement. -/
theorem numbers_all_iff (hrange : ∀ r : Int, o.range.Contains r ↔ InWindow w r)
    (hshown : o.shown = none) (hsorted : o.isSorted = false) :
    e.NumbersPages s number o table page ↔
      ∃ (rows : List ρ) (kept : List (ρ × Nat)), e.Arranges s table rows ∧
        kept.Perm ((cut w rows).zipIdx (w.1 + 1)) ∧
        page = ⟨e.names s.columns ++ [number], kept.map (e.numbered s)⟩ := by
  rw [numbers_iff hrange]
  simp [hshown, hsorted, project]

theorem dropLast_numbered (kept : List (ρ × Nat)) :
    (kept.map (e.numbered s)).map List.dropLast = (kept.map Prod.fst).map (e.values s.columns) := by
  simp [numbered]

/-- Without the numbers, what is given are the rows of the window in some arrangement. -/
theorem dropLast_of_numbers {rows : List ρ} {kept : List (ρ × Nat)}
    (hkept : kept.Perm ((cut w rows).zipIdx (w.1 + 1))) :
    (kept.map Prod.fst).Perm (cut w rows) := by
  have hperm := hkept.map Prod.fst
  rwa [List.zipIdx_map_fst] at hperm

/-- Where nothing is ordered, every arrangement is one of a page. -/
theorem pages_of_constant (horder : s.orderOrConstant = "(SELECT 0)") {rows bs : List ρ}
    (hrows : e.Arranges s table rows) (hbs : bs.Perm (cut w rows)) :
    e.Pages s w table ⟨e.names s.columns, bs.map (e.values s.columns)⟩ := by
  obtain ⟨rows', hperm, hcut⟩ := exists_perm_cut hbs
  refine ⟨rows', ⟨hperm.trans hrows.perm, ?_⟩, by rw [hcut]⟩
  rw [horder]
  exact List.pairwise_of_forall e.before_constant

/-- A page of one row has one arrangement. -/
theorem pages_of_le_one {n : Nat} (hn : n ≤ 1) {rows bs : List ρ}
    (hrows : e.Arranges s table rows) (hbs : bs.Perm (cut (w.1, some n) rows)) :
    e.Pages s (w.1, some n) table ⟨e.names s.columns, bs.map (e.values s.columns)⟩ := by
  have hlength : (cut (w.1, some n) rows).length ≤ 1 := by
    simp only [cut, List.length_take]
    omega
  have hbs' : bs = cut (w.1, some n) rows := by
    match hcut : cut (w.1, some n) rows with
    | [] =>
      rw [hcut] at hbs
      exact List.perm_nil.1 hbs
    | [r] =>
      rw [hcut] at hbs
      exact List.perm_singleton.1 hbs
    | _ :: _ :: _ =>
      rw [hcut] at hlength
      simp at hlength
  exact ⟨rows, hrows, by rw [hbs']⟩

/-- The rows are numbers, ordered by their size and shown as they are. -/
def natural : Engine Nat where
  names _ := ["Id"]
  values _ n := [.int (Int64.ofNat n)]
  keeps _ _ := true
  before order m n := order = "(SELECT 0)" ∨ m ≤ n
  before_total _ m n := (Nat.le_total m n).imp .inr .inr
  before_trans _ {_ _ _} hmn hnk := by
    rcases hmn with h | h
    · exact .inl h
    · exact hnk.imp_right (Nat.le_trans h)
  before_constant _ _ := .inl rfl

theorem natural_arranges {table : List Nat} (h : table.Pairwise (· ≤ ·)) :
    natural.Arranges s table table where
  perm := by
    have hkeeps : (table.filter fun r => s.filter.all (natural.keeps · r)) = table :=
      List.filter_eq_self.2 fun _ _ => by simp [natural]
    rw [hkeeps]
  ordered := h.imp .inr

theorem eq_of_natural_arranges (horder : s.orderOrConstant ≠ "(SELECT 0)") {table rows : List Nat}
    (htable : table.Pairwise (· ≤ ·)) (h : natural.Arranges s table rows) : rows = table := by
  have hperm : rows.Perm table := h.perm.trans (natural_arranges htable).perm.symm
  have hordered : rows.Pairwise (· ≤ ·) := h.ordered.imp fun hmn => hmn.resolve_left horder
  exact hperm.eq_of_pairwise (fun _ _ _ _ => Nat.le_antisymm) hordered htable

end Engine

end Sql

namespace Selection

open Sql

variable {s : Selection}

/-! ## The two statements -/

/-- The rows that are skipped, and how many are taken at most. -/
def request (s : Selection) : Nat × Option Nat := (s.skip, s.limit.map (·.toNat))

/-- The same SELECT for a server that has a text for windows. -/
def recent (s : Selection) : Selection := { s with isLegacy := false }

/-- The statement is read as the ordered SELECT with a window. -/
def ReadsPaged (s : Selection) (w : Nat × Option Nat) : Prop :=
  ∃ lead tail,
    s.text .sqlServer =
        .ok ("SELECT " ++ lead ++ s.columns ++ (s.ordered .sqlServer).source .sqlServer ++ tail) ∧
      readPaging? .sqlServer (lex Dialect.sqlServer.delimiters lead)
        (lex Dialect.sqlServer.delimiters tail) = some w

/-- The statement is read as one around a derived table: the rows that the filter keeps, what the
select list shows of them, and their numbers in the ordering. -/
def ReadsNumbered (s : Selection) (number : String) (o : Outer) : Prop :=
  ∃ lead numbering named tail,
    s.text .sqlServer =
        .ok (lead ++ ("SELECT " ++ s.columns ++ numbering ++ s.orderOrConstant ++ named ++
          { s with order := none }.source .sqlServer) ++ tail) ∧
      readNumbering? (lex Dialect.sqlServer.delimiters numbering)
        (lex Dialect.sqlServer.delimiters named) = some number ∧
      readOuter? number (lex Dialect.sqlServer.delimiters lead)
        (lex Dialect.sqlServer.delimiters tail) = some o

theorem readsPaged (s : Selection) : s.recent.ReadsPaged s.request := by
  obtain ⟨lead, tail, htext, hread⟩ := exists_paging (s := s.recent) .sqlServer rfl
  refine ⟨lead, tail, htext, hread.trans ?_⟩
  rw [taken_of_ne (by decide)]
  rfl

/-- The range of the rows in the window. -/
def range (s : Selection) : Range := ⟨s.skip + 1, s.limit.map (s.skip + ·.toNat)⟩

theorem readOuter?_rangeText (first : Nat) (last : Option Nat) :
    readOuter? "row_num" (lex Dialect.sqlServer.delimiters "SELECT * FROM (")
      (lex Dialect.sqlServer.delimiters
        (") AS [results_wrapper] WHERE " ++ rangeText first last)) =
      some ⟨none, ⟨first, last⟩, false⟩ := by
  have htail : Leaves .sqlServer ") AS [results_wrapper] WHERE "
      [.symbol .closing, .symbol (.word "AS"), .symbol (.name "results_wrapper"),
        .symbol (.word "WHERE")] := by
    decide
  have hlead : lex Dialect.sqlServer.delimiters "SELECT * FROM (" =
      [.symbol (.word "SELECT"), .symbol (.other '*'), .symbol (.word "FROM"),
        .symbol .opening] := by
    decide
  rw [hlead, htail.lex_append]
  cases last with
  | none =>
    have hatLeast : Leaves .sqlServer "[row_num] >= "
        [.symbol (.name "row_num"), .symbol (.operator ">=")] := by
      decide
    rw [rangeText_none, lex_toString_end hatLeast]
    simp [readOuter?, readShown?, readRange?, readSorted?]
  | some last =>
    have hbetween : Leaves .sqlServer "[row_num] BETWEEN "
        [.symbol (.name "row_num"), .symbol (.word "BETWEEN")] := by
      decide
    have hand : Leaves .sqlServer " AND " [.symbol (.word "AND")] := by decide
    rw [rangeText_some, String.append_assoc, lex_toString_between hbetween _ (by simp),
      lex_toString_end hand]
    simp [readOuter?, readShown?, readRange?, readSorted?]

/-- The statement for a server without a text for windows. -/
theorem readsNumbered (h : s.isLegacy = true) (hskip : 0 < s.skip) (hfit : s.NumbersFit) :
    s.ReadsNumbered "row_num" ⟨none, s.range, false⟩ := by
  obtain ⟨o, ho⟩ := Option.ne_none_iff_exists'.1 ((skip_pos_iff s).1 hskip)
  refine ⟨"SELECT * FROM (", ", ROW_NUMBER() OVER (ORDER BY ", ") AS [row_num]", _, ?_, by decide,
    readOuter?_rangeText _ _⟩
  have hlead : "SELECT * FROM (SELECT " = "SELECT * FROM (" ++ "SELECT " := by decide
  have hnamed : ") AS [row_num] FROM " = ") AS [row_num]" ++ " FROM " := by decide
  rw [text_of_numbered ho h, rowRange_of_fits ho hfit]
  refine congrArg Except.ok ?_
  unfold rowNumbered
  rw [hlead, hnamed]
  simp only [source, clause, String.append_assoc, String.append_empty]

/-! ## The range and the window -/

theorem contains_range (s : Selection) (r : Int) :
    s.range.Contains r ↔ InWindow s.request r := by
  cases hlimit : s.limit with
  | none =>
    simp only [Range.Contains, InWindow, range, request, hlimit, Option.map_none,
      Option.not_mem_none, false_implies, implies_true, and_true]
    omega
  | some l =>
    simp only [Range.Contains, InWindow, range, request, hlimit, Option.map_some,
      Option.mem_some_iff, forall_eq']
    omega

/-- **The range of row numbers is the window.** On a server without a text for windows, where rows
are skipped, there is a statement that keeps the rows of the window, which the other statement is
read as, if the numbers fit into words of 64 bits. Otherwise the program breaks off at the sum, and
there is no statement. -/
theorem row_range_iff {s : Selection} (h : s.isLegacy = true) (hskip : 0 < s.skip) :
    s.recent.ReadsPaged s.request ∧
      ((∃ number o, s.ReadsNumbered number o ∧
        ∀ r : Int, o.range.Contains r ↔ InWindow s.request r) ↔ s.NumbersFit) ∧
      (s.text .sqlServer = .error .overflow ↔ ¬ s.NumbersFit) := by
  have hbreaks (hfit : ¬ s.NumbersFit) : s.text .sqlServer = .error .overflow :=
    text_of_not_hasText fun htext => hfit (htext rfl h hskip)
  refine ⟨readsPaged s, ⟨?_, fun hfit => ?_⟩, fun herror hfit => ?_, hbreaks⟩
  · rintro ⟨number, o, ⟨lead, numbering, named, tail, htext, -⟩, -⟩
    refine Decidable.byContradiction fun hfit => ?_
    rw [hbreaks hfit] at htext
    cases htext
  · exact ⟨_, _, readsNumbered h hskip hfit, contains_range s⟩
  · obtain ⟨sql, hsql⟩ := exists_text_iff.2 fun (_ : Dialect.sqlServer = .sqlServer) _ _ => hfit
    rw [hsql] at herror
    cases herror

/-- The last page of a table of eleven rows, with room for more. -/
theorem row_range_iff_posts :
    let s : Selection := ⟨"Posts", "*", none, some "[Id] ASC", some 10, some 10, true⟩
    s.isLegacy = true ∧ 0 < s.skip ∧ s.request = (10, some 10) ∧
      ∃ number o, s.ReadsNumbered number o ∧
        ∀ r : Int, o.range.Contains r ↔ InWindow (10, some 10) r := by
  intro s
  obtain ⟨-, hiff, -⟩ := row_range_iff (s := s) rfl (by decide)
  exact ⟨rfl, by decide, rfl, hiff.2 (by decide)⟩

/-- Without a limit but for the greatest number: the last number is no word, and there is no
statement, though the second row is in the window and a recent server has a statement for it. -/
theorem row_range_overflows :
    let s : Selection :=
      ⟨"Posts", "*", none, some "[Id] ASC", some 1, some 18446744073709551615, true⟩
    s.text .sqlServer = .error .overflow ∧ InWindow s.request 2 ∧
      s.recent.text .sqlServer = .ok ("SELECT * FROM [Posts] ORDER BY [Id] ASC OFFSET 1 ROWS " ++
        "FETCH NEXT 18446744073709551615 ROWS ONLY") := by
  intro s
  have hfit : ¬ s.HasText .sqlServer := by decide
  exact ⟨text_of_not_hasText hfit, by decide, congrArg Except.ok (by decide +kernel)⟩

/-! ## The pages of the two statements -/

/-- The statement over numbered rows gives, in every table and whatever the clauses mean, but for
the number of each row only what the statement with the window gives. -/
def KeepsOrder (s : Selection) (number : String) (o : Outer) : Prop :=
  ∀ {ρ : Type} (e : Engine ρ) (table : List ρ) (page : Page),
    e.NumbersPages s number o table page → e.Pages s s.request table page.dropLast

/-- Nothing orders the rows, or at most one is taken. -/
def HasOneOrder (s : Selection) : Prop :=
  s.orderOrConstant = "(SELECT 0)" ∨ ∃ l ∈ s.limit, l.toNat ≤ 1

section

variable {number : String} {o : Outer}
  (hrange : ∀ r : Int, o.range.Contains r ↔ InWindow s.request r)
  (hshown : o.shown = none) (hsorted : o.isSorted = false)
include hrange hshown hsorted

theorem keepsOrder_of_hasOneOrder (h : s.HasOneOrder) : s.KeepsOrder number o := by
  intro ρ e table page hpage
  obtain ⟨rows, kept, hrows, hkept, rfl⟩ :=
    (Engine.numbers_all_iff hrange hshown hsorted).1 hpage
  have hperm := Engine.dropLast_of_numbers hkept
  have hdrop : Page.dropLast ⟨e.names s.columns ++ [number], kept.map (e.numbered s)⟩ =
      ⟨e.names s.columns, (kept.map Prod.fst).map (e.values s.columns)⟩ := by
    rw [Page.dropLast, Engine.dropLast_numbered, List.dropLast_concat]
  rw [hdrop]
  rcases h with hconstant | ⟨l, hl, hone⟩
  · exact Engine.pages_of_constant hconstant hrows hperm
  · have hlimit : s.request = (s.request.1, some l.toNat) := by
      rw [request, Option.mem_def.1 hl]
      rfl
    rw [hlimit] at hperm ⊢
    exact Engine.pages_of_le_one hone hrows hperm

/-- In a table with one row more than is skipped, and another one behind it, the two are given in
either order. -/
theorem hasOneOrder_of_keepsOrder (h : s.KeepsOrder number o) : s.HasOneOrder := by
  refine Classical.byContradiction fun hmany => ?_
  obtain ⟨horder, hlimit⟩ : s.orderOrConstant ≠ "(SELECT 0)" ∧ ∀ l ∈ s.limit, 1 < l.toNat := by
    simpa [HasOneOrder] using hmany
  let table := List.replicate (s.skip + 1) 0 ++ [1]
  have htable : table.Pairwise (· ≤ ·) := by
    simp [table, List.pairwise_append, List.pairwise_replicate]
  have hcut : cut s.request table = [0, 1] := by
    have hdrop : table.drop s.skip = [0, 1] := by
      simp [table, List.replicate_succ', List.append_assoc]
    cases hl : s.limit with
    | none => simpa [cut, request, hl] using hdrop
    | some l =>
      have hmore := hlimit l hl
      simp only [cut, request, hl, Option.map_some, hdrop]
      exact List.take_of_length_le hmore
  -- the second row of the page before the first one
  let kept : List (Nat × Nat) := [(1, s.skip + 2), (0, s.skip + 1)]
  have hpage : Engine.natural.NumbersPages s number o table
      ⟨["Id", number], kept.map (Engine.natural.numbered s)⟩ := by
    refine (Engine.numbers_all_iff hrange hshown hsorted).2
      ⟨table, kept, Engine.natural_arranges htable, ?_, rfl⟩
    rw [hcut]
    exact List.Perm.swap _ _ _
  obtain ⟨rows, hrows, hgiven⟩ := h _ _ _ hpage
  obtain rfl := Engine.eq_of_natural_arranges horder htable hrows
  rw [hcut, Page.dropLast, Engine.dropLast_numbered] at hgiven
  have hswapped : [[Value.int 1], [Value.int 0]] = [[Value.int 0], [Value.int 1]] :=
    (Page.mk.inj hgiven).2
  exact absurd hswapped (by decide)

end

/-- **Pages by row numbers.** On a server without a text for windows, where rows are skipped and
their numbers fit into words of 64 bits, the statement gives the rows of the page, each with its
number as one more column, in any arrangement. So what it gives is never what the statement with the
window gives; without the numbers it is, in every table, exactly where there is one order only:
where the rows are not ordered, or at most one is taken. -/
theorem numbered_pages {s : Selection} (h : s.isLegacy = true) (hskip : 0 < s.skip)
    (hfit : s.NumbersFit) :
    s.recent.ReadsPaged s.request ∧ ∃ number o, s.ReadsNumbered number o ∧
      (∀ {ρ : Type} (e : Engine ρ) (table : List ρ) (page : Page),
        e.NumbersPages s number o table page ↔
          ∃ (rows : List ρ) (kept : List (ρ × Nat)), e.Arranges s table rows ∧
            kept.Perm ((cut s.request rows).zipIdx (s.skip + 1)) ∧
            page = ⟨e.names s.columns ++ [number], kept.map (e.numbered s)⟩) ∧
      (∀ {ρ : Type} (e : Engine ρ) (table : List ρ) (page : Page),
        e.NumbersPages s number o table page → ¬ e.Pages s s.request table page) ∧
      (s.KeepsOrder number o ↔ s.HasOneOrder) := by
  have hrange := contains_range s
  refine ⟨readsPaged s, _, _, readsNumbered h hskip hfit, fun e table page =>
    Engine.numbers_all_iff hrange rfl rfl, fun e table page hpage => ?_,
    hasOneOrder_of_keepsOrder hrange rfl rfl, keepsOrder_of_hasOneOrder hrange rfl rfl⟩
  obtain ⟨rows, kept, -, -, rfl⟩ := (Engine.numbers_all_iff hrange rfl rfl).1 hpage
  rintro ⟨rows', -, hgiven⟩
  -- there is one column more
  have hheader := congrArg (List.length ∘ Page.header) hgiven
  simp at hheader

/-- The second page of ten rows. -/
theorem numbered_pages_posts :
    let s : Selection := ⟨"Posts", "[Title]", none, some "[Id] ASC", some 10, some 10, true⟩
    s.isLegacy = true ∧ 0 < s.skip ∧ s.NumbersFit ∧
      ∃ number o, s.ReadsNumbered number o ∧ ¬ s.KeepsOrder number o := by
  intro s
  obtain ⟨-, number, o, hread, -, -, hiff⟩ := numbered_pages (s := s) rfl (by decide) (by decide)
  refine ⟨rfl, by decide, by decide, number, o, hread, fun hkeeps => ?_⟩
  rcases hiff.1 hkeeps with horder | ⟨l, hl, hone⟩
  · exact absurd horder (by decide)
  · obtain rfl := Option.some.inj hl
    exact absurd hone (by decide)

/-- Three rows of which the first is skipped: the others come with their numbers and may come in the
wrong order. -/
theorem numbered_pages_differ :
    let s : Selection := ⟨"Posts", "[Id]", none, some "[Id] ASC", some 1, none, true⟩
    let o : Outer := ⟨none, ⟨2, none⟩, false⟩
    let page : Page := ⟨["Id", "row_num"], [[.int 3, .int 3], [.int 2, .int 2]]⟩
    s.recent.ReadsPaged (1, none) ∧ s.ReadsNumbered "row_num" o ∧
      Engine.natural.NumbersPages s "row_num" o [1, 2, 3] page ∧
      ∀ page', Engine.natural.Pages s (1, none) [1, 2, 3] page' →
        page'.header = ["Id"] ∧ page'.rows = [[.int 2], [.int 3]] := by
  intro s o page
  have htable : [1, 2, 3].Pairwise (· ≤ ·) := by decide
  refine ⟨readsPaged s, readsNumbered rfl (by decide) (by decide), ?_, ?_⟩
  · refine ⟨[1, 2, 3], [(3, 3), (2, 2)], Engine.natural_arranges htable, ?_, by simp [o], by decide⟩
    exact List.Perm.swap _ _ _
  · rintro page' ⟨rows, hrows, rfl⟩
    obtain rfl := Engine.eq_of_natural_arranges (by decide) htable hrows
    exact ⟨rfl, rfl⟩

end Selection

end Polydialect
