import Polydialect.Proofs.Aggregating
import Polydialect.Proofs.Lexing

/-!
# The window in the text of a SELECT

An engine reads a window from a clause at the end of the statement, or on SQL Server from one before
the select list. `Sql.readPaging?` reads these clauses by the grammar of each engine: LIMIT and
OFFSET on MySQL, PostgreSQL and SQLite, OFFSET and FETCH on Oracle and SQL Server, and TOP on SQL
Server.

* `Selection.readTail?_limitText`: the clause at the end is read as the window;
* `Selection.exists_paging`: every SELECT is the statement without a window and one such clause;
* `Selection.text_eq_iff`: so SELECTs that differ in their windows differ, but for the row cap of
  MySQL;
* `Selection.text_encodes_window`: both together.
-/

namespace Polydialect

namespace Sql

/-! ## Numbers and words -/

variable {d : Dialect}

theorem started?_of_isDigit {c : Char} (h : c.isDigit = true) : Run.started? c = some .number := by
  have hd : 48 ≤ c.toNat ∧ c.toNat ≤ 57 := by
    simpa [Char.isDigit, UInt32.le_iff_toNat_le] using h
  have hletter : c.isAlpha = false := by
    rw [Bool.eq_false_iff]
    intro halpha
    rcases Bool.or_eq_true_iff.1 halpha with hupper | hlower
    · have hlow : 65 ≤ c.toNat := (of_decide_eq_true hupper).1
      omega
    · have hlow : 97 ≤ c.toNat := of_decide_eq_true (Bool.and_eq_true_iff.1 hlower).1
      omega
  have hscore : c ≠ '_' := by
    rintro rfl
    exact absurd h (by decide)
  simp [Run.started?, hletter, hscore, h]

theorem tokens_digits {ds : List Char} (h : ∀ c ∈ ds, c.isDigit = true) (acc : List Char) :
    (Scan.run .number acc).tokens d.delimiters ds =
        [.symbol (.number (Nat.ofDigitChars 10 (acc.reverse ++ ds) 0))] ∧
      (Scan.run .number acc).after d.delimiters ds = .run .number (ds.reverse ++ acc) := by
  induction ds generalizing acc with
  | nil => simp [Scan.tokens, Scan.finish, Run.symbol]
  | cons c ds ih =>
    obtain ⟨hc, hds⟩ := List.forall_mem_cons.1 h
    obtain ⟨htokens, hafter⟩ := ih hds (c :: acc)
    have hstep : (Scan.run .number acc).step d.delimiters c = ([], .run .number (c :: acc)) := by
      simp [Scan.step, Scan.takes, Run.continues, started?_of_isDigit hc, Scan.extend]
    rw [Scan.tokens, Scan.after_cons, hstep]
    constructor
    · rw [htokens]
      simp
    · rw [hafter]
      simp

/-- A number is one token. -/
theorem lex_number (d : Dialect) (n : Nat) :
    lex d.delimiters (toString n) = [.symbol (.number n)] ∧
      ¬ (Scan.between.after d.delimiters (toString n).toList).IsOpen := by
  have hdigits : ∀ c ∈ Nat.toDigits 10 n, c.isDigit = true :=
    fun c hc => Nat.isDigit_of_mem_toDigits (by decide) (by decide) hc
  obtain ⟨c, ds, hds⟩ : ∃ c ds, Nat.toDigits 10 n = c :: ds :=
    List.exists_cons_of_ne_nil Nat.toDigits_ne_nil
  rw [hds] at hdigits
  obtain ⟨hc, hrest⟩ := List.forall_mem_cons.1 hdigits
  have hopening : c ≠ d.delimiters.opening := by
    rintro rfl
    revert hc
    cases d <;> decide
  have hstep : Scan.between.step d.delimiters c = ([], .run .number [c]) := by
    simp [Scan.step, Scan.takes, Scan.finish, Scan.start, hopening, started?_of_isDigit hc]
  obtain ⟨htokens, hafter⟩ := tokens_digits (d := d) hrest [c]
  have hlist : (toString n).toList = c :: ds := by
    rw [Nat.toString_eq_ofList_toDigits, String.toList_ofList, hds]
  rw [lex, hlist, Scan.tokens, Scan.after_cons, hstep, htokens, hafter]
  refine ⟨?_, id⟩
  rw [List.nil_append, List.reverse_singleton, List.singleton_append, ← hds,
    Nat.ofDigitChars_ten_toDigits]

/-- The text lexes to tokens and ends between tokens. -/
structure Leaves (d : Dialect) (w : String) (ts : List (Token Unit)) : Prop where
  tokens : lex d.delimiters w = ts
  between : Scan.between.after d.delimiters w.toList = .between

instance (d : Dialect) (w : String) (ts : List (Token Unit)) : Decidable (Leaves d w ts) :=
  decidable_of_iff (lex d.delimiters w = ts ∧ Scan.between.after d.delimiters w.toList = .between)
    ⟨fun h => ⟨h.1, h.2⟩, fun h => ⟨h.tokens, h.between⟩⟩

theorem Leaves.lex_append {w : String} {ts : List (Token Unit)} (h : Leaves d w ts) (s : String) :
    lex d.delimiters (w ++ s) = ts ++ lex d.delimiters s := by
  rw [lex, String.toList_append, (Scan.tokens_append_of_between h.between _).1, ← h.tokens]
  rfl

theorem lex_number_append (d : Dialect) (n : Nat) {s : String} {c : Char}
    (h : s.toList.head? = some c) (hc : Scan.Separates d.delimiters c) :
    lex d.delimiters (toString n ++ s) = .symbol (.number n) :: lex d.delimiters s := by
  obtain ⟨b, hs⟩ := List.head?_eq_some_iff.1 h
  obtain ⟨htokens, hopen⟩ := lex_number d n
  rw [lex, String.toList_append, hs, (Scan.tokens_append hopen hc).1, ← hs]
  exact congrArg (· ++ _) htokens

/-! ## Reading a window -/

/-- What stands behind LIMIT; MySQL writes the row cap and SQLite a negative number where there is
no limit. -/
def readCount? (d : Dialect) : List (Token Unit) → Option (Option Nat × List (Token Unit))
  | .symbol (.number n) :: ts =>
    some (if d = .mysql ∧ n = 18446744073709551615 then none else some n, ts)
  | .symbol (.other '-') :: .symbol (.number _) :: ts =>
    if d = .sqlite then some (none, ts) else none
  | .symbol (.word "ALL") :: ts => if d = .postgres then some (none, ts) else none
  | _ => none

/-- A clause OFFSET up to the end. -/
def readOffset? : List (Token Unit) → Option Nat
  | [] => some 0
  | [.symbol (.word "OFFSET"), .symbol (.number n)] => some n
  | _ => none

def isRows (w : String) : Bool := w = "ROW" || w = "ROWS"

/-- A clause FETCH up to the end. -/
def readFetch? : List (Token Unit) → Option (Option Nat)
  | [] => some none
  | [.symbol (.word "FETCH"), .symbol (.word which), .symbol (.number n), .symbol (.word rows),
      .symbol (.word "ONLY")] =>
    if (which = "FIRST" || which = "NEXT") && isRows rows then some (some n) else none
  | _ => none

/-- The clauses LIMIT and OFFSET. -/
def readLimit? (d : Dialect) : List (Token Unit) → Option (Nat × Option Nat)
  | .symbol (.word "LIMIT") :: ts => do
    let (take, ts) ← readCount? d ts
    return (← readOffset? ts, take)
  | [] => some (0, none)
  | ts => if d = .postgres then (readOffset? ts).map fun skip => (skip, none) else none

/-- The clauses OFFSET and FETCH; on SQL Server the second one needs the first one. -/
def readRows? (d : Dialect) : List (Token Unit) → Option (Nat × Option Nat)
  | .symbol (.word "OFFSET") :: .symbol (.number skip) :: .symbol (.word rows) :: ts =>
    if isRows rows then (readFetch? ts).map fun take => (skip, take) else none
  | [] => some (0, none)
  | ts => if d = .oracle then (readFetch? ts).map fun take => (0, take) else none

/-- The window that is given at the end of a SELECT: the rows that are skipped, and how many are
taken at most. -/
def readTail? (d : Dialect) (ts : List (Token Unit)) : Option (Nat × Option Nat) :=
  match d with
  | .mysql | .postgres | .sqlite => readLimit? d ts
  | .sqlServer | .oracle => readRows? d ts

/-- The window that is given before the select list or at the end. -/
def readPaging? (d : Dialect) (lead tail : List (Token Unit)) : Option (Nat × Option Nat) :=
  match d, lead, tail with
  | _, [], ts => readTail? d ts
  | .sqlServer, [.symbol (.word "TOP"), .symbol .opening, .symbol (.number n), .symbol .closing],
    [] => some (0, some n)
  | _, _, _ => none

end Sql

/-! ## Windows of a SELECT -/

namespace Selection

open Sql

variable {d : Dialect} {s : Selection}

/-- The number of rows that a MySQL statement takes at most where it has no limit. -/
def rowCap : UInt64 := 18446744073709551615

/-- How many rows are taken at most. -/
def taken (d : Dialect) (limit : Option UInt64) : Option Nat :=
  (limit.filter fun n => !(d = .mysql && n = rowCap)).map (·.toNat)

/-- The SELECT to which a window is added: on SQL Server rows are skipped in an ordering. -/
def ordered (d : Dialect) (s : Selection) : Selection :=
  if d = .sqlServer ∧ 0 < s.skip then { s with order := some s.orderOrConstant } else s

theorem readCount?_number (d : Dialect) (n : UInt64) (ts : List (Token Unit)) :
    readCount? d (.symbol (.number n.toNat) :: ts) = some (taken d (some n), ts) := by
  have hcap : n.toNat = 18446744073709551615 ↔ n = rowCap :=
    UInt64.toNat_inj (b := rowCap)
  rw [readCount?, taken]
  by_cases h : d = .mysql ∧ n = rowCap
  · obtain ⟨rfl, rfl⟩ := h
    rfl
  · rw [if_neg (by rwa [hcap]), Option.filter_some, if_pos (by grind)]
    rfl

theorem taken_of_ne (h : d ≠ .mysql) (limit : Option UInt64) :
    taken d limit = limit.map (·.toNat) := by
  cases limit with
  | none => rfl
  | some n => simp [taken, h]

theorem lex_toString_end {w : String} {ts : List (Token Unit)} (h : Leaves d w ts) (n : Nat) :
    lex d.delimiters (w ++ toString n) = ts ++ [.symbol (.number n)] := by
  rw [h.lex_append, (lex_number d n).1]

theorem lex_toString_between {w t : String} {ts : List (Token Unit)} (h : Leaves d w ts) (n : Nat)
    (ht : t.toList.head? = some ' ') :
    lex d.delimiters (w ++ toString n ++ t) = ts ++ .symbol (.number n) :: lex d.delimiters t := by
  rw [String.append_assoc, h.lex_append, lex_number_append d n ht (Scan.separates_blank d)]

theorem lex_number_end {w : String} {ts : List (Token Unit)} (h : Leaves d w ts) (n : UInt64) :
    lex d.delimiters (w ++ number n) = ts ++ [.symbol (.number n.toNat)] :=
  lex_toString_end h n.toNat

theorem lex_number_between {w t : String} {ts : List (Token Unit)} (h : Leaves d w ts) (n : UInt64)
    (ht : t.toList.head? = some ' ') :
    lex d.delimiters (w ++ number n ++ t) =
      ts ++ .symbol (.number n.toNat) :: lex d.delimiters t :=
  lex_toString_between h n.toNat ht

theorem leaves_limit (d : Dialect) : Leaves d " LIMIT " [.symbol (.word "LIMIT")] := by
  cases d <;> decide

theorem leaves_offset (d : Dialect) : Leaves d " OFFSET " [.symbol (.word "OFFSET")] := by
  cases d <;> decide

theorem leaves_fetch (d : Dialect) :
    Leaves d " FETCH NEXT " [.symbol (.word "FETCH"), .symbol (.word "NEXT")] := by
  cases d <;> decide

theorem leaves_rowsFetch (d : Dialect) : Leaves d " ROWS FETCH NEXT "
    [.symbol (.word "ROWS"), .symbol (.word "FETCH"), .symbol (.word "NEXT")] := by
  cases d <;> decide

theorem lex_rows (d : Dialect) : lex d.delimiters " ROWS" = [.symbol (.word "ROWS")] := by
  cases d <;> decide

theorem lex_rowsOnly (d : Dialect) :
    lex d.delimiters " ROWS ONLY" = [.symbol (.word "ROWS"), .symbol (.word "ONLY")] := by
  cases d <;> decide

/-- Rows are skipped without a limit: each dialect has its own words for a limit that is none. -/
theorem readLimit?_unlimited (h : d = .mysql ∨ d = .postgres ∨ d = .sqlite) {o : UInt64}
    (hskip : s.skipped? = some o) (hlimit : s.limit = none) :
    readLimit? d (lex d.delimiters (s.limitText d)) = some (o.toNat, none) := by
  rcases h with rfl | rfl | rfl
  · have htext : s.limitText .mysql = " LIMIT 18446744073709551615 OFFSET " ++ number o := by
      simp [limitText, hskip, hlimit]
    have hkeywords : Leaves .mysql " LIMIT 18446744073709551615 OFFSET "
        [.symbol (.word "LIMIT"), .symbol (.number 18446744073709551615),
          .symbol (.word "OFFSET")] := by
      decide
    rw [htext, lex_number_end hkeywords]
    rfl
  · have htext : s.limitText .postgres = " OFFSET " ++ number o := by
      simp [limitText, hskip, hlimit]
    rw [htext, lex_number_end (leaves_offset _)]
    rfl
  · have htext : s.limitText .sqlite = " LIMIT -1 OFFSET " ++ number o := by
      simp [limitText, hskip, hlimit]
    have hkeywords : Leaves .sqlite " LIMIT -1 OFFSET "
        [.symbol (.word "LIMIT"), .symbol (.other '-'), .symbol (.number 1),
          .symbol (.word "OFFSET")] := by
      decide
    rw [htext, lex_number_end hkeywords]
    rfl

theorem readLimit?_limitText (h : d = .mysql ∨ d = .postgres ∨ d = .sqlite) :
    readLimit? d (lex d.delimiters (s.limitText d)) = some (s.skip, taken d s.limit) := by
  rw [skip_eq]
  cases hskip : s.skipped? with
  | none =>
    cases hlimit : s.limit with
    | none =>
      have htext : s.limitText d = "" := by simp [limitText, hskip, hlimit]
      rw [htext]
      rfl
    | some l =>
      have htext : s.limitText d = " LIMIT " ++ number l := by
        rcases h with rfl | rfl | rfl <;> simp [limitText, hskip, hlimit]
      rw [htext, lex_number_end (leaves_limit d)]
      simp [readLimit?, readCount?_number, readOffset?]
  | some o =>
    cases hlimit : s.limit with
    | some l =>
      have htext : s.limitText d = " LIMIT " ++ number l ++ (" OFFSET " ++ number o) := by
        rcases h with rfl | rfl | rfl <;> simp [limitText, hskip, hlimit, String.append_assoc]
      rw [htext, lex_number_between (leaves_limit d) l (by simp),
        lex_number_end (leaves_offset d)]
      simp [readLimit?, readCount?_number, readOffset?]
    | none =>
      rw [readLimit?_unlimited h hskip hlimit]
      rfl

theorem readRows?_limitText
    (h : d = .oracle ∨ d = .sqlServer ∧ (s.skipped? = none → s.limit = none)) :
    readRows? d (lex d.delimiters (s.limitText d)) = some (s.skip, taken d s.limit) := by
  have hmysql : d ≠ .mysql := by
    rcases h with rfl | ⟨rfl, -⟩ <;> decide
  rw [skip_eq, taken_of_ne hmysql]
  cases hskip : s.skipped? with
  | none =>
    cases hlimit : s.limit with
    | none =>
      have htext : s.limitText d = "" := by simp [limitText, hskip, hlimit]
      rw [htext]
      rfl
    | some l =>
      rcases h with rfl | ⟨rfl, h⟩
      · have htext : s.limitText .oracle = " FETCH NEXT " ++ number l ++ " ROWS ONLY" := by
          simp [limitText, hskip, hlimit]
        rw [htext, lex_number_between (leaves_fetch _) l (by simp), lex_rowsOnly]
        rfl
      · rw [h hskip] at hlimit
        cases hlimit
  | some o =>
    cases hlimit : s.limit with
    | none =>
      have htext : s.limitText d = " OFFSET " ++ number o ++ " ROWS" := by
        rcases h with rfl | ⟨rfl, -⟩ <;> simp [limitText, hskip, hlimit]
      rw [htext, lex_number_between (leaves_offset d) o (by simp), lex_rows]
      rfl
    | some l =>
      have htext : s.limitText d = " OFFSET " ++ number o ++
          (" ROWS FETCH NEXT " ++ number l ++ " ROWS ONLY") := by
        rcases h with rfl | ⟨rfl, -⟩ <;> simp [limitText, hskip, hlimit, String.append_assoc]
      rw [htext, lex_number_between (leaves_offset d) o (by simp),
        lex_number_between (leaves_rowsFetch d) l (by simp), lex_rowsOnly]
      rfl

/-- The clause at the end is read as the window; SQL Server has none without skipped rows. -/
theorem readTail?_limitText (h : d = .sqlServer → s.skipped? = none → s.limit = none) :
    readTail? d (lex d.delimiters (s.limitText d)) = some (s.skip, taken d s.limit) := by
  cases d with
  | mysql => exact readLimit?_limitText (.inl rfl)
  | postgres => exact readLimit?_limitText (.inr (.inl rfl))
  | sqlite => exact readLimit?_limitText (.inr (.inr rfl))
  | oracle => exact readRows?_limitText (.inl rfl)
  | sqlServer => exact readRows?_limitText (.inr ⟨rfl, h rfl⟩)

theorem readPaging?_empty (d : Dialect) (ts : List (Token Unit)) :
    readPaging? d (lex d.delimiters "") ts = readTail? d ts := by
  cases d <;> rfl

theorem text_top {l : UInt64} (hskip : s.skipped? = none) (hlimit : s.limit = some l) :
    s.text .sqlServer =
      .ok ("SELECT " ++ ("TOP (" ++ number l ++ ") " ++ (s.columns ++ s.source .sqlServer))) := by
  have htop : "SELECT TOP (" = "SELECT " ++ "TOP (" := by decide
  rw [text_eq_ok_iff.2 (.top hskip hlimit), htop]
  simp only [String.append_assoc]

theorem text_ordered {o : UInt64} (h : s.isLegacy = false) (hskip : s.skipped? = some o) :
    s.text .sqlServer =
      .ok ({ s with order := some s.orderOrConstant }.base .sqlServer ++ s.limitText .sqlServer) :=
  text_eq_ok_iff.2 (.ordered hskip h)

theorem lex_top (l : UInt64) : lex Dialect.sqlServer.delimiters ("TOP (" ++ number l ++ ") ") =
    [.symbol (.word "TOP"), .symbol .opening, .symbol (.number l.toNat), .symbol .closing] := by
  have htop : Leaves .sqlServer "TOP (" [.symbol (.word "TOP"), .symbol .opening] := by decide
  have hclose : lex Dialect.sqlServer.delimiters ") " = [.symbol .closing] := by decide
  have hseparates : Scan.Separates Dialect.sqlServer.delimiters ')' :=
    ⟨fun k => by cases k <;> rfl, by decide⟩
  rw [String.append_assoc, htop.lex_append, number, lex_number_append _ _ rfl hseparates, hclose]
  rfl

/-- A SELECT is the statement without a window, with an ordering where one is needed, and one clause
that is read as the window. -/
theorem exists_paging (d : Dialect) (h : s.isLegacy = false) : ∃ lead tail,
    s.text d = .ok ("SELECT " ++ lead ++ s.columns ++ (s.ordered d).source d ++ tail) ∧
      readPaging? d (lex d.delimiters lead) (lex d.delimiters tail) =
        some (s.skip, taken d s.limit) := by
  by_cases hd : d = .sqlServer
  · subst hd
    cases hskip : s.skipped? with
    | none =>
      have hzero : ¬ 0 < s.skip := by
        rw [skip_pos_iff, hskip]
        exact not_not_intro rfl
      have hordered : s.ordered .sqlServer = s := if_neg fun hpos => hzero hpos.2
      rw [hordered, Nat.eq_zero_of_not_pos hzero]
      cases hlimit : s.limit with
      | none =>
        refine ⟨"", "", ?_, rfl⟩
        rw [text_eq_ok_iff.2 (.whole hskip hlimit)]
        simp [base]
      | some l =>
        refine ⟨"TOP (" ++ number l ++ ") ", "", ?_, ?_⟩
        · rw [text_top hskip hlimit]
          simp only [String.append_assoc, String.append_empty]
        · rw [lex_top]
          rfl
    | some o =>
      have hpos : 0 < s.skip := by
        rw [skip_pos_iff, hskip]
        exact Option.some_ne_none o
      have hordered : s.ordered .sqlServer = { s with order := some s.orderOrConstant } :=
        if_pos ⟨rfl, hpos⟩
      refine ⟨"", s.limitText .sqlServer, ?_, ?_⟩
      · rw [text_ordered h hskip, hordered, String.append_empty]
        rfl
      · rw [readPaging?_empty]
        refine readTail?_limitText fun _ hnone => ?_
        rw [hskip] at hnone
        cases hnone
  · have hordered : s.ordered d = s := if_neg fun hpos => hd hpos.1
    refine ⟨"", s.limitText d, ?_, ?_⟩
    · rw [text_of_ne hd, hordered, String.append_empty]
      rfl
    · rw [readPaging?_empty]
      exact readTail?_limitText fun hsqlServer => absurd hsqlServer hd

/-! ## Different windows -/

/-- The same SELECT with another window. -/
def withWindow (s : Selection) (offset limit : Option UInt64) : Selection :=
  { s with offset := offset, limit := limit }

variable {offset limit : Option UInt64}

/-- On SQL Server a clause at the end has an `F`, and TOP has none. -/
theorem count_text_eq_iff (h : s.isLegacy = false) {sql : String}
    (hsql : s.text .sqlServer = .ok sql) :
    sql.toList.count 'F' = (s.base .sqlServer).toList.count 'F' ↔ s.skipped? = none := by
  cases hskip : s.skipped? with
  | none =>
    refine iff_of_true ?_ rfl
    cases hlimit : s.limit with
    | none =>
      rw [text_eq_ok_iff.2 (.whole hskip hlimit)] at hsql
      cases hsql
      rfl
    | some l =>
      rw [text_top hskip hlimit] at hsql
      cases hsql
      have hdigits : 'F' ∉ (number l).toList := by
        rw [number, Nat.toString_eq_ofList_toDigits, String.toList_ofList]
        intro hF
        exact absurd (Nat.isDigit_of_mem_toDigits (by decide) (by decide) hF) (by decide)
      have hlead : ("TOP (" ++ number l ++ ") ").toList.count 'F' = 0 := by
        rw [List.count_eq_zero]
        simpa using hdigits
      rw [base]
      simp only [String.toList_append, List.count_append] at hlead ⊢
      omega
  | some o =>
    rw [text_ordered h hskip] at hsql
    cases hsql
    refine iff_of_false ?_ (Option.some_ne_none o)
    obtain ⟨extra, hextra⟩ : ∃ extra, { s with order := some s.orderOrConstant }.base .sqlServer =
        s.base .sqlServer ++ extra := by
      cases ho : s.order with
      | none => exact ⟨" ORDER BY (SELECT 0)", by simp [base, source, clause, ho, orderOrConstant,
          String.append_assoc]⟩
      | some order => exact ⟨"", by simp [base, source, clause, ho, orderOrConstant]⟩
    have htail : 0 < (s.limitText .sqlServer).toList.count 'F' := by
      rw [List.count_pos_iff]
      cases hlimit : s.limit with
      | none => simp [limitText, hskip, hlimit]
      | some l => simp [limitText, hskip, hlimit]
    rw [hextra]
    simp only [String.toList_append, List.count_append]
    omega

/-- A clause at the end tells the window. -/
theorem read_of_limitText_eq {t : Selection} (ht : s.limitText d = t.limitText d)
    (hs : d = .sqlServer → s.skipped? = none → s.limit = none)
    (hs' : d = .sqlServer → t.skipped? = none → t.limit = none) :
    s.skip = t.skip ∧ taken d s.limit = taken d t.limit := by
  have hread := readTail?_limitText hs
  rw [ht, readTail?_limitText hs'] at hread
  exact Prod.mk.inj (Option.some.inj hread.symm)

/-- So does TOP, which makes the statement longer. -/
theorem limit_of_top_eq {t : Selection} (hbase : t.base .sqlServer = s.base .sqlServer)
    (hskip : s.skipped? = none) (hskip' : t.skipped? = none)
    (ht : s.text .sqlServer = t.text .sqlServer) : s.limit = t.limit := by
  have hlonger {u : Selection} {l : UInt64} (hu : u.skipped? = none) (hl : u.limit = some l) :
      ∃ sql, u.text .sqlServer = .ok sql ∧
        (u.base .sqlServer).toList.length < sql.toList.length := by
    refine ⟨_, text_top hu hl, ?_⟩
    rw [base]
    simp only [String.toList_append, List.length_append]
    have hlead : 0 < "TOP (".toList.length := by decide
    omega
  have hplain {u : Selection} (hu : u.skipped? = none) (hl : u.limit = none) :
      u.text .sqlServer = .ok (u.base .sqlServer) := text_eq_ok_iff.2 (.whole hu hl)
  cases hl : s.limit with
  | none =>
    cases hl' : t.limit with
    | none => rfl
    | some l' =>
      obtain ⟨sql, hsql, hlt⟩ := hlonger hskip' hl'
      rw [← ht, hplain hskip hl] at hsql
      rw [← Except.ok.inj hsql, hbase] at hlt
      exact absurd hlt (Nat.lt_irrefl _)
  | some l =>
    cases hl' : t.limit with
    | none =>
      obtain ⟨sql, hsql, hlt⟩ := hlonger hskip hl
      rw [ht, hplain hskip' hl'] at hsql
      rw [← Except.ok.inj hsql, hbase] at hlt
      exact absurd hlt (Nat.lt_irrefl _)
    | some l' =>
      rw [base, base, String.append_assoc, String.append_assoc, String.append_right_inj] at hbase
      rw [text_top hskip hl, text_top hskip' hl', hbase, Except.ok.injEq, String.append_right_inj,
        String.append_left_inj] at ht
      have hlex := lex_top l
      rw [ht, lex_top] at hlex
      simp only [List.cons.injEq, Token.symbol.injEq, Symbol.number.injEq, true_and,
        and_true] at hlex
      rw [UInt64.toNat_inj.1 hlex]

/-- The text of a SELECT on SQL Server tells the window. -/
theorem window_of_sqlServer (h : s.isLegacy = false)
    (ht : s.text .sqlServer = (s.withWindow offset limit).text .sqlServer) :
    s.skip = (s.withWindow offset limit).skip ∧ s.limit = limit := by
  have hbase : (s.withWindow offset limit).base .sqlServer = s.base .sqlServer := rfl
  obtain ⟨sql, hsql⟩ := exists_text_of_recent h .sqlServer
  have hcount := count_text_eq_iff h hsql
  rw [ht] at hsql
  rw [← hbase, count_text_eq_iff (s := s.withWindow offset limit) h hsql] at hcount
  cases hskip : s.skipped? with
  | none =>
    have hskip' := hcount.2 hskip
    have hlimit := limit_of_top_eq hbase hskip hskip' ht
    refine ⟨?_, hlimit⟩
    rw [skip_eq, skip_eq, hskip, hskip']
  | some o =>
    have hskip' : (s.withWindow offset limit).skipped? ≠ none := by
      intro hnone
      rw [hcount.1 hnone] at hskip
      cases hskip
    obtain ⟨o', ho'⟩ := Option.ne_none_iff_exists'.1 hskip'
    rw [text_ordered h hskip, text_ordered (s := s.withWindow offset limit) h ho'] at ht
    have htail : s.limitText .sqlServer = (s.withWindow offset limit).limitText .sqlServer :=
      (String.append_right_inj _).1 (Except.ok.inj ht)
    obtain ⟨hsame, htaken⟩ := read_of_limitText_eq htail
      (fun _ hnone => by rw [hskip] at hnone; cases hnone) (fun _ hnone => absurd hnone hskip')
    rw [taken_of_ne (by decide), taken_of_ne (by decide)] at htaken
    exact ⟨hsame, Option.map_injective (fun _ _ => UInt64.toNat_inj.1) htaken⟩

theorem skipped?_congr {t : Selection} (h : s.skip = t.skip) : s.skipped? = t.skipped? := by
  rw [skipped?_eq, skipped?_eq, UInt64.toNat_inj.1 h]

/-- One of the limits is the row cap, and the other one is missing. -/
def Capped (a b : Option UInt64) : Prop := a = none ∧ b = some rowCap ∨ a = some rowCap ∧ b = none

theorem taken_mysql_inj {a b : Option UInt64} (h : taken .mysql a = taken .mysql b) :
    a = b ∨ Capped a b := by
  have hcap : taken .mysql (some rowCap) = none := rfl
  have hother {n : UInt64} (hn : n ≠ rowCap) : taken .mysql (some n) = some n.toNat := by
    rw [taken, Option.filter_some, if_pos (by simp [hn])]
    rfl
  cases a with
  | none =>
    cases b with
    | none => exact .inl rfl
    | some n =>
      by_cases hn : n = rowCap
      · exact .inr (.inl ⟨rfl, congrArg some hn⟩)
      · rw [hother hn] at h
        cases h
  | some m =>
    by_cases hm : m = rowCap
    · subst hm
      cases b with
      | none => exact .inr (.inr ⟨rfl, rfl⟩)
      | some n =>
        by_cases hn : n = rowCap
        · exact .inl (congrArg some hn.symm)
        · rw [hother hn] at h
          cases h
    · rw [hother hm] at h
      cases b with
      | none => cases h
      | some n =>
        by_cases hn : n = rowCap
        · rw [hn] at h
          cases h
        · rw [hother hn] at h
          exact .inl (congrArg some (UInt64.toNat_inj.1 (Option.some.inj h)))

/-- The row cap is what MySQL writes where rows are skipped and there is no limit. -/
theorem limitText_mysql_eq_iff {t : Selection} (hskip : s.skip = t.skip)
    (hcapped : Capped s.limit t.limit) :
    s.limitText .mysql = t.limitText .mysql ↔ 0 < s.skip := by
  have hsame := skipped?_congr hskip
  rw [skip_pos_iff]
  cases ho : s.skipped? with
  | none =>
    rw [ho] at hsame
    refine iff_of_false ?_ (not_not_intro rfl)
    rcases hcapped with ⟨hl, hl'⟩ | ⟨hl, hl'⟩ <;>
      simp [limitText, ho, ← hsame, hl, hl']
  | some o =>
    rw [ho] at hsame
    refine iff_of_true ?_ (Option.some_ne_none o)
    have hnumber : " LIMIT " ++ number rowCap = " LIMIT 18446744073709551615" := by decide
    have hoffset : " LIMIT 18446744073709551615 OFFSET " =
        " LIMIT 18446744073709551615" ++ " OFFSET " := by decide
    rcases hcapped with ⟨hl, hl'⟩ | ⟨hl, hl'⟩ <;>
      simp only [limitText, ho, ← hsame, hl, hl', hnumber, hoffset]

/-- Two windows have the same text if they are equal, or if MySQL skips the same rows and takes all
that are left, and only then. -/
theorem text_eq_iff (d : Dialect) (h : s.isLegacy = false) (offset limit : Option UInt64) :
    s.text d = (s.withWindow offset limit).text d ↔
      s.skip = (s.withWindow offset limit).skip ∧
        (s.limit = limit ∨ d = .mysql ∧ 0 < s.skip ∧ Capped s.limit limit) := by
  have hbase : (s.withWindow offset limit).base d = s.base d := by
    cases d <;> rfl
  constructor
  · intro ht
    by_cases hd : d = .sqlServer
    · subst hd
      obtain ⟨hskip, hlimit⟩ := window_of_sqlServer h ht
      exact ⟨hskip, .inl hlimit⟩
    · rw [text_of_ne hd, text_of_ne hd, hbase, Except.ok.injEq, String.append_right_inj] at ht
      obtain ⟨hskip, htaken⟩ :=
        read_of_limitText_eq ht (fun hs => absurd hs hd) (fun hs => absurd hs hd)
      refine ⟨hskip, ?_⟩
      by_cases hmysql : d = .mysql
      · subst hmysql
        rcases taken_mysql_inj htaken with hlimit | hcapped
        · exact .inl hlimit
        · exact .inr ⟨rfl, (limitText_mysql_eq_iff hskip hcapped).1 ht, hcapped⟩
      · rw [taken_of_ne hmysql, taken_of_ne hmysql] at htaken
        exact .inl (Option.map_injective (fun _ _ => UInt64.toNat_inj.1) htaken)
  · rintro ⟨hskip, rfl | ⟨rfl, hpos, hcapped⟩⟩
    · exact text_congr (Prod.ext (skipped?_congr hskip) rfl) rfl
    · rw [text_of_ne (by decide), text_of_ne (by decide), hbase,
        (limitText_mysql_eq_iff (t := s.withWindow offset limit) hskip hcapped).2 hpos]

/-- **The text encodes the window.** A SELECT is the statement without a window, on SQL Server with
an ordering where rows are skipped, and one clause which an engine reads as the rows to skip and the
rows to take. Skipping no rows is not written, and two windows have the same text if they are equal
and, but for the row cap of MySQL, only then. -/
theorem text_encodes_window (d : Dialect) {s : Selection} (h : s.isLegacy = false) :
    (∃ lead tail,
      s.text d = .ok ("SELECT " ++ lead ++ s.columns ++ (s.ordered d).source d ++ tail) ∧
        readPaging? d (lex d.delimiters lead) (lex d.delimiters tail) =
          some (s.skip, taken d s.limit)) ∧
    { s with offset := none }.text d = { s with offset := some 0 }.text d ∧
    ∀ offset limit, s.text d = (s.withWindow offset limit).text d ↔
      s.skip = (s.withWindow offset limit).skip ∧
        (s.limit = limit ∨ d = .mysql ∧ 0 < s.skip ∧ Capped s.limit limit) :=
  ⟨exists_paging d h, text_congr rfl rfl, text_eq_iff d h⟩

/-- Skipping rows on SQL Server without an ordering. -/
theorem text_encodes_window_posts :
    let s : Selection := ⟨"Posts", "*", none, none, some 5, some 10, false⟩
    s.text .sqlServer =
        .ok "SELECT * FROM [Posts] ORDER BY (SELECT 0) OFFSET 5 ROWS FETCH NEXT 10 ROWS ONLY" ∧
      s.text .sqlServer ≠ (s.withWindow none (some 10)).text .sqlServer := by
  intro s
  obtain ⟨-, -, hiff⟩ := text_encodes_window .sqlServer (s := s) rfl
  refine ⟨congrArg Except.ok (by decide), ?_⟩
  intro ht
  exact absurd ((hiff none (some 10)).1 ht).1 (by decide)

end Selection

end Polydialect
