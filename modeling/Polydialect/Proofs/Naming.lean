import Mathlib.Logic.Function.Defs
import Polydialect.Proofs.Lexing

/-!
# Quoted names as an engine reads them

An engine reads an identifier from its opening delimiter to the first closing delimiter that does
not come twice, and takes a pair of closing delimiters for one (`Delimiters.read?`).

* `Delimiters.read?_eq_some_iff`: what is read as a name is the quoted name and nothing else, as
  long as the text behind it does not begin with the closing delimiter;
* `Sql.lex_quote_between`: in a whole text the quoted name is one token, and the tokens before and
  behind it are those of the text around it, whatever the name;
* `Dialect.quote_confines`: both for every dialect, with the injectivity of quoting.
-/

namespace Polydialect

namespace Delimiters

/-- Reads the inside of a quoted name: the name, and the text behind the closing delimiter. -/
def readInside? (d : Delimiters) : List Char → Option (List Char × List Char)
  | [] => none
  | [c] => if c = d.closing then some ([], []) else none
  | c :: c' :: r =>
    if c = d.closing then
      if c' = d.closing then (readInside? d r).map fun p => (c :: p.1, p.2) else some ([], c' :: r)
    else (readInside? d (c' :: r)).map fun p => (c :: p.1, p.2)

/-- Reads a quoted name at the beginning of a text: the name, and the text behind it. -/
def read? (d : Delimiters) : List Char → Option (List Char × List Char)
  | [] => none
  | c :: r => if c = d.opening then readInside? d r else none

variable {d : Delimiters}

theorem double_cons (c : Char) (name : List Char) :
    d.double (c :: name) = (if c = d.closing then [c, c] else [c]) ++ d.double name := rfl

theorem readInside?_cons_of_ne {c : Char} (hc : c ≠ d.closing) (s : List Char) :
    d.readInside? (c :: s) = (d.readInside? s).map fun p => (c :: p.1, p.2) := by
  cases s with
  | nil => simp [readInside?, hc]
  | cons c' r => simp [readInside?, hc]

theorem readInside?_closing_closing (s : List Char) :
    d.readInside? (d.closing :: d.closing :: s) =
      (d.readInside? s).map fun p => (d.closing :: p.1, p.2) := by
  simp [readInside?]

theorem readInside?_closing {rest : List Char} (h : rest.head? ≠ some d.closing) :
    d.readInside? (d.closing :: rest) = some ([], rest) := by
  cases rest with
  | nil => simp [readInside?]
  | cons c r =>
    have hc : c ≠ d.closing := by simpa using h
    simp [readInside?, hc]

theorem readInside?_double {rest : List Char} (h : rest.head? ≠ some d.closing)
    (name : List Char) :
    d.readInside? (d.double name ++ d.closing :: rest) = some (name, rest) := by
  induction name with
  | nil => exact readInside?_closing h
  | cons c name ih =>
    rw [double_cons]
    by_cases hc : c = d.closing
    · subst hc
      rw [if_pos rfl]
      show d.readInside? (d.closing :: d.closing :: (d.double name ++ d.closing :: rest)) = _
      rw [readInside?_closing_closing, ih]
      rfl
    · rw [if_neg hc]
      show d.readInside? (c :: (d.double name ++ d.closing :: rest)) = _
      rw [readInside?_cons_of_ne hc, ih]
      rfl

/-- Nothing else than a name with its closing delimiters doubled is read. -/
theorem eq_double_of_readInside? {s name rest : List Char}
    (h : d.readInside? s = some (name, rest)) :
    s = d.double name ++ d.closing :: rest ∧ rest.head? ≠ some d.closing := by
  fun_induction readInside? d s generalizing name with
  | case1 => cases h
  | case2 =>
    cases h
    exact ⟨rfl, by simp⟩
  | case3 c hc => cases h
  | case4 r ih =>
    obtain ⟨⟨n, rest'⟩, hr, he⟩ := Option.map_eq_some_iff.1 h
    cases he
    obtain ⟨hs, hrest⟩ := ih hr
    refine ⟨?_, hrest⟩
    rw [double_cons, if_pos rfl, hs]
    rfl
  | case5 c' r hc' =>
    cases h
    exact ⟨rfl, by simpa using hc'⟩
  | case6 c c' r hc ih =>
    obtain ⟨⟨n, rest'⟩, hr, he⟩ := Option.map_eq_some_iff.1 h
    cases he
    obtain ⟨hs, hrest⟩ := ih hr
    refine ⟨?_, hrest⟩
    rw [double_cons, if_neg hc, hs]
    rfl

/-- What is read is exactly what quoting writes. -/
theorem read?_eq_some_iff {s name rest : List Char} :
    d.read? s = some (name, rest) ↔
      s = d.quote name ++ rest ∧ rest.head? ≠ some d.closing := by
  constructor
  · intro h
    cases s with
    | nil => cases h
    | cons c s =>
      rw [read?] at h
      split at h
      · rename_i hc
        obtain ⟨hs, hrest⟩ := eq_double_of_readInside? h
        refine ⟨?_, hrest⟩
        rw [hc, hs, quote]
        simp
      · cases h
  · rintro ⟨rfl, hrest⟩
    have hq : d.quote name ++ rest = d.opening :: (d.double name ++ d.closing :: rest) := by
      simp [quote]
    rw [hq, read?, if_pos rfl]
    exact readInside?_double hrest name

theorem quote_injective (d : Delimiters) : Function.Injective d.quote := by
  intro a b hab
  have ha : d.read? (d.quote a) = some (a, []) := read?_eq_some_iff.2 ⟨by simp, by simp⟩
  have hb : d.read? (d.quote b) = some (b, []) := read?_eq_some_iff.2 ⟨by simp, by simp⟩
  rw [hab, hb] at ha
  cases ha
  rfl

end Delimiters

/-! ## In a whole text -/

namespace Sql

namespace Scan

variable {d : Delimiters}

/-- Not in a quoted name and not right behind one, where a quote begins a new name. -/
def IsBare : Scan → Prop
  | .between | .run _ _ => True
  | .quoted _ | .closed _ => False

instance : (s : Scan) → Decidable s.IsBare
  | .between | .run _ _ => isTrue trivial
  | .quoted _ | .closed _ => isFalse id

/-- The tokens that end within a text do not depend on what follows it. -/
theorem exists_tokens_append (s : Scan) (a : List Char) :
    ∃ out, ∀ b, s.tokens d (a ++ b) = out ++ (s.after d a).tokens d b := by
  induction a generalizing s with
  | nil => exact ⟨[], fun b => rfl⟩
  | cons c a ih =>
    obtain ⟨out, h⟩ := ih (s.step d c).2
    refine ⟨(s.step d c).1 ++ out, fun b => ?_⟩
    rw [List.cons_append, tokens, h, after_cons, List.append_assoc]

theorem tokens_closed {post : List Char} (h : post.head? ≠ some d.closing) (acc : List Char) :
    (Scan.closed acc).tokens d post =
      .symbol (.name (.ofList acc.reverse)) :: Scan.between.tokens d post := by
  cases post with
  | nil => rfl
  | cons c r =>
    have hc : c ≠ d.closing := by simpa using h
    have hb : Scan.between.step d c = start d c := rfl
    simp [tokens, step, takes, hc, finish]

/-- The inside of a quoted name is lexed as the name, and what follows as if it stood alone. -/
theorem tokens_quoted {post : List Char} (h : post.head? ≠ some d.closing) (n : List Char) :
    (Scan.quoted []).tokens d (d.double n ++ [d.closing] ++ post) =
      .symbol (.name (.ofList n)) :: Scan.between.tokens d post := by
  obtain ⟨ht, ha⟩ := tokens_double (d := d) [] n
  obtain ⟨out, ho⟩ := exists_tokens_append (d := d) (.quoted []) (d.double n ++ [d.closing])
  have hout : out = [] := by
    have h0 := ho []
    rw [List.append_nil, ht, ha] at h0
    have hl := congrArg List.length h0
    simp only [tokens, finish, List.length_append, List.length_singleton] at hl
    exact List.eq_nil_of_length_eq_zero (by omega)
  rw [ho, ha, hout, List.nil_append, tokens_closed h]
  simp

end Scan

/-- An opening delimiter goes on with no word, number or operator. -/
theorem not_continues_opening (d : Dialect) (k : Run) :
    k.continues d.delimiters.opening = false := by
  cases d <;> cases k <;> decide

/-- The tokens around a quoted name are those of the texts around it, whatever the name. -/
theorem lex_quote_between (d : Dialect) {pre post : String}
    (hpre : (Scan.between.after d.delimiters pre.toList).IsBare)
    (hpost : post.toList.head? ≠ some d.delimiters.closing) (n : String) :
    lex d.delimiters (pre ++ d.quote n ++ post) =
      lex d.delimiters pre ++ .symbol (.name n) :: lex d.delimiters post := by
  obtain ⟨out, ho⟩ := Scan.exists_tokens_append (d := d.delimiters) .between pre.toList
  have htext : (pre ++ d.quote n ++ post).toList = pre.toList ++ d.delimiters.opening ::
      (d.delimiters.double n.toList ++ [d.delimiters.closing] ++ post.toList) := by
    simp [Dialect.quote, Delimiters.quote]
  have hlex : lex d.delimiters pre =
      out ++ (Scan.between.after d.delimiters pre.toList).finish d.delimiters := by
    have h0 := ho []
    rw [List.append_nil] at h0
    rw [lex, h0]
    rfl
  have hstep : (Scan.between.after d.delimiters pre.toList).step d.delimiters d.delimiters.opening =
      ((Scan.between.after d.delimiters pre.toList).finish d.delimiters, .quoted []) := by
    cases hs : Scan.between.after d.delimiters pre.toList with
    | between => simp [Scan.step, Scan.takes, Scan.start]
    | run k acc => simp [Scan.step, Scan.takes, Scan.start, not_continues_opening]
    | quoted acc | closed acc =>
      rw [hs] at hpre
      exact hpre.elim
  rw [hlex, lex, htext, ho, Scan.tokens, hstep, Scan.tokens_quoted hpost, List.append_assoc, lex]
  simp

end Sql

/-! ## Dialects -/

namespace Dialect

/-- **A quoted name cannot be left.** The engine reads from a text the quoted name and what follows
it, exactly where the text is the quoted name and a rest that does not begin with the closing
delimiter; so two names are quoted differently, and no name changes what an engine reads before and
behind it. -/
theorem quote_confines (d : Dialect) :
    (∀ text name rest : String,
      d.delimiters.read? text.toList = some (name.toList, rest.toList) ↔
        text = d.quote name ++ rest ∧ rest.toList.head? ≠ some d.delimiters.closing) ∧
      Function.Injective d.quote ∧
      ∀ pre post : String, (Sql.Scan.between.after d.delimiters pre.toList).IsBare →
        post.toList.head? ≠ some d.delimiters.closing → ∀ name : String,
          Sql.lex d.delimiters (pre ++ d.quote name ++ post) =
            Sql.lex d.delimiters pre ++ .symbol (.name name) :: Sql.lex d.delimiters post := by
  refine ⟨fun text name rest => ?_, fun a b hab => ?_, fun pre post hpre hpost name => ?_⟩
  · rw [Delimiters.read?_eq_some_iff, ← String.toList_inj, String.toList_append, quote,
      String.toList_ofList]
  · have h := congrArg String.toList hab
    rw [quote, quote, String.toList_ofList, String.toList_ofList] at h
    exact String.toList_inj.1 (d.delimiters.quote_injective h)
  · exact Sql.lex_quote_between d hpre hpost name

/-- A name on SQL Server with closing brackets in it and at its end, which tries to be a
condition. -/
theorem quote_confines_brackets :
    let name := "Title] = 1 OR [Title]]"
    (Sql.Scan.between.after Dialect.sqlServer.delimiters "NOT ".toList).IsBare ∧
      " = ?".toList.head? ≠ some Dialect.sqlServer.delimiters.closing ∧
      Dialect.sqlServer.delimiters.read? "[Title]] = 1 OR [Title]]]]] = ?".toList =
        some (name.toList, " = ?".toList) ∧
      Sql.lex Dialect.sqlServer.delimiters ("NOT " ++ Dialect.sqlServer.quote name ++ " = ?") =
        [.symbol (.word "NOT"), .symbol (.name name), .symbol (.operator "="), .marker ()] := by
  intro name
  obtain ⟨hread, -, hlex⟩ := quote_confines .sqlServer
  have hpre : (Sql.Scan.between.after Dialect.sqlServer.delimiters "NOT ".toList).IsBare := by
    decide
  have hpost : " = ?".toList.head? ≠ some Dialect.sqlServer.delimiters.closing := by decide
  have hread := (hread "[Title]] = 1 OR [Title]]]]] = ?" name " = ?").2 ⟨by decide, hpost⟩
  have hlex := hlex "NOT " " = ?" hpre hpost name
  exact ⟨hpre, hpost, hread, hlex.trans (by decide)⟩

end Dialect

end Polydialect
