import Polydialect.Dialect.Quoting
import Polydialect.Value.Basic

/-!
# SQL text as tokens

A lexer for SQL predicates, which takes the delimiters of quoted names as the dialect has them:
inside a name the closing delimiter written twice is that character, and once it ends the name. It
is a machine over characters (`Scan.step`), total on every text; a character that starts no token
is a token of its own (`Symbol.other`), so nothing is skipped but blanks.

* `lex_append`: texts are lexed one by one where the second one starts a token;
* `lex_quote`: a quoted name is one token, whatever characters the name holds;
* `Token.fill_erase`: markers take values from left to right, each exactly one.
-/

namespace Polydialect.Sql

/-- What a token says by itself. -/
inductive Symbol where
  | name (n : String)
  /-- A word in capitals. -/
  | word (w : String)
  | number (n : Nat)
  | operator (o : String)
  | opening
  | closing
  | comma
  /-- A character that starts no token, or that opens a name without an end. -/
  | other (c : Char)
  deriving DecidableEq

/-- A token; `α` is what a marker carries. -/
inductive Token (α : Type) where
  | symbol (s : Symbol)
  | marker (a : α)
  deriving DecidableEq

namespace Token

/-- The token without what its marker carries. -/
def erase {α : Type} : Token α → Token Unit
  | .symbol s => .symbol s
  | .marker _ => .marker ()

/-- What the marker carries. -/
def carried? {α : Type} : Token α → Option α
  | .symbol _ => none
  | .marker a => some a

/-- The markers take values from left to right; there must be one for each and none left over. -/
def fill {α : Type} : List (Token Unit) → List α → Option (List (Token α))
  | [], [] => some []
  | [], _ :: _ => none
  | .symbol s :: ts, as => (fill ts as).map (.symbol s :: ·)
  | .marker () :: _, [] => none
  | .marker () :: ts, a :: as => (fill ts as).map (.marker a :: ·)

theorem fill_erase {α : Type} (ts : List (Token α)) :
    fill (ts.map erase) (ts.filterMap carried?) = some ts := by
  induction ts with
  | nil => rfl
  | cons t ts ih => cases t <;> simp [erase, carried?, fill, List.filterMap_cons, ih]

end Token

/-- The kinds of tokens that are runs of characters. -/
inductive Run where
  | word
  | number
  | operator
  deriving DecidableEq

namespace Run

/-- The run that a character starts. -/
def started? (c : Char) : Option Run :=
  if c.isAlpha || c == '_' then some .word
  else if c.isDigit then some .number
  else if c == '=' || c == '<' || c == '>' then some .operator
  else none

/-- Whether a character goes on with a run; a word may hold digits. -/
def continues (k : Run) (c : Char) : Bool :=
  started? c == some k || k == .word && c.isDigit

/-- The token of a run. -/
def symbol (k : Run) (cs : List Char) : Symbol :=
  match k with
  | .word => .word (.ofList (cs.map Char.toUpper))
  | .number => .number (Nat.ofDigitChars 10 cs 0)
  | .operator => .operator (.ofList cs)

end Run

/-- Where the lexer stands; what has been read of a token is kept in reverse. -/
inductive Scan where
  | between
  | run (k : Run) (acc : List Char)
  /-- Inside a quoted name. -/
  | quoted (acc : List Char)
  /-- After a closing delimiter, which ends the name unless it comes again. -/
  | closed (acc : List Char)
  deriving DecidableEq

namespace Scan

variable (d : Delimiters)

/-- A character between tokens. -/
def start (c : Char) : List (Token Unit) × Scan :=
  if c = d.opening then ([], .quoted [])
  else match Run.started? c with
    | some k => ([], .run k [c])
    | none =>
      if c = ' ' then ([], .between)
      else if c = '?' then ([.marker ()], .between)
      else if c = '(' then ([.symbol .opening], .between)
      else if c = ')' then ([.symbol .closing], .between)
      else if c = ',' then ([.symbol .comma], .between)
      else ([.symbol (.other c)], .between)

/-- The token that ends when the lexer leaves a place. -/
def finish : Scan → List (Token Unit)
  | .between => []
  | .run k acc => [.symbol (k.symbol acc.reverse)]
  | .quoted _ => [.symbol (.other d.opening)]
  | .closed acc => [.symbol (.name (.ofList acc.reverse))]

/-- Whether a character still belongs to the token that has been begun. -/
def takes : Scan → Char → Bool
  | .between, _ => false
  | .run k _, c => k.continues c
  | .quoted _, _ => true
  | .closed _, c => c == d.closing

/-- The place after a character that belongs to the token. -/
def extend : Scan → Char → Scan
  | .between, _ => .between
  | .run k acc, c => .run k (c :: acc)
  | .quoted acc, c => if c = d.closing then .closed acc else .quoted (c :: acc)
  | .closed acc, c => .quoted (c :: acc)

/-- One character: the tokens that end with it or before it, and the place after it. -/
def step (s : Scan) (c : Char) : List (Token Unit) × Scan :=
  if s.takes d c then ([], s.extend d c)
  else (s.finish d ++ (start d c).1, (start d c).2)

/-- The place after a text. -/
def after (s : Scan) (cs : List Char) : Scan := cs.foldl (fun s c => (s.step d c).2) s

/-- The tokens of a text that begins at a place. -/
def tokens : Scan → List Char → List (Token Unit)
  | s, [] => s.finish d
  | s, c :: cs => (s.step d c).1 ++ tokens (s.step d c).2 cs

/-- A quoted name that has no end yet. -/
def IsOpen : Scan → Prop
  | .quoted _ => True
  | _ => False

instance (s : Scan) : Decidable s.IsOpen := by
  cases s <;> first | exact isTrue trivial | exact isFalse id

/-! ## One text after another -/

variable {d}

@[simp] theorem after_nil (s : Scan) : s.after d [] = s := rfl

@[simp] theorem after_cons (s : Scan) (c : Char) (cs : List Char) :
    s.after d (c :: cs) = (s.step d c).2.after d cs := rfl

/-- A character that belongs to no token before it. -/
def Separates (d : Delimiters) (c : Char) : Prop :=
  (∀ k : Run, k.continues c = false) ∧ c ≠ d.closing

theorem separates_of_mem (d : Dialect) {c : Char} (h : c ∈ [' ', '\n', ')', ',']) :
    Separates d.delimiters c := by
  have hmem : c = ' ' ∨ c = '\n' ∨ c = ')' ∨ c = ',' := by simpa using h
  rcases hmem with rfl | rfl | rfl | rfl
  all_goals exact ⟨fun k => by cases k <;> decide, by cases d <;> decide⟩

theorem separates_blank (d : Dialect) : Separates d.delimiters ' ' :=
  separates_of_mem d List.mem_cons_self

theorem exists_separates (d : Dialect) {s : List Char}
    (h : s.head? ∈ [' ', '\n', ')', ','].map some) :
    ∃ c r, s = c :: r ∧ Separates d.delimiters c := by
  obtain ⟨c, hmem, hc⟩ := List.mem_map.1 h
  obtain ⟨r, hr⟩ := List.head?_eq_some_iff.1 hc.symm
  exact ⟨c, r, hr, separates_of_mem d hmem⟩

theorem step_of_separates {s : Scan} (hs : ¬ s.IsOpen) {c : Char} (hc : Separates d c) :
    s.step d c = (s.finish d ++ (start d c).1, (start d c).2) := by
  have ht : s.takes d c = false := by
    cases s with
    | between => rfl
    | run k acc => exact hc.1 k
    | quoted acc => exact absurd trivial hs
    | closed acc => simpa [takes] using hc.2
  rw [step, if_neg (by simp [ht])]

theorem tokens_append {s : Scan} {a b : List Char} {c : Char} (ha : ¬ (s.after d a).IsOpen)
    (hc : Separates d c) :
    s.tokens d (a ++ c :: b) = s.tokens d a ++ Scan.between.tokens d (c :: b) ∧
      s.after d (a ++ c :: b) = Scan.between.after d (c :: b) := by
  induction a generalizing s with
  | nil =>
    have h1 : s.step d c = _ := step_of_separates ha hc
    have h2 := step_of_separates (s := .between) id hc
    simp only [List.nil_append, tokens, after_cons, h1, h2, List.append_assoc]
    exact ⟨rfl, trivial⟩
  | cons x a ih =>
    obtain ⟨ht, hs⟩ := ih (s := (s.step d x).2) ha
    exact ⟨by rw [List.cons_append, tokens, tokens, ht, List.append_assoc], hs⟩

theorem tokens_append_of_between {s : Scan} {a : List Char} (ha : s.after d a = .between)
    (b : List Char) :
    s.tokens d (a ++ b) = s.tokens d a ++ Scan.between.tokens d b ∧
      s.after d (a ++ b) = Scan.between.after d b := by
  induction a generalizing s with
  | nil =>
    obtain rfl : s = .between := ha
    exact ⟨rfl, rfl⟩
  | cons x a ih =>
    obtain ⟨ht, hs⟩ := ih (s := (s.step d x).2) ha
    exact ⟨by rw [List.cons_append, tokens, tokens, ht, List.append_assoc], hs⟩

/-! ## Quoted names -/

theorem tokens_double (acc n : List Char) :
    (Scan.quoted acc).tokens d (d.double n ++ [d.closing]) =
        [.symbol (.name (.ofList (acc.reverse ++ n)))] ∧
      (Scan.quoted acc).after d (d.double n ++ [d.closing]) = .closed (n.reverse ++ acc) := by
  induction n generalizing acc with
  | nil => simp [Delimiters.double, tokens, step, takes, extend, finish]
  | cons c n ih =>
    have hc : d.double (c :: n) = (if c = d.closing then [c, c] else [c]) ++ d.double n := rfl
    rw [hc]
    by_cases h : c = d.closing
    · simp [h, ih, tokens, step, takes, extend]
    · simp [h, ih, tokens, step, takes, extend]

end Scan

/-- The tokens of a text. -/
def lex (d : Delimiters) (s : String) : List (Token Unit) := Scan.between.tokens d s.toList

/-- A quoted name is one token. -/
theorem lex_quote (d : Dialect) (n : String) :
    lex d.delimiters (d.quote n) = [.symbol (.name n)] ∧
      ¬ (Scan.between.after d.delimiters (d.quote n).toList).IsOpen := by
  obtain ⟨ht, ha⟩ := Scan.tokens_double (d := d.delimiters) [] n.toList
  have hq : (d.quote n).toList = d.delimiters.opening ::
      (d.delimiters.double n.toList ++ [d.delimiters.closing]) := by
    simp [Dialect.quote, Delimiters.quote]
  have hs : Scan.between.step d.delimiters d.delimiters.opening = ([], .quoted []) := by
    simp [Scan.step, Scan.takes, Scan.finish, Scan.start]
  refine ⟨?_, ?_⟩
  · rw [lex, hq, Scan.tokens, hs, ht]
    simp
  · rw [hq, Scan.after_cons, hs, ha]
    exact id

end Polydialect.Sql
