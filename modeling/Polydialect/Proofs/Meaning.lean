import Polydialect.Proofs.Condition
import Polydialect.Proofs.Layout
import Polydialect.Proofs.Predicate

/-!
# What the text of a condition means

A tree of conditions has a truth value under every assignment to its atoms (`Condition.truth`), and
the text that is written for it reads as a predicate with the same truth values
(`Condition.whereClause_means`). The way leads over the tokens of a condition:

* `Condition.lexesTo`: the text of a condition is lexed into its tokens, in every dialect;
* `Condition.negation_tokens`: the tokens are read where a negation may stand, whatever follows
  them, so a condition is a member of a group of either kind and stands behind NOT;
* `Condition.eval_predicate`: what is read means what the condition means.
-/

namespace Polydialect

open Sql

namespace Conjunction

/-- The word between the members of a group. -/
def word : Conjunction → String
  | .and => "AND"
  | .or => "OR"

/-- The truth value of a group. -/
def truth : Conjunction → List Truth → Truth
  | .and => Truth.all
  | .or => Truth.any

/-- The number that `1` is compared with for a group without members. -/
def neutralNumber : Conjunction → Nat
  | .and => 1
  | .or => 0

/-- Two predicates with the word between them. -/
def connect : Conjunction → Predicate → Predicate → Predicate
  | .and => .and
  | .or => .or

/-- Predicates with the word between each two. -/
def chain (k : Conjunction) (p : Predicate) : List Predicate → Predicate
  | [] => p
  | q :: qs => k.connect p (chain k q qs)

end Conjunction

/-- An operator as symbols. -/
def Comparison.symbols : Comparison → List Symbol
  | .like => [.word "LIKE"]
  | .notLike => [.word "NOT", .word "LIKE"]
  | op => [.operator op.text]

namespace Condition

/-- The atom of a comparison; being equal to NULL is being NULL. -/
def comparisonAtom (column : String) (op : Comparison) (value : Value) : Atom :=
  match op, value.isNull with
  | .eq, true => .isNull column
  | .notEq, true => .isNotNull column
  | _, _ => .compare column op value

mutual

/-- What a condition means: comparisons, tests and memberships among some values are atoms, nothing
is among no values, and groups and negations combine their members. Raw SQL has no meaning here. -/
def truth (ρ : Atom → Truth) : Condition → Truth
  | .compare column op value => ρ (comparisonAtom column op value)
  | .isIn _ [] => .no
  | .isIn column (v :: vs) => ρ (.isIn column (v :: vs))
  | .isNull column => ρ (.isNull column)
  | .raw _ => .unknown
  | .group k members => k.truth (truths ρ members)
  | .not inner => (truth ρ inner).not

def truths (ρ : Atom → Truth) : List Condition → List Truth
  | [] => []
  | c :: cs => truth ρ c :: truths ρ cs

end

mutual

/-- The predicate that a condition is read as. -/
def predicate : Condition → Predicate
  | .compare column op value => .atom (comparisonAtom column op value)
  | .isIn _ [] | .raw _ => .equal 1 0
  | .isIn column (v :: vs) => .atom (.isIn column (v :: vs))
  | .isNull column => .atom (.isNull column)
  | .group k [] => .equal 1 k.neutralNumber
  | .group k (c :: cs) => k.chain (predicate c) (predicates cs)
  | .not inner => .not (predicate inner)

def predicates : List Condition → List Predicate
  | [] => []
  | c :: cs => predicate c :: predicates cs

end

/-- What stands behind the column of a comparison. -/
def comparisonTokens (op : Comparison) (value : Value) : List (Token Value) :=
  match op, value.isNull with
  | .eq, true => [.symbol (.word "IS"), .symbol (.word "NULL")]
  | .notEq, true => [.symbol (.word "IS"), .symbol (.word "NOT"), .symbol (.word "NULL")]
  | _, _ => op.symbols.map .symbol ++ [.marker value]

/-- Markers with commas between them. -/
def markerTokens (vs : List Value) : List (Token Value) :=
  List.intercalate [.symbol .comma] (vs.map fun v => [.marker v])

/-- A comparison of `1` with a number. -/
def numberTokens (n : Nat) : List (Token Value) :=
  [.symbol (.number 1), .symbol (.operator "="), .symbol (.number n)]

mutual

/-- The tokens of a condition. -/
def tokens : Condition → List (Token Value)
  | .compare column op value => [.symbol (.name column)] ++ comparisonTokens op value
  | .isIn _ [] => numberTokens 0
  | .isIn column (v :: vs) =>
    [.symbol (.name column), .symbol (.word "IN"), .symbol .opening] ++
      (markerTokens (v :: vs) ++ [.symbol .closing])
  | .isNull column => [.symbol (.name column), .symbol (.word "IS"), .symbol (.word "NULL")]
  | .raw _ => []
  | .group k [] => numberTokens k.neutralNumber
  | .group k (c :: cs) =>
    [.symbol .opening] ++ (List.intercalate [.symbol (.word k.word)] (tokens c :: tokensOfAll cs) ++
      [.symbol .closing])
  | .not inner => [.symbol (.word "NOT"), .symbol .opening] ++ (tokens inner ++ [.symbol .closing])

def tokensOfAll : List Condition → List (List (Token Value))
  | [] => []
  | c :: cs => tokens c :: tokensOfAll cs

end

theorem comparisonAtom_of_not_isNullTest {op : Comparison} {value : Value}
    (h : ¬ IsNullTest op value) (column : String) :
    comparisonAtom column op value = .compare column op value := by
  unfold comparisonAtom
  split <;> simp_all [IsNullTest]

theorem comparisonTokens_of_not_isNullTest {op : Comparison} {value : Value}
    (h : ¬ IsNullTest op value) :
    comparisonTokens op value = op.symbols.map .symbol ++ [.marker value] := by
  unfold comparisonTokens
  split <;> simp_all [IsNullTest]

theorem truths_eq_map (ρ : Atom → Truth) (cs : List Condition) :
    truths ρ cs = cs.map (truth ρ) := by
  induction cs with
  | nil => rfl
  | cons c cs ih => rw [truths, ih, List.map_cons]

theorem predicates_eq_map (cs : List Condition) : predicates cs = cs.map predicate := by
  induction cs with
  | nil => rfl
  | cons c cs ih => rw [predicates, ih, List.map_cons]

theorem tokensOfAll_eq_map (cs : List Condition) : tokensOfAll cs = cs.map tokens := by
  induction cs with
  | nil => rfl
  | cons c cs ih => rw [tokensOfAll, ih, List.map_cons]

end Condition

/-! ## Lexing -/

/-- A text that begins with a character that belongs to no token before it. -/
def Leads (s : String) : Prop := s.toList.head? ∈ [some ' ', some ')', some ',']

instance (s : String) : Decidable (Leads s) := inferInstanceAs (Decidable (_ ∈ _))

/-- A text that ends between two tokens. -/
def Trails (d : Dialect) (s : String) : Prop :=
  Scan.between.after d.delimiters s.toList = .between

instance (d : Dialect) (s : String) : Decidable (Trails d s) := inferInstanceAs (Decidable (_ = _))

theorem Leads.exists_separates {s : String} (h : Leads s) (d : Dialect) :
    ∃ c r, s.toList = c :: r ∧ Scan.Separates d.delimiters c := by
  have hsub : [' ', ')', ','].map some ⊆ [' ', '\n', ')', ','].map some := by decide
  exact Scan.exists_separates d (hsub h)

namespace Fragment

/-- A fragment is lexed into tokens, its values in the markers. -/
structure LexesTo (d : Dialect) (f : Fragment) (ts : List (Token Value)) : Prop where
  values : f.values = ts.filterMap Token.carried?
  tokens : lex d.delimiters f.text = ts.map Token.erase
  closed : ¬ (Scan.between.after d.delimiters f.text.toList).IsOpen

variable {d : Dialect}

theorem LexesTo.append {f g : Fragment} {ts us : List (Token Value)} (hf : LexesTo d f ts)
    (hg : LexesTo d g us) (h : Leads g.text ∨ Trails d f.text) : LexesTo d (f ++ g) (ts ++ us) := by
  have key : lex d.delimiters (f.text ++ g.text) =
        lex d.delimiters f.text ++ lex d.delimiters g.text ∧
      Scan.between.after d.delimiters (f.text ++ g.text).toList =
        Scan.between.after d.delimiters g.text.toList := by
    rw [lex, String.toList_append]
    rcases h with h | h
    · obtain ⟨c, r, hs, hc⟩ := h.exists_separates d
      rw [lex, lex, hs]
      exact Scan.tokens_append hf.closed hc
    · exact Scan.tokens_append_of_between h _
  refine ⟨?_, ?_, ?_⟩
  · rw [values_append, hf.values, hg.values, List.filterMap_append]
  · rw [text_append, key.1, hf.tokens, hg.tokens, List.map_append]
  · rw [text_append, key.2]
    exact hg.closed

theorem trails_append {f : Fragment} {s : String}
    (hf : ¬ (Scan.between.after d.delimiters f.text.toList).IsOpen) (hl : Leads s)
    (ht : Trails d s) : Trails d (f ++ ofText s).text := by
  obtain ⟨c, r, hs, hc⟩ := hl.exists_separates d
  rw [Trails, text_append, ofText, String.toList_append, hs, (Scan.tokens_append hf hc).2, ← hs]
  exact ht

theorem LexesTo.symbols {s : String} {ss : List Symbol}
    (ht : lex d.delimiters s = ss.map .symbol)
    (hc : ¬ (Scan.between.after d.delimiters s.toList).IsOpen) :
    LexesTo d (ofText s) (ss.map .symbol) where
  values := by simp [ofText, Function.comp_def, Token.carried?]
  tokens := by simp [ofText, ht, Function.comp_def, Token.erase]
  closed := hc

theorem LexesTo.name (n : String) : LexesTo d (ofText (d.quote n)) [.symbol (.name n)] := by
  obtain ⟨ht, hc⟩ := lex_quote d n
  show LexesTo d _ ([Symbol.name n].map .symbol)
  exact .symbols ht hc

theorem LexesTo.marker (v : Value) : LexesTo d ⟨"?", [v]⟩ [.marker v] := by
  have h : lex d.delimiters "?" = [.marker ()] ∧ Trails d "?" := by cases d <;> decide
  refine ⟨rfl, h.1, ?_⟩
  show ¬ (Scan.between.after d.delimiters "?".toList).IsOpen
  rw [h.2]
  exact id

theorem LexesTo.trailing {s : String} {ss : List Symbol}
    (h : lex d.delimiters s = ss.map .symbol ∧ Trails d s) :
    LexesTo d (ofText s) (ss.map .symbol) ∧ Trails d s :=
  ⟨.symbols h.1 (by rw [h.2]; exact id), h.2⟩

/-- Text that separates what stands before it from what stands behind it. -/
structure Separator (d : Dialect) (s : String) (ss : List Symbol) : Prop where
  leads : Leads s
  trails : Trails d s
  tokens : lex d.delimiters s = ss.map .symbol

theorem Separator.lexesTo {s : String} {ss : List Symbol} (h : Separator d s ss) :
    LexesTo d (ofText s) (ss.map .symbol) :=
  (LexesTo.trailing ⟨h.tokens, h.trails⟩).1

theorem LexesTo.separated {f g : Fragment} {s : String} {ts us : List (Token Value)}
    {ss : List Symbol} (hf : LexesTo d f ts) (hs : Separator d s ss) (hg : LexesTo d g us) :
    LexesTo d (f ++ ofText s ++ g) (ts ++ ss.map .symbol ++ us) :=
  (hf.append hs.lexesTo (.inl hs.leads)).append hg
    (.inr (trails_append hf.closed hs.leads hs.trails))

theorem LexesTo.join {s : String} {ss : List Symbol} (hs : Separator d s ss) {α : Type}
    {as : List α} {f : α → Fragment} {t : α → List (Token Value)}
    (h : ∀ a ∈ as, LexesTo d (f a) (t a)) :
    LexesTo d (.join s (as.map f)) (List.intercalate (ss.map .symbol) (as.map t)) := by
  induction as with
  | nil => exact ⟨rfl, rfl, id⟩
  | cons a as ih =>
    obtain ⟨ha, has⟩ := List.forall_mem_cons.1 h
    cases as with
    | nil => simpa [join_singleton] using ha
    | cons b bs =>
      simp only [List.map_cons, join_cons_cons, List.intercalate_cons_cons]
      exact ha.separated hs (ih has)

theorem LexesTo.wrap {f : Fragment} {before after : String} {ts : List (Token Value)}
    {bs : List (Token Value)} {as : List Symbol}
    (hb : LexesTo d (ofText before) bs ∧ Trails d before)
    (hf : LexesTo d f ts) (ha : Separator d after as) :
    LexesTo d (.wrap before f after) (bs ++ (ts ++ as.map .symbol)) := by
  have he : Fragment.wrap before f after = ofText before ++ (f ++ ofText after) := by
    show Fragment.mk _ _ = Fragment.mk _ _
    simp [ofText, String.append_assoc]
  rw [he]
  exact hb.1.append (hf.append ha.lexesTo (.inl ha.leads)) (.inr hb.2)

end Fragment

namespace Condition

open Fragment

variable {d : Dialect}

theorem lexesTo_neutral (k : Conjunction) :
    LexesTo d (ofText k.neutral) (numberTokens k.neutralNumber) := by
  have h : lex d.delimiters k.neutral =
        [Symbol.number 1, .operator "=", .number k.neutralNumber].map .symbol ∧
      ¬ (Scan.between.after d.delimiters k.neutral.toList).IsOpen := by
    cases k <;> cases d <;> decide
  exact .symbols h.1 h.2

theorem separator_conjunction (k : Conjunction) : Separator d k.text [.word k.word] := by
  cases k <;> cases d <;> exact ⟨by decide, by decide, by decide⟩

theorem separator_closing : Separator d ")" [.closing] := by
  cases d <;> exact ⟨by decide, by decide, by decide⟩

theorem lexesTo_parenthesis {f : Fragment} {ts : List (Token Value)} (h : LexesTo d f ts) :
    LexesTo d (.wrap "(" f ")") ([.symbol .opening] ++ (ts ++ [.symbol .closing])) := by
  have ht : lex d.delimiters "(" = [Symbol.opening].map .symbol ∧ Trails d "(" := by
    cases d <;> decide
  exact .wrap (LexesTo.trailing ht) h separator_closing

theorem lexesTo_negation {f : Fragment} {ts : List (Token Value)} (h : LexesTo d f ts) :
    LexesTo d (.wrap "NOT (" f ")")
      ([.symbol (.word "NOT"), .symbol .opening] ++ (ts ++ [.symbol .closing])) := by
  have ht : lex d.delimiters "NOT (" = [Symbol.word "NOT", .opening].map .symbol ∧
      Trails d "NOT (" := by
    cases d <;> decide
  exact .wrap (LexesTo.trailing ht) h separator_closing

theorem lexesTo_isNull (column : String) :
    LexesTo d (ofText (d.quote column ++ " IS NULL"))
      [.symbol (.name column), .symbol (.word "IS"), .symbol (.word "NULL")] := by
  have ht : lex d.delimiters " IS NULL" = [Symbol.word "IS", .word "NULL"].map .symbol ∧
      ¬ (Scan.between.after d.delimiters " IS NULL".toList).IsOpen := by
    cases d <;> decide
  exact (LexesTo.name column).append (.symbols ht.1 ht.2) (.inl (by decide))

theorem lexesTo_comparison (column : String) (op : Comparison) (value : Value) :
    LexesTo d (comparison d column op value)
      ([.symbol (.name column)] ++ comparisonTokens op value) := by
  by_cases h : IsNullTest op value
  · obtain ⟨hv, rfl | rfl⟩ := h
    · simp only [comparison, comparisonTokens, hv]
      exact lexesTo_isNull column
    · simp only [comparison, comparisonTokens, hv]
      have ht : lex d.delimiters " IS NOT NULL" =
            [Symbol.word "IS", .word "NOT", .word "NULL"].map .symbol ∧
          ¬ (Scan.between.after d.delimiters " IS NOT NULL".toList).IsOpen := by
        cases d <;> decide
      exact (LexesTo.name column).append (.symbols ht.1 ht.2) (.inl (by decide))
  · have hs : Separator d (" " ++ op.text ++ " ") op.symbols := by
      cases op <;> cases d <;> exact ⟨by decide, by decide, by decide⟩
    rw [comparison_eq_append h, comparisonTokens_of_not_isNullTest h, ← List.append_assoc]
    exact (LexesTo.name column).separated hs (.marker value)

theorem lexesTo_membership (column : String) (v : Value) (vs : List Value) :
    LexesTo d (membership d column (v :: vs))
      ([.symbol (.name column), .symbol (.word "IN"), .symbol .opening] ++
        (markerTokens (v :: vs) ++ [.symbol .closing])) := by
  have hi : Separator d " IN (" [.word "IN", .opening] := by
    cases d <;> exact ⟨by decide, by decide, by decide⟩
  have hc : Separator d ", " [.comma] := by
    cases d <;> exact ⟨by decide, by decide, by decide⟩
  have hn := (LexesTo.name (d := d) column).append hi.lexesTo (.inl hi.leads)
  have ht := trails_append (LexesTo.name (d := d) column).closed hi.leads hi.trails
  have hm : LexesTo d (.markers (v :: vs)) (markerTokens (v :: vs)) := by
    rw [markers_eq_join]
    exact .join hc fun v _ => .marker v
  rw [membership]
  exact .wrap ⟨hn, ht⟩ hm separator_closing

/-- The text of a condition without raw SQL is lexed into its tokens. -/
theorem lexesTo {c : Condition} (h : c.raws = []) : LexesTo d (c.fragment d) c.tokens := by
  induction c using Condition.induct with
  | compare column op value => exact lexesTo_comparison column op value
  | isIn column values =>
    cases values with
    | nil => exact lexesTo_neutral .or
    | cons v vs => exact lexesTo_membership column v vs
  | isNull column => exact lexesTo_isNull column
  | raw source => cases h
  | group k members ih =>
    cases members with
    | nil => exact lexesTo_neutral k
    | cons c cs =>
      rw [fragment, tokens, fragments_eq_map, tokensOfAll_eq_map]
      exact lexesTo_parenthesis (.join (separator_conjunction k) fun m hm =>
        ih m hm (raws_of_group h hm))
  | not inner ih => exact lexesTo_negation (ih h)

/-! ## Reading -/

theorem test_comparisonTokens (column : String) (op : Comparison) (value : Value)
    (rest : List (Token Value)) :
    test column (comparisonTokens op value ++ rest) =
      some (comparisonAtom column op value, rest) := by
  by_cases h : IsNullTest op value
  · obtain ⟨hv, rfl | rfl⟩ := h <;> simp [comparisonTokens, comparisonAtom, hv, test]
  · rw [comparisonTokens_of_not_isNullTest h, comparisonAtom_of_not_isNullTest h]
    cases op <;> rfl

theorem members_markerTokens (v : Value) (vs : List Value) (rest : List (Token Value)) :
    members (markerTokens (v :: vs) ++ ([.symbol .closing] ++ rest)) = some (v :: vs, rest) := by
  induction vs generalizing v with
  | nil => rfl
  | cons w vs ih =>
    have ht : markerTokens (v :: w :: vs) =
        [.marker v, .symbol .comma] ++ markerTokens (w :: vs) := by
      simp [markerTokens, List.intercalate_cons_cons]
    rw [ht, List.append_assoc, List.cons_append, List.cons_append, List.nil_append, members, ih]
    rfl

theorem negation_name (n : Nat) (column : String) (ts : List (Token Value)) :
    negation (n + 1) (.symbol (.name column) :: ts) =
      (test column ts).map fun r => (.atom r.1, r.2) := by
  simp [negation, expect, simple]

theorem negation_number (n m : Nat) (ts : List (Token Value)) :
    negation (n + 1) (numberTokens m ++ ts) = some (.equal 1 m, ts) := by
  simp [negation, expect, simple, numberTokens]

theorem negation_not (n : Nat) (ts : List (Token Value)) :
    negation (n + 1) (.symbol (.word "NOT") :: ts) =
      (negation n ts).map fun r => (.not r.1, r.2) := by
  cases h : negation n ts <;> simp [negation, expect, h]

theorem negation_parenthesis {n : Nat} {ts rest : List (Token Value)} {p : Predicate}
    (h : disjunction n ts = some (p, .symbol .closing :: rest)) :
    negation (n + 1) (.symbol .opening :: ts) = some (p, rest) := by
  simp [negation, expect, h]

/-- The tokens of a condition are read where a negation may stand, whatever follows. -/
def IsRead (c : Condition) : Prop :=
  ∀ n rest, 3 * c.tokens.length ≤ n → negation n (c.tokens ++ rest) = some (c.predicate, rest)

/-- The tokens of a group's members with its word between them. -/
def memberTokens (k : Conjunction) (cs : List Condition) : List (Token Value) :=
  List.intercalate [.symbol (.word k.word)] (cs.map tokens)

theorem memberTokens_singleton (k : Conjunction) (c : Condition) :
    memberTokens k [c] = c.tokens := by
  simp [memberTokens]

theorem memberTokens_cons_cons (k : Conjunction) (c c' : Condition) (cs : List Condition) :
    memberTokens k (c :: c' :: cs) =
      c.tokens ++ .symbol (.word k.word) :: memberTokens k (c' :: cs) := by
  simp [memberTokens, List.intercalate_cons_cons]

theorem conjunction_memberTokens {c : Condition} {cs : List Condition}
    (h : ∀ m ∈ c :: cs, IsRead m) {n : Nat}
    (hn : 3 * (memberTokens .and (c :: cs)).length + 1 ≤ n) {rest : List (Token Value)}
    (hr : expect (.word "AND") rest = none) :
    conjunction n (memberTokens .and (c :: cs) ++ rest) =
      some (Conjunction.and.chain c.predicate (cs.map predicate), rest) := by
  induction cs generalizing c n with
  | nil =>
    rw [memberTokens_singleton] at hn ⊢
    obtain ⟨n, rfl⟩ : ∃ m, n = m + 1 := ⟨n - 1, by omega⟩
    rw [conjunction, h c (List.mem_singleton_self c) n rest (by omega)]
    simp [hr, Conjunction.chain]
  | cons c' cs ih =>
    -- one is counted down for each member, which its word makes up for
    obtain ⟨hc, hcs⟩ := List.forall_mem_cons.1 h
    rw [memberTokens_cons_cons] at hn ⊢
    simp only [List.length_append, List.length_cons] at hn
    obtain ⟨n, rfl⟩ : ∃ m, n = m + 1 := ⟨n - 1, by omega⟩
    have hi := ih hcs (n := n) (by omega)
    rw [List.append_assoc, conjunction, hc n _ (by omega)]
    simp [expect, Conjunction.word, hi, Conjunction.chain, Conjunction.connect]

/-- The members of a group of either kind are read up to something that no connective begins. -/
theorem disjunction_memberTokens (k : Conjunction) {c : Condition} {cs : List Condition}
    (h : ∀ m ∈ c :: cs, IsRead m) {n : Nat}
    (hn : 3 * (memberTokens k (c :: cs)).length + 2 ≤ n) {rest : List (Token Value)}
    (ha : expect (.word "AND") rest = none) (ho : expect (.word "OR") rest = none) :
    disjunction n (memberTokens k (c :: cs) ++ rest) =
      some (k.chain c.predicate (cs.map predicate), rest) := by
  cases k with
  | and =>
    obtain ⟨n, rfl⟩ : ∃ m, n = m + 1 := ⟨n - 1, by omega⟩
    rw [disjunction, conjunction_memberTokens h (by omega) ha]
    simp [ho]
  | or =>
    induction cs generalizing c n with
    | nil =>
      rw [memberTokens_singleton, ← memberTokens_singleton .and] at hn ⊢
      obtain ⟨n, rfl⟩ : ∃ m, n = m + 1 := ⟨n - 1, by omega⟩
      rw [disjunction, conjunction_memberTokens h (by omega) ha]
      simp [ho, Conjunction.chain]
    | cons c' cs ih =>
      obtain ⟨hc, hcs⟩ := List.forall_mem_cons.1 h
      rw [memberTokens_cons_cons, ← memberTokens_singleton .and] at hn ⊢
      simp only [List.length_append, List.length_cons] at hn
      obtain ⟨n, rfl⟩ : ∃ m, n = m + 1 := ⟨n - 1, by omega⟩
      have hi := ih hcs (n := n) (by omega)
      rw [List.append_assoc, disjunction,
        conjunction_memberTokens (List.forall_mem_singleton.2 hc) (by omega) rfl]
      simp [expect, Conjunction.word, hi, Conjunction.chain, Conjunction.connect]

theorem isRead_compare (column : String) (op : Comparison) (value : Value) :
    IsRead (.compare column op value) := by
  intro n rest hn
  rw [tokens, List.append_assoc] at *
  obtain ⟨n, rfl⟩ : ∃ m, n = m + 1 := ⟨n - 1, by simp at hn; omega⟩
  rw [List.cons_append, negation_name, List.nil_append, test_comparisonTokens]
  rfl

theorem isRead_isIn (column : String) (values : List Value) : IsRead (.isIn column values) := by
  intro n rest hn
  cases values with
  | nil =>
    obtain ⟨n, rfl⟩ : ∃ m, n = m + 1 := ⟨n - 1, by simp [tokens, numberTokens] at hn; omega⟩
    exact negation_number n 0 rest
  | cons v vs =>
    obtain ⟨n, rfl⟩ : ∃ m, n = m + 1 := ⟨n - 1, by simp [tokens] at hn; omega⟩
    have hm := members_markerTokens v vs rest
    rw [tokens, List.append_assoc, List.append_assoc]
    simpa [negation_name, test, predicate] using hm

theorem isRead_isNull (column : String) : IsRead (.isNull column) := by
  intro n rest hn
  obtain ⟨n, rfl⟩ : ∃ m, n = m + 1 := ⟨n - 1, by simp [tokens] at hn; omega⟩
  simp [tokens, negation_name, test, predicate]

theorem isRead_group (k : Conjunction) {cs : List Condition} (h : ∀ m ∈ cs, IsRead m) :
    IsRead (.group k cs) := by
  intro n rest hn
  cases cs with
  | nil =>
    obtain ⟨n, rfl⟩ : ∃ m, n = m + 1 := ⟨n - 1, by simp [tokens, numberTokens] at hn; omega⟩
    exact negation_number n _ rest
  | cons c cs =>
    have hm : tokens (.group k (c :: cs)) =
        .symbol .opening :: (memberTokens k (c :: cs) ++ [.symbol .closing]) := by
      simp [tokens, tokensOfAll_eq_map, memberTokens]
    have hp : predicate (.group k (c :: cs)) = k.chain c.predicate (cs.map predicate) := by
      rw [predicate, predicates_eq_map]
    -- the two parentheses make up for the levels from a negation down to the members
    rw [hm] at hn ⊢
    simp only [List.length_append, List.length_cons, List.length_nil] at hn
    obtain ⟨n, rfl⟩ : ∃ m, n = m + 1 := ⟨n - 1, by omega⟩
    rw [List.cons_append, hp, List.append_assoc]
    exact negation_parenthesis (disjunction_memberTokens k h (by omega) rfl rfl)

theorem isRead_not {c : Condition} (h : IsRead c) : IsRead (.not c) := by
  intro n rest hn
  rw [tokens] at hn ⊢
  simp only [List.length_append, List.length_cons, List.length_nil] at hn
  obtain ⟨n, rfl⟩ : ∃ m, n = m + 2 := ⟨n - 2, by omega⟩
  have hl : 3 * (memberTokens .and [c]).length + 2 ≤ n := by
    rw [memberTokens_singleton]
    omega
  have hi : disjunction n (memberTokens .and [c] ++ .symbol .closing :: rest) = _ :=
    disjunction_memberTokens .and (List.forall_mem_singleton.2 h) hl rfl rfl
  rw [memberTokens_singleton] at hi
  rw [List.append_assoc, List.append_assoc]
  simp only [List.cons_append, List.nil_append]
  rw [negation_not, negation_parenthesis hi]
  rfl

/-- The tokens of a condition without raw SQL are read where a negation may stand. -/
theorem negation_tokens {c : Condition} (h : c.raws = []) : IsRead c := by
  induction c using Condition.induct with
  | compare column op value => exact isRead_compare column op value
  | isIn column values => exact isRead_isIn column values
  | isNull column => exact isRead_isNull column
  | raw source => cases h
  | group k cs ih => exact isRead_group k fun m hm => ih m hm (raws_of_group h hm)
  | not inner ih => exact isRead_not (ih h)

/-! ## Truth and values -/

theorem eval_chain (ρ : Atom → Truth) (k : Conjunction) (c : Condition) (cs : List Condition) :
    (k.chain c.predicate (cs.map predicate)).eval ρ =
      k.truth ((c :: cs).map fun m => m.predicate.eval ρ) := by
  induction cs generalizing c with
  | nil => cases k <;> simp [Conjunction.chain, Conjunction.truth, Truth.all, Truth.any]
  | cons c' cs ih =>
    rw [List.map_cons, Conjunction.chain, List.map_cons]
    cases k with
    | and => exact congrArg _ (ih c')
    | or => exact congrArg _ (ih c')

/-- What is read of a condition means what the condition means. -/
theorem eval_predicate (ρ : Atom → Truth) {c : Condition} (h : c.raws = []) :
    c.predicate.eval ρ = c.truth ρ := by
  induction c using Condition.induct with
  | compare | isNull => rfl
  | isIn column values => cases values <;> rfl
  | raw source => cases h
  | group k members ih =>
    cases members with
    | nil => cases k <;> rfl
    | cons c cs =>
      rw [predicate, predicates_eq_map, eval_chain, truth, truths_eq_map]
      exact congrArg _ (List.map_congr_left fun m hm => ih m hm (raws_of_group h hm))
  | not inner ih => exact congrArg Truth.not (ih h)

theorem values_chain {d : Dialect} (k : Conjunction) {c : Condition} {cs : List Condition}
    (h : ∀ m ∈ c :: cs, m.predicate.values = (m.fragment d).values) :
    (k.chain c.predicate (cs.map predicate)).values =
      (Fragment.join k.text ((c :: cs).map (fragment d))).values := by
  induction cs generalizing c with
  | nil => simpa [Conjunction.chain, join_singleton] using h
  | cons c' cs ih =>
    obtain ⟨hc, hcs⟩ := List.forall_mem_cons.1 h
    have hk (p q : Predicate) : (k.connect p q).values = p.values ++ q.values := by cases k <;> rfl
    simp only [List.map_cons, Conjunction.chain, hk, hc] at ih ⊢
    simp [ih hcs, join_cons_cons, ofText]

/-- The values of what is read are those that the condition binds, in its order. -/
theorem values_predicate (d : Dialect) {c : Condition} (h : c.raws = []) :
    c.predicate.values = (c.fragment d).values := by
  induction c using Condition.induct with
  | compare column op value =>
    by_cases hn : IsNullTest op value
    · obtain ⟨hv, rfl | rfl⟩ := hn <;>
        simp [predicate, comparisonAtom, fragment, comparison, hv, Predicate.values, ofText]
    · rw [predicate, comparisonAtom_of_not_isNullTest hn, fragment, comparison_eq_append hn]
      rfl
  | isIn column values => cases values <;> rfl
  | isNull => rfl
  | raw source => cases h
  | group k members ih =>
    cases members with
    | nil => rfl
    | cons c cs =>
      rw [predicate, predicates_eq_map, fragment, fragments_eq_map]
      exact values_chain k fun m hm => ih m hm (raws_of_group h hm)
  | not inner ih => exact ih h

/-- The text of conditions reads as their conjunction, in every dialect: it is read to its end, its
markers take the values in order, and its truth value is that of the conditions together. -/
theorem whereClause_means (d : Dialect) {cs : List Condition} (hne : cs ≠ [])
    (hraw : ∀ c ∈ cs, c.raws = []) :
    ∃ f p, whereClause? d cs = some f ∧ read? d f = some p ∧ p.values = f.values ∧
      ∀ ρ, p.eval ρ = Truth.all (cs.map (truth ρ)) := by
  obtain ⟨c, cs, rfl⟩ := List.exists_cons_of_ne_nil hne
  have hl : LexesTo d (.join " AND " ((c :: cs).map (fragment d))) (memberTokens .and (c :: cs)) :=
    .join (separator_conjunction .and) fun m hm => lexesTo (hraw m hm)
  have hd : disjunction _ (memberTokens .and (c :: cs) ++ []) = _ :=
    disjunction_memberTokens .and (fun m hm => negation_tokens (hraw m hm)) (Nat.le_refl _) rfl rfl
  refine ⟨.join " AND " ((c :: cs).map (fragment d)),
    Conjunction.and.chain c.predicate (cs.map predicate), ?_, ?_, ?_, fun ρ => ?_⟩
  · rw [whereClause?, if_neg (by simp), fragments_eq_map]
  · rw [read?, hl.tokens, hl.values, Token.fill_erase]
    rw [List.append_nil] at hd
    simp [hd]
  · exact values_chain .and fun m hm => values_predicate d (hraw m hm)
  · rw [eval_chain]
    exact congrArg _ (List.map_congr_left fun m hm => eval_predicate ρ (hraw m hm))

/-- A name with brackets and a question mark, a negated group without members, and memberships. -/
theorem whereClause_means_nested :
    let cs := [.group .or [.compare "a] OR [?" .notEq .null, .not (.isIn "b" [.int 1, .int 2])],
      .not (.group .and []), .not (.group .or [.isIn "c" [], .compare "d" .notLike (.text "?")])]
    (cs ≠ [] ∧ ∀ c ∈ cs, c.raws = []) ∧
      ∃ f p, whereClause? .sqlServer cs = some f ∧ read? .sqlServer f = some p ∧
        p.values = f.values ∧ ∀ ρ, p.eval ρ = Truth.all (cs.map (truth ρ)) := by
  intro cs
  have hne : cs ≠ [] := List.cons_ne_nil _ _
  have hraw : ∀ c ∈ cs, c.raws = [] := by decide
  exact ⟨⟨hne, hraw⟩, whereClause_means .sqlServer hne hraw⟩

end Condition

end Polydialect
