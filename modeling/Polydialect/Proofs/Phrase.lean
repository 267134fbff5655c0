import Mathlib.Data.List.Forall2
import Polydialect.Proofs.Paging

/-!
# Texts put together from words and names

A statement is put together from keywords, quoted names and numbers. Its tokens are those of the
parts, one part after the other, where a part ends between tokens or the next one begins with a
character that belongs to no token before it (`Leaves.append`, `Phrase.append`).

* `Phrase.intercalate`: parts with a separator between each two;
* `readNames?_names`: names with commas between them are read as these names.
-/

namespace Polydialect.Sql

variable {d : Dialect} {s t : String} {ts us : List (Token Unit)}

/-- The text lexes to tokens, and every quoted name in it has an end. -/
structure Phrase (d : Dialect) (s : String) (ts : List (Token Unit)) : Prop where
  tokens : lex d.delimiters s = ts
  closed : ¬ (Scan.between.after d.delimiters s.toList).IsOpen

/-- The text begins with a character that belongs to no token before it. -/
def Parts (s : String) : Prop := s.toList.head? ∈ [some ' ', some '\n', some ')', some ',']

instance (s : String) : Decidable (Parts s) := inferInstanceAs (Decidable (_ ∈ _))

theorem Parts.exists_separates (h : Parts s) (d : Dialect) :
    ∃ c r, s.toList = c :: r ∧ Scan.Separates d.delimiters c :=
  Scan.exists_separates d h

theorem Parts.append (h : Parts s) (t : String) : Parts (s ++ t) := by
  unfold Parts at h ⊢
  rw [String.toList_append]
  cases hs : s.toList with
  | nil => simp [hs] at h
  | cons c r => simpa [hs] using h

theorem Leaves.phrase (h : Leaves d s ts) : Phrase d s ts :=
  ⟨h.tokens, by rw [h.between]; exact id⟩

theorem Leaves.blank (d : Dialect) : Leaves d " " [] := by cases d <;> decide

theorem Phrase.closing (d : Dialect) : Phrase d ")" [.symbol .closing] := by
  cases d <;> exact ⟨by decide, by decide⟩

theorem Phrase.quote (d : Dialect) (n : String) : Phrase d (d.quote n) [.symbol (.name n)] :=
  ⟨(lex_quote d n).1, (lex_quote d n).2⟩

theorem Phrase.number (d : Dialect) (n : Nat) : Phrase d (toString n) [.symbol (.number n)] :=
  ⟨(lex_number d n).1, (lex_number d n).2⟩

theorem Leaves.append (hs : Leaves d s ts) (ht : Phrase d t us) : Phrase d (s ++ t) (ts ++ us) := by
  refine ⟨by rw [hs.lex_append, ht.tokens], ?_⟩
  rw [String.toList_append, (Scan.tokens_append_of_between hs.between _).2]
  exact ht.closed

theorem Phrase.append (hs : Phrase d s ts) (ht : Phrase d t us) (h : Parts t) :
    Phrase d (s ++ t) (ts ++ us) := by
  obtain ⟨c, r, hr, hc⟩ := h.exists_separates d
  obtain ⟨htokens, hafter⟩ := Scan.tokens_append hs.closed hc (b := r)
  rw [← hr] at htokens hafter
  refine ⟨?_, ?_⟩
  · rw [lex, String.toList_append, htokens, ← hs.tokens, ← ht.tokens]
    rfl
  · rw [String.toList_append, hafter]
    exact ht.closed

theorem Phrase.append_leaves (hs : Phrase d s ts) (ht : Leaves d t us) (h : Parts t) :
    Leaves d (s ++ t) (ts ++ us) := by
  obtain ⟨c, r, hr, hc⟩ := h.exists_separates d
  obtain ⟨-, hafter⟩ := Scan.tokens_append hs.closed hc (b := r)
  refine ⟨(hs.append ht.phrase h).tokens, ?_⟩
  rw [String.toList_append, hr, hafter, ← hr, ht.between]

theorem Phrase.intercalate {sep : String} {ss : List (Token Unit)} (hsep : Leaves d sep ss)
    (hparts : Parts sep) {texts : List String} {parts : List (List (Token Unit))}
    (h : List.Forall₂ (Phrase d) texts parts) :
    Phrase d (sep.intercalate texts) (List.intercalate ss parts) := by
  induction h with
  | nil => exact ⟨rfl, id⟩
  | cons hfirst hrest ih =>
    cases hrest with
    | nil => simpa using hfirst
    | cons =>
      rw [String.intercalate_cons_cons, List.intercalate_cons_cons]
      exact (hfirst.append_leaves hsep hparts).append ih

/-! ## Lists that are read -/

/-- What is read one by one is read as the list of what they are. -/
theorem mapM_eq_some {α β : Type} {f : α → Option β} {as : List α} {bs : List β}
    (h : List.Forall₂ (fun a b => f a = some b) as bs) : as.mapM f = some bs := by
  induction h with
  | nil => rfl
  | cons ha _ ih =>
    rw [List.mapM_cons, ha, ih]
    rfl

/-- Names with commas between them, up to the tokens that follow the last one. -/
def readNames? (stop : List (Token Unit)) : List (Token Unit) → Option (List String)
  | .symbol (.name n) :: .symbol .comma :: ts => (readNames? stop ts).map (n :: ·)
  | .symbol (.name n) :: ts => if ts = stop then some [n] else none
  | _ => none

/-- The tokens of names with commas between them. -/
def nameTokens (names : List String) : List (Token Unit) :=
  List.intercalate [.symbol .comma] (names.map fun n => [.symbol (.name n)])

theorem nameTokens_cons_cons (m n : String) (names : List String) :
    nameTokens (m :: n :: names) =
      .symbol (.name m) :: .symbol .comma :: nameTokens (n :: names) := by
  simp [nameTokens, List.intercalate_cons_cons]

theorem Phrase.quoteAll (d : Dialect) (names : List String) :
    Phrase d (d.quoteAll names) (nameTokens names) := by
  have hcomma : Leaves d ", " [.symbol .comma] := by cases d <;> decide
  refine .intercalate hcomma (by decide) ?_
  rw [List.forall₂_map_left_iff, List.forall₂_map_right_iff, List.forall₂_same]
  exact fun n _ => .quote d n

theorem readNames?_names {names : List String} (hne : names ≠ []) {stop : List (Token Unit)}
    (hstop : stop.head? ≠ some (.symbol .comma)) :
    readNames? stop (nameTokens names ++ stop) = some names := by
  induction names with
  | nil => exact absurd rfl hne
  | cons n names ih =>
    cases names with
    | nil =>
      cases stop with
      | nil => simp [nameTokens, readNames?]
      | cons t stop =>
        have ht : t ≠ .symbol .comma := by simpa using hstop
        simp [nameTokens, readNames?, ht]
    | cons m names =>
      have hrest := ih (List.cons_ne_nil m names)
      rw [nameTokens_cons_cons, List.cons_append, List.cons_append, readNames?, hrest]
      rfl

end Polydialect.Sql
