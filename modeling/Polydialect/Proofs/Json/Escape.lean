import Polydialect.Json.Lexer
import Polydialect.Json.Printer

/-!
# Strings in JSON text

A string that is written between quotes is read as the same characters: the lexer passes over every
escape (`tokensFrom_stringText`), and what it has passed over stands for the string
(`nameOf?_escaped`).
-/

namespace Polydialect.Json

/-- Option computations that end in a value. -/
theorem bind_some_eq_map {α β : Type} (x : Option α) (f : α → β) :
    (x.bind fun a => some (f a)) = x.map f := by
  cases x <;> rfl

/-! ## Escapes -/

theorem hexValue?_hexDigit : ∀ n < 16, Text.hexValue? (hexDigit n) = some n := by decide

/-- A control character is the code unit of its two last digits. -/
theorem codeUnit?_control {n : Nat} (h : n < 0x20) :
    codeUnit? '0' '0' (hexDigit (n / 16)) (hexDigit (n % 16)) = some n := by
  have hhigh := hexValue?_hexDigit (n / 16) (by omega)
  have hlow := hexValue?_hexDigit (n % 16) (by omega)
  have hzero : Text.hexValue? '0' = some 0 := by decide
  have hn : 16 * (n / 16) + n % 16 = n := by omega
  simp [codeUnit?, hhigh, hlow, hzero, hn]

theorem unescapeAll?_plain {c : Char} (hc : c ≠ '\\') (rest : List Char) :
    unescapeAll? (c :: rest) = (unescapeAll? rest).map (c :: ·) := by
  rw [← bind_some_eq_map]
  simp [unescapeAll?, hc]

theorem unescapeAll?_letter {c x : Char} (hc : c ≠ 'u') (hx : unescape? c = some x)
    (rest : List Char) : unescapeAll? ('\\' :: c :: rest) = (unescapeAll? rest).map (x :: ·) := by
  rw [← bind_some_eq_map]
  simp [unescapeAll?, hc, hx]

theorem unescapeAll?_control {n : Nat} (h : n < 0x20) (rest : List Char) :
    unescapeAll? ('\\' :: 'u' :: '0' :: '0' :: hexDigit (n / 16) :: hexDigit (n % 16) :: rest) =
      (unescapeAll? rest).map (Char.ofNat n :: ·) := by
  have hhigh : isHighHalf n = false := by simp [isHighHalf]; omega
  have hlow : isLowHalf n = false := by simp [isLowHalf]; omega
  rw [← bind_some_eq_map]
  simp [unescapeAll?, codeUnit?_control h, hhigh, hlow]

theorem unescapeAll?_escapeChar (c : Char) (rest : List Char) :
    unescapeAll? (escapeChar c ++ rest) = (unescapeAll? rest).map (c :: ·) := by
  unfold escapeChar
  split
  case h_8 c hquote hback hb hf hn hr ht =>
    split
    · rename_i h
      exact (unescapeAll?_control h rest).trans (by rw [Char.ofNat_toNat])
    · exact unescapeAll?_plain hback rest
  all_goals exact unescapeAll?_letter (by decide) rfl rest

theorem unescapeAll?_escaped (s : List Char) : unescapeAll? (s.flatMap escapeChar) = some s := by
  induction s with
  | nil => rfl
  | cons c s ih => rw [List.flatMap_cons, unescapeAll?_escapeChar, ih, Option.map_some]

/-- What is written between the quotes stands for the string. -/
theorem Source.nameOf?_escaped (s : String) :
    nameOf? (s.toList.flatMap escapeChar) = some s := by
  rw [nameOf?, unescapeAll?_escaped, Option.map_some, String.ofList_toList]

/-! ## The lexer inside a string -/

theorem tokensFrom_cons {m k : Mode} {c : Char} {ts : List Token} (h : step m c = some (ts, k))
    (rest : List Char) : tokensFrom m (c :: rest) = (tokensFrom k rest).map (ts ++ ·) := by
  rw [← bind_some_eq_map]
  simp [tokensFrom, h]

/-- A character that completes no token. -/
theorem tokensFrom_silent {m k : Mode} {c : Char} (h : step m c = some ([], k))
    (rest : List Char) : tokensFrom m (c :: rest) = tokensFrom k rest := by
  rw [tokensFrom_cons h]
  simp

theorem tokensFrom_plain {c : Char} (hquote : c ≠ '"') (hback : c ≠ '\\') (h : ¬ c.toNat < 0x20)
    (acc rest : List Char) :
    tokensFrom (.string acc) (c :: rest) = tokensFrom (.string (c :: acc)) rest :=
  tokensFrom_silent (by simp [step, hquote, hback, h]) rest

theorem tokensFrom_backslash (acc rest : List Char) :
    tokensFrom (.string acc) ('\\' :: rest) = tokensFrom (.escape ('\\' :: acc)) rest :=
  tokensFrom_silent rfl rest

theorem tokensFrom_letter {c x : Char} (hc : c ≠ 'u') (hx : unescape? c = some x)
    (acc rest : List Char) :
    tokensFrom (.string acc) ('\\' :: c :: rest) =
      tokensFrom (.string (c :: '\\' :: acc)) rest := by
  rw [tokensFrom_backslash]
  exact tokensFrom_silent (by simp [step, hc, hx]) rest

theorem tokensFrom_digit {c : Char} {n : Nat} (h : Text.hexValue? c = some n) (missing : Nat)
    (acc rest : List Char) :
    tokensFrom (.unit acc missing) (c :: rest) =
      tokensFrom (if missing ≤ 1 then .string (c :: acc) else .unit (c :: acc) (missing - 1))
        rest :=
  tokensFrom_silent (by simp [step, h]) rest

theorem tokensFrom_control {n : Nat} (h : n < 0x20) (acc rest : List Char) :
    tokensFrom (.string acc)
      ('\\' :: 'u' :: '0' :: '0' :: hexDigit (n / 16) :: hexDigit (n % 16) :: rest) =
      tokensFrom (.string
        (hexDigit (n % 16) :: hexDigit (n / 16) :: '0' :: '0' :: 'u' :: '\\' :: acc)) rest := by
  have hzero : Text.hexValue? '0' = some 0 := by decide
  rw [tokensFrom_backslash, tokensFrom_silent (k := .unit ('u' :: '\\' :: acc) 4) rfl,
    tokensFrom_digit hzero, if_neg (by decide), tokensFrom_digit hzero, if_neg (by decide),
    tokensFrom_digit (hexValue?_hexDigit _ (by omega)), if_neg (by decide),
    tokensFrom_digit (hexValue?_hexDigit _ (by omega)), if_pos (by decide)]

theorem tokensFrom_escapeChar (c : Char) (acc rest : List Char) :
    tokensFrom (.string acc) (escapeChar c ++ rest) =
      tokensFrom (.string ((escapeChar c).reverse ++ acc)) rest := by
  unfold escapeChar
  split
  case h_8 c hquote hback hb hf hn hr ht =>
    split
    · rename_i h
      exact tokensFrom_control h acc rest
    · rename_i h
      exact tokensFrom_plain hquote hback h acc rest
  all_goals exact tokensFrom_letter (by decide) rfl acc rest

theorem tokensFrom_escaped (s acc rest : List Char) :
    tokensFrom (.string acc) (s.flatMap escapeChar ++ rest) =
      tokensFrom (.string ((s.flatMap escapeChar).reverse ++ acc)) rest := by
  induction s generalizing acc with
  | nil => rfl
  | cons c s ih =>
    rw [List.flatMap_cons, List.append_assoc, tokensFrom_escapeChar, ih, List.reverse_append,
      List.append_assoc]

/-- A string is one token. -/
theorem tokensFrom_stringText (s : String) (rest : List Char) :
    tokensFrom .between (stringText s ++ rest) =
      (tokensFrom .between rest).map (.string (s.toList.flatMap escapeChar) :: ·) := by
  have htext : stringText s ++ rest = '"' :: (s.toList.flatMap escapeChar ++ '"' :: rest) := by
    simp [stringText]
  have hclose (acc : List Char) : step (.string acc) '"' = some ([.string acc.reverse], .between) :=
    by rw [step, if_pos rfl]
  rw [htext, tokensFrom_silent (k := .string []) rfl, tokensFrom_escaped, List.append_nil,
    tokensFrom_cons (hclose _), List.reverse_reverse]
  rfl

end Polydialect.Json
