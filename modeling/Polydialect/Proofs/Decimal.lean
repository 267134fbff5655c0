import Polydialect.Number.Decimal
import Polydialect.Proofs.Calendar

/-!
# Decimals as texts

The text of a decimal is its sign and its digits, with a point before the places if there are any
(`Decimal.toList_toText`). It is read as its parts (`Decimal.ofText?_toText`): the sign, the
coefficient and the scale, so trailing zeros are kept. Only a zero loses its sign.
-/

namespace Polydialect.Decimal

open Number

variable {ds rest : List Char} {negative : Bool}

/-! ## The text -/

/-- The digits of the text, at least one more than there are places. -/
def digits (d : Decimal) : List Char := Timestamp.padded (d.scale + 1) d.coefficient

/-- How many of the digits stand before the point. -/
def wholeLength (d : Decimal) : Nat := d.digits.length - d.scale

theorem isDigit_of_mem_digits {d : Decimal} {c : Char} (h : c ∈ d.digits) : c.isDigit = true :=
  Timestamp.isDigit_of_mem_padded h

theorem scale_lt_length_digits (d : Decimal) : d.scale < d.digits.length := by
  simp only [digits, Timestamp.padded, List.length_append, List.length_replicate]
  omega

theorem toList_toText (d : Decimal) : d.toText.toList = (if d.negative then ['-'] else []) ++
    (d.digits.take d.wholeLength ++ if d.scale = 0 then [] else '.' :: d.digits.drop d.wholeLength) :=
  String.toList_ofList.trans (List.append_assoc _ _ _)

/-! ## Reading it -/

/-- A digit that has room. -/
theorem run_digit {n scale : Nat} {point : Bool} {c : Char} (hc : c.isDigit = true)
    (hn : 10 * n + (c.toNat - '0'.toNat) < limit) (hroom : point = true → scale < maxScale)
    (digit : Bool) (rest : List Char) :
    Reading.run ⟨negative, n, scale, point, digit⟩ (c :: rest) =
      Reading.run ⟨negative, 10 * n + (c.toNat - '0'.toNat), if point then scale + 1 else 0, point,
        true⟩ rest := by
  have hfull : ¬ (point = true ∧ maxScale ≤ scale) := fun ⟨hp, hs⟩ =>
    absurd (hroom hp) (Nat.not_lt.2 hs)
  rw [Reading.run, if_neg hfull, if_pos hc]
  simp only [if_pos hn]

/-- The digits before the point. -/
theorem run_whole (hd : ∀ c ∈ ds, c.isDigit = true) {n : Nat}
    (hn : Nat.ofDigitChars 10 ds n < limit) (hne : ds ≠ []) (digit : Bool) (rest : List Char) :
    Reading.run ⟨negative, n, 0, false, digit⟩ (ds ++ rest) =
      Reading.run ⟨negative, Nat.ofDigitChars 10 ds n, 0, false, true⟩ rest := by
  induction ds generalizing n digit with
  | nil => exact absurd rfl hne
  | cons c ds ih =>
    obtain ⟨hc, hds⟩ := List.forall_mem_cons.1 hd
    rw [Nat.ofDigitChars_cons] at hn ⊢
    -- the digits so far are at most the whole number, so each of them has room
    rw [List.cons_append, run_digit hc (Nat.lt_of_le_of_lt (le_ofDigitChars ds _) hn)
      (fun h => absurd h (by decide))]
    cases ds with
    | nil => rfl
    | cons d ds => exact ih hds hn (List.cons_ne_nil _ _) true

/-- The digits after the point. -/
theorem run_fraction (hd : ∀ c ∈ ds, c.isDigit = true) {n scale : Nat}
    (hn : Nat.ofDigitChars 10 ds n < limit) (hs : scale + ds.length ≤ maxScale) :
    Reading.run ⟨negative, n, scale, true, true⟩ ds =
      ofParts? negative (Nat.ofDigitChars 10 ds n) (scale + ds.length) := by
  induction ds generalizing n scale with
  | nil => rfl
  | cons c ds ih =>
    obtain ⟨hc, hds⟩ := List.forall_mem_cons.1 hd
    rw [Nat.ofDigitChars_cons] at hn ⊢
    rw [List.length_cons] at hs ⊢
    have hroom : scale < maxScale := by omega
    rw [run_digit hc (Nat.lt_of_le_of_lt (le_ofDigitChars ds _) hn) fun _ => hroom, if_pos rfl,
      ih hds hn (by omega), Nat.add_assoc, Nat.add_comm 1]

/-- Digits, of which the last ones may stand behind a point. -/
theorem run_parts {whole fraction : List Char} (negative : Bool)
    (hw : ∀ c ∈ whole, c.isDigit = true) (hf : ∀ c ∈ fraction, c.isDigit = true) (hne : whole ≠ [])
    (hn : Nat.ofDigitChars 10 (whole ++ fraction) 0 < limit) (hs : fraction.length ≤ maxScale) :
    Reading.run ⟨negative, 0, 0, false, false⟩
        (whole ++ if fraction.length = 0 then [] else '.' :: fraction) =
      ofParts? negative (Nat.ofDigitChars 10 (whole ++ fraction) 0) fraction.length := by
  rw [Nat.ofDigitChars_append] at hn ⊢
  rw [run_whole hw (Nat.lt_of_le_of_lt (le_ofDigitChars fraction _) hn) hne]
  split
  · rename_i h0
    rw [List.length_eq_zero_iff.1 h0]
    rfl
  · have hroom : 0 + fraction.length ≤ maxScale := by omega
    exact (run_fraction hf hn hroom).trans (congrArg _ (Nat.zero_add _))

/-- A text that begins with a digit has no sign. -/
theorem ofText?_of_digit {s : String} {c : Char} {r : List Char} (h : s.toList = c :: r)
    (hc : c.isDigit = true) : ofText? s = Reading.run ⟨false, 0, 0, false, false⟩ (c :: r) := by
  rw [ofText?, h]
  split
  · contradiction
  · rename_i h
    rw [(List.cons.inj h).1] at hc
    exact absurd hc (by decide)
  · rename_i h
    rw [(List.cons.inj h).1] at hc
    exact absurd hc (by decide)
  · rfl

/-- The text of a decimal is read as its parts. -/
theorem ofText?_toText (d : Decimal) :
    ofText? d.toText = ofParts? d.negative d.coefficient d.scale := by
  obtain ⟨negative, n, scale, hn, hs⟩ := d
  let d : Decimal := ⟨negative, n, scale, hn, hs⟩
  have hlen : scale < d.digits.length := d.scale_lt_length_digits
  have hdigit : ∀ c ∈ d.digits, c.isDigit = true := fun _ => isDigit_of_mem_digits
  have hvalue :
      Nat.ofDigitChars 10 (d.digits.take d.wholeLength ++ d.digits.drop d.wholeLength) 0 = n := by
    rw [List.take_append_drop]
    exact Timestamp.ofDigitChars_padded (scale + 1) n
  have hwhole : d.wholeLength = d.digits.length - scale := rfl
  have hscale : (d.digits.drop d.wholeLength).length = scale := by
    rw [List.length_drop]
    omega
  obtain ⟨c, r, hfirst⟩ : ∃ c r, d.digits.take d.wholeLength = c :: r :=
    List.exists_cons_of_length_pos (by rw [List.length_take]; omega)
  have hrun (negative : Bool) : Reading.run ⟨negative, 0, 0, false, false⟩
      (d.digits.take d.wholeLength ++ if scale = 0 then [] else '.' :: d.digits.drop d.wholeLength) =
        ofParts? negative n scale := by
    have h := run_parts negative (fun c hc => hdigit c (List.mem_of_mem_take hc))
      (fun c hc => hdigit c (List.mem_of_mem_drop hc)) (hfirst ▸ List.cons_ne_nil c r)
      (hvalue ▸ hn) (hscale ▸ hs)
    rwa [hvalue, hscale] at h
  have htext := toList_toText d
  cases negative with
  | true =>
    rw [ofText?, htext]
    exact hrun true
  | false =>
    have hc : c.isDigit = true := hdigit c (List.mem_of_mem_take (hfirst ▸ List.mem_cons_self))
    rw [hfirst] at hrun htext
    exact (ofText?_of_digit htext hc).trans (hrun false)

/-- Only a zero with a sign has other parts than it is made of. -/
theorem ofParts?_eq_self_iff (d : Decimal) :
    ofParts? d.negative d.coefficient d.scale = some d ↔
      (d.coefficient = 0 → d.negative = false) := by
  obtain ⟨negative, n, scale, h⟩ := d
  rw [ofParts?, dif_pos h]
  cases negative <;> simp

end Polydialect.Decimal
