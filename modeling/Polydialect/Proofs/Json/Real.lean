import Polydialect.Proofs.Json.Numeral

/-!
# Binary numbers in JSON text

A finite binary number is written by the digits of a positive decimal (`shortest_pos`), positional
or with a power of ten, and in either form it is a well-formed numeral
(`Json.Numeral.wellFormed_ofFinite`, `text_ofFinite`).
-/

namespace Polydialect

namespace Binary64

/-! ## The shortest decimal is positive -/

theorem pow_ten_pos (n : Nat) : 0 < Nat.pow 10 n := Nat.pow_pos (by decide)

theorem one_pos : 0 < one := by decide +kernel

theorem units_pos {r : Nat} (hr : 0 < r) : 0 < units r := by
  unfold units
  split
  · exact hr
  · have hbinade : 0 < binade := Nat.pow_pos (by decide)
    exact Nat.mul_pos (by omega) (Nat.pow_pos (by decide))

/-- No interval around a positive number reaches down to zero. -/
theorem pos_of_rounds {r c : Nat} {e : Int} (hr : 0 < r) (h : rounds r c e = true) : 0 < c := by
  refine Nat.pos_of_ne_zero fun hc => ?_
  have hlow : 0 < (units (r - 1) + units r) * lift e :=
    Nat.mul_pos (by have := units_pos hr; omega) (pow_ten_pos _)
  -- a zero coefficient lies below the lower end of the interval
  have hvalue : 2 * c * scale e * one = 0 := by simp [hc]
  unfold rounds at h
  simp only [hvalue] at h
  split at h
  · simp only [Bool.and_eq_true, decide_eq_true_eq] at h
    omega
  · simp only [Bool.and_eq_true, decide_eq_true_eq] at h
    omega

theorem pos_of_onGrid? {tie : Tie} {r c : Nat} {e : Int} (hr : 0 < r)
    (h : onGrid? tie r e = some c) : 0 < c := by
  -- a point below the number is positive if it is in the interval, and a point above it is
  have hdown : rounds r (units r * lift e / (one * scale e)) e = true →
      0 < units r * lift e / (one * scale e) := pos_of_rounds hr
  unfold onGrid? at h
  simp only at h
  split at h
  · rename_i hboth
    have hpos := hdown (Bool.and_eq_true_iff.1 hboth).1
    split at h
    · cases h
      exact hpos
    · split at h
      · cases h
        exact Nat.succ_pos _
      · cases tie with
        | away =>
          cases h
          exact Nat.succ_pos _
        | even =>
          cases h
          exact Nat.add_pos_left hpos _
  · split at h
    · rename_i hin
      cases h
      exact hdown hin
    · split at h
      · cases h
        exact Nat.succ_pos _
      · cases h

theorem stripZeros_pos {d : Shortest} (h : 0 < d.coefficient) (fuel : Nat) :
    0 < (d.stripZeros fuel).coefficient := by
  induction fuel generalizing d with
  | zero => exact h
  | succ fuel ih =>
    rw [Shortest.stripZeros]
    split
    · exact ih (by show 0 < d.coefficient / 10; omega)
    · exact h

/-- A positive number is at least the power of ten before its first digit. -/
theorem exists_pow_le {r : Nat} (hr : 0 < r) :
    ∃ n : Nat, pointOf r = n - 339 ∧ one * Nat.pow 10 n ≤ units r * Nat.pow 10 340 := by
  have hone : one ≤ Nat.pow 10 340 := by decide +kernel
  have hleast : one ≤ units r * Nat.pow 10 340 :=
    Nat.le_trans hone (Nat.le_mul_of_pos_left _ (units_pos hr))
  have hlen : 0 < (Nat.toDigits 10 (units r * Nat.pow 10 340 / one)).length :=
    Nat.length_toDigits_pos
  refine ⟨(Nat.toDigits 10 (units r * Nat.pow 10 340 / one)).length - 1, ?_, ?_⟩
  · rw [pointOf]
    omega
  · rw [Nat.mul_comm, ← Nat.le_div_iff_mul_le one_pos]
    refine Nat.le_of_not_lt fun hlt => ?_
    by_cases hone : 0 < (Nat.toDigits 10 (units r * Nat.pow 10 340 / one)).length - 1
    · have := (Nat.length_toDigits_le_iff (by decide) hone).2 hlt
      omega
    · rw [Nat.eq_zero_of_not_pos hone] at hlt
      have : 1 ≤ units r * Nat.pow 10 340 / one := (Nat.le_div_iff_mul_le one_pos).2 (by omega)
      exact absurd hlt (Nat.not_lt.2 this)

/-- A bound by powers of ten, divided by the larger of two powers. -/
theorem pow_sub_le {x y n a b : Nat} (hab : a ≤ b) (h : x * Nat.pow 10 n ≤ y * Nat.pow 10 a) :
    x * Nat.pow 10 (n - b) ≤ y * Nat.pow 10 (b - n) := by
  change x * 10 ^ n ≤ y * 10 ^ a at h
  show x * 10 ^ (n - b) ≤ y * 10 ^ (b - n)
  have hpow : 10 ^ a ≤ 10 ^ b := Nat.pow_le_pow_right (by decide) hab
  rcases Nat.le_total b n with hn | hn
  · rw [Nat.sub_eq_zero_of_le hn]
    refine Nat.le_of_mul_le_mul_right (c := 10 ^ b) ?_ (Nat.pow_pos (by decide))
    calc x * 10 ^ (n - b) * 10 ^ b = x * 10 ^ n := by
          rw [Nat.mul_assoc, ← Nat.pow_add, Nat.sub_add_cancel hn]
      _ ≤ y * 10 ^ a := h
      _ ≤ y * 10 ^ b := Nat.mul_le_mul_left y hpow
      _ = y * 10 ^ 0 * 10 ^ b := by rw [Nat.pow_zero, Nat.mul_one]
  · rw [Nat.sub_eq_zero_of_le hn]
    refine Nat.le_of_mul_le_mul_right (c := 10 ^ a) ?_ (Nat.pow_pos (by decide))
    calc x * 10 ^ 0 * 10 ^ a = x * 10 ^ a := by rw [Nat.pow_zero, Nat.mul_one]
      _ ≤ x * 10 ^ b := Nat.mul_le_mul_left x hpow
      _ = x * 10 ^ n * 10 ^ (b - n) := by
          rw [Nat.mul_assoc, ← Nat.pow_add, Nat.add_sub_cancel' hn]
      _ ≤ y * 10 ^ a * 10 ^ (b - n) := Nat.mul_le_mul_right _ h
      _ = y * 10 ^ (b - n) * 10 ^ a := Nat.mul_right_comm _ _ _

/-- Seventeen digits of a positive number are not all zero. -/
theorem pos_of_seventeen {r : Nat} (hr : 0 < r) :
    0 < units r * lift (pointOf r - 17) / (one * scale (pointOf r - 17)) := by
  obtain ⟨n, hn, hle⟩ := exists_pow_le hr
  have hl : lift (pointOf r - 17) = Nat.pow 10 (356 - n) := by
    rw [lift, show (-(pointOf r - 17)).toNat = 356 - n by omega]
  have hs : scale (pointOf r - 17) = Nat.pow 10 (n - 356) := by
    rw [scale, show (pointOf r - 17).toNat = n - 356 by omega]
  rw [hl, hs]
  exact Nat.div_pos (pow_sub_le (by decide) hle) (Nat.mul_pos one_pos (pow_ten_pos _))

theorem shortest_pos {r : Nat} (hr : 0 < r) (tie : Tie) : 0 < (shortest tie r).coefficient := by
  unfold shortest
  simp only
  split
  · rename_i d hd
    obtain ⟨k, -, hk⟩ := List.exists_of_findSome?_eq_some hd
    obtain ⟨c, hc, rfl⟩ := Option.map_eq_some_iff.1 hk
    exact stripZeros_pos (pos_of_onGrid? hr hc) 17
  · exact pos_of_seventeen hr

end Binary64

namespace Json.Numeral

open Binary64 Number

/-! ## The numeral of a finite number -/

/-- Digits with the point after the first `point` of them, with a zero on either side of the point
where no digit stands. -/
def positional (negative : Bool) (digits : List Char) (point : Int) : Numeral :=
  if point ≤ 0 then ⟨negative, ['0'], List.replicate (-point).toNat '0' ++ digits, none⟩
  else if digits.length ≤ point.toNat then
    ⟨negative, digits ++ List.replicate (point.toNat - digits.length) '0', ['0'], none⟩
  else ⟨negative, digits.take point.toNat, digits.drop point.toNat, none⟩

/-- Digits with the point after the first of them and a power of ten. -/
def scientific (negative : Bool) (digits : List Char) (point : Int) : Numeral :=
  ⟨negative, digits.take 1, digits.drop 1, some (point - 1)⟩

/-- The numeral of a decimal. -/
def ofShortest (negative : Bool) (d : Shortest) : Numeral :=
  let digits := Nat.toDigits 10 d.coefficient
  let point := digits.length + d.exponent
  if -4 ≤ point ∧ point ≤ 16 then positional negative digits point
  else scientific negative digits point

/-- The numeral of a finite binary number. -/
def ofFinite (negative : Bool) (r : Nat) : Numeral :=
  if r = 0 then ⟨negative, ['0'], ['0'], none⟩ else ofShortest negative (shortest .even r)

/-- The digits of a positive number. -/
structure Leading (digits : List Char) : Prop where
  digit : ∀ c ∈ digits, c.isDigit = true
  nonempty : digits ≠ []
  first : digits.head? ≠ some '0'

theorem leading_toDigits {n : Nat} (hn : 0 < n) : Leading (Nat.toDigits 10 n) :=
  ⟨fun _ => isDigit_of_mem_toDigits, Nat.toDigits_ne_nil, head?_toDigits_ne_zero hn⟩

theorem isDigit_of_mem_zeros {ds : List Char} {n : Nat} (h : ∀ c ∈ ds, c.isDigit = true) {c : Char}
    (hc : c ∈ List.replicate n '0' ∨ c ∈ ds) : c.isDigit = true :=
  hc.elim (fun hc => (List.mem_replicate.1 hc).2 ▸ by decide) (h c)

/-- A zero before the point. -/
theorem wellFormed_zero (negative : Bool) {fraction : List Char}
    (h : ∀ c ∈ fraction, c.isDigit = true) : WellFormed ⟨negative, ['0'], fraction, none⟩ where
  whole _ hc := (List.mem_singleton.1 hc) ▸ by decide
  nonempty := List.cons_ne_nil _ _
  leading hl := absurd hl (Nat.lt_irrefl 1)
  fraction := h

variable {digits : List Char}

theorem wellFormed_positional (negative : Bool) (h : Leading digits) (point : Int) :
    (positional negative digits point).WellFormed := by
  obtain ⟨c, r, rfl⟩ := List.exists_cons_of_ne_nil h.nonempty
  have hzero : ∀ c ∈ ['0'], c.isDigit = true := List.all_eq_true.1 rfl
  unfold positional
  split
  · exact wellFormed_zero negative fun c hc => isDigit_of_mem_zeros h.digit (List.mem_append.1 hc)
  · split
    · refine ⟨fun c hc => ?_, by simp, fun _ => h.first, hzero⟩
      exact isDigit_of_mem_zeros h.digit (List.mem_append.1 hc).symm
    · obtain ⟨n, hn⟩ : ∃ n, point.toNat = n + 1 := ⟨point.toNat - 1, by omega⟩
      rw [hn]
      refine ⟨fun c hc => h.digit c (List.mem_of_mem_take hc), by simp, fun _ => h.first,
        fun c hc => h.digit c (List.mem_of_mem_drop hc)⟩

theorem wellFormed_scientific (negative : Bool) (h : Leading digits) (point : Int) :
    (scientific negative digits point).WellFormed := by
  obtain ⟨c, r, rfl⟩ := List.exists_cons_of_ne_nil h.nonempty
  exact ⟨fun c hc => h.digit c (List.mem_of_mem_take hc), List.cons_ne_nil _ _, fun _ => h.first,
    fun c hc => h.digit c (List.mem_of_mem_drop hc)⟩

theorem wellFormed_ofFinite (negative : Bool) (r : Nat) : (ofFinite negative r).WellFormed := by
  unfold ofFinite
  split
  · exact wellFormed_zero negative (List.all_eq_true.1 rfl)
  · have h := leading_toDigits (shortest_pos (Nat.pos_of_ne_zero ‹_›) .even)
    unfold ofShortest
    simp only
    split
    · exact wellFormed_positional negative h _
    · exact wellFormed_scientific negative h _

theorem text_positional (negative : Bool) (h : digits ≠ []) (point : Int) :
    (positional negative digits point).text =
      (if negative then ['-'] else []) ++ positionalText true digits point := by
  unfold positional positionalText
  simp only
  split
  · simp [text, fractionText, powerText, h]
  · split
    · simp [text, fractionText, powerText]
    · have hlt : ¬ digits.length ≤ point.toNat := ‹_›
      simp [text, fractionText, powerText, hlt]

theorem text_scientific (negative : Bool) (h : digits ≠ []) (point : Int) :
    (scientific negative digits point).text =
      (if negative then ['-'] else []) ++ exponentText digits point := by
  match digits, h with
  | [d], _ => rfl
  | d :: e :: r, _ => rfl

/-- A positive decimal is written as its numeral. -/
theorem text_ofShortest (negative : Bool) {d : Shortest} (h : 0 < d.coefficient) :
    (ofShortest negative d).text = (if negative then ['-'] else []) ++ d.text .json := by
  have hdigits := (leading_toDigits h).nonempty
  by_cases hpoint : -4 ≤ (Nat.toDigits 10 d.coefficient).length + d.exponent ∧
      (Nat.toDigits 10 d.coefficient).length + d.exponent ≤ 16
  · rw [show ofShortest negative d = positional negative _ _ from if_pos hpoint,
      show d.text .json = positionalText true _ _ from if_pos hpoint]
    exact text_positional negative hdigits _
  · rw [show ofShortest negative d = scientific negative _ _ from if_neg hpoint,
      show d.text .json = exponentText _ _ from if_neg hpoint]
    exact text_scientific negative hdigits _

/-- A finite number is written as its numeral. -/
theorem text_ofFinite (negative : Bool) (r : Nat) :
    (ofFinite negative r).text = finiteText .json negative r := by
  unfold ofFinite finiteText
  split
  · simp [text, fractionText, powerText, Layout.json]
  · exact text_ofShortest negative (shortest_pos (Nat.pos_of_ne_zero ‹_›) .even)

end Json.Numeral

end Polydialect
