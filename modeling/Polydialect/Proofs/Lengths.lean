import Mathlib.Algebra.Group.Int.Defs
import Mathlib.Data.List.Infix
import Polydialect.Column.Native

/-!
# Lengths that a catalog reports

A bounded text has two sources for its length: the number that the catalog reports beside the type,
and the one inside the type's name. A number that is not positive is none at all, so the length is
the reported one, else the one of the name (`NativeType.resolved?`). What the type is read as
(`NativeType.canonical`) takes the reported number unless it is zero, and keeps its low 32 bits.

* `NativeType.typeOf_eq_varchar_iff`: the families of bounded texts are those that hold the word
  `char`, but for the times, and a negative length makes a text unbounded;
* `NativeType.canonical_of_resolved?`: what a resolved length is read as;
* `NativeType.honours_length_iff`: the length is kept exactly if no negative number is reported
  beside it and it is no multiple of 2^32 (`NativeType.honours_length_fails`).
-/

namespace Polydialect

namespace NativeType

/-! ## Families -/

/-- The family of a bounded text, which holds the word `char` and is no time. -/
def IsCharacter (family : String) : Prop :=
  "char".toList <:+: family.toList ∧ ¬ "date".toList <+: family.toList ∧
    ¬ "timestamp".toList <+: family.toList

instance (family : String) : Decidable (IsCharacter family) := inferInstanceAs (Decidable (_ ∧ _))

/-- The families with a column type of their own, one by one. -/
def listedFamilies : List String :=
  integerFamilies ++ booleanFamilies ++ decimalFamilies ++ textFamilies ++ ["smalldatetime"]

theorem not_isCharacter_of_listed : ∀ family ∈ listedFamilies, ¬ IsCharacter family := by decide

theorem typeOf_of_isCharacter {family : String} (h : IsCharacter family) (length : Int64) :
    typeOf family length = if length < 0 then .text else .varchar := by
  have hlisted : family ∉ listedFamilies := fun hmem => not_isCharacter_of_listed family hmem h
  simp only [listedFamilies, List.mem_append, List.mem_singleton, not_or] at hlisted
  obtain ⟨⟨⟨⟨hinteger, hboolean⟩, hdecimal⟩, htext⟩, htime⟩ := hlisted
  obtain ⟨hchar, hdate, hstamp⟩ := h
  have htimes : ¬ ("date".toList.isPrefixOf family.toList ||
      "timestamp".toList.isPrefixOf family.toList || family == "smalldatetime") = true := by
    simpa [List.isPrefixOf_iff_prefix, htime] using ⟨hdate, hstamp⟩
  rw [typeOf, if_neg hinteger, if_neg hboolean, if_neg hdecimal, if_neg htext, if_neg htimes,
    if_pos (Text.isSome_cutWord?_iff.2 hchar)]

theorem typeOf_ne_varchar {family : String} (h : ¬ IsCharacter family) (length : Int64) :
    typeOf family length ≠ .varchar := by
  unfold typeOf
  split_ifs with hinteger hboolean hdecimal htext htimes hchar hneg <;> simp only [ne_eq,
    reduceCtorEq, not_false_eq_true]
  -- the word `char` is in the family, so one of the times would have been met before
  simp only [Bool.or_eq_true, not_or, List.isPrefixOf_iff_prefix] at htimes
  exact absurd ⟨Text.isSome_cutWord?_iff.1 hchar, htimes.1.1, htimes.1.2⟩ h

theorem typeOf_eq_varchar_iff {family : String} {length : Int64} :
    typeOf family length = .varchar ↔ IsCharacter family ∧ ¬ length < 0 := by
  by_cases h : IsCharacter family
  · rw [typeOf_of_isCharacter h]
    split_ifs with hneg <;> simp [h, hneg]
  · simp [typeOf_ne_varchar h, h]

/-! ## Lengths -/

/-- The family that decides how a native type is read. -/
def familyOf (native : String) : String := stem (ofText native).family

/-- The length of a native type: the reported number if it is positive, else the one that the type's
name holds if that is. -/
def resolved? (t : NativeType) (maxLength : Int64) : Option Int64 :=
  if 0 < maxLength then some maxLength else t.length.filter (0 < ·)

variable {t : NativeType} {native : String} {maxLength r : Int64}

/-- A resolved length is the one that is taken, unless a negative number is reported. -/
theorem resolved?_eq_some_iff :
    t.resolved? maxLength = some r ∧ ¬ maxLength < 0 ↔ 0 < r ∧ t.reportedLength maxLength = r := by
  -- below zero nothing agrees, at zero both take the name's length, above it the reported one
  rcases Int.lt_trichotomy maxLength.toInt 0 with h | h | h
  all_goals cases hl : t.length <;> grind [resolved?, reportedLength, Option.filter]

theorem resolved?_pos (h : t.resolved? maxLength = some r) : 0 < r := by
  unfold resolved? at h
  split_ifs at h with hpos
  · exact Option.some.inj h ▸ hpos
  · simpa using (Option.filter_eq_some_iff.1 h).2

/-- A length keeps its low 32 bits. -/
theorem toNat_lengthBits (n : Int64) : ((lengthBits n).toNat : Int) = n.toInt % 2 ^ 32 := by
  have hsize : ((UInt32.size : Nat) : Int) = 2 ^ 32 := rfl
  have hnonneg := Int.emod_nonneg n.toInt (b := 2 ^ 32) (by decide)
  have hlt := Int.emod_lt_of_pos n.toInt (b := 2 ^ 32) (by decide)
  rw [lengthBits, hsize, UInt32.toNat_ofNat_of_lt', Int.toNat_of_nonneg hnonneg]
  show _ < 4294967296
  omega

theorem lengthBits_eq_zero_iff {n : Int64} : lengthBits n = 0 ↔ (2 : Int) ^ 32 ∣ n.toInt := by
  rw [Int.dvd_iff_emod_eq_zero, ← toNat_lengthBits, Int.natCast_eq_zero, ← UInt32.toNat_inj]
  rfl

/-- The type of a bounded text whose length is resolved: unbounded if a negative number is reported,
else bounded by the low 32 bits of the length. -/
theorem canonical_of_resolved? (hfamily : IsCharacter (familyOf native))
    (hr : (ofText native).resolved? maxLength = some r) :
    canonical native maxLength =
      if maxLength < 0 then (.text, 0) else (.varchar, lengthBits r) := by
  have htype := typeOf_of_isCharacter hfamily ((ofText native).reportedLength maxLength)
  rw [familyOf] at htype
  split_ifs with hneg
  · have hreported : (ofText native).reportedLength maxLength = maxLength :=
      if_pos fun hzero => absurd (hzero ▸ hneg) Int64.lt_irrefl
    rw [hreported, if_pos hneg] at htype
    simp only [canonical, hreported, htype, columnLength]
  · obtain ⟨hpos, hreported⟩ := resolved?_eq_some_iff.1 ⟨hr, hneg⟩
    rw [hreported, if_neg (Int64.not_lt.2 (Int64.le_of_lt hpos))] at htype
    simp only [canonical, hreported, htype, columnLength, if_pos hpos]

/-- A bounded text of length zero is one whose resolved length is a multiple of 2^32. -/
theorem canonical_eq_varchar_zero_iff :
    canonical native maxLength = (.varchar, 0) ↔
      IsCharacter (familyOf native) ∧ ¬ maxLength < 0 ∧
        ∃ r, (ofText native).resolved? maxLength = some r ∧ (2 : Int) ^ 32 ∣ r.toInt := by
  constructor
  · intro h
    obtain ⟨htype, hlength⟩ := Prod.mk.inj h
    obtain ⟨hfamily, -⟩ := typeOf_eq_varchar_iff.1 htype
    rw [htype, columnLength] at hlength
    split_ifs at hlength with hpos
    · obtain ⟨hr, hneg⟩ := resolved?_eq_some_iff.2 ⟨hpos, rfl⟩
      exact ⟨hfamily, hneg, _, hr, lengthBits_eq_zero_iff.1 hlength⟩
    -- the length in place of none is not zero
    · exact absurd hlength (by decide)
  · rintro ⟨hfamily, hneg, r, hr, hdvd⟩
    rw [canonical_of_resolved? hfamily hr, if_neg hneg, lengthBits_eq_zero_iff.2 hdvd]

/-- A native type is read with the length that it is resolved to: where there is one, a bounded text
is read as such, with that length if 32 bits hold it; and no bounded text has the length zero. -/
structure HonoursLength (native : String) (maxLength : Int64) : Prop where
  bounded : IsCharacter (familyOf native) → ∀ r, (ofText native).resolved? maxLength = some r →
    (canonical native maxLength).1 = .varchar ∧
      (r.toInt < 2 ^ 32 → ((canonical native maxLength).2.toNat : Int) = r.toInt)
  positive : canonical native maxLength ≠ (.varchar, 0)

/-- The resolved length of a bounded text is kept exactly if no negative number is reported beside
it and it is no multiple of 2^32. In the first case the text becomes unbounded although its name
holds a length, in the second it gets the length zero. -/
theorem honours_length_iff (native : String) (maxLength : Int64) :
    (HonoursLength native maxLength ↔
      (IsCharacter (familyOf native) → ∀ r, (ofText native).resolved? maxLength = some r →
        ¬ maxLength < 0 ∧ ¬ (2 : Int) ^ 32 ∣ r.toInt)) ∧
    (IsCharacter (familyOf native) → ∀ r, (ofText native).resolved? maxLength = some r →
      canonical native maxLength = if maxLength < 0 then (.text, 0) else (.varchar, lengthBits r)) ∧
    (canonical native maxLength = (.varchar, 0) ↔
      IsCharacter (familyOf native) ∧ ¬ maxLength < 0 ∧
        ∃ r, (ofText native).resolved? maxLength = some r ∧ (2 : Int) ^ 32 ∣ r.toInt) := by
  refine ⟨⟨fun h hfamily r hr => ?_, fun h => ⟨fun hfamily r hr => ?_, fun hzero => ?_⟩⟩,
    fun hfamily r hr => canonical_of_resolved? hfamily hr, canonical_eq_varchar_zero_iff⟩
  · have hneg : ¬ maxLength < 0 := fun hneg => by
      have htype := (h.bounded hfamily r hr).1
      rw [canonical_of_resolved? hfamily hr, if_pos hneg] at htype
      cases htype
    exact ⟨hneg, fun hdvd =>
      h.positive (canonical_eq_varchar_zero_iff.2 ⟨hfamily, hneg, r, hr, hdvd⟩)⟩
  · obtain ⟨hneg, -⟩ := h hfamily r hr
    have hpos := Int64.lt_iff_toInt_lt.1 (resolved?_pos hr)
    rw [canonical_of_resolved? hfamily hr, if_neg hneg]
    exact ⟨rfl, fun hfits => (toNat_lengthBits r).trans (Int.emod_eq_of_lt (Int.le_of_lt hpos) hfits)⟩
  · obtain ⟨hfamily, -, r, hr, hdvd⟩ := canonical_eq_varchar_zero_iff.1 hzero
    exact (h hfamily r hr).2 hdvd

/-- A text with its length in its name that is reported with a negative one is read as unbounded,
and one of 2^32 characters as one of none. -/
theorem honours_length_fails :
    IsCharacter (familyOf "varchar(50)") ∧ (ofText "varchar(50)").resolved? (-2) = some 50 ∧
      canonical "varchar(50)" (-2) = (.text, 0) ∧ ¬ HonoursLength "varchar(50)" (-2) ∧
      (ofText "varchar").resolved? 4294967296 = some 4294967296 ∧
      canonical "varchar" 4294967296 = (.varchar, 0) ∧ ¬ HonoursLength "varchar" 4294967296 := by
  have hfamily : IsCharacter (familyOf "varchar(50)") := by decide
  have hresolved : (ofText "varchar(50)").resolved? (-2) = some 50 := by decide
  have hunbounded : canonical "varchar(50)" (-2) = (.text, 0) := by decide
  have hzero : canonical "varchar" 4294967296 = (.varchar, 0) := by decide
  refine ⟨hfamily, hresolved, hunbounded, fun h => ?_, by decide, hzero, fun h => h.positive hzero⟩
  have htype := (h.bounded hfamily 50 hresolved).1
  rw [hunbounded] at htype
  cases htype

end NativeType

end Polydialect
