import Polydialect.Text.CaseMap

/-!
# Texts in one case

Putting a text in one case twice is the same as doing it once, also where a character becomes
several, and where a capital sigma becomes one small letter or another by what stands around it.

* `CaseMap.Points.apart_spec`: two runs of code points are told apart by their ends and their
  distances, without going through them, and many runs at once (`CaseMap.Points.apartAll_spec`);
* `CaseMap.settles_lower`, `settles_upper`: no code point that a table gives is one that it takes;
* `Text.lower_lower`, `Text.upper_upper`: so nothing is left to do in what has been put in a case.
-/

namespace Polydialect.Text

namespace CaseMap

variable {n : Nat}

/-! ## Runs of code points -/

/-- The code points `first`, `first + step`, … up to `last`. -/
structure Points where
  first : Nat
  last : Nat
  step : Nat

/-- The run holds the code point. -/
def Points.Holds (p : Points) (n : Nat) : Prop :=
  p.first ≤ n ∧ n ≤ p.last ∧ (n - p.first) % p.step = 0

/-- A single code point. -/
def point (n : Nat) : Points := ⟨n, n, 1⟩

/-- A test that two runs have no code point in common: one ends before the other starts, or one of
them keeps to the distance of the other, but beside it. -/
def Points.apart (p q : Points) : Bool :=
  Nat.blt p.last q.first || Nat.blt q.last p.first ||
    ((Nat.beq p.first p.last || Nat.beq (p.step % q.step) 0) &&
      !Nat.beq (p.first % q.step) (q.first % q.step))

theorem mod_of_holds {p : Points} (h : p.Holds n) {step : Nat} (hstep : p.step % step = 0) :
    n % step = p.first % step := by
  obtain ⟨hfirst, -, hmod⟩ := h
  have hdvd : step ∣ n - p.first :=
    Nat.dvd_trans (Nat.dvd_of_mod_eq_zero hstep) (Nat.dvd_of_mod_eq_zero hmod)
  have hn : n = p.first + (n - p.first) := by omega
  rw [hn, Nat.add_mod, Nat.mod_eq_zero_of_dvd hdvd, Nat.add_zero, Nat.mod_mod]

theorem Points.apart_spec {p q : Points} (h : p.apart q = true) (hp : p.Holds n) : ¬ q.Holds n := by
  intro hq
  simp only [apart, Bool.or_eq_true, Bool.and_eq_true, Bool.not_eq_true', Nat.blt_eq,
    Nat.beq_eq] at h
  rcases h with (h | h) | ⟨h, hbeside⟩
  · exact Nat.not_lt.2 hq.1 (Nat.lt_of_le_of_lt hp.2.1 h)
  · exact Nat.not_lt.2 hp.1 (Nat.lt_of_le_of_lt hq.2.1 h)
  · have hpn : n % q.step = p.first % q.step := by
      rcases h with h | h
      · rw [Nat.le_antisymm (h ▸ hp.2.1) hp.1]
      · exact mod_of_holds hp h
    have hqn : n % q.step = q.first % q.step := mod_of_holds hq (Nat.mod_self _)
    rw [← hpn, ← hqn, Nat.beq_refl] at hbeside
    cases hbeside

/-! ## Runs in groups

The tables are long, so a run is compared with groups of runs first.
-/

/-- A run without gaps that holds what some runs hold; it starts above all code points if there are
none. -/
def hull : List Points → Points
  | [] => ⟨0x110000, 0, 1⟩
  | p :: ps => ⟨min p.first (hull ps).first, max p.last (hull ps).last, 1⟩

theorem hull_holds {q : Points} {ps : List Points} (h : q ∈ ps) (hq : q.Holds n) :
    (hull ps).Holds n := by
  induction ps with
  | nil => cases h
  | cons p ps ih =>
    rcases List.mem_cons.1 h with rfl | h
    · exact ⟨Nat.le_trans (Nat.min_le_left _ _) hq.1, Nat.le_trans hq.2.1 (Nat.le_max_left _ _),
        Nat.mod_one _⟩
    · obtain ⟨hfirst, hlast, -⟩ := ih h
      exact ⟨Nat.le_trans (Nat.min_le_right _ _) hfirst, Nat.le_trans hlast (Nat.le_max_right _ _),
        Nat.mod_one _⟩

/-- A test that a run has no code point in common with any of a group. -/
def Points.apartAll (p : Points) (ps : List Points) : Bool := p.apart (hull ps) || ps.all p.apart

theorem Points.apartAll_spec {p q : Points} {ps : List Points} (h : p.apartAll ps = true)
    (hq : q ∈ ps) (hp : p.Holds n) : ¬ q.Holds n := by
  rcases Bool.or_eq_true_iff.1 h with h | h
  · exact fun hn => apart_spec h hp (hull_holds hq hn)
  · exact apart_spec (List.all_eq_true.1 h q hq) hp

/-- Groups of sixteen, and one of what is left after `k` of them. -/
def groups : Nat → List Points → List (List Points)
  | 0, ps => [ps]
  | k + 1, ps => ps.take 16 :: groups k (ps.drop 16)

theorem exists_group {q : Points} {ps : List Points} (k : Nat) (h : q ∈ ps) :
    ∃ g ∈ groups k ps, q ∈ g := by
  induction k generalizing ps with
  | zero => exact ⟨ps, List.mem_singleton_self ps, h⟩
  | succ k ih =>
    rw [← List.take_append_drop 16 ps, List.mem_append] at h
    rcases h with h | h
    · exact ⟨ps.take 16, List.mem_cons_self, h⟩
    · obtain ⟨g, hg, hq⟩ := ih h
      exact ⟨g, List.mem_cons_of_mem _ hg, hq⟩

/-! ## What a table takes and gives -/

/-- The code points that a shift moves. -/
def Shift.sources (s : Shift) : Points := ⟨s.first, s.last, s.step⟩

/-- The code points to which a shift moves them. -/
def Shift.images (s : Shift) : Points :=
  ⟨(s.first + s.offset).toNat, (s.last + s.offset).toNat, s.step⟩

theorem Shift.covers_iff {s : Shift} : s.covers n = true ↔ s.sources.Holds n := by
  simp [covers, sources, Points.Holds, and_assoc]

/-- What a shift gives is among its images, unless it would go below zero. -/
theorem Shift.images_holds {s : Shift} (hs : 0 ≤ s.first + s.offset) (h : s.covers n = true) :
    s.images.Holds (n + s.offset).toNat := by
  obtain ⟨hfirst, hlast, hmod⟩ : s.first ≤ n ∧ n ≤ s.last ∧ (n - s.first) % s.step = 0 :=
    covers_iff.1 h
  refine ⟨by simp only [images]; omega, by simp only [images]; omega, ?_⟩
  have hdistance : (n + s.offset).toNat - (s.first + s.offset).toNat = n - s.first := by omega
  simp only [images]
  rw [hdistance, hmod]

variable (expansions : List (Nat × List Nat)) (shifts : List Shift)

/-- The code points that tables map. -/
def sources : List Points := shifts.map Shift.sources ++ expansions.map fun e => point e.1

/-- The code points that tables give. One that is no character would give NUL. -/
def images : List Points :=
  point 0 :: shifts.map Shift.images ++ expansions.flatMap fun e => e.2.map point

/-- A test that what tables give is not mapped again. -/
def settles : Bool :=
  (shifts.all fun s => decide (0 ≤ s.first + s.offset)) &&
    (images expansions shifts).all fun p => (groups 20 (sources expansions shifts)).all p.apartAll

theorem point_holds (n : Nat) : (point n).Holds n := ⟨Nat.le_refl n, Nat.le_refl n, by simp [point]⟩

variable {expansions shifts} {c x : Char}

/-- A number is the code point of a character, or it stands for NUL. -/
theorem toNat_ofNat_or (n : Nat) : (Char.ofNat n).toNat = n ∨ (Char.ofNat n).toNat = 0 := by
  by_cases h : n.isValidChar
  · rw [Char.ofNat, dif_pos h]
    exact .inl rfl
  · rw [Char.ofNat, dif_neg h]
    exact .inr rfl

theorem mapChar_of_not_holds (h : ∀ q ∈ sources expansions shifts, ¬ q.Holds c.toNat) :
    mapChar expansions shifts c = [c] := by
  have hexpansions : expansions.lookup c.toNat = none := by
    rw [List.lookup_eq_none_iff]
    intro e he
    rw [bne_iff_ne]
    intro hc
    exact h (point e.1) (List.mem_append_right _ (List.mem_map_of_mem he)) (hc ▸ point_holds _)
  have hshifts : shifts.find? (·.covers c.toNat) = none := by
    rw [List.find?_eq_none]
    intro s hs hcovers
    exact h s.sources (List.mem_append_left _ (List.mem_map_of_mem hs)) (Shift.covers_iff.1 hcovers)
  rw [mapChar, hexpansions, hshifts]

/-- What is given for a code point among the images is among them as a character. -/
theorem exists_image {p : Points} (hp : p ∈ images expansions shifts) (hn : p.Holds n) :
    ∃ p ∈ images expansions shifts, p.Holds (Char.ofNat n).toNat := by
  rcases toNat_ofNat_or n with h | h
  · rw [h]
    exact ⟨p, hp, hn⟩
  · rw [h]
    exact ⟨point 0, List.mem_cons_self, point_holds 0⟩

/-- A character stays as it is, or becomes what the tables give. -/
theorem mem_mapChar (hnonneg : ∀ s ∈ shifts, 0 ≤ s.first + s.offset)
    (h : x ∈ mapChar expansions shifts c) :
    mapChar expansions shifts c = [x] ∧ x = c ∨
      ∃ p ∈ images expansions shifts, p.Holds x.toNat := by
  cases hexpansions : expansions.lookup c.toNat with
  | some ns =>
    rw [mapChar, hexpansions] at h
    obtain ⟨m, hm, rfl⟩ := List.mem_map.1 h
    obtain ⟨front, back, hsplit, -⟩ := List.lookup_eq_some_iff.1 hexpansions
    have hmem : (c.toNat, ns) ∈ expansions := by simp [hsplit]
    have himage : point m ∈ images expansions shifts :=
      List.mem_append_right _ (List.mem_flatMap.2 ⟨_, hmem, List.mem_map_of_mem hm⟩)
    exact .inr (exists_image himage (point_holds m))
  | none =>
    cases hshifts : shifts.find? (·.covers c.toNat) with
    | some s =>
      rw [mapChar, hexpansions, hshifts, List.mem_singleton] at h
      have hmem : s ∈ shifts := List.mem_of_find?_eq_some hshifts
      have hcovers : s.covers c.toNat = true := by simpa using List.find?_some hshifts
      have himage : s.images ∈ images expansions shifts :=
        List.mem_append_left _ (List.mem_cons_of_mem _ (List.mem_map_of_mem hmem))
      exact .inr (h ▸ exists_image himage (Shift.images_holds (hnonneg s hmem) hcovers))
    | none =>
      have hself : mapChar expansions shifts c = [c] := by rw [mapChar, hexpansions, hshifts]
      rw [hself, List.mem_singleton] at h
      exact .inl ⟨h ▸ hself, h⟩

theorem mapChar_mapChar (hsettles : settles expansions shifts = true)
    (h : x ∈ mapChar expansions shifts c) : mapChar expansions shifts x = [x] := by
  simp only [settles, Bool.and_eq_true, List.all_eq_true, decide_eq_true_eq] at hsettles
  rcases mem_mapChar hsettles.1 h with ⟨hself, rfl⟩ | ⟨p, hp, hx⟩
  · exact hself
  · refine mapChar_of_not_holds fun q hq => ?_
    obtain ⟨g, hg, hmem⟩ := exists_group 20 hq
    exact Points.apartAll_spec (hsettles.2 p hp g hg) hmem hx

/-- The tables for small letters give nothing that they map. -/
theorem settles_lower : settles lowerExpansions lowerShifts = true := by decide +kernel

/-- The tables for capitals give nothing that they map. -/
theorem settles_upper : settles upperExpansions upperShifts = true := by decide +kernel

/-! ## Whole texts -/

theorem flatMap_mapChar_self {s : List Char}
    (h : ∀ c ∈ s, mapChar expansions shifts c = [c]) : s.flatMap (mapChar expansions shifts) = s := by
  induction s with
  | nil => rfl
  | cons c s ih =>
    obtain ⟨hc, hs⟩ := List.forall_mem_cons.1 h
    rw [List.flatMap_cons, hc, ih hs]
    rfl

/-- A character of a text in small letters is none that would be mapped; a capital sigma would. -/
theorem mapChar_of_mem_lowerAfter {before s : List Char} (h : x ∈ lowerAfter before s) :
    mapChar lowerExpansions lowerShifts x = [x] := by
  induction s generalizing before with
  | nil => cases h
  | cons c s ih =>
    rw [lowerAfter, List.mem_append] at h
    rcases h with h | h
    · split at h
      · rw [List.mem_singleton, smallSigma] at h
        subst h
        split <;> rfl
      · exact mapChar_mapChar settles_lower h
    · exact ih h

theorem lowerAfter_self {s : List Char} (before : List Char)
    (h : ∀ c ∈ s, mapChar lowerExpansions lowerShifts c = [c]) : lowerAfter before s = s := by
  induction s generalizing before with
  | nil => rfl
  | cons c s ih =>
    obtain ⟨hc, hs⟩ := List.forall_mem_cons.1 h
    have hsigma : c ≠ 'Σ' := by
      rintro rfl
      exact absurd hc (by decide)
    rw [lowerAfter, if_neg hsigma, hc, ih _ hs]
    rfl

end CaseMap

open CaseMap

/-- Small letters stay as they are. -/
theorem lower_lower (t : String) : lower (lower t) = lower t := by
  rw [lower, lower, String.toList_ofList]
  exact congrArg String.ofList (lowerAfter_self [] fun _ hc => mapChar_of_mem_lowerAfter hc)

/-- Capitals stay as they are. -/
theorem upper_upper (t : String) : upper (upper t) = upper t := by
  rw [upper, upper, String.toList_ofList]
  refine congrArg String.ofList (flatMap_mapChar_self fun x hx => ?_)
  obtain ⟨c, -, hx⟩ := List.mem_flatMap.1 hx
  exact mapChar_mapChar settles_upper hx

end Polydialect.Text
