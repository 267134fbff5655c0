import Polydialect.Text.Ranges

/-! # Blanks

The characters that count as blank, and cutting them off both ends of a text. What is left of a text
(`trimmed`) does not depend on blanks around it, and it is the text itself if there are none.
-/

namespace Polydialect.Text

/-- Code points with the property White_Space. -/
def whiteSpace : Ranges :=
  [(0x9, 0xd), (0x20, 0x20), (0x85, 0x85), (0xa0, 0xa0), (0x1680, 0x1680), (0x2000, 0x200a),
   (0x2028, 0x2029), (0x202f, 0x202f), (0x205f, 0x205f), (0x3000, 0x3000)]

/-- A character with the property White_Space. -/
def isBlank (c : Char) : Bool := whiteSpace.contains c

/-- The text without the blanks it starts with. -/
def dropBlanks (s : List Char) : List Char := s.dropWhile isBlank

/-- The text without the blanks it ends with. -/
def dropBlanksRight (s : List Char) : List Char := (dropBlanks s.reverse).reverse

/-- The text without the blanks at its two ends. -/
def trimmed (s : List Char) : List Char := dropBlanksRight (dropBlanks s)

/-- `trimmed` on strings. -/
def trim (s : String) : String := .ofList (trimmed s.toList)

variable {c : Char} {s before after : List Char}

/-- A printing character of ASCII is no blank. -/
theorem isBlank_of_printing (hl : 0x20 < c.toNat) (hg : c.toNat < 0x7f) : isBlank c = false := by
  have houtside : ∀ r ∈ whiteSpace, c.toNat < r.1 ∨ r.2 < c.toNat := by
    simp only [whiteSpace, List.forall_mem_cons, List.not_mem_nil, false_implies, implies_true,
      and_true]
    omega
  refine List.any_eq_false.2 fun r hr => ?_
  rcases houtside r hr with h | h
  · simp [Nat.not_le.2 h]
  · simp [Nat.not_le.2 h]

theorem ne_of_isBlank {x : Char} (hc : isBlank c = true) (hx : isBlank x = false) : c ≠ x := by
  rintro rfl
  rw [hc] at hx
  cases hx

/-! ## What is left of a text -/

/-- A text is blank, or it has a character that is not. -/
theorem blank_or_exists (s : List Char) :
    (∀ c ∈ s, isBlank c = true) ∨ ∃ front c rest, s = front ++ c :: rest ∧ isBlank c = false := by
  by_cases h : ∀ c ∈ s, isBlank c = true
  · exact .inl h
  · obtain ⟨c, hmem, hc⟩ : ∃ c ∈ s, ¬ isBlank c = true := by simpa using h
    obtain ⟨front, rest, rfl⟩ := List.append_of_mem hmem
    exact .inr ⟨front, c, rest, rfl, by simpa using hc⟩

theorem dropBlanks_append (h : ∀ c ∈ before, isBlank c = true) (s : List Char) :
    dropBlanks (before ++ s) = dropBlanks s := List.dropWhile_append_of_pos h

theorem dropBlanksRight_append (h : ∀ c ∈ after, isBlank c = true) (s : List Char) :
    dropBlanksRight (s ++ after) = dropBlanksRight s := by
  have hreverse : ∀ c ∈ after.reverse, isBlank c = true := fun c hc => h c (List.mem_reverse.1 hc)
  rw [dropBlanksRight, List.reverse_append, dropBlanks_append hreverse, dropBlanksRight]

theorem dropBlanks_append_cons (hc : isBlank c = false) (front rest : List Char) :
    dropBlanks (front ++ c :: rest) = dropBlanks front ++ c :: rest := by
  induction front with
  | nil => exact List.dropWhile_cons_of_neg (by simp [hc])
  | cons x front ih =>
    by_cases hx : isBlank x = true
    · simpa [dropBlanks, hx] using ih
    · simp [dropBlanks, hx]

theorem dropBlanksRight_append_cons (hc : isBlank c = false) (front rest : List Char) :
    dropBlanksRight (front ++ c :: rest) = front ++ c :: dropBlanksRight rest := by
  have hreverse : (front ++ c :: rest).reverse = rest.reverse ++ c :: front.reverse := by simp
  rw [dropBlanksRight, hreverse, dropBlanks_append_cons hc]
  simp [dropBlanksRight]

/-- Blanks fall away on both sides of a character that is none. -/
theorem trimmed_append_cons (hc : isBlank c = false) (front rest : List Char) :
    trimmed (front ++ c :: rest) = dropBlanks front ++ c :: dropBlanksRight rest := by
  rw [trimmed, dropBlanks_append_cons hc, dropBlanksRight_append_cons hc]

theorem trimmed_of_blank (h : ∀ c ∈ s, isBlank c = true) : trimmed s = [] := by
  have hdrop : dropBlanks s = [] := by simpa [dropBlanks] using dropBlanks_append h []
  rw [trimmed, hdrop]
  rfl

/-- Blanks around a text do not change what is left of it. -/
theorem trimmed_around (hb : ∀ c ∈ before, isBlank c = true) (ha : ∀ c ∈ after, isBlank c = true)
    (s : List Char) : trimmed (before ++ s ++ after) = trimmed s := by
  rcases blank_or_exists s with hs | ⟨front, c, rest, rfl, hc⟩
  · have hall : ∀ c ∈ before ++ s ++ after, isBlank c = true := by
      simp only [List.mem_append]
      rintro c ((hc | hc) | hc)
      · exact hb c hc
      · exact hs c hc
      · exact ha c hc
    rw [trimmed_of_blank hall, trimmed_of_blank hs]
  · have hmiddle : before ++ (front ++ c :: rest) ++ after =
        (before ++ front) ++ c :: (rest ++ after) := by simp
    rw [hmiddle, trimmed_append_cons hc, dropBlanks_append hb, dropBlanksRight_append ha,
      trimmed_append_cons hc]

theorem trimmed_cons (hc : isBlank c = true) (s : List Char) : trimmed (c :: s) = trimmed s := by
  have hblank : ∀ x ∈ [c], isBlank x = true := by simpa using hc
  have hnone : ∀ x ∈ [], isBlank x = true := fun x hx => absurd hx List.not_mem_nil
  simpa using trimmed_around hblank hnone s

theorem trimmed_concat (hc : isBlank c = true) (s : List Char) :
    trimmed (s ++ [c]) = trimmed s := by
  have hblank : ∀ x ∈ [c], isBlank x = true := by simpa using hc
  have hnone : ∀ x ∈ [], isBlank x = true := fun x hx => absurd hx List.not_mem_nil
  simpa using trimmed_around hnone hblank s

theorem exists_dropBlanks (s : List Char) :
    ∃ before, (∀ c ∈ before, isBlank c = true) ∧ s = before ++ dropBlanks s :=
  ⟨s.takeWhile isBlank, List.all_eq_true.1 List.all_takeWhile,
    List.takeWhile_append_dropWhile.symm⟩

theorem exists_dropBlanksRight (s : List Char) :
    ∃ after, (∀ c ∈ after, isBlank c = true) ∧ s = dropBlanksRight s ++ after := by
  obtain ⟨front, hfront, hs⟩ := exists_dropBlanks s.reverse
  refine ⟨front.reverse, fun c hc => hfront c (List.mem_reverse.1 hc), ?_⟩
  rw [dropBlanksRight, ← List.reverse_append, ← hs, List.reverse_reverse]

/-- A text is what is left of it with blanks around. -/
theorem exists_around (s : List Char) :
    ∃ before after, (∀ c ∈ before, isBlank c = true) ∧ (∀ c ∈ after, isBlank c = true) ∧
      s = before ++ trimmed s ++ after := by
  obtain ⟨before, hb, hs⟩ := exists_dropBlanks s
  obtain ⟨after, ha, hr⟩ := exists_dropBlanksRight (dropBlanks s)
  exact ⟨before, after, hb, ha, by rw [List.append_assoc, trimmed, ← hr, ← hs]⟩

theorem trimmed_trimmed (s : List Char) : trimmed (trimmed s) = trimmed s := by
  obtain ⟨before, after, hb, ha, hs⟩ := exists_around s
  rw [← trimmed_around hb ha (trimmed s), ← hs]

theorem isInfix_trimmed (s : List Char) : trimmed s <:+: s := by
  obtain ⟨before, after, -, -, hs⟩ := exists_around s
  exact ⟨before, after, hs.symm⟩

/-- Nothing is cut off exactly from a text that neither starts nor ends with a blank. -/
theorem trimmed_eq_self_iff (hne : s ≠ []) :
    trimmed s = s ↔ (∃ c r, s = c :: r ∧ isBlank c = false) ∧
      ∃ r c, s = r ++ [c] ∧ isBlank c = false := by
  constructor
  · intro h
    -- a blank at an end would be missing from what is left
    have hshort {t : List Char} (ht : trimmed s = trimmed t) : s.length ≤ t.length := by
      rw [← h, ht]
      exact (isInfix_trimmed t).length_le
    constructor
    · obtain ⟨c, r, rfl⟩ := List.exists_cons_of_ne_nil hne
      refine ⟨c, r, rfl, Bool.eq_false_iff.2 fun hc => ?_⟩
      have hlength := hshort (trimmed_cons hc r)
      rw [List.length_cons] at hlength
      omega
    · obtain ⟨r, c, rfl⟩ : ∃ r c, s = r ++ [c] :=
        ⟨s.dropLast, s.getLast hne, (List.dropLast_concat_getLast hne).symm⟩
      refine ⟨r, c, rfl, Bool.eq_false_iff.2 fun hc => ?_⟩
      have hlength := hshort (trimmed_concat hc r)
      rw [List.length_append, List.length_singleton] at hlength
      omega
  · rintro ⟨⟨c, r, hfirst, hc⟩, ⟨r', c', hlast, hc'⟩⟩
    have hleft : dropBlanks s = s := by
      rw [hfirst]
      exact dropBlanks_append_cons hc [] r
    have hright : dropBlanksRight s = s := by
      rw [hlast]
      exact dropBlanksRight_append_cons hc' r' []
    rw [trimmed, hleft, hright]

end Polydialect.Text
