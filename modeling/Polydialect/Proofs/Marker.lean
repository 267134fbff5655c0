import Polydialect.Marker

/-!
# Scanning texts piece by piece

The scanner for markers is a machine that reads a text from left to right, so what it does with a
text is what it does with its parts one after the other: `Mode.after_append` for the mode,
`countFrom_append` for the number of markers, `nameFrom_append` for the text with its markers named.
Behind a text that ends outside quotes this is naming from the start, with the numbers moved on
(`nameAll_append`).

A text is whole (`Whole`) when the scanner, coming from outside, passes over it as it is: it meets
no marker and leaves no quote open. Between two texts a whole one can be put in or left out without
any effect on them (`nameFrom_whole_append`).
-/

namespace Polydialect.Marker

variable {e : Bool} {name : Nat → String}

/-! ## The mode -/

@[simp] theorem Mode.after_nil (m : Mode) : m.after e [] = m := rfl

@[simp] theorem Mode.after_cons (m : Mode) (c : Char) (s : List Char) :
    m.after e (c :: s) = (m.next e c).after e s := rfl

@[simp] theorem Mode.after_append (m : Mode) (s t : List Char) :
    m.after e (s ++ t) = (m.after e s).after e t := by
  simp [Mode.after, List.foldl_append]

/-- A marker leaves the scanner outside. -/
theorem Mode.next_of_isMarker {m : Mode} {c : Char} (h : isMarker m c = true) :
    m.next e c = .outside := by
  simp only [isMarker, Bool.and_eq_true, beq_iff_eq] at h
  obtain ⟨rfl, rfl⟩ := h
  rfl

/-! ## Markers of a text and of its parts -/

theorem countFrom_cons (m : Mode) (c : Char) (s : List Char) :
    countFrom e m (c :: s) = (if isMarker m c then 1 else 0) + countFrom e (m.next e c) s := by
  rw [countFrom]
  split
  · rename_i h
    rw [Mode.next_of_isMarker h, Nat.add_comm]
  · rw [Nat.zero_add]

theorem nameFrom_cons (m : Mode) (k : Nat) (c : Char) (s : List Char) :
    nameFrom e name m k (c :: s) =
      (if isMarker m c then (name (k + 1)).toList else [c]) ++
        nameFrom e name (m.next e c) (k + if isMarker m c then 1 else 0) s := by
  rw [nameFrom]
  split
  · rename_i h
    rw [Mode.next_of_isMarker h]
  · rfl

theorem countFrom_append (m : Mode) (s t : List Char) :
    countFrom e m (s ++ t) = countFrom e m s + countFrom e (m.after e s) t := by
  induction s generalizing m with
  | nil => simp [countFrom]
  | cons c s ih => rw [List.cons_append, countFrom_cons, ih, countFrom_cons, Mode.after_cons]; omega

theorem nameFrom_append (m : Mode) (k : Nat) (s t : List Char) :
    nameFrom e name m k (s ++ t) =
      nameFrom e name m k s ++ nameFrom e name (m.after e s) (k + countFrom e m s) t := by
  induction s generalizing m k with
  | nil => simp [countFrom, nameFrom]
  | cons c s ih =>
    rw [List.cons_append, nameFrom_cons, ih, nameFrom_cons, countFrom_cons, Mode.after_cons,
      List.append_assoc, Nat.add_assoc]

/-- A text without markers stays as it is. -/
theorem nameFrom_eq_self {m : Mode} {s : List Char} (h : countFrom e m s = 0) (k : Nat) :
    nameFrom e name m k s = s := by
  induction s generalizing m k with
  | nil => rfl
  | cons c s ih =>
    rw [countFrom_cons] at h
    have hc : isMarker m c = false := by
      cases hm : isMarker m c
      · rfl
      · simp [hm] at h
    simp only [hc, Bool.false_eq_true, ite_false, Nat.zero_add] at h
    simp [nameFrom_cons, hc, ih h]

/-- Counting on after `j` more markers is naming them `j` later. -/
theorem nameFrom_add (m : Mode) (j k : Nat) (s : List Char) :
    nameFrom e name m (j + k) s = nameFrom e (fun i => name (j + i)) m k s := by
  induction s generalizing m k with
  | nil => rfl
  | cons c s ih => simp only [nameFrom_cons, Nat.add_assoc, ih]

/-- Where every marker is named by nothing, the text loses one character for each. -/
theorem length_nameFrom_empty (m : Mode) (k : Nat) (s : List Char) :
    (nameFrom e (fun _ => "") m k s).length + countFrom e m s = s.length := by
  induction s generalizing m k with
  | nil => rfl
  | cons c s ih =>
    have h := ih (m.next e c) (k + if isMarker m c then 1 else 0)
    rw [nameFrom_cons, countFrom_cons, List.length_append, List.length_cons, ← h]
    cases isMarker m c
    · simp only [Bool.false_eq_true, ite_false, List.length_singleton]
      omega
    · simp only [ite_true, String.toList_empty, List.length_nil]
      omega

/-- Behind a text that the scanner leaves outside quotes, naming goes on with the next number. -/
theorem nameAll_append {s : String} (h : Mode.after e .outside s.toList = .outside) (t : String) :
    nameAll e name (s ++ t) =
      nameAll e name s ++ nameAll e (fun i => name (countFrom e .outside s.toList + i)) t := by
  simp only [nameAll, String.toList_append, nameFrom_append, h, String.ofList_append]
  rw [Nat.zero_add, ← nameFrom_add, Nat.add_zero]

/-- A question mark that is replaced behind a text is read outside. -/
theorem after_eq_outside_of_nameAll {s : String}
    (h : nameAll e (fun _ => "") (s ++ "?") = nameAll e (fun _ => "") s) :
    Mode.after e .outside s.toList = .outside := by
  have hmark : nameFrom e (fun _ => "") (Mode.after e .outside s.toList)
      (0 + countFrom e .outside s.toList) ['?'] = [] := by
    rw [nameAll, nameAll, String.ofList_inj, String.toList_append, nameFrom_append] at h
    exact List.append_right_eq_self.1 h
  cases hm : Mode.after e .outside s.toList with
  | outside => rfl
  | inside | escaped =>
    rw [hm] at hmark
    cases hmark

/-- Text without question marks has no markers, wherever it stands. -/
theorem countFrom_eq_zero {s : List Char} (h : '?' ∉ s) (m : Mode) : countFrom e m s = 0 := by
  induction s generalizing m with
  | nil => rfl
  | cons c s ih =>
    rw [List.mem_cons, not_or] at h
    have hm : isMarker m c = false := by simp [isMarker, Ne.symm h.1]
    rw [countFrom_cons, hm, ih h.2]
    rfl

/-! ## Texts that are passed over -/

/-- A text without markers that leaves no quote open. -/
structure Whole (e : Bool) (s : List Char) : Prop where
  count : countFrom e .outside s = 0
  closed : Mode.after e .outside s = .outside

theorem Whole.nil : Whole e [] := ⟨rfl, rfl⟩

theorem Whole.append {s t : List Char} (hs : Whole e s) (ht : Whole e t) : Whole e (s ++ t) := by
  obtain ⟨hcount, hclosed⟩ := ht
  constructor
  · rw [countFrom_append, hs.count, hs.closed, hcount]
  · rw [Mode.after_append, hs.closed, hclosed]

/-- Naming goes on behind a whole text as if it were not there. -/
theorem nameFrom_whole_append {s : List Char} (h : Whole e s) (k : Nat) (t : List Char) :
    nameFrom e name .outside k (s ++ t) = s ++ nameFrom e name .outside k t := by
  rw [nameFrom_append, nameFrom_eq_self h.count, h.closed, h.count, Nat.add_zero]

/-- A whole text in front of another one stays as it is. -/
theorem nameAll_whole_append {p : String} (h : Whole e p.toList) (s : String) :
    nameAll e name (p ++ s) = p ++ nameAll e name s := by
  rw [nameAll, String.toList_append, nameFrom_whole_append h, String.ofList_append,
    String.ofList_toList, nameAll]

/-- The texts that can stand anywhere outside quotes, with the markers around them numbered as if
they were not there, are the whole ones. -/
theorem forall_nameAll_append_iff (s : String) :
    (∀ (pre post : String) (naming : Nat → String),
      Mode.after e .outside pre.toList = .outside →
      nameAll e naming (pre ++ s ++ post) = nameAll e naming pre ++ s ++
        nameAll e (fun i => naming (countFrom e .outside pre.toList + i)) post) ↔
      Whole e s.toList := by
  constructor
  · intro h
    -- a marker that is named by nothing is lost
    have hkept : nameAll e (fun _ => "") s = s := by
      simpa [nameAll, nameFrom] using h "" "" (fun _ => "") rfl
    have hlost : nameAll e (fun _ => "") (s ++ "?") = s := by
      simpa [nameAll, nameFrom, isMarker] using h "" "?" (fun _ => "") rfl
    refine ⟨?_, after_eq_outside_of_nameAll (hlost.trans hkept.symm)⟩
    have hnamed : nameFrom e (fun _ => "") .outside 0 s.toList = s.toList := by
      rw [← String.ofList_inj, String.ofList_toList]
      exact hkept
    have hlength := length_nameFrom_empty (e := e) .outside 0 s.toList
    rw [hnamed] at hlength
    exact Nat.add_eq_left.1 hlength
  · intro h pre post naming hpre
    rw [String.append_assoc, nameAll_append hpre, nameAll_whole_append h, String.append_assoc]

/-- A character that opens no quote and is no marker. -/
def Plain (c : Char) : Prop := Quote.opened? c = none ∧ c ≠ '?'

instance (c : Char) : Decidable (Plain c) := inferInstanceAs (Decidable (_ ∧ _))

theorem Plain.next {c : Char} (h : Plain c) : Mode.next e .outside c = .outside := by
  simp [Mode.next, h.1]

theorem Plain.of_isDigit {c : Char} (h : c.isDigit = true) : Plain c := by
  have hne : ∀ c' : Char, c'.isDigit = false → c ≠ c' := fun c' hc' he => by simp [← he, h] at hc'
  refine ⟨?_, hne _ (by decide)⟩
  simp [Quote.opened?, hne '\'' (by decide), hne '"' (by decide), hne '\x60' (by decide),
    hne '[' (by decide)]

/-- A text of such characters. -/
def PlainText (s : String) : Prop := ∀ c ∈ s.toList, Plain c

instance (s : String) : Decidable (PlainText s) := List.decidableBAll Plain s.toList

theorem plainText_append {s t : String} : PlainText (s ++ t) ↔ PlainText s ∧ PlainText t := by
  rw [PlainText, String.toList_append]
  exact List.forall_mem_append

theorem PlainText.toString_nat (n : Nat) : PlainText (toString n) := by
  rw [PlainText, Nat.toString_eq_ofList_toDigits, String.toList_ofList]
  exact fun c hc => .of_isDigit (Nat.isDigit_of_mem_toDigits (by decide) (by decide) hc)

theorem PlainText.toString_int (z : Int) : PlainText (toString z) := by
  cases z with
  | ofNat m => exact .toString_nat m
  | negSucc m =>
    have hminus : PlainText "-" := by decide
    exact plainText_append.2 ⟨hminus, .toString_nat (m + 1)⟩

theorem PlainText.no_bracket {s : String} (h : PlainText s) : '[' ∉ s.toList := by
  intro hs
  exact absurd (h _ hs).1 (by decide)

theorem Whole.of_plain {s : List Char} (h : ∀ c ∈ s, Plain c) : Whole e s := by
  induction s with
  | nil => exact .nil
  | cons c s ih =>
    obtain ⟨hc, hs⟩ := List.forall_mem_cons.1 h
    obtain ⟨hcount, hclosed⟩ := ih hs
    refine ⟨?_, ?_⟩
    · simp [countFrom_cons, isMarker, hc.2, hc.next, hcount]
    · rw [Mode.after_cons, hc.next, hclosed]

theorem PlainText.not_mem {s : String} (h : PlainText s) : '?' ∉ s.toList :=
  fun hc => (h _ hc).2 rfl

/-- Text without question marks stays as it is behind any other text. -/
theorem nameAll_append_plain {w : String} (h : PlainText w) (s : String) :
    nameAll e name (s ++ w) = nameAll e name s ++ w := by
  rw [nameAll, String.toList_append, nameFrom_append,
    nameFrom_eq_self (countFrom_eq_zero h.not_mem _), String.ofList_append, String.ofList_toList,
    nameAll]

theorem nameAll_plain_append {p : String} (h : PlainText p) (s : String) :
    nameAll e name (p ++ s) = p ++ nameAll e name s :=
  nameAll_whole_append (.of_plain h) s

end Polydialect.Marker
