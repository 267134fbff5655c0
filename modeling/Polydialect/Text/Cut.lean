/-! # Cutting texts

Cutting a text at a character or at a word: at its first occurrence, at its last one, or at all of
them. What is put between parts that do not hold it is found again (`cut?_append`,
`cutWord?_append`, `pieces_intercalate`).
-/

namespace Polydialect.Text

/-- The parts before and after the first `sep`; nothing when the text has none. -/
def cut? (sep : Char) : List Char → Option (List Char × List Char)
  | [] => none
  | c :: r => if c = sep then some ([], r) else (cut? sep r).map fun p => (c :: p.1, p.2)

theorem cut?_eq_none_iff {sep : Char} {s : List Char} : cut? sep s = none ↔ sep ∉ s := by
  induction s with
  | nil => simp [cut?]
  | cons c s ih =>
    rw [cut?]
    split
    · rename_i hc
      simp [hc]
    · rename_i hc
      simp [ih, Ne.symm hc]

theorem cut?_append {sep : Char} {front : List Char} (h : sep ∉ front) (rest : List Char) :
    cut? sep (front ++ sep :: rest) = some (front, rest) := by
  induction front with
  | nil => simp [cut?]
  | cons c front ih =>
    have hc : c ≠ sep := fun hc => h (hc ▸ List.mem_cons_self)
    have hfront : sep ∉ front := fun hs => h (List.mem_cons_of_mem c hs)
    rw [List.cons_append, cut?, if_neg hc, ih hfront]
    rfl

theorem cut?_eq_some_iff {sep : Char} {s front rest : List Char} :
    cut? sep s = some (front, rest) ↔ sep ∉ front ∧ s = front ++ sep :: rest := by
  constructor
  · intro h
    induction s generalizing front with
    | nil => cases h
    | cons c s ih =>
      rw [cut?] at h
      split at h
      · rename_i hc
        cases h
        exact ⟨List.not_mem_nil, by rw [hc, List.nil_append]⟩
      · rename_i hc
        obtain ⟨⟨front', rest'⟩, hs, hp⟩ := Option.map_eq_some_iff.1 h
        cases hp
        obtain ⟨hfront, rfl⟩ := ih hs
        exact ⟨by simp [Ne.symm hc, hfront], rfl⟩
  · rintro ⟨hfront, rfl⟩
    exact cut?_append hfront rest

/-- The parts before and after the last `sep`; nothing when the text has none. -/
def cutLast? (sep : Char) (s : List Char) : Option (List Char × List Char) :=
  (cut? sep s.reverse).map fun p => (p.2.reverse, p.1.reverse)

/-- The parts before and after the first occurrence of a word. -/
def cutWord? (word : List Char) : List Char → Option (List Char × List Char)
  | [] => if word.isEmpty then some ([], []) else none
  | c :: r =>
    if word.isPrefixOf (c :: r) then some ([], (c :: r).drop word.length)
    else (cutWord? word r).map fun p => (c :: p.1, p.2)

theorem isSome_cutWord?_iff {word s : List Char} : (cutWord? word s).isSome ↔ word <:+: s := by
  induction s with
  | nil => simp [cutWord?]
  | cons c s ih =>
    rw [cutWord?, List.infix_cons_iff, ← ih, ← List.isPrefixOf_iff_prefix]
    split
    · rename_i h
      simp [h]
    · rename_i h
      simp [h]

theorem cutWord?_eq_none_iff {word s : List Char} : cutWord? word s = none ↔ ¬ word <:+: s := by
  rw [← isSome_cutWord?_iff, Option.not_isSome_iff_eq_none]

/-- A word whose first character does not come again in it is cut at where it first stands. -/
theorem cutWord?_append {c : Char} {word front : List Char} (hc : c ∉ word)
    (hfront : ¬ c :: word <:+: front) (rest : List Char) :
    cutWord? (c :: word) (front ++ (c :: word ++ rest)) = some (front, rest) := by
  induction front with
  | nil => simp [cutWord?]
  | cons x front ih =>
    rw [List.infix_cons_iff, not_or] at hfront
    have hx : ¬ c :: word <+: x :: (front ++ (c :: word ++ rest)) := by
      intro h
      -- the word would end before it stands there, or hold its first character twice
      rcases List.prefix_or_prefix_of_prefix h (List.prefix_append (x :: front) _) with h' | h'
      · exact hfront.1 h'
      · obtain ⟨t, ht⟩ := h'
        rw [← ht, List.cons_append, List.cons_prefix_cons, List.prefix_append_right_inj] at h
        rw [List.cons_append, List.cons.injEq] at ht
        cases t with
        | nil => exact hfront.1 (by simp [← ht.1, ← ht.2])
        | cons y t =>
          obtain rfl : y = c := (List.cons_prefix_cons.1 h.2).1.trans ht.1
          exact hc (ht.2 ▸ List.mem_append_right _ List.mem_cons_self)
    rw [List.cons_append, cutWord?, if_neg (by rwa [List.isPrefixOf_iff_prefix]), ih hfront.2]
    rfl

theorem cutWord?_eq_some_iff {c : Char} {word s front rest : List Char} (hc : c ∉ word) :
    cutWord? (c :: word) s = some (front, rest) ↔
      ¬ c :: word <:+: front ∧ s = front ++ (c :: word ++ rest) := by
  constructor
  · intro h
    induction s generalizing front with
    | nil => simp [cutWord?] at h
    | cons x s ih =>
      rw [cutWord?] at h
      split at h
      · rename_i hstart
        obtain ⟨t, ht⟩ := List.isPrefixOf_iff_prefix.1 hstart
        rw [← ht, List.drop_left] at h
        cases h
        exact ⟨by simp, ht.symm⟩
      · rename_i hstart
        obtain ⟨⟨front', rest'⟩, hs, hp⟩ := Option.map_eq_some_iff.1 h
        cases hp
        obtain ⟨hfront, rfl⟩ := ih hs
        refine ⟨?_, rfl⟩
        rw [List.infix_cons_iff, not_or]
        refine ⟨fun hx => hstart ?_, hfront⟩
        rw [List.isPrefixOf_iff_prefix]
        exact hx.trans (List.prefix_append (x :: front') _)
  · rintro ⟨hfront, rfl⟩
    exact cutWord?_append hc hfront rest

/-- What stands before the first `sep`, all of the text when it has none. -/
def before (sep : Char) (s : List Char) : List Char := s.takeWhile (· ≠ sep)

theorem before_eq_self {sep : Char} {s : List Char} (h : sep ∉ s) : before sep s = s := by
  induction s with
  | nil => rfl
  | cons c s ih =>
    obtain ⟨hc, hs⟩ := not_or.1 (mt List.mem_cons.2 h)
    rw [before, List.takeWhile_cons_of_pos (by simpa using Ne.symm hc)]
    exact congrArg (c :: ·) (ih hs)

/-- The parts between the occurrences of `sep`; there is always at least one. -/
def pieces (sep : Char) : List Char → List (List Char)
  | [] => [[]]
  | c :: r =>
    if c = sep then [] :: pieces sep r
    else match pieces sep r with
      | [] => [[c]]
      | p :: ps => (c :: p) :: ps

theorem pieces_of_not_mem {sep : Char} {piece : List Char} (h : sep ∉ piece) :
    pieces sep piece = [piece] := by
  induction piece with
  | nil => rfl
  | cons c piece ih =>
    obtain ⟨hc, hpiece⟩ := not_or.1 (mt List.mem_cons.2 h)
    rw [pieces, if_neg (Ne.symm hc), ih hpiece]

theorem pieces_append {sep : Char} {piece : List Char} (h : sep ∉ piece) (s : List Char) :
    pieces sep (piece ++ sep :: s) = piece :: pieces sep s := by
  induction piece with
  | nil => simp [pieces]
  | cons c piece ih =>
    obtain ⟨hc, hpiece⟩ := not_or.1 (mt List.mem_cons.2 h)
    rw [List.cons_append, pieces, if_neg (Ne.symm hc), ih hpiece]

/-- Pieces that do not hold what stands between them are the pieces of the text. -/
theorem pieces_intercalate {sep : Char} {ps : List (List Char)} (hne : ps ≠ [])
    (h : ∀ p ∈ ps, sep ∉ p) :
    pieces sep (List.intercalate [sep] ps) = ps := by
  induction ps with
  | nil => exact absurd rfl hne
  | cons p ps ih =>
    obtain ⟨hp, hps⟩ := List.forall_mem_cons.1 h
    cases ps with
    | nil => simpa using pieces_of_not_mem hp
    | cons q ps =>
      rw [List.intercalate_cons_cons, List.append_assoc, List.singleton_append, pieces_append hp,
        ih (List.cons_ne_nil q ps) hps]

/-- Takes a word off the front as often as it stands there, at most `fuel` times. -/
def dropWordUpTo (word : List Char) : Nat → List Char → List Char
  | 0, s => s
  | fuel + 1, s =>
    if word.isPrefixOf s then dropWordUpTo word fuel (s.drop word.length) else s

/-- Takes a non-empty word off the front as often as it stands there. -/
def dropWords (word : List Char) (s : List Char) : List Char := dropWordUpTo word s.length s

theorem dropWordUpTo_eq_self {word s : List Char} (h : ¬ word <+: s) (fuel : Nat) :
    dropWordUpTo word fuel s = s := by
  cases fuel with
  | zero => rfl
  | succ fuel => rw [dropWordUpTo, if_neg (mt List.isPrefixOf_iff_prefix.1 h)]

theorem dropWords_eq_self {word s : List Char} (h : ¬ word <+: s) : dropWords word s = s :=
  dropWordUpTo_eq_self h s.length

/-- A word that stands at the front once is taken off. -/
theorem dropWords_append {word s : List Char} (hne : word ≠ []) (h : ¬ word <+: s) :
    dropWords word (word ++ s) = s := by
  obtain ⟨c, rest, rfl⟩ := List.exists_cons_of_ne_nil hne
  have hstart : (c :: rest).isPrefixOf (c :: rest ++ s) = true :=
    List.isPrefixOf_iff_prefix.2 (List.prefix_append _ s)
  rw [dropWords, List.cons_append, List.length_cons, dropWordUpTo, ← List.cons_append,
    if_pos hstart, List.drop_left, dropWordUpTo_eq_self h]

/-- Takes a non-empty word off the end as often as it stands there. -/
def dropWordsRight (word : List Char) (s : List Char) : List Char :=
  (dropWords word.reverse s.reverse).reverse

end Polydialect.Text
