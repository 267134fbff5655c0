import Polydialect.Proofs.Segmenting

/-!
# Texts joined before their markers are named

A statement is put together from pieces of text, and its markers are named in one pass over the
whole. The pass does with each piece what it would do with the piece alone, but for the numbers, if
the pieces in front leave no quote open.

* `Divides.after_eq_outside_iff`: the scanner ends outside where the rules close every quote;
* `named_apart_iff`: these are the texts that can be named apart from what follows, whatever it is,
  and what follows is numbered on from their markers.
-/

namespace Polydialect.Marker

variable {e : Bool} {s : List Char} {segs : List Segment}

/-- A quote is closed, if the segment is one. -/
def Segment.IsClosed : Segment → Prop
  | .bare _ | .quoted .. => True
  | .unclosed .. => False

instance : (g : Segment) → Decidable g.IsClosed
  | .bare _ | .quoted .. => .isTrue trivial
  | .unclosed .. => .isFalse id

/-- The scanner ends outside where it delimits no quote that is left open. -/
theorem forall_isClosed_segmentsFrom (m : Mode) (acc s : List Char) :
    (∀ g ∈ segmentsFrom e m acc s, g.IsClosed) ↔ m.after e s = .outside := by
  induction s generalizing m acc with
  | nil =>
    cases m with
    | outside => simp [segmentsFrom, Mode.quote?]
    | inside | escaped => simp [segmentsFrom, Mode.quote?, Segment.IsClosed]
  | cons c s ih =>
    rw [Mode.after_cons]
    obtain ⟨hm, -, hn⟩ | ⟨q, hm, -, hn⟩ | ⟨q, hm, -, hn⟩ | ⟨q, hm, hn, -⟩ := m.next_cases e c
    · rw [segmentsFrom_bare hm hn, List.forall_mem_cons, segments, ih, hn]
      exact and_iff_right trivial
    · rw [segmentsFrom_opening hm hn, ih, hn]
    · rw [segmentsFrom_closing (by rw [hm]; rfl) hn, List.forall_mem_cons, segments, ih, hn]
      exact and_iff_right trivial
    · rw [segmentsFrom_inner hm hn, ih]

theorem Divides.after_eq_outside_iff (h : Divides e s segs) :
    Mode.after e .outside s = .outside ↔ ∀ g ∈ segs, g.IsClosed := by
  rw [divides_iff.1 h]
  exact (forall_isClosed_segmentsFrom .outside [] s).symm

/-- **Which texts can be named apart.** The markers of a text and of what is joined to it are named
as in each alone, those of the second with `m` added to their numbers, for every second text and all
names, if and only if the scanner ends the first outside quotes, with no escape pending, and `m` is
the number of its markers. By the rules this says that every quote of the first text is closed in
it, and that `m` question marks stand outside its quotes. -/
theorem named_apart_iff (e : Bool) (a : String) (m : Nat) :
    ((∀ (b : String) (name : Nat → String),
        nameAll e name (a ++ b) = nameAll e name a ++ nameAll e (fun n => name (m + n)) b) ↔
      Mode.after e .outside a.toList = .outside ∧ countFrom e .outside a.toList = m) ∧
    ∀ segs, Divides e a.toList segs →
      (Mode.after e .outside a.toList = .outside ↔ ∀ g ∈ segs, g.IsClosed) ∧
      countFrom e .outside a.toList = segs.count (.bare '?') := by
  refine ⟨⟨?_, ?_⟩, fun segs h => ⟨h.after_eq_outside_iff, h.countFrom_eq⟩⟩
  · intro h
    have ha : Mode.after e .outside a.toList = .outside := by
      refine after_eq_outside_of_nameAll ((h "?" fun _ => "").trans ?_)
      exact String.append_empty
    refine ⟨ha, ?_⟩
    -- a question mark behind the text takes the number after its markers
    have hnumber (name : Nat → String) :
        name (countFrom e .outside a.toList + 1) = name (m + 1) := by
      have hmark := (nameAll_append ha "?").symm.trans (h "?" name)
      simpa [nameAll, nameFrom, isMarker] using hmark
    simpa using hnumber fun n => if n = m + 1 then "" else "?"
  · rintro ⟨ha, rfl⟩ b name
    exact nameAll_append ha b

/-- An assignment with an escaped quote in its string, in front of a condition. -/
theorem named_apart_iff_update :
    let a := "UPDATE `Posts` SET `Why?` = 'it\\'s?', `Title` = ?"
    let name (n : Nat) := "@p" ++ toString n
    Mode.after true .outside a.toList = .outside ∧ countFrom true .outside a.toList = 1 ∧
      (∀ g ∈ segments true a.toList, g.IsClosed) ∧
      nameAll true name (a ++ " WHERE `Id` = ?") =
        "UPDATE `Posts` SET `Why?` = 'it\\'s?', `Title` = @p1" ++ " WHERE `Id` = @p2" := by
  intro a name
  obtain ⟨hiff, hrules⟩ := named_apart_iff true a 1
  have hends : Mode.after true .outside a.toList = .outside := by decide
  have hcount : countFrom true .outside a.toList = 1 := by decide
  refine ⟨hends, hcount, (hrules _ (divides_segments true _)).1.1 hends, ?_⟩
  rw [hiff.2 ⟨hends, hcount⟩]
  decide

end Polydialect.Marker
