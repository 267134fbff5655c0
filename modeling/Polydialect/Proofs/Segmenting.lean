import Mathlib.Logic.ExistsUnique
import Polydialect.Proofs.Wrapping
import Polydialect.Statement

/-!
# Texts divided into quotes

The scanner finds the markers of a text in one pass. Here the division of a text into quotes and
characters outside them is said by rules (`Divides`), of which the scanner is one reader.

* `divides_iff`: every text is divided in exactly one way, and the scanner finds it;
* `names_bare_marks`: the question marks outside quotes are named, and everything else is kept;
* `divides_standard_iff`: a reader for whom backslashes escape nothing divides a text alike if no
  quote holds the character that ends it;
* `counts_inserted_iff`: markers are counted by such a reader, which is right where backslashes
  escape nothing, and elsewhere for texts of that kind.
-/

namespace Polydialect

namespace Marker

variable {e e' : Bool} {q : Quote} {c : Char} {s inner : List Char} {segs : List Segment}

/-! ## The rules -/

/-- The character that ends a quote. -/
def Quote.terminator : Quote → Char
  | .single => '\''
  | .double => '"'
  | .backtick => '\x60'
  | .bracket => ']'

theorem Quote.terminator_eq_closing (q : Quote) : q.terminator = q.closing := by cases q <;> rfl

/-- A backslash in the quote takes the next character with it. -/
def Quote.Escapes (e : Bool) (q : Quote) : Prop := e = true ∧ (q = .single ∨ q = .double)

/-- What may stand inside a quote: the character that ends it only behind a backslash that takes it
along. -/
inductive Inner (e : Bool) (q : Quote) : List Char → Prop
  | nil : Inner e q []
  | char {c : Char} {s : List Char} :
    c ≠ q.terminator → (c = '\\' → ¬ q.Escapes e) → Inner e q s → Inner e q (c :: s)
  | escape (c : Char) {s : List Char} : q.Escapes e → Inner e q s → Inner e q ('\\' :: c :: s)

/-- A quote that is open before the text is closed in it. -/
def Closes (e : Bool) (q : Quote) (s : List Char) : Prop :=
  ∃ inner rest, s = inner ++ q.terminator :: rest ∧ Inner e q inner

/-- A quote runs to the first character that ends it, or to the end of the text if there is none;
what is in no quote is a character of its own. -/
inductive Divides (e : Bool) : List Char → List Segment → Prop
  | nil : Divides e [] []
  | bare {c : Char} {s : List Char} {segs : List Segment} :
    (∀ q : Quote, c ≠ q.opening) → Divides e s segs → Divides e (c :: s) (.bare c :: segs)
  | quoted {q : Quote} {inner s : List Char} {segs : List Segment} :
    Inner e q inner → Divides e s segs →
      Divides e (q.opening :: (inner ++ q.terminator :: s)) (.quoted q inner :: segs)
  | unclosed {q : Quote} {s : List Char} :
    ¬ Closes e q s → Divides e (q.opening :: s) [.unclosed q s]

theorem Closes.char (hc : c ≠ q.terminator) (hb : c = '\\' → ¬ q.Escapes e) (h : Closes e q s) :
    Closes e q (c :: s) := by
  obtain ⟨inner, rest, rfl, hinner⟩ := h
  exact ⟨c :: inner, rest, rfl, .char hc hb hinner⟩

theorem Closes.escape (hq : q.Escapes e) (c : Char) (h : Closes e q s) :
    Closes e q ('\\' :: c :: s) := by
  obtain ⟨inner, rest, rfl, hinner⟩ := h
  exact ⟨'\\' :: c :: inner, rest, rfl, .escape c hq hinner⟩

/-! ## The scanner follows the rules -/

namespace Mode

theorem next_opening (e : Bool) (q : Quote) : Mode.next e .outside q.opening = .inside q := by
  cases q <;> rfl

theorem next_bare (h : ∀ q : Quote, c ≠ q.opening) : Mode.next e .outside c = .outside := by
  cases hc : Quote.opened? c with
  | none => simp [next, hc]
  | some q => exact absurd (Quote.opening_of_opened? hc) (h q)

theorem next_closing (e : Bool) (q : Quote) : Mode.next e (.inside q) q.terminator = .outside := by
  cases e <;> cases q <;> rfl

theorem next_char (hc : c ≠ q.terminator) (hb : c = '\\' → ¬ q.Escapes e) :
    Mode.next e (.inside q) c = .inside q := by
  have hesc : (e && c == '\\' && q.holdsString) = false := by
    rw [Bool.eq_false_iff]
    intro h
    simp only [Bool.and_eq_true, beq_iff_eq] at h
    obtain ⟨⟨he, hslash⟩, hstring⟩ := h
    refine hb hslash ⟨he, ?_⟩
    cases q with
    | single => exact .inl rfl
    | double => exact .inr rfl
    | backtick | bracket => cases hstring
  rw [q.terminator_eq_closing] at hc
  rw [next, if_neg (Bool.eq_false_iff.1 hesc), if_neg hc]

theorem next_backslash (hq : q.Escapes e) : Mode.next e (.inside q) '\\' = .escaped q := by
  obtain ⟨rfl, rfl | rfl⟩ := hq <;> rfl

end Mode

theorem segmentsFrom_char (hc : c ≠ q.terminator) (hb : c = '\\' → ¬ q.Escapes e)
    (acc s : List Char) :
    segmentsFrom e (.inside q) acc (c :: s) = segmentsFrom e (.inside q) (c :: acc) s := by
  have hn := Mode.next_char hc hb
  rw [segmentsFrom_inner rfl (by rw [hn]; rfl), hn]

theorem segmentsFrom_backslash (hq : q.Escapes e) (acc s : List Char) :
    segmentsFrom e (.inside q) acc ('\\' :: s) = segmentsFrom e (.escaped q) ('\\' :: acc) s := by
  have hn := Mode.next_backslash hq
  rw [segmentsFrom_inner rfl (by rw [hn]; rfl), hn]

theorem segmentsFrom_escaped (acc s : List Char) :
    segmentsFrom e (.escaped q) acc (c :: s) = segmentsFrom e (.inside q) (c :: acc) s :=
  segmentsFrom_inner rfl rfl

/-- A quote that is closed is found whole. -/
theorem segmentsFrom_of_inner (h : Inner e q inner) (acc s : List Char) :
    segmentsFrom e (.inside q) acc (inner ++ q.terminator :: s) =
      .quoted q (acc.reverse ++ inner) :: segments e s := by
  induction h generalizing acc with
  | nil =>
    rw [List.nil_append, segmentsFrom_closing rfl (Mode.next_closing e q), List.append_nil]
  | @char c inner hc hb _ ih =>
    rw [List.cons_append, segmentsFrom_char hc hb, ih, List.reverse_cons, List.append_assoc]
    rfl
  | @escape c inner hq _ ih =>
    rw [List.cons_append, List.cons_append, segmentsFrom_backslash hq, segmentsFrom_escaped, ih]
    simp

/-- A quote that is not closed is found to the end of the text. -/
theorem segmentsFrom_of_not_closes (h : ¬ Closes e q s) (acc : List Char) :
    segmentsFrom e (.inside q) acc s = [.unclosed q (acc.reverse ++ s)] := by
  induction hn : s.length using Nat.strongRecOn generalizing s acc with
  | _ n ih =>
    cases s with
    | nil =>
      rw [List.append_nil]
      rfl
    | cons c r =>
      have hc : c ≠ q.terminator := by
        rintro rfl
        exact h ⟨[], r, rfl, .nil⟩
      by_cases hb : c = '\\' ∧ q.Escapes e
      · obtain ⟨rfl, hq⟩ := hb
        rw [segmentsFrom_backslash hq]
        -- the backslash takes a character along, if there is one
        cases r with
        | nil => simp [segmentsFrom, Mode.quote?]
        | cons d r =>
          have hr : ¬ Closes e q r := fun hr => h (hr.escape hq d)
          have hlt : r.length < n := by
            rw [← hn, List.length_cons, List.length_cons]
            omega
          rw [segmentsFrom_escaped, ih r.length hlt hr _ rfl]
          simp
      · have hb : c = '\\' → ¬ q.Escapes e := not_and.1 hb
        have hr : ¬ Closes e q r := fun hr => h (hr.char hc hb)
        have hlt : r.length < n := hn ▸ Nat.lt_succ_self _
        rw [segmentsFrom_char hc hb, ih r.length hlt hr _ rfl]
        simp

theorem segments_bare (hc : ∀ q : Quote, c ≠ q.opening) (s : List Char) :
    segments e (c :: s) = .bare c :: segments e s :=
  segmentsFrom_bare rfl (Mode.next_bare hc)

theorem segments_quoted (h : Inner e q inner) (s : List Char) :
    segments e (q.opening :: (inner ++ q.terminator :: s)) = .quoted q inner :: segments e s := by
  rw [segments, segmentsFrom_opening rfl (Mode.next_opening e q), segmentsFrom_of_inner h]
  rfl

theorem segments_unclosed (h : ¬ Closes e q s) :
    segments e (q.opening :: s) = [.unclosed q s] := by
  rw [segments, segmentsFrom_opening rfl (Mode.next_opening e q),
    segmentsFrom_of_not_closes h]
  rfl

theorem divides_segments (e : Bool) (s : List Char) : Divides e s (segments e s) := by
  induction hn : s.length using Nat.strongRecOn generalizing s with
  | _ n ih =>
    cases s with
    | nil => exact .nil
    | cons c r =>
      by_cases hc : ∃ q : Quote, c = q.opening
      · obtain ⟨q, rfl⟩ := hc
        by_cases hr : Closes e q r
        · obtain ⟨inner, rest, rfl, hinner⟩ := hr
          rw [segments_quoted hinner]
          refine .quoted hinner (ih rest.length ?_ rest rfl)
          rw [← hn, List.length_cons, List.length_append, List.length_cons]
          omega
        · rw [segments_unclosed hr]
          exact .unclosed hr
      · have hc : ∀ q : Quote, c ≠ q.opening := not_exists.1 hc
        rw [segments_bare hc]
        exact .bare hc (ih r.length (hn ▸ Nat.lt_succ_self _) r rfl)

/-- A text is divided in one way, which is the scanner's. -/
theorem divides_iff : Divides e s segs ↔ segs = segments e s := by
  constructor
  · intro h
    induction h with
    | nil => rfl
    | bare hc _ ih => rw [segments_bare hc, ih]
    | quoted hinner _ ih => rw [segments_quoted hinner, ih]
    | unclosed hs => rw [segments_unclosed hs]
  · rintro rfl
    exact divides_segments e s

/-! ## Naming -/

/-- The text of segments with the bare question marks named, each by how many stand up to it. -/
def named (name : Nat → String) (segs : List Segment) : List Char :=
  (segs.mapIdx fun i g =>
    if g = .bare '?' then (name ((segs.take (i + 1)).count (.bare '?'))).toList
    else g.text).flatten

theorem named_cons (name : Nat → String) (g : Segment) (segs : List Segment) :
    named name (g :: segs) =
      if g = .bare '?' then (name 1).toList ++ named (fun i => name (1 + i)) segs
      else g.text ++ named name segs := by
  unfold named
  rw [List.mapIdx_cons, List.flatten_cons]
  by_cases hg : g = .bare '?'
  · subst hg
    simp only [if_true, List.take_succ_cons, List.count_cons_self, List.take_zero, List.count_nil,
      Nat.zero_add, Nat.add_comm 1]
  · simp [hg, List.take_succ_cons]

/-- Naming the markers is naming the bare question marks. -/
theorem begun_nameFrom (name : Nat → String) (m : Mode) (acc s : List Char) :
    begun m acc ++ nameFrom e name m 0 s = named name (segmentsFrom e m acc s) := by
  induction s generalizing name m acc with
  | nil =>
    unfold segmentsFrom begun
    cases m.quote? with
    | none => rfl
    | some q => simp [named, nameFrom, Segment.text]
  | cons c s ih =>
    obtain ⟨hm, -, hn⟩ | ⟨q, hm, hc, hn⟩ | ⟨q, hm, hc, hn⟩ | ⟨q, hm, hn, -⟩ := m.next_cases e c
    · have hrest (name : Nat → String) :
          nameFrom e name .outside 0 s = named name (segments e s) := ih name .outside []
      subst hm
      rw [segmentsFrom_bare rfl hn, nameFrom_cons, hn, named_cons]
      by_cases hc : c = '?'
      · subst hc
        simp only [isMarker, beq_self_eq_true, Bool.and_self, if_true]
        rw [Nat.zero_add, nameFrom_add _ 1 0, hrest]
        rfl
      · simp [isMarker, hc, hrest, Segment.text, begun, Mode.quote?]
    · rw [segmentsFrom_opening hm hn, ← ih, nameFrom_cons, hn, hm, hc, isMarker_opening]
      rfl
    · subst hm hc
      have hrest := ih name .outside []
      rw [segmentsFrom_closing rfl hn, nameFrom_cons, hn, isMarker_of_quote? rfl, named_cons,
        if_neg (by simp), segments, ← hrest]
      simp [Segment.text, begun, Mode.quote?]
    · rw [segmentsFrom_inner hm hn, ← ih, begun_inner hm hn, nameFrom_cons, isMarker_of_quote? hm]
      simp

theorem Divides.toList_nameAll {sql : String} (h : Divides e sql.toList segs)
    (name : Nat → String) : (nameAll e name sql).toList = named name segs := by
  rw [divides_iff.1 h, segments, ← begun_nameFrom, nameAll, String.toList_ofList]
  rfl

theorem Divides.flatMap_text (h : Divides e s segs) : segs.flatMap Segment.text = s := by
  rw [divides_iff.1 h, flatMap_text_segments]

theorem Divides.countFrom_eq (h : Divides e s segs) :
    countFrom e .outside s = segs.count (.bare '?') := by
  rw [divides_iff.1 h]
  exact countFrom_eq_countP .outside [] s

/-- A marker that is named by itself stays. -/
theorem named_self (segs : List Segment) :
    named (fun _ => "?") segs = segs.flatMap Segment.text := by
  induction segs with
  | nil => rfl
  | cons g segs ih =>
    rw [named_cons, ih, List.flatMap_cons]
    split
    · rename_i hg
      rw [hg]
      rfl
    · rfl

/-! ## Texts that are divided alike -/

/-- The quote has no backslash in it, if it is a string. -/
def Segment.IsUnescaped : Segment → Prop
  | .bare _ => True
  | .quoted q inner | .unclosed q inner => (q = .single ∨ q = .double) → '\\' ∉ inner

instance : (g : Segment) → Decidable g.IsUnescaped
  | .bare _ => .isTrue trivial
  | .quoted _ _ | .unclosed _ _ => inferInstanceAs (Decidable (_ → _))

/-- The quote does not have the character in it that ends it. -/
def Segment.EndsOnce : Segment → Prop
  | .bare _ => True
  | .quoted q inner | .unclosed q inner => q.terminator ∉ inner

instance : (g : Segment) → Decidable g.EndsOnce
  | .bare _ => .isTrue trivial
  | .quoted _ _ | .unclosed _ _ => inferInstanceAs (Decidable (¬ _))

theorem Inner.of_unescaped (h : Inner e q inner)
    (hs : (q = .single ∨ q = .double) → '\\' ∉ inner) : Inner e' q inner := by
  induction h with
  | nil => exact .nil
  | @char c s hc _ _ ih =>
    refine .char hc ?_ (ih fun hq hm => hs hq (List.mem_cons_of_mem _ hm))
    rintro rfl ⟨-, hq⟩
    exact hs hq List.mem_cons_self
  | @escape c s hq _ _ => exact absurd List.mem_cons_self (hs hq.2)

/-- Without backslashes in strings it makes no difference whether they escape. -/
theorem Divides.of_unescaped (h : Divides e s segs) (hs : ∀ g ∈ segs, g.IsUnescaped) :
    Divides e' s segs := by
  induction h with
  | nil => exact .nil
  | bare hc _ ih => exact .bare hc (ih (List.forall_mem_cons.1 hs).2)
  | quoted hinner _ ih =>
    obtain ⟨hfirst, hrest⟩ := List.forall_mem_cons.1 hs
    exact .quoted (hinner.of_unescaped hfirst) (ih hrest)
  | unclosed hopen =>
    have hfirst := (List.forall_mem_cons.1 hs).1
    refine .unclosed ?_
    rintro ⟨inner, rest, rfl, hinner⟩
    exact hopen ⟨inner, rest, rfl,
      hinner.of_unescaped fun hq hm => hfirst hq (List.mem_append_left _ hm)⟩

theorem inner_standard_iff : Inner false q inner ↔ q.terminator ∉ inner := by
  constructor
  · intro h
    induction h with
    | nil => exact List.not_mem_nil
    | char hc _ _ ih => exact List.not_mem_cons_of_ne_of_not_mem (Ne.symm hc) ih
    | escape _ hq => cases hq.1
  · intro h
    induction inner with
    | nil => exact .nil
    | cons c s ih =>
      rw [List.mem_cons, not_or] at h
      exact .char (Ne.symm h.1) (fun _ hq => Bool.false_ne_true hq.1) (ih h.2)

theorem closes_standard_iff : Closes false q s ↔ q.terminator ∈ s := by
  constructor
  · rintro ⟨inner, rest, rfl, -⟩
    exact List.mem_append_right _ List.mem_cons_self
  · intro h
    obtain ⟨inner, rest, rfl, hinner⟩ := List.eq_append_cons_of_mem h
    exact ⟨inner, rest, rfl, inner_standard_iff.2 hinner⟩

/-- A reader for whom backslashes escape nothing divides a text in the same way if and only if no
quote has the character in it that ends it. -/
theorem divides_standard_iff (h : Divides e s segs) :
    Divides false s segs ↔ ∀ g ∈ segs, g.EndsOnce := by
  induction h with
  | nil => simp [Divides.nil]
  | @bare c s segs hc _ ih =>
    rw [List.forall_mem_cons, ← ih]
    constructor
    · intro h
      cases h with
      | bare _ h => exact ⟨trivial, h⟩
    · rintro ⟨-, h⟩
      exact .bare hc h
  | @quoted q inner s segs _ _ ih =>
    rw [List.forall_mem_cons, ← ih, Segment.EndsOnce, ← inner_standard_iff]
    constructor
    · intro h
      generalize ht : q.opening :: (inner ++ q.terminator :: s) = t at h
      cases h with
      | quoted hinner h =>
        have hs := List.append_cancel_left (List.cons.inj ht).2
        rw [(List.cons.inj hs).2]
        exact ⟨hinner, h⟩
    · rintro ⟨hinner, h⟩
      exact .quoted hinner h
  | @unclosed q s _ =>
    rw [List.forall_mem_singleton, Segment.EndsOnce, ← closes_standard_iff]
    constructor
    · intro h
      generalize ht : q.opening :: s = t at h
      cases h with
      | unclosed hopen =>
        rw [(List.cons.inj ht).2]
        exact hopen
    · exact .unclosed

/-- **Which question marks are markers.** A text is divided by the rules in exactly one way, and the
pieces make it up. In the named text every question mark that is in no quote is replaced by the name
of its number, counted from the left, and every other character stays where it is. So the text comes
back where every marker is named by itself, and whether backslashes escape makes no difference to a
text in whose strings, by either reading, there are none. -/
theorem names_bare_marks (e : Bool) (name : Nat → String) (sql : String) :
    (∃! segs, Divides e sql.toList segs) ∧
    (∀ segs, Divides e sql.toList segs →
      segs.flatMap Segment.text = sql.toList ∧ (nameAll e name sql).toList = named name segs) ∧
    nameAll e (fun _ => "?") sql = sql ∧
    ∀ reading segs, Divides reading sql.toList segs → (∀ g ∈ segs, g.IsUnescaped) →
      nameAll true name sql = nameAll false name sql := by
  refine ⟨⟨segments e sql.toList, divides_segments e _, fun _ => divides_iff.1⟩, ?_, ?_, ?_⟩
  · intro segs h
    exact ⟨h.flatMap_text, h.toList_nameAll name⟩
  · have h := divides_segments e sql.toList
    rw [← String.toList_inj, h.toList_nameAll, named_self, h.flatMap_text]
  · intro reading segs h hs
    have htrue : Divides true sql.toList segs := h.of_unescaped hs
    have hfalse : Divides false sql.toList segs := h.of_unescaped hs
    rw [← String.toList_inj, htrue.toList_nameAll, hfalse.toList_nameAll]

/-- A quote inside a string behind a backslash, and a string without backslashes. -/
theorem names_bare_marks_note :
    let name (n : Nat) := "@p" ++ toString n
    nameAll true name "note = 'it\\'s?' AND id = ?" = "note = 'it\\'s?' AND id = @p1" ∧
      nameAll true name "note = 'why?' AND [id?] = ?" =
        nameAll false name "note = 'why?' AND [id?] = ?" := by
  intro name
  obtain ⟨-, hnamed, -, -⟩ := names_bare_marks true name "note = 'it\\'s?' AND id = ?"
  obtain ⟨-, -, -, halike⟩ := names_bare_marks true name "note = 'why?' AND [id?] = ?"
  constructor
  · rw [← String.toList_inj]
    exact (hnamed _ (divides_segments true _)).2.trans (by decide)
  · exact halike true _ (divides_segments true _) (by decide)

end Marker

/-! ## Counting -/

namespace Statement

open Marker

variable {d : Dialect} {sql : String} {n : Nat}

/-- The statement that a dialect makes of a text has `n` placeholders put in: one for every question
mark outside the quotes that the dialect sees in the text. -/
def Inserts (d : Dialect) (sql : String) (n : Nat) : Prop :=
  ∃ segs, Divides d.backslashEscapes sql.toList segs ∧ segs.count (.bare '?') = n ∧
    ∀ values, (ofFragment d ⟨sql, values⟩).sql.toList = named d.placeholder segs

theorem inserts_iff : Inserts d sql n ↔ n = countFrom d.backslashEscapes .outside sql.toList := by
  constructor
  · rintro ⟨segs, h, rfl, -⟩
    exact h.countFrom_eq.symm
  · rintro rfl
    have h := divides_segments d.backslashEscapes sql.toList
    exact ⟨_, h, h.countFrom_eq.symm, fun _ => h.toList_nameAll d.placeholder⟩

/-- **Counting markers without escapes.** The number of placeholders put in is determined. It is the
count of the markers for every text if and only if the dialect is not MySQL, and on MySQL for the
texts in which no quote holds the character that ends it. -/
theorem counts_inserted_iff (d : Dialect) :
    (∀ sql, ∃! n, Inserts d sql n) ∧
    ((∀ sql, Inserts d sql (count sql)) ↔ d ≠ .mysql) ∧
    ∀ sql segs, Divides d.backslashEscapes sql.toList segs → (∀ g ∈ segs, g.EndsOnce) →
      Inserts d sql (count sql) := by
  refine ⟨?_, ⟨?_, ?_⟩, ?_⟩
  · intro sql
    exact ⟨_, inserts_iff.2 rfl, fun n h => inserts_iff.1 h⟩
  · rintro h rfl
    exact absurd (inserts_iff.1 (h "'\\''?")) (by decide)
  · intro hd sql
    have hstandard : d.backslashEscapes = false := by
      cases d with
      | mysql => exact absurd rfl hd
      | sqlServer | postgres | oracle | sqlite => rfl
    rw [inserts_iff, hstandard]
    rfl
  · intro sql segs h hends
    have hstandard : Divides false sql.toList segs := (divides_standard_iff h).2 hends
    rw [inserts_iff, count, countFrom_eq_countP .outside [], countFrom_eq_countP .outside [],
      ← segments, ← segments, ← divides_iff.1 h, ← divides_iff.1 hstandard]

theorem counts_inserted_iff_path :
    let sql := "path = 'C:\\\\temp?' AND id = ?"
    Inserts .mysql sql (count sql) ∧ count sql = 1 := by
  intro sql
  obtain ⟨-, -, hends⟩ := counts_inserted_iff .mysql
  exact ⟨hends sql _ (divides_segments true _) (by decide), by decide⟩

/-- The count misses a marker on MySQL: it takes the escaped quote for the end of the string. -/
theorem count_misses_marker :
    let sql := "note = 'it\\'s' AND id = ?"
    count sql = 0 ∧ Inserts .mysql sql 1 ∧
      (ofFragment .mysql ⟨sql, [.int 7]⟩).sql = "note = 'it\\'s' AND id = @p1" := by
  intro sql
  have hone : 1 = countFrom true .outside sql.toList := by decide
  exact ⟨by decide, inserts_iff.2 hone, by decide⟩

end Statement

end Polydialect
