import Polydialect.Proofs.Quoting

/-!
# Raw text with its names quoted

`Dialect.wrap` looks for brackets and for nothing else, whereas the scanner for markers keeps track
of quotes. The scanner divides a text into characters outside quotes and quotes
(`Marker.segments`), and of these only the names between brackets are to be rewritten
(`Segment.rewritten`).

* `flatMap_text_segments`: the segments make up the text;
* `Delimiters.resumed_iff`: the two passes agree on a text if no bracket that is closed again stands
  inside another quote (`BracketsFrom`), and only then;
* `segmentsFrom_rewritten`: where they agree, the scanner finds the other segments again in the
  result;
* `Dialect.wrap_keeps_quoted_iff`: so literals are kept on SQL Server, and elsewhere in the texts
  without such a bracket.
-/

namespace Polydialect

namespace Marker

variable {e : Bool} {m : Mode} {q : Quote} {acc : List Char}

def Quote.opening : Quote → Char
  | .single => '\''
  | .double => '"'
  | .backtick => '\x60'
  | .bracket => '['

theorem Quote.opening_of_opened? {c : Char} (h : Quote.opened? c = some q) : c = q.opening := by
  grind [Quote.opened?, Quote.opening]

theorem Quote.closing_ne (q : Quote) : q.closing ≠ '[' := by cases q <;> decide

namespace Mode

/-- The quote that is open. -/
def quote? : Mode → Option Quote
  | .outside => none
  | .inside q | .escaped q => some q

theorem ne_inside_bracket (hm : m.quote? = some q) (hq : q ≠ .bracket) : m ≠ .inside .bracket := by
  rintro rfl
  exact hq (Option.some.inj hm).symm

theorem eq_inside_bracket (h : m.quote? = some .bracket) (hm : m ≠ .escaped .bracket) :
    m = .inside .bracket := by
  cases m with
  | outside => cases h
  | inside => exact congrArg Mode.inside (Option.some.inj h)
  | escaped => exact absurd (congrArg Mode.escaped (Option.some.inj h)) hm

/-- A character leaves the scanner outside, opens a quote, closes it or stands in it. -/
theorem next_cases (e : Bool) (m : Mode) (c : Char) :
    (m = .outside ∧ Quote.opened? c = none ∧ m.next e c = .outside) ∨
    (∃ q, m = .outside ∧ c = q.opening ∧ m.next e c = .inside q) ∨
    (∃ q, m = .inside q ∧ c = q.closing ∧ m.next e c = .outside) ∨
    ∃ q, m.quote? = some q ∧ (m.next e c).quote? = some q ∧
      (m = .inside .bracket → c ≠ ']' ∧ m.next e c = .inside .bracket) := by
  cases m with
  | outside =>
    cases hc : Quote.opened? c with
    | none => exact .inl ⟨rfl, rfl, by simp [next, hc]⟩
    | some q =>
      exact .inr (.inl ⟨q, rfl, Quote.opening_of_opened? hc, next_opened hc⟩)
  | inside q =>
    right; right
    by_cases hesc : (e && c == '\\' && q.holdsString) = true
    · right
      refine ⟨q, rfl, ?_, ?_⟩
      · rw [next, if_pos hesc]
        rfl
      · intro h
        cases h
        simp [Quote.holdsString] at hesc
    · by_cases hc : c = q.closing
      · left
        exact ⟨q, rfl, hc, by rw [next, if_neg hesc, if_pos hc]⟩
      · right
        have hnext : (Mode.inside q).next e c = .inside q := by
          rw [next, if_neg hesc, if_neg hc]
        refine ⟨q, rfl, by rw [hnext]; rfl, ?_⟩
        intro h
        cases h
        exact ⟨hc, hnext⟩
  | escaped q =>
    right; right; right
    exact ⟨q, rfl, rfl, fun h => by cases h⟩

theorem next_ne_escaped_bracket (e : Bool) (m : Mode) (c : Char) :
    m.next e c ≠ .escaped .bracket := by
  intro h
  cases m with
  | outside =>
    simp only [next] at h
    split at h <;> cases h
  | inside q =>
    simp only [next] at h
    split at h
    · rename_i hesc
      cases h
      simp [Quote.holdsString] at hesc
    · split at h <;> cases h
  | escaped q => cases h

end Mode

theorem isMarker_opening (m : Mode) (q : Quote) : isMarker m q.opening = false := by
  cases q <;> simp [isMarker, Quote.opening]

/-- In a quote nothing is a marker. -/
theorem isMarker_of_quote? (hm : m.quote? = some q) (c : Char) : isMarker m c = false := by
  cases m with
  | outside => cases hm
  | inside | escaped => rfl

/-! ## Segments -/

/-- A stretch of a text as the scanner delimits it. -/
inductive Segment where
  | bare (c : Char)
  | quoted (q : Quote) (inner : List Char)
  | unclosed (q : Quote) (inner : List Char)
  deriving DecidableEq, Repr

namespace Segment

def text : Segment → List Char
  | bare c => [c]
  | quoted q inner => q.opening :: inner ++ [q.closing]
  | unclosed q inner => q.opening :: inner

/-- A complete quote other than a name between brackets. -/
def isLiteral : Segment → Bool
  | quoted q _ => q ≠ .bracket
  | bare _ | unclosed .. => false

/-- What a segment becomes when names between brackets are quoted, and nothing else is changed. -/
def rewritten (d : Delimiters) : Segment → List Char
  | quoted .bracket name => d.quote name
  | s => s.text

end Segment

/-- The segments from some mode on. Of the quote that is open, `acc` holds in reverse what has been
read. -/
def segmentsFrom (e : Bool) (m : Mode) (acc : List Char) : List Char → List Segment
  | [] => (m.quote?.map fun q => Segment.unclosed q acc.reverse).toList
  | c :: r => match m.quote?, (m.next e c).quote? with
    | none, none => .bare c :: segmentsFrom e (m.next e c) [] r
    | none, some _ => segmentsFrom e (m.next e c) [] r
    | some q, none => .quoted q acc.reverse :: segmentsFrom e (m.next e c) [] r
    | some _, some _ => segmentsFrom e (m.next e c) (c :: acc) r

def segments (e : Bool) (s : List Char) : List Segment := segmentsFrom e .outside [] s

/-- What has been read of the quote that is open. -/
def begun (m : Mode) (acc : List Char) : List Char :=
  (m.quote?.map fun q => q.opening :: acc.reverse).getD []

theorem segmentsFrom_bare {c : Char} {r : List Char} (hm : m = .outside)
    (hn : m.next e c = .outside) :
    segmentsFrom e m acc (c :: r) = .bare c :: segments e r := by
  subst hm
  rw [segmentsFrom, hn]
  rfl

theorem segmentsFrom_opening {c : Char} {r : List Char} (hm : m = .outside)
    (hn : m.next e c = .inside q) :
    segmentsFrom e m acc (c :: r) = segmentsFrom e (.inside q) [] r := by
  subst hm
  rw [segmentsFrom, hn]
  rfl

theorem segmentsFrom_closing {c : Char} {r : List Char} (hm : m.quote? = some q)
    (hn : m.next e c = .outside) :
    segmentsFrom e m acc (c :: r) = .quoted q acc.reverse :: segments e r := by
  rw [segmentsFrom, hm, hn]
  rfl

theorem segmentsFrom_inner {c : Char} {r : List Char} (hm : m.quote? = some q)
    (hn : (m.next e c).quote? = some q) :
    segmentsFrom e m acc (c :: r) = segmentsFrom e (m.next e c) (c :: acc) r := by
  rw [segmentsFrom, hm, hn]

theorem begun_inner {c : Char} (hm : m.quote? = some q) (hn : (m.next e c).quote? = some q) :
    begun (m.next e c) (c :: acc) = begun m acc ++ [c] := by
  simp [begun, hm, hn]

/-- A complete quote is kept unless it is a bracket. -/
theorem rewritten_quoted {d : Delimiters} (hq : q ≠ .bracket) (acc : List Char) :
    Segment.rewritten d (.quoted q acc.reverse) = begun (.inside q) acc ++ [q.closing] := by
  cases q with
  | bracket => exact absurd rfl hq
  | single | double | backtick => rfl

/-- The segments make up the text. -/
theorem flatMap_text_segmentsFrom (m : Mode) (acc s : List Char) :
    (segmentsFrom e m acc s).flatMap Segment.text = begun m acc ++ s := by
  induction s generalizing m acc with
  | nil =>
    unfold segmentsFrom begun
    cases m.quote? with
    | none => rfl
    | some q => simp [Segment.text]
  | cons c s ih =>
    obtain ⟨hm, -, hn⟩ | ⟨q, hm, hc, hn⟩ | ⟨q, hm, hc, hn⟩ | ⟨q, hm, hn, -⟩ := m.next_cases e c
    · rw [segmentsFrom_bare hm hn, List.flatMap_cons, segments, ih, hm]
      rfl
    · rw [segmentsFrom_opening hm hn, ih, hm, hc]
      rfl
    · subst hm hc
      rw [segmentsFrom_closing rfl hn, List.flatMap_cons, segments, ih]
      simp [Segment.text, begun, Mode.quote?]
    · rw [segmentsFrom_inner hm hn, ih, begun_inner hm hn, List.append_assoc]
      rfl

theorem flatMap_text_segments (s : List Char) : (segments e s).flatMap Segment.text = s :=
  flatMap_text_segmentsFrom .outside [] s

/-- The markers of a text are its bare question marks. -/
theorem countFrom_eq_countP (m : Mode) (acc s : List Char) :
    countFrom e m s = (segmentsFrom e m acc s).countP (· == .bare '?') := by
  induction s generalizing m acc with
  | nil =>
    unfold segmentsFrom countFrom
    cases m.quote? <;> rfl
  | cons c s ih =>
    rw [countFrom_cons]
    obtain ⟨hm, -, hn⟩ | ⟨q, hm, hc, hn⟩ | ⟨q, hm, hc, hn⟩ | ⟨q, hm, hn, -⟩ := m.next_cases e c
    · rw [segmentsFrom_bare hm hn, List.countP_cons, segments, ← ih, hn, hm, Nat.add_comm]
      congr 1
      by_cases hq : c = '?' <;> simp [isMarker, hq]
    · rw [segmentsFrom_opening hm hn, ← ih, hn, hc, isMarker_opening]
      exact Nat.zero_add _
    · rw [segmentsFrom_closing (by rw [hm]; rfl) hn, List.countP_cons, segments, ← ih, hn, hm]
      exact Nat.add_comm _ _
    · rw [segmentsFrom_inner hm hn, ← ih, isMarker_of_quote? hm]
      exact Nat.zero_add _

/-! ## Where the two passes agree -/

/-- A bracket that is closed again stands outside quotes or between brackets. -/
def BracketsFrom (e : Bool) (m : Mode) (s : List Char) : Prop :=
  ∀ pre post, s = pre ++ '[' :: post → ']' ∈ post →
    m.after e pre = .outside ∨ m.after e pre = .inside .bracket

theorem bracketsFrom_cons (m : Mode) (c : Char) (s : List Char) :
    BracketsFrom e m (c :: s) ↔
      (c = '[' → ']' ∈ s → m = .outside ∨ m = .inside .bracket) ∧
        BracketsFrom e (m.next e c) s := by
  constructor
  · intro h
    constructor
    · intro hc hs
      exact h [] s (by rw [hc, List.nil_append]) hs
    · intro pre post hs hpost
      exact h (c :: pre) post (by rw [hs, List.cons_append]) hpost
  · rintro ⟨hfirst, hrest⟩ pre post hs hpost
    cases pre with
    | nil =>
      obtain ⟨rfl, rfl⟩ := List.cons.inj hs
      exact hfirst rfl hpost
    | cons c' pre =>
      obtain ⟨rfl, rfl⟩ := List.cons.inj hs
      exact hrest pre post rfl hpost

theorem bracketsFrom_of_not_mem {s : List Char} (h : ']' ∉ s) (m : Mode) :
    BracketsFrom e m s := by
  rintro pre post rfl hpost
  exact absurd (List.mem_append_right pre (List.mem_cons_of_mem _ hpost)) h

end Marker

namespace Delimiters

open Marker

variable {d : Delimiters} {e : Bool} {m : Mode} {q : Quote}

/-- Text without a bracket is left alone. -/
theorem wrapFrom_append {p : List Char} (h : '[' ∉ p) (s : List Char) :
    d.wrapFrom none (p ++ s) = p ++ d.wrapFrom none s := by
  induction p with
  | nil => rfl
  | cons c p ih =>
    rw [List.mem_cons, not_or] at h
    rw [List.cons_append, wrapFrom, if_neg (Ne.symm h.1), ih h.2]
    rfl

/-- Reading on in an open bracket up to the one that closes it. -/
theorem wrapFrom_bracket {s : List Char} (hs : ']' ∉ s) (acc r : List Char) :
    d.wrapFrom (some acc) (s ++ ']' :: r) = d.quote (acc.reverse ++ s) ++ d.wrapFrom none r := by
  induction s generalizing acc with
  | nil => simp [wrapFrom]
  | cons c s ih =>
    have hc : c ≠ ']' := fun h => hs (h ▸ .head _)
    rw [List.cons_append, wrapFrom, if_neg hc, ih fun h => hs (.tail _ h)]
    simp

theorem wrapFrom_some_of_not_mem {s : List Char} (h : ']' ∉ s) (acc : List Char) :
    d.wrapFrom (some acc) s = '[' :: acc.reverse ++ s := by
  induction s generalizing acc with
  | nil => simp [wrapFrom]
  | cons c s ih =>
    rw [List.mem_cons, not_or] at h
    rw [wrapFrom, if_neg (Ne.symm h.1), ih h.2]
    simp

theorem wrapFrom_none_of_not_mem {s : List Char} (h : ']' ∉ s) : d.wrapFrom none s = s := by
  induction s with
  | nil => rfl
  | cons c s ih =>
    rw [List.mem_cons, not_or] at h
    rw [wrapFrom]
    split
    · rename_i hc
      rw [wrapFrom_some_of_not_mem h.2, hc]
      rfl
    · rw [ih h.2]

/-- A bracket that is closed again becomes the opening delimiter. -/
theorem head_wrapFrom_some {s : List Char} (h : ']' ∈ s) (acc : List Char) :
    (d.wrapFrom (some acc) s).head? = some d.opening := by
  induction s generalizing acc with
  | nil => cases h
  | cons c s ih =>
    rw [wrapFrom]
    split
    · rfl
    · rename_i hc
      exact ih ((List.mem_cons.1 h).resolve_left (Ne.symm hc)) _

/-- What is made of the rest of a text in some mode of the scanner, with what has been read of the
quote that is open. -/
def resumed (d : Delimiters) (m : Mode) (acc s : List Char) : List Char :=
  if m = .inside .bracket then d.wrapFrom (some acc) s else begun m acc ++ d.wrapFrom none s

theorem resumed_outside (d : Delimiters) (acc s : List Char) :
    d.resumed .outside acc s = d.wrapFrom none s := by
  rw [resumed, if_neg (by decide)]
  rfl

theorem resumed_nil (hm : m ≠ .escaped .bracket) (acc : List Char) :
    d.resumed m acc [] = (segmentsFrom e m acc []).flatMap (Segment.rewritten d) := by
  unfold resumed segmentsFrom begun
  cases m with
  | outside => rfl
  | inside q =>
    cases q <;> simp [Mode.quote?, wrapFrom, Segment.rewritten, Segment.text, Quote.opening]
  | escaped q =>
    simp [Mode.quote?, wrapFrom, Segment.rewritten, Segment.text]

theorem resumed_opening (d : Delimiters) (q : Quote) (acc s : List Char) :
    d.resumed .outside acc (q.opening :: s) = d.resumed (.inside q) [] s := by
  rw [resumed_outside, wrapFrom]
  by_cases hq : q = .bracket
  · subst hq
    rfl
  · have hopen : q.opening ≠ '[' := by
      cases q with
      | bracket => exact absurd rfl hq
      | single | double | backtick => decide
    have hmode : Mode.inside q ≠ .inside .bracket := fun h => hq (Mode.inside.inj h)
    rw [if_neg hopen, resumed, if_neg hmode]
    rfl

theorem resumed_closing (d : Delimiters) (q : Quote) (acc s : List Char) :
    d.resumed (.inside q) acc (q.closing :: s) =
      Segment.rewritten d (.quoted q acc.reverse) ++ d.wrapFrom none s := by
  by_cases hq : q = .bracket
  · subst hq
    rw [resumed, if_pos rfl, Quote.closing, wrapFrom, if_pos rfl]
    rfl
  · have hmode : Mode.inside q ≠ .inside .bracket := fun h => hq (Mode.inside.inj h)
    rw [resumed, if_neg hmode, wrapFrom, if_neg q.closing_ne, rewritten_quoted hq,
      List.append_assoc]
    rfl

theorem resumed_inner {c : Char} {s : List Char} (hm : m.quote? = some q)
    (hn : (m.next e c).quote? = some q) (hq : q ≠ .bracket) (hc : c ≠ '[' ∨ ']' ∉ s)
    (acc : List Char) :
    d.resumed m acc (c :: s) = d.resumed (m.next e c) (c :: acc) s := by
  have hcons : d.wrapFrom none (c :: s) = c :: d.wrapFrom none s := by
    rcases hc with hc | hs
    · rw [wrapFrom, if_neg hc]
    · by_cases hc : c = '['
      · subst hc
        rw [wrapFrom, if_pos rfl, wrapFrom_some_of_not_mem hs, wrapFrom_none_of_not_mem hs]
        rfl
      · rw [wrapFrom, if_neg hc]
  rw [resumed, if_neg (Mode.ne_inside_bracket hm hq), resumed,
    if_neg (Mode.ne_inside_bracket hn hq), begun_inner hm hn, List.append_assoc, hcons]
  rfl

/-- What has been read of a quote other than a bracket stays in front. -/
theorem begun_prefix (hm : m.quote? = some q) (hq : q ≠ .bracket) (acc s : List Char) :
    begun m acc <+: (segmentsFrom e m acc s).flatMap (Segment.rewritten d) := by
  induction s generalizing m acc with
  | nil =>
    rw [segmentsFrom, begun, hm]
    simp [Segment.rewritten, Segment.text]
  | cons c s ih =>
    obtain ⟨rfl, -, -⟩ | ⟨q', rfl, -, -⟩ | ⟨q', rfl, rfl, hn⟩ | ⟨q', hm', hn, -⟩ := m.next_cases e c
    · cases hm
    · cases hm
    · cases hm
      rw [segmentsFrom_closing rfl hn, List.flatMap_cons, rewritten_quoted hq, List.append_assoc]
      exact List.prefix_append _ _
    · cases hm.symm.trans hm'
      rw [segmentsFrom_inner hm hn]
      refine List.IsPrefix.trans ?_ (ih hn (c :: acc))
      rw [begun_inner hm hn]
      exact List.prefix_append _ _

/-- A bracket inside of another quote, closed again behind it, is kept by the scanner alone. -/
theorem resumed_bracket_ne {s : List Char} (hd : d.opening ≠ '[') (hm : m.quote? = some q)
    (hn : (m.next e '[').quote? = some q) (hq : q ≠ .bracket) (hs : ']' ∈ s) (acc : List Char) :
    d.resumed m acc ('[' :: s) ≠
      (segmentsFrom e (m.next e '[') ('[' :: acc) s).flatMap (Segment.rewritten d) := by
  intro h
  have hpre := begun_prefix (d := d) (e := e) hn hq ('[' :: acc) s
  rw [← h, begun_inner hm hn, resumed, if_neg (Mode.ne_inside_bracket hm hq), wrapFrom, if_pos rfl,
    List.prefix_append_right_inj] at hpre
  obtain ⟨t, ht⟩ := hpre
  have hhead := head_wrapFrom_some (d := d) hs []
  rw [← ht] at hhead
  exact hd (Option.some.inj hhead).symm

/-- The two passes over a text agree if every bracket that is closed again is one for the scanner,
and only then. -/
theorem resumed_iff (hd : d.opening ≠ '[') (hm : m ≠ .escaped .bracket) (acc s : List Char) :
    d.resumed m acc s = (segmentsFrom e m acc s).flatMap (Segment.rewritten d) ↔
      BracketsFrom e m s := by
  induction s generalizing m acc with
  | nil => exact iff_of_true (resumed_nil hm acc) (bracketsFrom_of_not_mem (by simp) m)
  | cons c s ih =>
    have hnext := Mode.next_ne_escaped_bracket e m c
    rw [bracketsFrom_cons]
    obtain ⟨rfl, hc, hn⟩ | ⟨q, rfl, rfl, hn⟩ | ⟨q, rfl, rfl, hn⟩ | ⟨q, hq, hn, hb⟩ :=
      m.next_cases e c
    · have hopen : c ≠ '[' := by
        rintro rfl
        cases hc
      rw [and_iff_right (fun _ _ => .inl rfl), ← ih hnext [], hn, segmentsFrom_bare rfl hn,
        resumed_outside, resumed_outside, wrapFrom, if_neg hopen, List.flatMap_cons]
      exact List.append_right_inj [c]
    · rw [and_iff_right (fun _ _ => .inl rfl), ← ih hnext [], hn, segmentsFrom_opening rfl hn,
        resumed_opening]
    · rw [and_iff_right (fun h => absurd h q.closing_ne), ← ih hnext [], hn,
        segmentsFrom_closing rfl hn, resumed_closing, resumed_outside, List.flatMap_cons]
      exact List.append_right_inj _
    · rw [segmentsFrom_inner hq hn, ← ih hnext (c :: acc)]
      by_cases hbracket : m = .inside .bracket
      · -- up to the bracket that closes it both passes read the same name
        obtain ⟨hc, hstays⟩ := hb hbracket
        rw [and_iff_right (fun _ _ => .inr hbracket), hstays, resumed, if_pos hbracket, wrapFrom,
          if_neg hc, resumed, if_pos rfl]
      · have hother : q ≠ .bracket := by
          rintro rfl
          exact hbracket (Mode.eq_inside_bracket hq hm)
        by_cases hc : c ≠ '[' ∨ ']' ∉ s
        · have hholds : c = '[' → ']' ∈ s → m = .outside ∨ m = .inside .bracket :=
            fun h hs => absurd hs (hc.resolve_left (not_not_intro h))
          rw [and_iff_right hholds, resumed_inner hq hn hother hc]
        · rw [not_or, Classical.not_not, Classical.not_not] at hc
          obtain ⟨rfl, hs⟩ := hc
          refine iff_of_false (resumed_bracket_ne hd hq hn hother hs acc) ?_
          rintro ⟨h, -⟩
          rcases h rfl hs with rfl | h
          · cases hq
          · exact hbracket h

theorem quote_brackets {name : List Char} (h : ']' ∉ name) :
    quote ⟨'[', ']'⟩ name = '[' :: name ++ [']'] := by
  have hdouble : double ⟨'[', ']'⟩ name = name := by
    induction name with
    | nil => rfl
    | cons c name ih =>
      rw [List.mem_cons, not_or] at h
      rw [double, List.flatMap_cons, ← double, ih h.2, if_neg (Ne.symm h.1)]
      rfl
  rw [quote, hdouble]

/-- A name between brackets stays as it is where brackets are the delimiters. -/
theorem wrapFrom_eq_self (s : List Char) :
    wrapFrom ⟨'[', ']'⟩ none s = s ∧
      ∀ acc, ']' ∉ acc → wrapFrom ⟨'[', ']'⟩ (some acc) s = '[' :: acc.reverse ++ s := by
  induction s with
  | nil => exact ⟨rfl, fun acc _ => by simp [wrapFrom]⟩
  | cons c s ih =>
    obtain ⟨hnone, hsome⟩ := ih
    constructor
    · rw [wrapFrom]
      split
      · rename_i hc
        rw [hsome [] (by simp), hc]
        rfl
      · rw [hnone]
    · intro acc hacc
      rw [wrapFrom]
      split
      · rename_i hc
        rw [hnone, quote_brackets (by simpa using hacc), hc]
        simp
      · rename_i hc
        rw [hsome (c :: acc) (by simp [Ne.symm hc, hacc])]
        simp

end Delimiters

namespace Marker

variable {e : Bool} {m : Mode} {q : Quote} {d : Delimiters}

/-- Where brackets are the delimiters every segment is kept. -/
theorem rewritten_eq_text {acc : List Char} (h : q = .bracket → ']' ∉ acc) :
    Segment.rewritten ⟨'[', ']'⟩ (.quoted q acc.reverse) =
      Segment.text (.quoted q acc.reverse) := by
  cases q with
  | bracket => exact Delimiters.quote_brackets (by simpa using h rfl)
  | single | double | backtick => rfl

theorem flatMap_rewritten_brackets (acc s : List Char)
    (hacc : m.quote? = some .bracket → ']' ∉ acc) (hm : m ≠ .escaped .bracket) :
    (segmentsFrom e m acc s).flatMap (Segment.rewritten ⟨'[', ']'⟩) =
      (segmentsFrom e m acc s).flatMap Segment.text := by
  induction s generalizing m acc with
  | nil =>
    rw [segmentsFrom]
    cases m.quote? <;> rfl
  | cons c s ih =>
    have hnext := Mode.next_ne_escaped_bracket e m c
    obtain ⟨rfl, -, hn⟩ | ⟨q, rfl, rfl, hn⟩ | ⟨q, rfl, rfl, hn⟩ | ⟨q, hq, hn, hb⟩ :=
      m.next_cases e c
    · rw [segmentsFrom_bare rfl hn, List.flatMap_cons, List.flatMap_cons, segments,
        ih [] (fun h => by cases h) (by decide)]
      rfl
    · rw [segmentsFrom_opening rfl hn]
      exact ih [] (fun _ => List.not_mem_nil) (fun h => by cases h)
    · rw [segmentsFrom_closing rfl hn, List.flatMap_cons, List.flatMap_cons, segments,
        ih [] (fun h => by cases h) (by decide),
        rewritten_eq_text (fun h => hacc (congrArg some h))]
    · rw [segmentsFrom_inner hq hn]
      refine ih (c :: acc) ?_ hnext
      intro hbracket
      have hq' : m.quote? = some .bracket := by rw [hq, ← hn, hbracket]
      rw [List.mem_cons, not_or]
      exact ⟨Ne.symm (hb (Mode.eq_inside_bracket hq' hm)).1, hacc hq'⟩

/-! ## The result, scanned once more -/

/-- The segments of what a segment becomes. -/
def Segment.rescanned (e : Bool) (d : Delimiters) : Segment → List Segment
  | .quoted .bracket name => segments e (d.quote name)
  | s => [s]

theorem Segment.rescanned_of_isLiteral {s : Segment} (h : s.isLiteral = true) :
    s.rescanned e d = [s] := by
  cases s with
  | bare | unclosed => rfl
  | quoted q inner =>
    cases q with
    | bracket => cases h
    | single | double | backtick => rfl

theorem segmentsFrom_outside (acc s : List Char) :
    segmentsFrom e .outside acc s = segments e s := by
  cases s with
  | nil => rfl
  | cons c s =>
    rw [segments, segmentsFrom, segmentsFrom]
    cases (Mode.next e .outside c).quote? <;> rfl

theorem segmentsFrom_append {s : List Char} (h : m.after e s = .outside) (acc t : List Char) :
    segmentsFrom e m acc (s ++ t) = segmentsFrom e m acc s ++ segments e t := by
  induction s generalizing m acc with
  | nil =>
    rw [Mode.after_nil] at h
    subst h
    exact segmentsFrom_outside acc t
  | cons c s ih =>
    rw [Mode.after_cons] at h
    rw [List.cons_append]
    obtain ⟨rfl, -, hn⟩ | ⟨q, rfl, rfl, hn⟩ | ⟨q, rfl, rfl, hn⟩ | ⟨q, hq, hn, -⟩ :=
      m.next_cases e c
    · rw [hn] at h
      rw [segmentsFrom_bare rfl hn, segmentsFrom_bare rfl hn, segments, ih h]
      rfl
    · rw [hn] at h
      rw [segmentsFrom_opening rfl hn, segmentsFrom_opening rfl hn, ih h]
    · rw [hn] at h
      rw [segmentsFrom_closing rfl hn, segmentsFrom_closing rfl hn, segments, ih h]
      rfl
    · rw [segmentsFrom_inner hq hn, segmentsFrom_inner hq hn, ih h]

/-- The scanner finds the segments again that are kept, if it passes over quoted names. -/
theorem segmentsFrom_rewritten (hd : ∀ name, Whole e (d.quote name)) {acc : List Char}
    (hread : ∀ t, segments e (begun m acc ++ t) = segmentsFrom e m acc t) (s : List Char) :
    segments e ((segmentsFrom e m acc s).flatMap (Segment.rewritten d)) =
      (segmentsFrom e m acc s).flatMap (Segment.rescanned e d) := by
  induction s generalizing m acc with
  | nil =>
    have hself := hread []
    unfold begun at hself
    unfold segmentsFrom at hself ⊢
    cases hq : m.quote? with
    | none => rfl
    | some q =>
      rw [hq, List.append_nil] at hself
      simpa [Segment.rewritten, Segment.text, Segment.rescanned] using hself
  | cons c s ih =>
    have hrest : segments e ((segments e s).flatMap (Segment.rewritten d)) =
        (segments e s).flatMap (Segment.rescanned e d) :=
      ih fun t => segmentsFrom_outside [] t
    obtain ⟨rfl, -, hn⟩ | ⟨q, rfl, rfl, hn⟩ | ⟨q, rfl, rfl, hn⟩ | ⟨q, hq, hn, -⟩ :=
      m.next_cases e c
    · rw [segmentsFrom_bare rfl hn, List.flatMap_cons, List.flatMap_cons, ← hrest]
      exact segmentsFrom_bare rfl hn
    · rw [segmentsFrom_opening rfl hn]
      exact ih fun t => segmentsFrom_opening rfl hn
    · rw [segmentsFrom_closing rfl hn, List.flatMap_cons, List.flatMap_cons, ← hrest]
      by_cases hq : q = .bracket
      · subst hq
        exact segmentsFrom_append (hd acc.reverse).closed [] _
      · rw [rewritten_quoted hq, List.append_assoc, hread,
          Segment.rescanned_of_isLiteral (s := .quoted q acc.reverse) (decide_eq_true hq)]
        exact segmentsFrom_closing rfl hn
    · rw [segmentsFrom_inner hq hn]
      refine ih fun t => ?_
      rw [begun_inner hq hn, List.append_assoc, List.singleton_append, hread,
        segmentsFrom_inner hq hn]

theorem filter_isLiteral_sublist (segs : List Segment) :
    (segs.filter Segment.isLiteral).Sublist (segs.flatMap (Segment.rescanned e d)) := by
  induction segs with
  | nil => exact .slnil
  | cons s segs ih =>
    rw [List.flatMap_cons]
    cases hs : s.isLiteral with
    | false =>
      rw [List.filter_cons_of_neg (by simp [hs])]
      exact ih.trans (List.sublist_append_right _ _)
    | true =>
      rw [List.filter_cons_of_pos hs, Segment.rescanned_of_isLiteral hs]
      exact ih.cons_cons s

theorem countP_rescanned (hd : ∀ name, Whole e (d.quote name)) (segs : List Segment) :
    (segs.flatMap (Segment.rescanned e d)).countP (· == .bare '?') =
      segs.countP (· == .bare '?') := by
  induction segs with
  | nil => rfl
  | cons s segs ih =>
    rw [List.flatMap_cons, List.countP_append, ih, List.countP_cons, Nat.add_comm]
    congr 1
    cases s with
    | bare | unclosed => exact List.countP_singleton
    | quoted q inner =>
      cases q with
      | bracket => exact (countFrom_eq_countP .outside [] _).symm.trans (hd inner).count
      | single | double | backtick => exact List.countP_singleton

end Marker

/-! ## Dialects -/

namespace Dialect

open Marker

/-- Quoting the names of a raw text keeps its literals. -/
structure KeepsQuoted (d : Dialect) (raw : String) : Prop where
  /-- Nothing but names between brackets is rewritten. -/
  rewrites : (d.wrap raw).toList =
    (segments d.backslashEscapes raw.toList).flatMap (Segment.rewritten d.delimiters)
  /-- The scanner finds every literal in the result, in order. -/
  literals : ((segments d.backslashEscapes raw.toList).filter Segment.isLiteral).Sublist
    (segments d.backslashEscapes (d.wrap raw).toList)
  markers : countFrom d.backslashEscapes .outside (d.wrap raw).toList =
    countFrom d.backslashEscapes .outside raw.toList

theorem wrap_sqlServer (raw : String) : Dialect.sqlServer.wrap raw = raw := by
  rw [← String.toList_inj, wrap, String.toList_ofList]
  exact (Delimiters.wrapFrom_eq_self raw.toList).1

/-- **Where raw text keeps its literals.** On SQL Server always; elsewhere exactly if no bracket
that is closed again stands in another quote. -/
theorem wrap_keeps_quoted_iff (d : Dialect) (raw : String) :
    d.KeepsQuoted raw ↔
      (d ≠ .sqlServer → BracketsFrom d.backslashEscapes .outside raw.toList) := by
  by_cases hd : d = .sqlServer
  · subst hd
    refine iff_of_true ?_ (fun h => absurd rfl h)
    have hsegments : (segments false raw.toList).flatMap (Segment.rewritten ⟨'[', ']'⟩) =
        raw.toList :=
      (flatMap_rewritten_brackets [] raw.toList (fun h => by cases h) (by decide)).trans
        (flatMap_text_segments raw.toList)
    refine ⟨?_, ?_, ?_⟩
    · rw [wrap_sqlServer]
      exact hsegments.symm
    · rw [wrap_sqlServer]
      exact List.filter_sublist
    · rw [wrap_sqlServer]
  · have hopen : d.delimiters.opening ≠ '[' := by
      cases d with
      | sqlServer => exact absurd rfl hd
      | mysql | postgres | oracle | sqlite => decide
    have hwhole (name : List Char) : Whole d.backslashEscapes (d.delimiters.quote name) := by
      have h := whole_quote hd (.ofList name)
      rwa [quote, String.toList_ofList, String.toList_ofList] at h
    have hiff : (d.wrap raw).toList =
        (segments d.backslashEscapes raw.toList).flatMap (Segment.rewritten d.delimiters) ↔
        BracketsFrom d.backslashEscapes .outside raw.toList := by
      rw [wrap, String.toList_ofList, ← Delimiters.resumed_outside d.delimiters []]
      exact Delimiters.resumed_iff hopen (by decide) [] raw.toList
    constructor
    · intro h _
      exact hiff.1 h.rewrites
    · intro h
      have hwrap := hiff.2 (h hd)
      have hagain : segments d.backslashEscapes (d.wrap raw).toList =
          (segments d.backslashEscapes raw.toList).flatMap
            (Segment.rescanned d.backslashEscapes d.delimiters) := by
        rw [hwrap]
        exact segmentsFrom_rewritten hwhole (fun t => rfl) raw.toList
      refine ⟨hwrap, ?_, ?_⟩
      · rw [hagain]
        exact filter_isLiteral_sublist _
      · rw [countFrom_eq_countP .outside [], countFrom_eq_countP .outside []]
        show (segments _ _).countP _ = (segments _ _).countP _
        rw [hagain, countP_rescanned hwhole]

/-- A literal and a quoted name on SQLite that are rewritten. -/
theorem wrap_rewrites_literals :
    (Segment.quoted .single "%[draft]%".toList ∈
        segments false "[Title] LIKE '%[draft]%'".toList ∧
      Dialect.sqlite.wrap "[Title] LIKE '%[draft]%'" = "\"Title\" LIKE '%\"draft\"%'" ∧
      ¬ Dialect.sqlite.KeepsQuoted "[Title] LIKE '%[draft]%'") ∧
    countFrom false .outside "\"[?]\" = 1".toList = 0 ∧
      countFrom false .outside (Dialect.sqlite.wrap "\"[?]\" = 1").toList = 1 := by
  refine ⟨⟨by decide, by decide, ?_⟩, by decide, by decide⟩
  intro h
  exact absurd h.rewrites (by decide)

end Dialect

end Polydialect
