import Polydialect.Proofs.Quoting
import Polydialect.Query.Condition
import Polydialect.Statement

/-!
# Layouts

A layout is a statement before it is written: a list of texts, of names to be quoted and of slots,
each with the value that is bound there. It is written from left to right (`Layout.render`), the
slots as placeholders numbered in order, so where a value stands and which placeholder it gets is
seen in the layout itself.

`Fragment.LaidOut d f L` says that a fragment, whose markers are found by scanning its text and
whose values are kept apart, is the layout `L`: the scanner finds its markers where the slots of
`L` are, and the values are those of the slots. It is kept by putting fragments one after the other
(`LaidOut.append`, `LaidOut.join`), it holds of raw SQL that has as many markers as values and
leaves no quote open (`LaidOut.raw`), and it makes the statement of the fragment the layout as it
is written (`LaidOut.writes`).
-/

namespace Polydialect

open Marker

/-- A part of a statement. -/
inductive Piece where
  | text (s : String)
  /-- A name, which is written between the delimiters of the dialect. -/
  | name (n : String)
  /-- The place of a value. -/
  | slot (v : Value)

/-- The parts of a statement in order. -/
abbrev Layout := List Piece

namespace Layout

/-- The SQL of a layout, the placeholders counted on after `k`. -/
def render (d : Dialect) : Nat → Layout → List Char
  | _, [] => []
  | k, .text s :: r => s.toList ++ render d k r
  | k, .name n :: r => (d.quote n).toList ++ render d k r
  | k, .slot _ :: r => (d.placeholder (k + 1)).toList ++ render d (k + 1) r

/-- The SQL of a layout. -/
def sql (d : Dialect) (L : Layout) : String := .ofList (render d 0 L)

/-- The values of the slots in order. -/
def values : Layout → List Value
  | [] => []
  | .text _ :: r | .name _ :: r => values r
  | .slot v :: r => v :: values r

/-- Layouts with a text between each two. -/
def join (sep : String) (Ls : List Layout) : Layout := List.intercalate [.text sep] Ls

@[simp] theorem values_append (L M : Layout) : values (L ++ M) = values L ++ values M := by
  induction L with
  | nil => rfl
  | cons p L ih => cases p <;> simp [values, ih]

theorem join_singleton (sep : String) (L : Layout) : join sep [L] = L := by
  simp [join]

theorem join_cons_cons (sep : String) (L M : Layout) (Ls : List Layout) :
    join sep (L :: M :: Ls) = L ++ [.text sep] ++ join sep (M :: Ls) :=
  List.intercalate_cons_cons

theorem render_append (d : Dialect) (k : Nat) (L M : Layout) :
    render d k (L ++ M) = render d k L ++ render d (k + (values L).length) M := by
  induction L generalizing k with
  | nil => rfl
  | cons p L ih =>
    cases p with
    | text | name => simp [render, ih, values]
    | slot v => simp [render, ih, values, Nat.add_assoc, Nat.add_comm 1]

end Layout

/-- What a computation with a further step gives. -/
theorem bind_eq_ok {ε α β : Type} {x : Except ε α} {f : α → Except ε β} {b : β} :
    x >>= f = .ok b ↔ ∃ a, x = .ok a ∧ f a = .ok b := by
  cases x <;> simp [bind, Except.bind]

/-! ## Fragments piece by piece -/

namespace Fragment

theorem ofText_append (s t : String) : ofText (s ++ t) = ofText s ++ ofText t := rfl

theorem append_ofText_empty (f : Fragment) : f ++ ofText "" = f := by
  show Fragment.mk _ _ = f
  simp [ofText]

theorem ofText_intercalate (sep : String) (ss : List String) :
    ofText (sep.intercalate ss) = join sep (ss.map ofText) := by
  simp [join, ofText, Function.comp_def]

theorem wrap_eq_append (before : String) (f : Fragment) (after : String) :
    wrap before f after = ofText before ++ f ++ ofText after := by
  show _ = Fragment.mk _ _
  simp [wrap, ofText]

theorem join_singleton (sep : String) (f : Fragment) : join sep [f] = f := by
  simp [join]

theorem join_cons_cons (sep : String) (f g : Fragment) (fs : List Fragment) :
    join sep (f :: g :: fs) = f ++ ofText sep ++ join sep (g :: fs) := by
  show _ = Fragment.mk _ _
  simp [join, ofText, String.intercalate_cons_cons]

theorem markers_eq_join (vs : List Value) :
    markers vs = join ", " (vs.map fun v => ⟨"?", [v]⟩) := by
  simp [markers, join, List.flatMap_map, Function.comp_def]

/-- A fragment reads as a layout. -/
structure LaidOut (d : Dialect) (f : Fragment) (L : Layout) : Prop where
  values : f.values = L.values
  count : countFrom d.backslashEscapes .outside f.text.toList = L.values.length
  closed : Mode.after d.backslashEscapes .outside f.text.toList = .outside
  named : ∀ k, nameFrom d.backslashEscapes d.placeholder .outside k f.text.toList = L.render d k

variable {d : Dialect}

theorem LaidOut.nil : LaidOut d (ofText "") [] := ⟨rfl, rfl, rfl, fun _ => rfl⟩

theorem LaidOut.append {f g : Fragment} {L M : Layout} (hf : LaidOut d f L) (hg : LaidOut d g M) :
    LaidOut d (f ++ g) (L ++ M) where
  values := by rw [values_append, hf.values, hg.values, Layout.values_append]
  count := by
    rw [text_append, String.toList_append, countFrom_append, hf.closed, hf.count, hg.count,
      Layout.values_append, List.length_append]
  closed := by rw [text_append, String.toList_append, Mode.after_append, hf.closed, hg.closed]
  named k := by
    rw [text_append, String.toList_append, nameFrom_append, hf.closed, hf.named, hf.count, hg.named,
      Layout.render_append]

theorem LaidOut.of_whole {s : String} (h : Whole d.backslashEscapes s.toList) {p : Piece}
    (hv : Layout.values [p] = []) (hp : ∀ k, Layout.render d k [p] = s.toList) :
    LaidOut d (ofText s) [p] where
  values := by rw [hv, ofText]
  count := by rw [hv, ofText, h.count, List.length_nil]
  closed := h.closed
  named k := by rw [hp, ofText, nameFrom_eq_self h.count]

/-- Text of the statement itself. -/
theorem LaidOut.text {s : String} (h : PlainText s) : LaidOut d (ofText s) [.text s] :=
  .of_whole (.of_plain h) rfl fun _ => by simp [Layout.render]

/-- A quoted name. -/
theorem LaidOut.name (hd : d ≠ .sqlServer) (n : String) :
    LaidOut d (ofText (d.quote n)) [.name n] :=
  .of_whole (Dialect.whole_quote hd n) rfl fun _ => by simp [Layout.render]

/-- One marker. -/
theorem LaidOut.slot (v : Value) : LaidOut d ⟨"?", [v]⟩ [.slot v] where
  values := rfl
  count := by simp [countFrom, isMarker, Layout.values]
  closed := by simp [Mode.next, Quote.opened?]
  named k := by simp [nameFrom, isMarker, Layout.render]

theorem LaidOut.join {sep : String} (hsep : PlainText sep) {α : Type} {as : List α}
    {f : α → Fragment} {L : α → Layout} (h : ∀ a ∈ as, LaidOut d (f a) (L a)) :
    LaidOut d (.join sep (as.map f)) (.join sep (as.map L)) := by
  induction as with
  | nil => exact .nil
  | cons a as ih =>
    obtain ⟨ha, has⟩ := List.forall_mem_cons.1 h
    cases as with
    | nil => exact join_singleton sep (f a) ▸ Layout.join_singleton sep (L a) ▸ ha
    | cons b bs =>
      simp only [List.map_cons, join_cons_cons, Layout.join_cons_cons]
      exact (ha.append (.text hsep)).append (ih has)

/-! ## Raw SQL -/

/-- Raw SQL, scanned on its own once its names are quoted, leaves no quote open and has a marker for
each value. -/
structure Balanced (d : Dialect) (f : Fragment) : Prop where
  closed : Mode.after d.backslashEscapes .outside (d.wrap f.text).toList = .outside
  count : countFrom d.backslashEscapes .outside (d.wrap f.text).toList = f.values.length

instance (d : Dialect) (f : Fragment) : Decidable (f.Balanced d) :=
  decidable_of_iff (_ ∧ _) ⟨fun h => ⟨h.1, h.2⟩, fun h => ⟨h.closed, h.count⟩⟩

/-- The layout of a text whose markers take values: its characters, with slots for the markers. -/
def slots (e : Bool) : Mode → List Char → List Value → Layout
  | _, [], _ => []
  | m, c :: s, vs =>
    if isMarker m c then match vs with
      | [] => .text "?" :: slots e .outside s []
      | v :: vs => .slot v :: slots e .outside s vs
    else .text (.singleton c) :: slots e (m.next e c) s vs

/-- The layout of raw SQL. -/
def layout (d : Dialect) (f : Fragment) : Layout :=
  slots d.backslashEscapes .outside (d.wrap f.text).toList f.values

theorem slots_spec {m : Mode} {s : List Char} {vs : List Value}
    (h : countFrom d.backslashEscapes m s = vs.length) :
    (slots d.backslashEscapes m s vs).values = vs ∧
      ∀ k, nameFrom d.backslashEscapes d.placeholder m k s =
        (slots d.backslashEscapes m s vs).render d k := by
  induction s generalizing m vs with
  | nil => cases vs <;> simp_all [slots, Layout.values, nameFrom, Layout.render, countFrom]
  | cons c s ih =>
    rw [countFrom] at h
    by_cases hc : isMarker m c = true
    · rw [if_pos hc] at h
      cases vs with
      | nil => simp at h
      | cons v vs =>
        obtain ⟨hv, hn⟩ := ih (Nat.succ.inj h)
        simp only [slots, if_pos hc]
        exact ⟨congrArg (v :: ·) hv, fun k => by rw [nameFrom, if_pos hc, hn, Layout.render]⟩
    · rw [if_neg hc] at h
      obtain ⟨hv, hn⟩ := ih h
      simp only [slots, if_neg hc]
      exact ⟨hv, fun k => by simp [nameFrom, hc, hn, Layout.render]⟩

theorem LaidOut.raw {f : Fragment} (h : f.Balanced d) : LaidOut d (f.wrapNames d) (f.layout d) := by
  obtain ⟨hv, hn⟩ := slots_spec h.count
  exact ⟨hv.symm, by rw [layout, hv]; exact h.count, h.closed, hn⟩

end Fragment

/-! ## Statements -/

theorem Dialect.placeholder_inj {d : Dialect} {m n : Nat} :
    d.placeholder m = d.placeholder n ↔ m = n := by
  refine ⟨fun h => ?_, fun h => h ▸ rfl⟩
  have hs : toString m = toString n := (String.append_right_inj _).1 h
  rw [Nat.toString_eq_ofList_toDigits, Nat.toString_eq_ofList_toDigits] at hs
  have hd : Nat.toDigits 10 m = Nat.toDigits 10 n := by simpa using congrArg String.toList hs
  rw [← Nat.ofDigitChars_toDigits (b := 10) (n := m) (by decide) (by decide), hd,
    Nat.ofDigitChars_toDigits (by decide) (by decide)]

namespace Statement

theorem map_fst_bind (d : Dialect) (k : Nat) (vs : List Value) :
    (bind d k vs).map (·.1) = (List.range vs.length).map fun i => d.placeholder (k + i + 1) := by
  induction vs generalizing k with
  | nil => rfl
  | cons v vs ih =>
    simp [bind, ih, List.range_succ_eq_map, Function.comp_def, Nat.add_assoc, Nat.add_comm 1]

theorem map_snd_bind (d : Dialect) (k : Nat) (vs : List Value) :
    (bind d k vs).map (·.2) = vs := by
  induction vs generalizing k with
  | nil => rfl
  | cons v vs ih => simp [bind, ih]

/-- The value of a placeholder is found under its name. -/
theorem lookup_bind (d : Dialect) (k i : Nat) (vs : List Value) :
    (bind d k vs).lookup (d.placeholder (k + i + 1)) = vs[i]? := by
  induction vs generalizing k i with
  | nil => rfl
  | cons v vs ih =>
    rw [bind, List.lookup_cons]
    cases i with
    | zero => simp
    | succ i =>
      have hne : (d.placeholder (k + (i + 1) + 1) == d.placeholder (k + 1)) = false := by
        simp [Dialect.placeholder_inj]
      rw [hne, show k + (i + 1) + 1 = (k + 1) + i + 1 by omega]
      exact ih (k + 1) i

/-- A statement is a layout as it is written, with the values of the slots bound in order. -/
structure Writes (d : Dialect) (s : Statement) (L : Layout) : Prop where
  sql : s.sql = L.sql d
  bindings : s.bindings = bind d 0 L.values

/-- Text without markers may be put behind a statement when its markers are named. -/
theorem Writes.append_unbound {d : Dialect} {s : Statement} {L M : Layout} (h : s.Writes d L)
    (hv : M.values = []) (hr : ∀ k, M.render d k = M.render d 0) :
    ({ s with sql := s.sql ++ M.sql d } : Statement).Writes d (L ++ M) where
  sql := by
    show s.sql ++ _ = _
    rw [h.sql, Layout.sql, Layout.sql, Layout.sql, Layout.render_append, hr (0 + _),
      String.ofList_append]
  bindings := by
    show s.bindings = _
    rw [h.bindings, Layout.values_append, hv, List.append_nil]

end Statement

/-- The statement of a fragment is its layout as it is written. -/
theorem Fragment.LaidOut.writes {d : Dialect} {f : Fragment} {L : Layout} (h : f.LaidOut d L) :
    (Statement.ofFragment d f).Writes d L where
  sql := by rw [Statement.ofFragment, nameAll, h.named, Layout.sql]
  bindings := by rw [Statement.ofFragment, h.values]

end Polydialect
