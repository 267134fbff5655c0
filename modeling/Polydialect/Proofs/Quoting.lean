import Polydialect.Dialect.Quoting
import Polydialect.Identifier
import Polydialect.Proofs.Marker
import Polydialect.Text.Cut

/-!
# Quoted names under the scanner for markers

A dialect writes the closing delimiter of a name twice, and the scanner for markers takes such a
pair for the end of one quote and the beginning of the next. `Dialect.name_scanned_as_one_iff` says
for which names the two agree:

* where the delimiters are one character (`whole_quote`), for every name: the scanner passes over
  the quoted name as it is and reads on outside;
* between brackets the second `]` begins nothing, so what stands behind the first `]` of the name is
  scanned as if it were outside. The name is still passed over if no marker and no other quote
  is met there (`BracketSafe`), and only then.
-/

namespace Polydialect

open Marker

namespace Marker

/-- A character inside a quote in which backslashes do not escape. -/
theorem Mode.next_inside {e : Bool} {q : Quote} (hq : (e && q.holdsString) = false) (c : Char) :
    Mode.next e (.inside q) c = if c = q.closing then .outside else .inside q := by
  simp only [Mode.next]
  split
  · rename_i h
    cases e <;> simp_all
  · rfl

theorem Mode.next_opened {e : Bool} {q : Quote} {c : Char} (h : Quote.opened? c = some q) :
    Mode.next e .outside c = .inside q := by
  simp [Mode.next, h]

/-! ## Delimiters that are one character -/

section
variable {e : Bool} {q : Quote} {d : Delimiters}

/-- A quote that its closing character opens again stays open over doubled characters. -/
theorem scan_double (hq : (e && q.holdsString) = false) (hopen : Quote.opened? q.closing = some q)
    (hd : d.closing = q.closing) (name : List Char) :
    Mode.after e (.inside q) (d.double name) = .inside q ∧
      countFrom e (.inside q) (d.double name) = 0 := by
  induction name with
  | nil => exact ⟨rfl, rfl⟩
  | cons c name ih =>
    obtain ⟨hafter, hcount⟩ := ih
    have hm : q.closing ≠ '?' := by cases q <;> decide
    rw [Delimiters.double, List.flatMap_cons, ← Delimiters.double]
    by_cases hc : c = q.closing
    · subst hc
      simp [hd, Mode.next_inside hq, Mode.next_opened hopen, hafter, countFrom_cons, isMarker, hm,
        hcount]
    · simp [hd, hc, Mode.next_inside hq, hafter, countFrom_cons, isMarker, hcount]

theorem whole_quote_of_symmetric (hq : (e && q.holdsString) = false)
    (hopen : Quote.opened? q.closing = some q) (hd : d = ⟨q.closing, q.closing⟩)
    (name : List Char) : Whole e (d.quote name) := by
  subst hd
  obtain ⟨hafter, hcount⟩ := scan_double hq hopen (d := ⟨q.closing, q.closing⟩) rfl name
  have hm : q.closing ≠ '?' := by cases q <;> decide
  constructor
  · simp [Delimiters.quote, countFrom_cons, countFrom_append, isMarker, hm, Mode.next_opened hopen,
      hafter, hcount, countFrom]
  · simp [Delimiters.quote, Mode.next_opened hopen, hafter, Mode.next_inside hq]

end

/-! ## Brackets -/

/-- What stands behind the first `]` of a name, read from outside, has no marker and leaves no quote
open but a bracket. -/
def BracketSafe (name : List Char) : Prop :=
  ∀ p ∈ Text.cut? ']' name, countFrom false .outside p.2 = 0 ∧
    (Mode.after false .outside p.2 = .outside ∨ Mode.after false .outside p.2 = .inside .bracket)

instance (name : List Char) : Decidable (BracketSafe name) := by
  unfold BracketSafe
  exact inferInstance

theorem bracketSafe_of_not_mem {name : List Char} (h : ']' ∉ name) : BracketSafe name := by
  intro p hp
  rw [Text.cut?_eq_none_iff.2 h] at hp
  cases hp

/-- A mode that is not in the middle of an escape. -/
def Mode.IsSettled : Mode → Prop
  | .escaped _ => False
  | _ => True

theorem Mode.IsSettled.next {m : Mode} (h : m.IsSettled) (c : Char) :
    (m.next false c).IsSettled := by
  cases m with
  | outside => simp only [Mode.next]; split <;> trivial
  | inside q => rw [Mode.next_inside (by rfl)]; split <;> trivial
  | escaped q => exact h.elim

/-- Without escapes a second `]` changes nothing. -/
theorem Mode.IsSettled.next_next_bracket {m : Mode} (h : m.IsSettled) :
    (m.next false ']').next false ']' = m.next false ']' := by
  cases m with
  | outside => rfl
  | inside q => cases q <;> rfl
  | escaped q => exact h.elim

/-- The scanner reads a name with every `]` doubled as it reads the name. -/
theorem scan_double_bracket {d : Delimiters} (hd : d.closing = ']') {m : Mode} (hm : m.IsSettled)
    (name : List Char) :
    Mode.after false m (d.double name) = Mode.after false m name ∧
      countFrom false m (d.double name) = countFrom false m name := by
  induction name generalizing m with
  | nil => exact ⟨rfl, rfl⟩
  | cons c name ih =>
    obtain ⟨hafter, hcount⟩ := ih (hm.next c)
    rw [Delimiters.double, List.flatMap_cons, ← Delimiters.double]
    by_cases hc : c = ']'
    · subst hc
      simp [hd, hm.next_next_bracket, hafter, hcount, countFrom_cons, isMarker]
    · simp [hd, hc, hafter, hcount, countFrom_cons]

/-- In an open bracket the name is read up to its first `]`. -/
theorem scan_bracket (name : List Char) :
    Mode.after false (.inside .bracket) name =
        ((Text.cut? ']' name).elim (.inside .bracket) fun p => Mode.after false .outside p.2) ∧
      countFrom false (.inside .bracket) name =
        ((Text.cut? ']' name).elim 0 fun p => countFrom false .outside p.2) := by
  induction name with
  | nil => exact ⟨rfl, rfl⟩
  | cons c name ih =>
    rw [Text.cut?, Mode.after_cons, countFrom_cons, Mode.next_inside (by rfl)]
    by_cases hc : c = ']'
    · simp [hc, Quote.closing, isMarker]
    · simp only [hc, Quote.closing, if_false, ih, isMarker]
      cases Text.cut? ']' name <;> simp

theorem whole_bracket_iff (name : List Char) :
    Whole false (Delimiters.quote ⟨'[', ']'⟩ name) ↔ BracketSafe name := by
  obtain ⟨hd, hdc⟩ := scan_double_bracket (d := ⟨'[', ']'⟩) rfl (m := .inside .bracket) trivial name
  obtain ⟨hb, hbc⟩ := scan_bracket name
  have hclosed : Mode.after false .outside (Delimiters.quote ⟨'[', ']'⟩ name) =
      (Mode.after false (.inside .bracket) name).next false ']' := by
    simp [Delimiters.quote, Mode.next, Quote.opened?, hd]
  have hcount : countFrom false .outside (Delimiters.quote ⟨'[', ']'⟩ name) =
      countFrom false (.inside .bracket) name := by
    simp [Delimiters.quote, countFrom_cons, countFrom_append, countFrom, isMarker, Mode.next,
      Quote.opened?, hdc]
  have hend (m : Mode) : m.next false ']' = .outside ↔ m = .outside ∨ m = .inside .bracket := by
    cases m with
    | outside => simp [Mode.next, Quote.opened?]
    | inside q => cases q <;> simp [Mode.next, Quote.closing]
    | escaped q => simp [Mode.next]
  unfold BracketSafe
  constructor
  · rintro ⟨h0, h1⟩ p hp
    rw [hcount, hbc] at h0
    rw [hclosed, hb, hend] at h1
    simp only [Option.mem_def.1 hp, Option.elim_some] at h0 h1
    exact ⟨h0, h1⟩
  · intro h
    refine ⟨?_, ?_⟩
    · rw [hcount, hbc]
      cases hp : Text.cut? ']' name with
      | none => rfl
      | some p => exact (h p hp).1
    · rw [hclosed, hb, hend]
      cases hp : Text.cut? ']' name with
      | none => exact .inr rfl
      | some p => exact (h p hp).2

end Marker

/-! ## Dialects -/

namespace Dialect

/-- Outside SQL Server the scanner passes over every quoted name. -/
theorem whole_quote {d : Dialect} (hd : d ≠ .sqlServer) (name : String) :
    Whole d.backslashEscapes (d.quote name).toList := by
  rw [quote, String.toList_ofList]
  cases d with
  | mysql => exact whole_quote_of_symmetric (q := .backtick) rfl rfl rfl _
  | sqlServer => exact absurd rfl hd
  | postgres | oracle | sqlite => exact whole_quote_of_symmetric (q := .double) rfl rfl rfl _

theorem whole_quote_iff (d : Dialect) (name : String) :
    Whole d.backslashEscapes (d.quote name).toList ↔
      (d = .sqlServer → BracketSafe name.toList) := by
  by_cases hd : d = .sqlServer
  · subst hd
    rw [quote, String.toList_ofList]
    exact (whole_bracket_iff _).trans (by simp)
  · simp [hd, whole_quote hd]

/-- **Where the scanner and the quoting agree on the end of a name.** In every text that brings the
scanner outside, the quoted name stays as it is and the scanner goes on outside behind it, so that
the markers after it are numbered on from those before it. On SQL Server that holds of the names
that are `BracketSafe` and of no other, elsewhere of every name. -/
theorem name_scanned_as_one_iff (d : Dialect) (name : String) :
    (∀ (pre post : String) (naming : Nat → String),
      Mode.after d.backslashEscapes .outside pre.toList = .outside →
      nameAll d.backslashEscapes naming (pre ++ d.quote name ++ post) =
        nameAll d.backslashEscapes naming pre ++ d.quote name ++
          nameAll d.backslashEscapes
            (fun i => naming (countFrom d.backslashEscapes .outside pre.toList + i)) post) ↔
      (d = .sqlServer → BracketSafe name.toList) :=
  (forall_nameAll_append_iff _).trans (d.whole_quote_iff name)

/-- A valid name on SQL Server that the scanner does not pass over: its `?` is taken for a
marker. -/
theorem bracketed_name_is_marked :
    Identifier.Valid "a]?" ∧
      nameAll Dialect.sqlServer.backslashEscapes Dialect.sqlServer.placeholder
        (Dialect.sqlServer.quote "a]?") = "[a]]@p1]" := by
  decide

end Dialect

end Polydialect
