import Mathlib.Logic.Function.Iterate
import Polydialect.Proofs.Wrapping
import Polydialect.Query.Condition
import Polydialect.Text.Cut

/-!
# Raw text that stays as it is

Raw text is rewritten in rounds: each goes up to the first bracket that is closed again, quotes what
stands between the brackets, and leaves the text behind them to the next (`Delimiters.wrapRounds`).
The text that is left gets shorter, so there is an end to it.

* `Text.bracket?_eq_some`: what a round takes off the front; the name has no closing bracket;
* `Delimiters.wrapFrom_eq_wrapRounds`: one pass over the text does what the rounds do;
* `Dialect.wrap_eq_self_iff`: the text stays as it is on SQL Server, and elsewhere if no round takes
  anything;
* `Dialect.wrap_sqlServer_iterate`: so on SQL Server it stays through any number of passes.
-/

namespace Polydialect

namespace Text

/-- The first name between brackets, with the text before it and the text behind it. -/
def bracket? (s : List Char) : Option (List Char × List Char × List Char) := do
  let (front, r) ← cut? '[' s
  let (name, rest) ← cut? ']' r
  return (front, name, rest)

variable {s front name rest : List Char}

theorem bracket?_eq_some (h : bracket? s = some (front, name, rest)) :
    s = front ++ '[' :: (name ++ ']' :: rest) ∧ '[' ∉ front ∧ ']' ∉ name := by
  obtain ⟨⟨front', r⟩, hopen, h⟩ := Option.bind_eq_some_iff.1 h
  obtain ⟨⟨name', rest'⟩, hclose, h⟩ := Option.bind_eq_some_iff.1 h
  cases h
  obtain ⟨hfront, rfl⟩ := cut?_eq_some_iff.1 hopen
  obtain ⟨hname, rfl⟩ := cut?_eq_some_iff.1 hclose
  exact ⟨rfl, hfront, hname⟩

/-- Without a name every bracket stays open. -/
theorem bracket?_eq_none (h : bracket? s = none) :
    '[' ∉ s ∨ ∃ front r, s = front ++ '[' :: r ∧ '[' ∉ front ∧ ']' ∉ r := by
  cases hopen : cut? '[' s with
  | none => exact .inl (cut?_eq_none_iff.1 hopen)
  | some p =>
    obtain ⟨hfront, rfl⟩ := cut?_eq_some_iff.1 hopen
    refine .inr ⟨p.1, p.2, rfl, hfront, ?_⟩
    cases hclose : cut? ']' p.2 with
    | none => exact cut?_eq_none_iff.1 hclose
    | some q =>
      rw [bracket?, hopen] at h
      simp [hclose] at h

theorem length_lt_of_bracket? (h : bracket? s = some (front, name, rest)) :
    rest.length < s.length := by
  obtain ⟨rfl, -⟩ := bracket?_eq_some h
  simp only [List.length_append, List.length_cons]
  omega

end Text

namespace Delimiters

/-- Rounds up to the first that finds no name. -/
def wrapRounds (d : Delimiters) (s : List Char) : List Char :=
  match _h : Text.bracket? s with
  | none => s
  | some (front, name, rest) => front ++ d.quote name ++ wrapRounds d rest
termination_by s.length
decreasing_by exact Text.length_lt_of_bracket? _h

variable {d : Delimiters}

theorem wrapRounds_of_none {s : List Char} (h : Text.bracket? s = none) : d.wrapRounds s = s := by
  rw [wrapRounds]
  split
  · rfl
  · simp_all

theorem wrapRounds_of_some {s front name rest : List Char}
    (h : Text.bracket? s = some (front, name, rest)) :
    d.wrapRounds s = front ++ d.quote name ++ d.wrapRounds rest := by
  rw [wrapRounds]
  split <;> simp_all

/-- A text without a name is left alone. -/
theorem wrapFrom_of_none {s : List Char} (h : Text.bracket? s = none) : d.wrapFrom none s = s := by
  rcases Text.bracket?_eq_none h with hopen | ⟨front, r, rfl, hfront, hclose⟩
  · have hself := wrapFrom_append (d := d) hopen []
    rwa [wrapFrom, List.append_nil] at hself
  · rw [wrapFrom_append hfront, wrapFrom, if_pos rfl, wrapFrom_some_of_not_mem hclose]
    rfl

theorem wrapFrom_of_some {s front name rest : List Char}
    (h : Text.bracket? s = some (front, name, rest)) :
    d.wrapFrom none s = front ++ d.quote name ++ d.wrapFrom none rest := by
  obtain ⟨rfl, hfront, hname⟩ := Text.bracket?_eq_some h
  rw [wrapFrom_append hfront, wrapFrom, if_pos rfl, wrapFrom_bracket hname]
  simp

/-- One pass over the text does what the rounds do. -/
theorem wrapFrom_eq_wrapRounds (d : Delimiters) (s : List Char) :
    d.wrapFrom none s = d.wrapRounds s := by
  induction s using wrapRounds.induct with
  | case1 s h => rw [wrapFrom_of_none h, wrapRounds_of_none h]
  | case2 s front name rest h ih => rw [wrapFrom_of_some h, wrapRounds_of_some h, ih]

end Delimiters

namespace Dialect

/-- A text stays as it is where brackets are the delimiters, or if it has no name between brackets:
the first name would begin with another character than its bracket. -/
theorem wrap_eq_self_iff (d : Dialect) (raw : String) :
    d.wrap raw = raw ↔ d = .sqlServer ∨ Text.bracket? raw.toList = none := by
  have hlist : d.wrap raw = raw ↔ d.delimiters.wrapFrom none raw.toList = raw.toList := by
    rw [← String.toList_inj, wrap, String.toList_ofList]
  constructor
  · intro h
    by_contra hnot
    rw [not_or] at hnot
    obtain ⟨hd, hsome⟩ := hnot
    obtain ⟨⟨front, name, rest⟩, hbracket⟩ := Option.ne_none_iff_exists'.1 hsome
    have hopen : d.delimiters.opening ≠ '[' := by
      cases d with
      | sqlServer => exact absurd rfl hd
      | mysql | postgres | oracle | sqlite => decide
    have hself := hlist.1 h
    rw [Delimiters.wrapFrom_of_some hbracket, List.append_assoc] at hself
    obtain ⟨htext, -⟩ := Text.bracket?_eq_some hbracket
    rw [htext, List.append_cancel_left_eq] at hself
    exact hopen (List.cons.inj hself).1
  · rintro (rfl | hnone)
    · exact wrap_sqlServer raw
    · exact hlist.2 (Delimiters.wrapFrom_of_none hnone)

/-- **Brackets on SQL Server.** Raw text is rewritten in rounds, of which there is an end. On SQL
Server the text stays as it is through any number of passes, whatever its brackets are, and so does
a fragment with it; a dialect with other delimiters keeps just the texts without a name between
brackets. -/
theorem wrap_sqlServer_iterate (raw : String) :
    (∀ n, Dialect.sqlServer.wrap^[n] raw = raw) ∧
    (∀ n values, (Fragment.wrapNames .sqlServer)^[n] ⟨raw, values⟩ = ⟨raw, values⟩) ∧
    ∀ d : Dialect, (d.wrap raw).toList = d.delimiters.wrapRounds raw.toList ∧
      (d.wrap raw = raw ↔ d = .sqlServer ∨ Text.bracket? raw.toList = none) := by
  refine ⟨fun n => ?_, fun n values => ?_, fun d => ⟨?_, d.wrap_eq_self_iff raw⟩⟩
  · exact Function.iterate_fixed (wrap_sqlServer raw) n
  · have hfixed : Fragment.wrapNames .sqlServer ⟨raw, values⟩ = ⟨raw, values⟩ := by
      rw [Fragment.wrapNames, wrap_sqlServer]
    exact Function.iterate_fixed hfixed n
  · rw [wrap, String.toList_ofList, Delimiters.wrapFrom_eq_wrapRounds]

/-- Nested, empty, doubled and unmatched brackets; SQLite quotes up to the first that closes. -/
example :
    Dialect.sqlServer.wrap "[a[b]] + [] + [[c]] + ] [d" = "[a[b]] + [] + [[c]] + ] [d" ∧
      Dialect.sqlite.wrap "[a[b]] + [] + [[c]] + ] [d" =
        "\"a[b\"] + \"\" + \"[c\"] + ] [d" := by
  decide

end Dialect

end Polydialect
