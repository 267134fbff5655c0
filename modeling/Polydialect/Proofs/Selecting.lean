import Polydialect.Dialect.Paging

/-!
# The forms of a SELECT

A SELECT is written in one of five forms (`Selection.Written`): with a clause for its window at the
end, and on SQL Server as a whole, with its limit before the select list, in an ordering, or over
numbered rows. Only the last one may fail, where a number is no word of 64 bits.

* `Selection.rowRange_of_fits`, `rowRange_of_not_fits`: the range of the numbers, and when there is
  none;
* `Selection.text_eq_ok_iff`: the texts are those of the forms;
* `Selection.exists_text_iff`: there is a text unless the numbers do not fit.
-/

namespace Polydialect.Selection

variable {d : Dialect} {s : Selection} {sql : String}

/-! ## Sums -/

theorem sum_eq_ok_iff {a b c : UInt64} : sum a b = .ok c ↔ a.toNat + b.toNat = c.toNat := by
  have hadd : (a + b).toNat = (a.toNat + b.toNat) % UInt64.size := UInt64.toNat_add a b
  unfold sum
  split
  · rename_i hfits
    rw [Except.ok.injEq, ← UInt64.toNat_inj, hadd, Nat.mod_eq_of_lt hfits]
  · rename_i hover
    refine iff_of_false nofun fun h => hover ?_
    rw [h]
    exact c.toNat_lt

theorem sum_of_fits {a b : UInt64} (h : a.toNat + b.toNat < UInt64.size) :
    ∃ c, sum a b = .ok c ∧ number c = toString (a.toNat + b.toNat) :=
  ⟨a + b, if_pos h, by rw [sum_eq_ok_iff.1 (if_pos h), number]⟩

theorem sum_of_not_fits {a b : UInt64} (h : ¬ a.toNat + b.toNat < UInt64.size) :
    sum a b = .error .overflow := if_neg h

/-! ## Skipped rows -/

/-- The number of skipped rows. -/
def skip (s : Selection) : Nat := (s.offset.getD 0).toNat

theorem skip_eq (s : Selection) : s.skip = (s.skipped?.map (·.toNat)).getD 0 := by
  unfold skip skipped?
  cases s.offset with
  | none => rfl
  | some n =>
    by_cases hn : 0 < n
    · rw [Option.filter_some, if_pos (decide_eq_true hn)]
      rfl
    · have hzero : n = 0 := by
        rw [UInt64.lt_iff_toNat_lt] at hn
        exact UInt64.toNat_inj.1 (Nat.eq_zero_of_not_pos hn)
      subst hzero
      rfl

theorem skip_of_skipped? {o : UInt64} (hskip : s.skipped? = some o) : s.skip = o.toNat := by
  rw [skip_eq, hskip]
  rfl

theorem skipped?_eq (s : Selection) : s.skipped? = (some (s.offset.getD 0)).filter (0 < ·) := by
  cases h : s.offset with
  | none =>
    rw [skipped?, h]
    rfl
  | some n =>
    rw [skipped?, h]
    rfl

theorem skip_pos_iff (s : Selection) : 0 < s.skip ↔ s.skipped? ≠ none := by
  rw [skipped?_eq, skip]
  by_cases h : 0 < s.offset.getD 0
  · rw [Option.filter_some, if_pos (decide_eq_true h)]
    exact iff_of_true (UInt64.lt_iff_toNat_lt.1 h) (by simp)
  · rw [Option.filter_some, if_neg (by simpa using h)]
    exact iff_of_false (fun hpos => h (UInt64.lt_iff_toNat_lt.2 hpos)) (by simp)

/-! ## Row numbers -/

/-- The numbers of the range are words of 64 bits. -/
def NumbersFit (s : Selection) : Prop :=
  s.skip + 1 < UInt64.size ∧ ∀ l ∈ s.limit, s.skip + l.toNat < UInt64.size

instance (s : Selection) : Decidable s.NumbersFit :=
  decidable_of_iff
    (s.skip + 1 < UInt64.size ∧ s.limit.all fun l => s.skip + l.toNat < UInt64.size)
    (by simp [NumbersFit, Option.all_eq_true])

/-- A range of row numbers, from the first one on and up to the last one, if there is one. -/
def rangeText (first : Nat) : Option Nat → String
  | some last => "[row_num] BETWEEN " ++ toString first ++ " AND " ++ toString last
  | none => "[row_num] >= " ++ toString first

theorem rangeText_none (first : Nat) :
    rangeText first none = "[row_num] >= " ++ toString first := rfl

theorem rangeText_some (first last : Nat) :
    rangeText first (some last) =
      "[row_num] BETWEEN " ++ toString first ++ " AND " ++ toString last := rfl

theorem rowRange_of_fits {o : UInt64} (hskip : s.skipped? = some o) (h : s.NumbersFit) :
    rowRange o s.limit = .ok (rangeText (s.skip + 1) (s.limit.map (s.skip + ·.toNat))) := by
  obtain ⟨hfirst, hlast⟩ := h
  rw [skip_of_skipped? hskip] at hfirst hlast ⊢
  obtain ⟨first, hsum, hnumber⟩ := sum_of_fits (b := 1) hfirst
  cases hl : s.limit with
  | none =>
    rw [rowRange, hsum]
    show Except.ok ("[row_num] >= " ++ number first) = _
    rw [hnumber]
    rfl
  | some l =>
    obtain ⟨last, hsum', hnumber'⟩ := sum_of_fits (hlast l hl)
    rw [rowRange, hsum, hsum']
    show Except.ok ("[row_num] BETWEEN " ++ number first ++ " AND " ++ number last) = _
    rw [hnumber, hnumber']
    rfl

theorem rowRange_of_not_fits {o : UInt64} (hskip : s.skipped? = some o) (h : ¬ s.NumbersFit) :
    rowRange o s.limit = .error .overflow := by
  rw [NumbersFit, skip_of_skipped? hskip] at h
  cases hl : s.limit with
  | none =>
    have hfirst : ¬ o.toNat + 1 < UInt64.size := fun hfirst => h ⟨hfirst, by simp [hl]⟩
    rw [rowRange, sum_of_not_fits (b := 1) hfirst]
    rfl
  | some l =>
    rw [rowRange]
    by_cases hlast : o.toNat + l.toNat < UInt64.size
    · obtain ⟨last, hsum, -⟩ := sum_of_fits hlast
      have hfirst : ¬ o.toNat + 1 < UInt64.size := fun hfirst => h ⟨hfirst, by simpa [hl]⟩
      rw [hsum, sum_of_not_fits (b := 1) hfirst]
      rfl
    · rw [sum_of_not_fits hlast]
      rfl

/-! ## Forms -/

/-- The forms in which a SELECT is written. -/
inductive Written (s : Selection) : Dialect → String → Prop
  | paged {d : Dialect} : d ≠ .sqlServer → Written s d (s.base d ++ s.limitText d)
  | whole : s.skipped? = none → s.limit = none → Written s .sqlServer (s.base .sqlServer)
  | top {l : UInt64} : s.skipped? = none → s.limit = some l →
    Written s .sqlServer ("SELECT TOP (" ++ number l ++ ") " ++ s.columns ++ s.source .sqlServer)
  | ordered {o : UInt64} : s.skipped? = some o → s.isLegacy = false →
    Written s .sqlServer
      ({ s with order := some s.orderOrConstant }.base .sqlServer ++ s.limitText .sqlServer)
  | numbered {o : UInt64} {range : String} : s.skipped? = some o → s.isLegacy = true →
    rowRange o s.limit = .ok range → Written s .sqlServer (s.rowNumbered .sqlServer range)

theorem text_of_ne (hd : d ≠ .sqlServer) : s.text d = .ok (s.base d ++ s.limitText d) := by
  cases d with
  | sqlServer => exact absurd rfl hd
  | mysql | postgres | oracle | sqlite => rfl

theorem text_of_numbered {o : UInt64} (hskip : s.skipped? = some o) (h : s.isLegacy = true) :
    s.text .sqlServer = (rowRange o s.limit).map (s.rowNumbered .sqlServer) := by
  rw [text, sqlServerText, hskip, h]
  show (rowRange o s.limit >>= fun range => pure (s.rowNumbered .sqlServer range)) = _
  cases rowRange o s.limit <;> rfl

theorem text_eq_ok_iff : s.text d = .ok sql ↔ s.Written d sql := by
  constructor
  · intro h
    cases d with
    | sqlServer =>
      cases hskip : s.skipped? with
      | none =>
        rw [text, sqlServerText, hskip] at h
        cases hlimit : s.limit with
        | none =>
          rw [hlimit] at h
          cases h
          exact .whole hskip hlimit
        | some l =>
          rw [hlimit] at h
          cases h
          exact .top hskip hlimit
      | some o =>
        cases hl : s.isLegacy with
        | false =>
          rw [text, sqlServerText, hskip, hl] at h
          cases h
          exact .ordered hskip hl
        | true =>
          rw [text_of_numbered hskip hl] at h
          cases hr : rowRange o s.limit with
          | error e =>
            rw [hr] at h
            cases h
          | ok range =>
            rw [hr] at h
            cases h
            exact .numbered hskip hl hr
    | mysql | postgres | oracle | sqlite =>
      cases h
      exact .paged nofun
  · intro h
    cases h with
    | paged hd => exact text_of_ne hd
    | whole hskip hlimit => rw [text, sqlServerText, hskip, hlimit]; rfl
    | top hskip hlimit => rw [text, sqlServerText, hskip, hlimit]; rfl
    | ordered hskip hl => rw [text, sqlServerText, hskip, hl]; rfl
    | numbered hskip hl hr => rw [text_of_numbered hskip hl, hr]; rfl

/-- Where the statement is over numbered rows, the numbers fit. -/
def HasText (d : Dialect) (s : Selection) : Prop :=
  d = .sqlServer → s.isLegacy = true → 0 < s.skip → s.NumbersFit

instance (d : Dialect) (s : Selection) : Decidable (s.HasText d) :=
  inferInstanceAs (Decidable (_ → _ → _ → _))

/-- The clauses do not matter. -/
theorem hasText_congr {t : Selection} (ho : s.offset = t.offset) (hlimit : s.limit = t.limit)
    (hl : s.isLegacy = t.isLegacy) : s.HasText d ↔ t.HasText d := by
  rw [HasText, HasText, NumbersFit, NumbersFit, skip, skip, ho, hlimit, hl]

theorem text_of_not_hasText (h : ¬ s.HasText d) : s.text d = .error .overflow := by
  obtain ⟨rfl, hl, hskip, hfits⟩ : d = .sqlServer ∧ s.isLegacy = true ∧ 0 < s.skip ∧
      ¬ s.NumbersFit := by
    simpa [HasText] using h
  obtain ⟨o, ho⟩ := Option.ne_none_iff_exists'.1 ((skip_pos_iff s).1 hskip)
  rw [text_of_numbered ho hl, rowRange_of_not_fits ho hfits]
  rfl

/-- There is a text unless the numbers of rows do not fit. -/
theorem exists_text_iff : (∃ sql, s.text d = .ok sql) ↔ s.HasText d := by
  refine ⟨fun ⟨sql, hsql⟩ => Decidable.byContradiction fun h => ?_, fun h => ?_⟩
  · rw [text_of_not_hasText h] at hsql
    cases hsql
  · by_cases hd : d = .sqlServer
    · subst hd
      cases hskip : s.skipped? with
      | none =>
        cases hlimit : s.limit with
        | none => exact ⟨_, text_eq_ok_iff.2 (.whole hskip hlimit)⟩
        | some l => exact ⟨_, text_eq_ok_iff.2 (.top hskip hlimit)⟩
      | some o =>
        cases hl : s.isLegacy with
        | false => exact ⟨_, text_eq_ok_iff.2 (.ordered hskip hl)⟩
        | true =>
          have hpos : 0 < s.skip := (skip_pos_iff s).2 (by simp [hskip])
          exact ⟨_, text_eq_ok_iff.2 (.numbered hskip hl (rowRange_of_fits hskip (h rfl hl hpos)))⟩
    · exact ⟨_, text_of_ne hd⟩

/-- A statement for a server that has a text for windows has a text. -/
theorem exists_text_of_recent (h : s.isLegacy = false) (d : Dialect) : ∃ sql, s.text d = .ok sql :=
  exists_text_iff.2 fun _ hl => absurd (h.symm.trans hl) nofun

end Polydialect.Selection
