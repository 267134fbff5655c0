import Polydialect.Proofs.Altering
import Polydialect.Proofs.Transaction

/-!
# Columns that get an identity

Columns without an identity get one at their head, whose name is the result: a new column `Id`, or
the identity that the table turns out to have. A new column is none of them, since none of them is
named `Id`; but the identity of the table may be one that they have as a plain column.

* `Schema.knowsIdentity_of_hasColumn`: which column at the head can be one of theirs;
* `Schema.ensureIdentity_distinct_iff`: the columns are still distinct by name exactly if they do
  not have the identity of the table already (`Schema.ensureIdentity_doubles` is a run where they
  do).
-/

namespace Polydialect.Schema

open Sql

variable {db : Database} {table name : String} {cs cs' : List Column} {c : Column}
  {s t : Session}

/-! ## Columns of one name -/

theorem distinctNames_cons (c : Column) (cs : List Column) :
    DistinctNames (names (c :: cs)) ↔ hasColumn cs c.name = false ∧ DistinctNames (names cs) := by
  rw [hasColumn_eq, hasName_eq_false_iff]
  simp only [Text.sameName_comm _ c.name]
  exact List.pairwise_cons

theorem hasColumn_of_isNamed {n : String} (hc : c ∈ cs) (hn : c.isNamed n = true) :
    hasColumn cs n = true :=
  List.any_eq_true.2 ⟨c, hc, hn⟩

/-- Of distinct columns one has the name of a column among them. -/
theorem countP_isNamed (hcs : DistinctNames (names cs)) (hc : c ∈ cs) :
    cs.countP (·.isNamed c.name) = 1 := by
  induction cs with
  | nil => exact absurd hc List.not_mem_nil
  | cons a cs ih =>
    obtain ⟨hfirst, hrest⟩ := (distinctNames_cons a cs).1 hcs
    rcases List.mem_cons.1 hc with rfl | hmem
    · have hnone : cs.countP (·.isNamed c.name) = 0 := by
        simpa [hasColumn, List.countP_eq_zero] using hfirst
      have hself : c.isNamed c.name = true := Text.sameName_refl c.name
      rw [List.countP_cons, hnone, if_pos hself]
    · have hother : ¬ a.isNamed c.name = true := fun hsame => by
        have hthere := hasColumn_of_isNamed hmem ((Text.sameName_comm c.name a.name).trans hsame)
        exact absurd hthere (by simp [hfirst])
      rw [List.countP_cons, ih hrest hmem, if_neg hother]

/-- A column at the head of distinct columns leaves them distinct exactly if none of them has its
name. -/
theorem distinct_cons_iff (hcs : DistinctNames (names cs)) :
    DistinctNames (names (c :: cs)) ∧ (c :: cs).countP (·.isNamed c.name) = 1 ↔
      hasColumn cs c.name = false := by
  have hhead : DistinctNames (names (c :: cs)) ↔ hasColumn cs c.name = false :=
    (distinctNames_cons c cs).trans (and_iff_left hcs)
  rw [← hhead]
  exact and_iff_left_of_imp fun h => countP_isNamed h List.mem_cons_self

/-! ## The column that is put at the head -/

/-- Columns without an identity or a name for one have no column `Id`. -/
theorem hasColumn_id (h : Column.orderingColumn? cs = none) : hasColumn cs Column.idName = false := by
  obtain ⟨-, hnamed⟩ := Option.or_eq_none_iff.1 h
  simpa [hasColumn] using hnamed

/-- On a dialect that rebuilds tables the table has an identity of its own, and the columns, which
have none, have a plain column of its name. -/
def KnowsIdentity (db : Database) (table : String) (cs : List Column) (s : Session)
    (name : String) : Prop :=
  ∃ order live c, db.dialect.rebuildOrder? = some order ∧ Column.orderingColumn? cs = none ∧
    Step.result (tableColumns db table) s = .ok live ∧ Column.identity? live = some c ∧
    c.name = name ∧ hasColumn cs name = true

/-- A column of the name that was made or found can only be there as the identity of the table. -/
theorem knowsIdentity_of_hasColumn (hcs : Column.orderingColumn? cs = none)
    (h : Step.result (makeIdentity db table) s = .ok c) (hc : hasColumn cs c.name = true) :
    KnowsIdentity db table cs s c.name := by
  have hid := hasColumn_id hcs
  rcases makeIdentity_eq_ok h with rfl | ⟨order, live, horder, hread, hlive⟩
  · exact absurd hc (by simp [Column.identityColumn, hid])
  · rcases Option.or_eq_some_iff.1 hlive with hflag | ⟨-, hnamed⟩
    · exact ⟨order, live, c, horder, hcs, hread, hflag, rfl, hc⟩
    -- a live column that is only named `Id` has a name that the columns do not have
    · have hsame : Text.sameName c.name Column.idName = true :=
        List.find?_some (p := fun c : Column => c.isNamed Column.idName) hnamed
      rw [hasColumn_eq, hasName_congr hsame, ← hasColumn_eq, hid] at hc
      cases hc

/-- Columns of distinct names that are given an identity are as they were, or have the column of
that name at their head. They are distinct again, with one column of the name, exactly if they had
none of that name before; the identity of the table may be one of them, a new column `Id` is not. -/
theorem ensureIdentity_distinct_iff (hcs : DistinctNames (names cs))
    (h : (ensureIdentity db table cs).run s = ((.ok name, cs'), t)) :
    (cs' = cs ∨ ∃ c, c.name = name ∧ cs' = c :: cs) ∧
    (DistinctNames (names cs') ∧ cs'.countP (·.isNamed name) = 1 ↔
      ¬ KnowsIdentity db table cs s name) := by
  cases hfound : Column.orderingColumn? cs with
  | some c =>
    cases (ensureIdentity_of_some hfound s).symm.trans h
    have hmem : c ∈ cs := by
      rcases Option.or_eq_some_iff.1 hfound with hc | ⟨-, hc⟩
      · exact List.mem_of_find?_eq_some hc
      · exact List.mem_of_find?_eq_some hc
    refine ⟨.inl rfl, iff_of_true ⟨hcs, countP_isNamed hcs hmem⟩ ?_⟩
    rintro ⟨_, _, _, -, hnone, -⟩
    rw [hfound] at hnone
    cases hnone
  | none =>
    have hrun := (ensureIdentity_of_none hfound s).symm.trans h
    cases hmade : Step.result (makeIdentity db table) s with
    | error e =>
      rw [hmade] at hrun
      cases hrun
    | ok c =>
      rw [hmade] at hrun
      cases hrun
      refine ⟨.inr ⟨c, rfl, rfl⟩, (distinct_cons_iff hcs).trans ?_⟩
      rw [← Bool.not_eq_true]
      refine not_congr ⟨knowsIdentity_of_hasColumn hfound hmade, ?_⟩
      rintro ⟨_, _, _, -, -, -, -, -, hthere⟩
      exact hthere

/-- A row of the catalog. -/
private def catalogRow (name type : String) (isIdentity : Int64) : Row :=
  ⟨["column_name", "data_type", "max_length", "is_identity", "is_primary_key"],
    [.text name, .text type, .int 0, .int isIdentity, .int isIdentity]⟩

/-- A session in which a table is found to have the identity `Seq` and the column `Name`. -/
private def sequencedSession : Session :=
  (Session.start ⟨fun _ => ⟨"6f1c9a44-0b1e-4c57-9d0a-2f6f3f1f7a10", by decide⟩,
    fun _ => ⟨2024, 1, 1, 0, 0, 0, 0, by decide⟩, fun _ => 0⟩ none).script
    [.answer 0 [catalogRow "Seq" "INTEGER" 1, catalogRow "Name" "TEXT" 0]]

/-- The columns of that table. -/
private def sequencedColumns : List Column :=
  [⟨"Seq", .integer, 0, true, true, false⟩, .plain "Name" .text]

/-- The identity of the table is put before columns that do not have it. -/
theorem ensureIdentity_distinct_iff_tags :
    ∃ (cs' : List Column) (t : Session),
      DistinctNames (names [.plain "Name" .text]) ∧
      (ensureIdentity ⟨.sqlite, "", 0⟩ "Tags" [.plain "Name" .text]).run sequencedSession =
        ((.ok "Seq", cs'), t) ∧
      names cs' = ["Seq", "Name"] ∧
      (cs' = [.plain "Name" .text] ∨ ∃ c, c.name = "Seq" ∧ cs' = [c, .plain "Name" .text]) ∧
      (DistinctNames (names cs') ∧ cs'.countP (·.isNamed "Seq") = 1 ↔
        ¬ KnowsIdentity ⟨.sqlite, "", 0⟩ "Tags" [.plain "Name" .text] sequencedSession "Seq") := by
  have hcs : DistinctNames (names [.plain "Name" .text]) := by decide
  have hresult : Step.result (ensureIdentity ⟨.sqlite, "", 0⟩ "Tags" [.plain "Name" .text])
      sequencedSession = (.ok "Seq", sequencedColumns) := by
    decide +kernel
  have hrun : (ensureIdentity ⟨.sqlite, "", 0⟩ "Tags" [.plain "Name" .text]).run sequencedSession =
      ((.ok "Seq", sequencedColumns), _) := Prod.ext hresult rfl
  exact ⟨_, _, hcs, hrun, rfl, ensureIdentity_distinct_iff hcs hrun⟩

/-- Columns that have the identity of the table as a plain column get it a second time. -/
theorem ensureIdentity_doubles :
    let cs : List Column := [.plain "Seq" .integer, .plain "Name" .text]
    ∃ (live cs' : List Column) (t : Session), DistinctNames (names cs) ∧
      Step.result (tableColumns ⟨.sqlite, "", 0⟩ "Tags") sequencedSession = .ok live ∧
      DistinctNames (names live) ∧
      (ensureIdentity ⟨.sqlite, "", 0⟩ "Tags" cs).run sequencedSession = ((.ok "Seq", cs'), t) ∧
      names cs' = ["Seq", "Seq", "Name"] ∧ ¬ DistinctNames (names cs') ∧
      cs'.countP (·.isNamed "Seq") = 2 := by
  intro cs
  have hlive : Step.result (tableColumns ⟨.sqlite, "", 0⟩ "Tags") sequencedSession =
      .ok sequencedColumns := by
    decide +kernel
  have hresult : Step.result (ensureIdentity ⟨.sqlite, "", 0⟩ "Tags" cs) sequencedSession =
      (.ok "Seq", ⟨"Seq", .integer, 0, true, true, false⟩ :: cs) := by
    decide +kernel
  exact ⟨_, _, _, by decide, hlive, by decide, Prod.ext hresult rfl, rfl, by decide, by decide⟩

end Polydialect.Schema
