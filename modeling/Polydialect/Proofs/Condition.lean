import Polydialect.Query.Condition

/-!
# Condition trees

Induction on conditions (`Condition.induct`), which gives the induction hypothesis for every member
of a group, the comparisons that test for NULL (`Condition.IsNullTest`) beside all others, and the
fragments of raw SQL that a tree holds (`Condition.raws`).
-/

namespace Polydialect.Condition

/-- Induction with the members of a group taken together. -/
@[elab_as_elim]
theorem induct {P : Condition → Prop}
    (compare : ∀ column op value, P (.compare column op value))
    (isIn : ∀ column values, P (.isIn column values))
    (isNull : ∀ column, P (.isNull column))
    (raw : ∀ source, P (.raw source))
    (group : ∀ conjunction members, (∀ c ∈ members, P c) → P (.group conjunction members))
    (not : ∀ inner, P inner → P (.not inner)) (c : Condition) : P c :=
  @Condition.rec P (fun members => ∀ c ∈ members, P c)
    compare isIn isNull raw group not
    (fun _ h => absurd h List.not_mem_nil)
    (fun _ _ hc hcs => List.forall_mem_cons.2 ⟨hc, hcs⟩) c

/-! ## Comparisons -/

/-- A comparison that asks whether a column is NULL, or is not. -/
def IsNullTest (op : Comparison) (value : Value) : Prop :=
  value.isNull = true ∧ (op = .eq ∨ op = .notEq)

theorem comparison_eq_append {op : Comparison} {value : Value} (h : ¬ IsNullTest op value)
    (d : Dialect) (column : String) :
    comparison d column op value =
      .ofText (d.quote column) ++ .ofText (" " ++ op.text ++ " ") ++ ⟨"?", [value]⟩ := by
  have hc : comparison d column op value = ⟨d.quote column ++ " " ++ op.text ++ " ?", [value]⟩ := by
    unfold comparison
    split <;> simp_all [IsNullTest]
  rw [hc]
  show _ = Fragment.mk _ _
  simp [Fragment.ofText, String.append_assoc]

/-! ## Raw SQL -/

mutual

/-- The raw SQL in a tree, from left to right. -/
def raws : Condition → List Fragment
  | .compare .. | .isIn .. | .isNull _ => []
  | .raw source => [source]
  | .group _ members => rawsOfAll members
  | .not inner => raws inner

/-- The raw SQL in a list of trees. -/
def rawsOfAll : List Condition → List Fragment
  | [] => []
  | c :: cs => raws c ++ rawsOfAll cs

end

theorem rawsOfAll_eq_flatMap (cs : List Condition) : rawsOfAll cs = cs.flatMap raws := by
  induction cs with
  | nil => rfl
  | cons c cs ih => rw [rawsOfAll, ih, List.flatMap_cons]

/-- What holds of the raw SQL in a group holds of that in each member. -/
theorem forall_raws_group {P : Fragment → Prop} {k : Conjunction} {cs : List Condition} :
    (∀ f ∈ (Condition.group k cs).raws, P f) ↔ ∀ c ∈ cs, ∀ f ∈ c.raws, P f := by
  rw [raws, rawsOfAll_eq_flatMap]
  simp only [List.mem_flatMap, forall_exists_index, and_imp]
  exact ⟨fun h c hc f hf => h f c hc hf, fun h f c hc hf => h c hc f hf⟩

theorem raws_of_group {k : Conjunction} {cs : List Condition} (h : (Condition.group k cs).raws = [])
    {c : Condition} (hc : c ∈ cs) : c.raws = [] := by
  rw [raws, rawsOfAll_eq_flatMap] at h
  exact List.flatMap_eq_nil_iff.1 h c hc

end Polydialect.Condition
