import Mathlib.Data.List.Induction
import Polydialect.Proofs.Altering

/-!
# Changes that a plan repeats

A plan is made against the columns that the table has before any of its statements: each of them
alone could be made (`Sql.Change.Fits`), but they are made one after another. So a change fails
exactly where an earlier one of the plan did the same to its column.

* `Sql.hasName_replay?`: the columns behind changes are told by the names that were added and
  dropped, by induction on the changes;
* `Sql.replays_iff`: changes of which each could be made can all be made exactly if no column is
  added twice and none is dropped twice;
* `Schema.changes_once_iff`: when that is so of a plan (`Schema.changes_column_twice` is a plan that
  stops halfway).
-/

namespace Polydialect

namespace Sql

/-! ## Names that are added and dropped -/

/-- The name of the column that is added. -/
def Change.added? : Change → Option String
  | .add n _ => some n
  | .drop _ => none

/-- The name of the column that is dropped. -/
def Change.dropped? : Change → Option String
  | .add _ _ => none
  | .drop n => some n

/-- The names that changes add, in order. -/
def addedNames (changes : List Change) : List String := changes.filterMap Change.added?

/-- The names that changes drop, in order. -/
def droppedNames (changes : List Change) : List String := changes.filterMap Change.dropped?

/-- Changes that add no column twice and drop none twice. -/
structure ChangesOnce (changes : List Change) : Prop where
  adds : DistinctNames (addedNames changes)
  drops : DistinctNames (droppedNames changes)

/-- Whether a change does to its column what one of the changes before it did. -/
def Change.repeats (made : List Change) : Change → Bool
  | .add n _ => hasName (addedNames made) n
  | .drop n => hasName (droppedNames made) n

/-- A change that can be made on columns. -/
def Change.Fits (names : List String) (change : Change) : Prop := change.names? names ≠ none

theorem Change.fits_add {names : List String} {n : String} {type : List (Token Unit)} :
    (Change.add n type).Fits names ↔ hasName names n = false := by
  simp [Change.Fits, Change.names?]

theorem Change.fits_drop {names : List String} {n : String} :
    (Change.drop n).Fits names ↔ hasName names n = true := by
  simp [Change.Fits, Change.names?]

@[simp] theorem addedNames_concat_add (made : List Change) (n : String)
    (type : List (Token Unit)) :
    addedNames (made ++ [.add n type]) = addedNames made ++ [n] := by
  simp [addedNames, Change.added?]

@[simp] theorem addedNames_concat_drop (made : List Change) (n : String) :
    addedNames (made ++ [.drop n]) = addedNames made := by
  simp [addedNames, Change.added?]

@[simp] theorem droppedNames_concat_add (made : List Change) (n : String)
    (type : List (Token Unit)) :
    droppedNames (made ++ [.add n type]) = droppedNames made := by
  simp [droppedNames, Change.dropped?]

@[simp] theorem droppedNames_concat_drop (made : List Change) (n : String) :
    droppedNames (made ++ [.drop n]) = droppedNames made ++ [n] := by
  simp [droppedNames, Change.dropped?]

theorem distinctNames_concat {names : List String} {n : String} :
    DistinctNames (names ++ [n]) ↔ DistinctNames names ∧ hasName names n = false := by
  rw [DistinctNames, List.pairwise_append, hasName_eq_false_iff]
  simp [DistinctNames]

theorem changesOnce_iff (changes : List Change) : ChangesOnce changes ↔
    DistinctNames (addedNames changes) ∧ DistinctNames (droppedNames changes) :=
  ⟨fun h => ⟨h.adds, h.drops⟩, fun h => ⟨h.1, h.2⟩⟩

theorem changesOnce_concat {made : List Change} {change : Change} :
    ChangesOnce (made ++ [change]) ↔ ChangesOnce made ∧ change.repeats made = false := by
  rw [changesOnce_iff, changesOnce_iff]
  cases change with
  | add n type =>
    rw [addedNames_concat_add, droppedNames_concat_add, distinctNames_concat, and_right_comm]
    rfl
  | drop n =>
    rw [addedNames_concat_drop, droppedNames_concat_drop, distinctNames_concat, and_assoc]
    rfl

/-! ## Changes one after another -/

variable {live final : List String} {made changes : List Change} {change : Change}

theorem replay?_concat (live : List String) (made : List Change) (change : Change) :
    replay? live (made ++ [change]) = (replay? live made).bind change.names? := by
  rw [replay?_append]
  refine congrArg (replay? live made).bind (funext fun names => ?_)
  rw [replay?, List.foldlM_cons]
  cases change.names? names <;> rfl

theorem hasName_of_add {names : List String} {m : String} {type : List (Token Unit)}
    (h : (Change.add m type).names? names = some final) (n : String) :
    hasName final n = (hasName names n || Text.sameName m n) := by
  rw [Change.names?, Option.ite_none_left_eq_some] at h
  obtain ⟨-, rfl⟩ := Option.some.inj h.2
  rw [hasName_append, hasName_cons]
  exact congrArg _ (Bool.or_false _)

theorem hasName_of_drop {names : List String} {m : String}
    (h : (Change.drop m).names? names = some final) (n : String) :
    hasName final n = (hasName names n && !Text.sameName m n) := by
  rw [Change.names?, Option.ite_none_right_eq_some] at h
  obtain ⟨-, rfl⟩ := Option.some.inj h.2
  have hp : ∀ k l, Text.sameName k l = true → (!Text.sameName k m) = !Text.sameName l m :=
    fun k l hkl => by rw [Text.sameName_congr_left hkl]
  rw [hasName_filter hp, Text.sameName_comm]

/-- A column that was there is still there unless it was dropped, and one that was not is there if
it was added. -/
theorem hasName_replay? (hfits : ∀ c ∈ made, c.Fits live) (h : replay? live made = some final)
    (n : String) :
    hasName final n =
      if hasName live n then !hasName (droppedNames made) n else hasName (addedNames made) n := by
  induction made using List.reverseRecOn generalizing final with
  | nil =>
    obtain rfl : live = final := Option.some.inj h
    cases hasName live n <;> rfl
  | append_singleton made change ih =>
    rw [replay?_concat, Option.bind_eq_some_iff] at h
    obtain ⟨names, hmade, hstep⟩ := h
    obtain ⟨hrest, hchange⟩ := List.forall_mem_append.1 hfits
    have hchange := hchange change (List.mem_singleton_self change)
    have hnames := ih hrest hmade
    -- the change is of another column than `n` where the two differ on the live columns
    have hother {m : String} (hm : hasName live m ≠ hasName live n) : Text.sameName m n = false :=
      Bool.eq_false_iff.2 fun hsame => hm (hasName_congr hsame live)
    cases change with
    | add m type =>
      have hm := Change.fits_add.1 hchange
      rw [hasName_of_add hstep, hnames, addedNames_concat_add, droppedNames_concat_add,
        hasName_append]
      cases hn : hasName live n with
      | true => simp [hother (m := m) (by simp [hm, hn])]
      | false => simp [hasName]
    | drop m =>
      have hm := Change.fits_drop.1 hchange
      rw [hasName_of_drop hstep, hnames, addedNames_concat_drop, droppedNames_concat_drop,
        hasName_append]
      cases hn : hasName live n with
      | true => simp [hasName]
      | false => simp [hother (m := m) (by simp [hm, hn])]

/-- A change fails exactly if an earlier one did the same to its column. -/
theorem names?_eq_none_iff (hfits : ∀ c ∈ made, c.Fits live) (h : replay? live made = some final)
    (hchange : change.Fits live) : change.names? final = none ↔ change.repeats made = true := by
  cases change with
  | add n type =>
    have hn := hasName_replay? hfits h n
    rw [Change.fits_add.1 hchange] at hn
    simp [Change.names?, Change.repeats, hn]
  | drop n =>
    have hn := hasName_replay? hfits h n
    rw [Change.fits_drop.1 hchange] at hn
    simp [Change.names?, Change.repeats, hn]

/-- Changes of which each could be made can be made one after another exactly if none of them
repeats another. -/
theorem replays_iff (hfits : ∀ c ∈ changes, c.Fits live) :
    (∃ final, replay? live changes = some final) ↔ ChangesOnce changes := by
  induction changes using List.reverseRecOn with
  | nil => exact ⟨fun _ => ⟨.nil, .nil⟩, fun _ => ⟨live, rfl⟩⟩
  | append_singleton made change ih =>
    obtain ⟨hmade, hchange⟩ := List.forall_mem_append.1 hfits
    have hchange := hchange change (List.mem_singleton_self change)
    rw [changesOnce_concat, ← ih hmade, replay?_concat]
    cases hreplay : replay? live made with
    | none => simp
    | some names =>
      have hstep := names?_eq_none_iff hmade hreplay hchange
      rw [Option.bind_some, ← Option.isSome_iff_exists, Option.isSome_iff_ne_none, ne_eq, hstep]
      simp

end Sql

namespace Schema

open Sql

variable {d : Dialect} {table : String} {requested live : List Column} {dropped : List String}

/-- Each change of a plan could be made on the live columns. -/
theorem fits_plannedChanges (d : Dialect) (requested live : List Column) (dropped : List String) :
    ∀ c ∈ plannedChanges d requested live dropped, c.Fits (names live) := by
  refine List.forall_mem_append.2 ⟨List.forall_mem_map.2 fun c hc => ?_,
    List.forall_mem_map.2 fun n hn => ?_⟩
  · exact Change.fits_add.2 (absent_of_mem_missing hc)
  · rw [Change.fits_drop, ← hasColumn_eq]
    exact (List.mem_filter.1 hn).2

/-- A plan adds the requested names that the table lacks. -/
theorem addedNames_plannedChanges (d : Dialect) (requested live : List Column)
    (dropped : List String) :
    addedNames (plannedChanges d requested live dropped) =
      (names requested).filter fun n => !hasColumn live n := by
  have hadds : Change.added? ∘ (fun c : Column =>
      Change.add c.name (lex d.delimiters (typeText d c.normalized true))) = some ∘ (·.name) := rfl
  have hdrops : Change.added? ∘ Change.drop = fun _ => none := rfl
  rw [addedNames, plannedChanges, List.filterMap_append, List.filterMap_map, List.filterMap_map,
    hadds, hdrops, List.filterMap_eq_map, List.filterMap_none, List.append_nil, missing, names,
    List.filter_map]
  rfl

/-- A plan drops the names to drop that the table has. -/
theorem droppedNames_plannedChanges (d : Dialect) (requested live : List Column)
    (dropped : List String) :
    droppedNames (plannedChanges d requested live dropped) =
      dropped.filter fun n => hasColumn live n := by
  have hadds : Change.dropped? ∘ (fun c : Column =>
      Change.add c.name (lex d.delimiters (typeText d c.normalized true))) = fun _ => none := rfl
  have hdrops : Change.dropped? ∘ Change.drop = some := rfl
  rw [droppedNames, plannedChanges, List.filterMap_append, List.filterMap_map, List.filterMap_map,
    hadds, hdrops, List.filterMap_none, List.filterMap_some, List.nil_append, leaving]

/-- A plan adds no column twice and drops none twice exactly if the requested names that the table
lacks are distinct, and so are the names to drop that it has. This decides whether the statements
can be made one after another: each of them fails exactly if an earlier one did the same to its
column. -/
theorem changes_once_iff (htable : Identifier.Valid table)
    (hrequested : ∀ c ∈ requested, Identifier.Valid c.name)
    (hdropped : ∀ n ∈ dropped, Identifier.Valid n) :
    ∃ plan changes, alterTable d table requested live dropped = .ok plan ∧
      plan.mapM (readChange? d table) = some changes ∧
      (ChangesOnce changes ↔
        DistinctNames ((names requested).filter fun n => !hasColumn live n) ∧
          DistinctNames (dropped.filter fun n => hasColumn live n)) ∧
      (ChangesOnce changes ↔ ∃ final, replay? (names live) changes = some final) ∧
      ∀ made change rest final, changes = made ++ change :: rest →
        replay? (names live) made = some final →
        (change.names? final = none ↔ change.repeats made = true) := by
  obtain ⟨plan, hplan⟩ : ∃ plan, alterTable d table requested live dropped = .ok plan :=
    ⟨_, alterTable_eq_ok_iff.2 ⟨htable, hrequested, hdropped, rfl⟩⟩
  have hfits := fits_plannedChanges d requested live dropped
  refine ⟨plan, _, hplan, mapM_readChange? hplan, ?_, (replays_iff hfits).symm, ?_⟩
  · rw [changesOnce_iff, addedNames_plannedChanges, droppedNames_plannedChanges]
  · intro made change rest final hsplit hmade
    rw [hsplit] at hfits
    obtain ⟨hearlier, hlater⟩ := List.forall_mem_append.1 hfits
    exact names?_eq_none_iff hearlier hmade (hlater change List.mem_cons_self)

/-- The columns of a table of tags. -/
private def liveTags : List Column := [.identityColumn, .plain "Name" .varchar, .plain "Old" .text]

/-- Columns for a table of tags, one of them twice. -/
private def requestedTags : List Column :=
  [.plain "Name" .varchar, .plain "name" .text, .plain "Score" .integer]

theorem changes_once_iff_tags :
    Identifier.Valid "Tags" ∧ (∀ c ∈ requestedTags, Identifier.Valid c.name) ∧
      (∀ n ∈ ["old", "Gone", "gone"], Identifier.Valid n) ∧
    ∃ plan changes, alterTable .oracle "Tags" requestedTags liveTags ["old", "Gone", "gone"] =
        .ok plan ∧
      plan.mapM (readChange? .oracle "Tags") = some changes ∧
      (ChangesOnce changes ↔
        DistinctNames ((names requestedTags).filter fun n => !hasColumn liveTags n) ∧
          DistinctNames (["old", "Gone", "gone"].filter fun n => hasColumn liveTags n)) ∧
      (ChangesOnce changes ↔ ∃ final, replay? (names liveTags) changes = some final) ∧
      ∀ made change rest final, changes = made ++ change :: rest →
        replay? (names liveTags) made = some final →
        (change.names? final = none ↔ change.repeats made = true) := by
  have htable : Identifier.Valid "Tags" := by decide
  have hrequested : ∀ c ∈ requestedTags, Identifier.Valid c.name := by decide
  have hdropped : ∀ n ∈ ["old", "Gone", "gone"], Identifier.Valid n := by decide
  exact ⟨htable, hrequested, hdropped, changes_once_iff htable hrequested hdropped⟩

/-- A new column that is requested twice is added twice, and a name to drop that comes twice is
dropped twice: the second addition cannot be made. -/
theorem changes_column_twice :
    let requested : List Column := [.plain "Score" .integer, .plain "Score" .integer]
    let live : List Column := [.plain "Old" .text]
    Identifier.Valid "t" ∧ (∀ c ∈ requested, Identifier.Valid c.name) ∧
      (∀ n ∈ ["Old", "Old"], Identifier.Valid n) ∧
      ∃ plan changes, alterTable .sqlite "t" requested live ["Old", "Old"] = .ok plan ∧
        plan = ["ALTER TABLE \"t\" ADD COLUMN \"Score\" INTEGER",
          "ALTER TABLE \"t\" ADD COLUMN \"Score\" INTEGER",
          "ALTER TABLE \"t\" DROP COLUMN \"Old\"", "ALTER TABLE \"t\" DROP COLUMN \"Old\""] ∧
        plan.mapM (readChange? .sqlite "t") = some changes ∧
        addedNames changes = ["Score", "Score"] ∧ droppedNames changes = ["Old", "Old"] ∧
        ¬ ChangesOnce changes ∧ replay? (names live) changes = none := by
  intro requested live
  have hplan : alterTable .sqlite "t" requested live ["Old", "Old"] = .ok _ := rfl
  refine ⟨by decide, by decide, by decide, _, _, hplan, by decide +kernel, mapM_readChange? hplan,
    by decide +kernel, by decide +kernel, ?_, by decide +kernel⟩
  rw [changesOnce_iff, addedNames_plannedChanges, droppedNames_plannedChanges]
  decide

end Schema

end Polydialect
