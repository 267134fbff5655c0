import Mathlib.Data.List.Forall2
import Polydialect.Proofs.Running
import Polydialect.Record
import Polydialect.Repository.Read

/-!
# What reading writes

A read sends commands of one kind: the statement that writes a fresh global identifier back into a
row. `Repository.reads_backfill` says which rows that concerns: among the rows that the database
gives, in their order and as far as the read gets, those with a positive identity and without a
text in their Guid column that is a global identifier. A row that lacks the column is among them,
though the table may hold an identifier for it (`Repository.getAll_overwrites_guid`).
-/

namespace Polydialect

/-- The identity in a row, zero if it has none. -/
def Row.identity (row : Row) : Int64 := ((row.get? Column.idName).bind Value.int?).getD 0

/-- Whether the row has a Guid column with a global identifier. -/
def Row.holdsGuid (row : Row) : Bool :=
  ((row.get? Column.guidName).bind Value.toText?).any Guid.isValid

namespace Repository

open Step

variable {α β γ : Type}

/-- Whether a row that is read gets a fresh global identifier. -/
def needsGuid (r : Repository α) (row : Row) : Bool :=
  0 < row.identity && r.hasColumn Column.guidName && !row.holdsGuid

/-- The statement writes a global identifier into the row of an identity. -/
def IsBackfill (r : Repository α) (row : Row) (st : Statement) : Prop :=
  ∃ (isLegacy : Bool) (guid : Guid) (modified now : Timestamp) (c : Compiled),
    (r.backfill row.identity guid modified).compile ⟨r.db.dialect, isLegacy⟩ now .action = .ok c ∧
      c.statement = st

/-- The commands are backfills of the first rows that need one, and of all of them once the work is
done. -/
def Backfills (r : Repository α) (rows : List Row) (sent : List Statement) (done : Prop) : Prop :=
  ∃ written, written <+: rows.filter r.needsGuid ∧ List.Forall₂ r.IsBackfill written sent ∧
    (done → written = rows.filter r.needsGuid)

/-- The rows that the database gives for a query. -/
def answered (r : Repository α) (q : Query) (s : Session) : List Row :=
  match Step.result (r.selectRows (r.onTable q).clearCaching) s with
  | .ok rows => rows
  | .error _ => []

/-! ## Operations that write back -/

/-- The operation sends the backfills of rows and no other command. -/
def WritesBack (r : Repository α) (rows : List Row) (x : Run β) (s : Session) : Prop :=
  ∃ sent, (Step.after x s).commands = s.commands ++ sent ∧
    r.Backfills rows sent (∃ a, Step.result x s = .ok a)

variable {r : Repository α}

theorem WritesBack.of_keeps {x : Run β} (h : Keeps Session.commands x) (s : Session) :
    r.WritesBack [] x s :=
  ⟨[], (h s).trans (List.append_nil _).symm, [], List.nil_prefix, .nil, fun _ => rfl⟩

theorem WritesBack.bind {rows rest : List Row} {x : Run β} {f : β → Run γ} {s : Session}
    (hx : r.WritesBack rows x s)
    (hf : ∀ a, Step.result x s = .ok a → r.WritesBack rest (f a) (Step.after x s)) :
    r.WritesBack (rows ++ rest) (x >>= f) s := by
  obtain ⟨sent, hc, written, hp, hb, hd⟩ := hx
  simp only [WritesBack, Run.after_bind, Run.result_bind, Backfills, List.filter_append]
  cases hr : Step.result x s with
  | error e =>
    -- the rows behind the failure are not looked at
    exact ⟨sent, hc, written, hp.trans (List.prefix_append _ _), hb, fun ⟨_, h⟩ => by cases h⟩
  | ok a =>
    obtain ⟨sent', hc', written', hp', hb', hd'⟩ := hf a hr
    obtain rfl := hd ⟨a, hr⟩
    refine ⟨sent ++ sent', ?_, _ ++ written', ?_, List.rel_append hb hb', fun h => ?_⟩
    · show (Step.after (f a) _).commands = _
      rw [hc', hc, List.append_assoc]
    · exact (List.prefix_append_right_inj _).2 hp'
    · rw [hd' h]

theorem WritesBack.keeps_bind {rows : List Row} {x : Run β} {f : β → Run γ} {s : Session}
    (hx : Keeps Session.commands x)
    (hf : ∀ a, Step.result x s = .ok a → r.WritesBack rows (f a) (Step.after x s)) :
    r.WritesBack rows (x >>= f) s :=
  (WritesBack.of_keeps hx s).bind hf

theorem WritesBack.bind_keeps {rows : List Row} {x : Run β} {f : β → Run γ} {s : Session}
    (hx : r.WritesBack rows x s) (hf : ∀ a, Keeps Session.commands (f a)) :
    r.WritesBack rows (x >>= f) s := by
  have h := hx.bind fun a _ => WritesBack.of_keeps (r := r) (hf a) _
  rwa [List.append_nil] at h

theorem isRead_selectRows (r : Repository α) (q : Query) : IsRead (r.selectRows q) :=
  (r.talks_selectRows q).isRead

theorem writesBack_execute {row : Row} (hn : r.needsGuid row = true) {st : Statement}
    (hb : r.IsBackfill row st) (s : Session) : r.WritesBack [row] (r.db.execute st) s := by
  refine .keeps_bind (Engine.talks_connect _).isRead.keeps fun _ _ => ?_
  have hf : [row].filter r.needsGuid = [row] := by simp [hn]
  have hp : [row] <+: [row].filter r.needsGuid := by simp only [hf, List.prefix_rfl]
  exact ⟨[st], Engine.commands_execute st _, [row], hp, .cons hb .nil, fun _ => hf.symm⟩

theorem answered_eq {q : Query} {s t : Session} (h : t.apart = s.apart) {rows : List Row}
    (hr : Step.result (r.selectRows (r.onTable q).clearCaching) t = .ok rows) :
    r.answered q s = rows := by
  rw [answered, ← ((isRead_selectRows r _).depends t s h).1, hr]

theorem backfills_cached {codec : Cache.Codec β} {q : Query} {loader : Query → Run β}
    {rows : List Row} {s : Session}
    (hl : ∀ t : Session, t.apart = s.apart → r.WritesBack rows (loader q.clearCaching) t) :
    ∃ sent, (Step.after (Caching.cached codec q loader) s).commands = s.commands ++ sent ∧
      r.Backfills rows sent
        ((∃ a, Step.result (Caching.cached codec q loader) s = .ok a) ∧ ¬ q.ReadsThrough) := by
  rcases Caching.loads_cached Session.hidesCache_commands codec q loader s with
    ⟨t, ht, hsame, hc, hr⟩ | ⟨hc, hr⟩
  · obtain ⟨sent, hs, written, hp, hb, hd⟩ := hl t ht
    refine ⟨sent, ?_, written, hp, hb, fun ⟨⟨a, h⟩, _⟩ => hd ⟨a, hr a h⟩⟩
    rw [hc, hs, hsame]
  · exact ⟨[], by rw [hc, List.append_nil], [], List.nil_prefix, .nil,
      fun ⟨⟨a, h⟩, hn⟩ => absurd (hr a h).readsThrough hn⟩

/-! ## Reads -/

section Entities

variable [Entity α]

theorem lacksGuid_setBase (r : Repository α) (row : Row) (own : α) :
    r.lacksGuid (Entity.setBase (.ofTableRow r.extendName? row) own) = r.needsGuid row := by
  rw [lacksGuid, Entity.base_setBase]
  show (decide (0 < row.identity) && r.hasColumn Column.guidName &&
    !Guid.isValid (((row.get? Column.guidName).bind Value.toText?).getD "")) = _
  rw [needsGuid, Row.holdsGuid]
  cases (row.get? Column.guidName).bind Value.toText? with
  | none => simp [show Guid.isValid "" = false by decide]
  | some text => rfl

theorem writesBack_ensureGuid (r : Repository α) (row : Row) (own : α) (s : Session) :
    r.WritesBack [row] (r.ensureGuid (Entity.setBase (.ofTableRow r.extendName? row) own)) s := by
  rw [ensureGuid, lacksGuid_setBase, Entity.base_setBase]
  cases hn : r.needsGuid row with
  | false =>
    have hf : [row].filter r.needsGuid = [] := by simp [hn]
    exact ⟨[], (List.append_nil _).symm, [], List.nil_prefix, .nil, fun _ => hf.symm⟩
  | true =>
    have hid : (Entity.Base.ofTableRow r.extendName? row).id = row.identity := rfl
    refine .keeps_bind (Run.keeps_lift fun s => rfl) fun guid _ => ?_
    refine .keeps_bind (Run.keeps_lift fun s => rfl) fun now _ => ?_
    refine .keeps_bind (r.db.talks_compile _ _).isRead.keeps fun c hc => ?_
    rw [hid] at hc
    obtain ⟨isLegacy, t, hc⟩ := Database.compile_eq_ok hc
    have hb : r.IsBackfill row c.statement := ⟨isLegacy, guid, now, t, c, hc, rfl⟩
    have he : (discard (r.db.execute c.statement) : Run Unit) =
        r.db.execute c.statement >>= fun _ => pure () := rfl
    rw [he, bind_assoc]
    exact (writesBack_execute hn hb _).bind_keeps fun _ s => rfl

/-- Nothing is written to a row whose own fields cannot be read. -/
theorem writesBack_materialize (r : Repository α) (row : Row) (s : Session) :
    r.WritesBack [row] (r.materialize row) s :=
  .keeps_bind (.pure (Entity.ofRow row)) fun own _ => writesBack_ensureGuid r row own _

theorem writesBack_materializeAll (r : Repository α) (rows : List Row) (s : Session) :
    r.WritesBack rows (r.materializeAll rows) s := by
  induction rows generalizing s with
  | nil => exact .of_keeps (fun s => rfl) s
  | cons row rows ih =>
    exact (writesBack_materialize r row s).bind fun e _ => (ih _).bind_keeps fun es s => rfl

/-- The loader of every row. -/
theorem writesBack_selectAll (r : Repository α) (q : Query) {s t : Session}
    (h : t.apart = s.apart) :
    r.WritesBack (r.answered q s)
      (do r.materializeAll (← r.selectRows (r.onTable q).clearCaching)) t := by
  refine .keeps_bind (isRead_selectRows r _).keeps fun rows hr => ?_
  rw [answered_eq h hr]
  exact writesBack_materializeAll r rows _

/-- The loader of the first row. -/
theorem writesBack_selectFirst (r : Repository α) (q : Query) {s t : Session}
    (h : t.apart = s.apart) :
    r.WritesBack ((r.answered q s).take 1) (do
      match ← r.selectRows (r.onTable q).clearCaching with
      | [] => return none
      | row :: _ => return some (← r.materialize row) : Run (Option α)) t := by
  refine .keeps_bind (isRead_selectRows r _).keeps fun rows hr => ?_
  rw [answered_eq h hr]
  cases rows with
  | nil => exact .of_keeps (fun s => rfl) _
  | cons row rows =>
    exact (writesBack_materialize r row _).bind_keeps fun e s => rfl

/-- Reading sends backfills only, of the first rows that need one in the order in which the database
gives them, and of all of them if the read succeeds without asking the cache; `getBy` looks at the
first row. A row needs one if its identity is positive and it has no Guid column with a global
identifier, whatever the table holds. -/
theorem reads_backfill (r : Repository α) (q : Query) (s : Session) :
    (∃ sent, (Step.after (r.getAll q) s).commands = s.commands ++ sent ∧
      r.Backfills (r.answered q s) sent
        ((∃ es, Step.result (r.getAll q) s = .ok es) ∧ ¬ q.ReadsThrough)) ∧
    ∃ sent, (Step.after (r.getBy q) s).commands = s.commands ++ sent ∧
      r.Backfills ((r.answered (q.take 1) s).take 1) sent
        ((∃ e, Step.result (r.getBy q) s = .ok e) ∧ ¬ q.ReadsThrough) :=
  ⟨backfills_cached (q := r.onTable q) fun _ ht => writesBack_selectAll r q ht,
    backfills_cached (q := r.onTable (q.take 1)) fun _ ht => writesBack_selectFirst r (q.take 1) ht⟩

end Entities

/-- Selecting the identity and the title of a post writes a new global identifier into its row,
since the row that is given back has no Guid column. -/
theorem getAll_overwrites_guid :
    ∃ (r : Repository Record) (q : Query) (s : Session) (row : Row) (now : Timestamp),
    r.hasColumn Column.guidName = true ∧ r.answered q s = [row] ∧
      row.get? Column.guidName = none ∧
      (Step.after (r.getAll q) s).commands =
        [⟨"UPDATE \"Posts\" SET \"Guid\" = ?1, \"LastModifiedDate\" = ?2 WHERE \"Id\" = ?3",
          [("?1", .text "6f1c9a44-0b1e-4c57-9d0a-2f6f3f1f7a10"), ("?2", .timestamp now),
            ("?3", .int 1)]⟩] := by
  let now : Timestamp := ⟨2024, 1, 1, 0, 0, 0, 0, by decide⟩
  let guid : Guid := ⟨"6f1c9a44-0b1e-4c57-9d0a-2f6f3f1f7a10", by decide⟩
  let row : Row := ⟨["Id", "Title"], [.int 1, .text "a"]⟩
  let s := (Session.start ⟨fun _ => guid, fun _ => now, fun _ => 0⟩ none).script [.answer 0 [row]]
  let r : Repository Record := ⟨⟨.sqlite, "", 0⟩, "Posts",
    [.identityColumn, .plain Column.guidName .varchar, .plain "Title" .varchar]⟩
  exact ⟨r, Query.empty.select ["Id", "Title"], s, row, now, by decide, by decide +kernel, by decide,
    by decide +kernel⟩

end Repository

end Polydialect
