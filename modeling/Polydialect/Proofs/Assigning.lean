import Mathlib.Data.List.TakeWhile
import Polydialect.Proofs.Binding
import Polydialect.Proofs.Wrapping

/-!
# What an UPDATE assigns

An UPDATE makes the first assignment to each target and writes the time of the change unless one of
them does. `Text.firstsBy` says which members of a list come first under their name, by their place
in the list; the compiler, which goes through the list once and remembers what it has seen, finds
the same ones (`Assignment.firsts_eq_filter`, `Assignment.effective_eq`).

* `Query.compile_update_eq`: the statement of an UPDATE, its assignments and its values;
* `Assignment.target_bracketed`: the target of an assignment `[name] = expression` is the name,
  unless the name holds `=`, which ends the target before the bracket does;
* `Query.update_assigns_first_iff`: so every column is assigned once, however its assignments are
  spelled, as long as no name between brackets holds `=`.
-/

namespace Polydialect

/-! ## First members under a name -/

namespace Text

section
variable {α β : Type} {key : α → String}

/-- The members of a list whose name none before them has, up to ASCII case. -/
def firstsBy (key : α → String) (as : List α) : List α :=
  (as.zipIdx.filter fun p => (as.take p.2).all fun b => !sameName (key b) (key p.1)).map (·.1)

theorem firstsBy_cons (a : α) (as : List α) :
    firstsBy key (a :: as) = a :: (firstsBy key as).filter fun b => !sameName (key a) (key b) := by
  simp only [firstsBy, List.zipIdx_cons, Nat.zero_add]
  rw [List.filter_cons_of_pos (by simp), List.map_cons, List.zipIdx_succ, List.filter_map,
    List.filter_map, List.map_map, List.filter_filter]
  congr 2

theorem firstsBy_sublist (as : List α) : List.Sublist (firstsBy key as) as := by
  induction as with
  | nil => exact .slnil
  | cons a as ih =>
    rw [firstsBy_cons]
    exact (List.filter_sublist.trans ih).cons_cons a

theorem firstsBy_map (f : β → α) (bs : List β) :
    firstsBy key (bs.map f) = (firstsBy (key ∘ f) bs).map f := by
  induction bs with
  | nil => rfl
  | cons b bs ih =>
    rw [List.map_cons, firstsBy_cons, firstsBy_cons, ih, List.filter_map, List.map_cons]
    rfl

theorem firstsBy_congr {key' : α → String} {as : List α} (h : ∀ a ∈ as, key a = key' a) :
    firstsBy key as = firstsBy key' as := by
  induction as with
  | nil => rfl
  | cons a as ih =>
    obtain ⟨ha, has⟩ := List.forall_mem_cons.1 h
    rw [firstsBy_cons, firstsBy_cons, ih has]
    refine congrArg (a :: ·) (List.filter_congr fun b hb => ?_)
    rw [ha, has b ((firstsBy_sublist as).subset hb)]

/-- No two first members have a name in common. -/
theorem pairwise_firstsBy (as : List α) :
    (firstsBy key as).Pairwise fun a b => sameName (key a) (key b) = false := by
  induction as with
  | nil => exact .nil
  | cons a as ih =>
    rw [firstsBy_cons, List.pairwise_cons]
    refine ⟨fun b hb => ?_, ih.filter _⟩
    have h := (List.mem_filter.1 hb).2
    simpa using h

/-- Under every name there is the first member of the list that has it, and no other. -/
theorem filter_firstsBy (n : String) (as : List α) :
    ((firstsBy key as).filter fun a => sameName (key a) n) =
      (as.find? fun a => sameName (key a) n).toList := by
  induction as with
  | nil => rfl
  | cons a as ih =>
    rw [firstsBy_cons]
    cases ha : sameName (key a) n with
    | true =>
      -- what has the name `n` has the name of `a` and is left out
      simp only [List.filter_cons, List.find?_cons, ha, if_true, List.filter_filter]
      refine congrArg (a :: ·) (List.filter_eq_nil_iff.2 fun b _ => ?_)
      rw [sameName_congr_left ha, sameName_comm n]
      simp
    | false =>
      simp only [List.filter_cons, List.find?_cons, ha, Bool.false_eq_true, if_false, ← ih,
        List.filter_filter]
      refine List.filter_congr fun b _ => ?_
      cases hb : sameName (key b) n with
      | true => rw [sameName_comm, sameName_congr_left hb, sameName_comm, ha]; rfl
      | false => rfl

/-- A last member comes first if none of the others has its name. -/
theorem firstsBy_concat (as : List α) (x : α) :
    firstsBy key (as ++ [x]) =
      if (firstsBy key as).any fun a => sameName (key a) (key x) then firstsBy key as
      else firstsBy key as ++ [x] := by
  induction as with
  | nil => rfl
  | cons a as ih =>
    rw [List.cons_append, firstsBy_cons, firstsBy_cons, ih, List.any_cons, List.any_filter]
    cases ha : sameName (key a) (key x) with
    | true =>
      rw [Bool.true_or, if_pos rfl]
      split
      · rfl
      · rw [List.filter_append]
        simp [ha]
    | false =>
      have hany : ((firstsBy key as).any fun b =>
          !sameName (key a) (key b) && sameName (key b) (key x)) =
          (firstsBy key as).any fun b => sameName (key b) (key x) := by
        refine congrArg (List.any _) (funext fun b => ?_)
        cases hb : sameName (key b) (key x) with
        | true => rw [sameName_comm, sameName_congr_left hb, sameName_comm, ha]; rfl
        | false => rw [Bool.and_false]
      rw [Bool.false_or, hany]
      split
      · rfl
      · rw [List.filter_append]
        simp [ha]

end

end Text

open Text

namespace Assignment

/-- The assignment of the time of the change. -/
def stamp (now : Timestamp) : Assignment := .value Column.modifiedName (.timestamp now)

/-- Going through the assignments and remembering targets finds those that come first. -/
theorem firsts_eq_filter (seen : List String) (as : List Assignment) :
    firsts seen as = (firstsBy target as).filter fun a => !seen.any (sameName · a.target) := by
  induction as generalizing seen with
  | nil => rfl
  | cons a as ih =>
    rw [firsts, firstsBy_cons]
    cases ha : seen.any (sameName · a.target) with
    | true =>
      rw [if_pos rfl, List.filter_cons_of_neg (by simp [ha]), ih, List.filter_filter]
      refine List.filter_congr fun b _ => ?_
      cases hb : sameName a.target b.target with
      | false => simp
      | true =>
        -- what `a` has been dropped for drops `b` as well
        obtain ⟨s, hs, hsa⟩ := List.any_eq_true.1 ha
        have hsb : seen.any (sameName · b.target) = true :=
          List.any_eq_true.2 ⟨s, hs, sameName_trans hsa hb⟩
        rw [hsb]
        rfl
    | false =>
      rw [if_neg (by simp), List.filter_cons_of_pos (by simp [ha]), ih, List.filter_filter]
      refine congrArg (a :: ·) (List.filter_congr fun b _ => ?_)
      rw [List.any_cons, Bool.not_or, Bool.and_comm]

theorem firsts_eq (as : List Assignment) : firsts [] as = firstsBy target as := by
  rw [firsts_eq_filter]
  simp

/-- An UPDATE makes the assignments that come first, the time of the change being the last. -/
theorem effective_eq (now : Timestamp) (as : List Assignment) :
    effective now as = firstsBy target (as ++ [stamp now]) := by
  rw [effective, stamped, firsts_eq, firstsBy_concat]
  rfl

end Assignment

/-! ## The statement -/

theorem Statement.sql_ofFragment (d : Dialect) (f : Fragment) :
    (ofFragment d f).sql = Marker.nameAll d.backslashEscapes d.placeholder f.text := rfl

theorem Statement.values_ofFragment (d : Dialect) (f : Fragment) :
    (ofFragment d f).values = f.values := map_snd_bind d 0 f.values

namespace Query

/-- An UPDATE with a table compiles, and this is its statement. -/
theorem compile_update {c : Compiler} {now : Timestamp} {q : Query} {table : String}
    (hq : q.action = .update) (ht : q.target = .ok table) :
    q.compile c now .action =
      .ok ⟨.ofFragment c.dialect (q.updateFragment c.dialect now table), q.caching⟩ := by
  have hf : q.actionFragment c now table = .ok (q.updateFragment c.dialect now table) := by
    rw [actionFragment, hq]
    rfl
  have hs : q.statement c now .action =
      .ok (.ofFragment c.dialect (q.updateFragment c.dialect now table)) := by
    show (do
      let table ← q.target
      return Statement.ofFragment c.dialect (← q.actionFragment c now table)) = _
    rw [ht]
    show (do return Statement.ofFragment c.dialect (← q.actionFragment c now table)) = _
    rw [hf]
    rfl
  rw [compile, hs]
  rfl

/-- The text and the values of an UPDATE. -/
theorem updateFragment_eq (d : Dialect) (now : Timestamp) (q : Query) (table : String) :
    q.updateFragment d now table =
      ⟨"UPDATE " ++ d.quote table ++ " SET " ++
        ", ".intercalate
          ((Assignment.effective now q.assignments).map fun a => (a.fragment d).text),
        (Assignment.effective now q.assignments).flatMap fun a => (a.fragment d).values⟩ ++
      q.filterFragment d := by
  rw [updateFragment, filtered_eq_append]
  congr 1
  show Fragment.mk _ _ = _
  simp [Fragment.join, Function.comp_def, List.flatMap_map]

theorem values_update {c : Compiler} {now : Timestamp} {q : Query} {table : String} {r : Compiled}
    (hq : q.action = .update) (ht : q.target = .ok table) (h : q.compile c now .action = .ok r) :
    r.statement.values =
      (Assignment.effective now q.assignments).flatMap (fun a => (a.fragment c.dialect).values) ++
        (q.filterFragment c.dialect).values := by
  rw [compile_update hq ht] at h
  rw [← Except.ok.inj h, Statement.values_ofFragment, updateFragment_eq]
  rfl

/-- **What an UPDATE says.** Kept are the assignments whose target none before them has; the text
is made of them in order and of the time of the change if none of them writes it, the values are
theirs, the time and those of the condition. So no two assignments that are made have a target in
common, and just one writes the time of the change. -/
theorem compile_update_eq {c : Compiler} {now : Timestamp} {q : Query} {table : String}
    (hq : q.action = .update) (ht : q.target = .ok table) :
    let kept := firstsBy Assignment.target q.assignments
    let isStamped := kept.any fun a => sameName a.target Column.modifiedName
    let made := kept ++ if isStamped then [] else [Assignment.stamp now]
    let texts := kept.map (fun a => (a.fragment c.dialect).text) ++
      if isStamped then [] else [c.dialect.quote Column.modifiedName ++ " = ?"]
    let values := kept.flatMap (fun a => (a.fragment c.dialect).values) ++
      if isStamped then [] else [.timestamp now]
    (∃ r, q.compile c now .action = .ok r ∧
      r.statement = .ofFragment c.dialect
        (⟨"UPDATE " ++ c.dialect.quote table ++ " SET " ++ ", ".intercalate texts, values⟩ ++
          q.filterFragment c.dialect) ∧
      r.statement.values = values ++ (q.filterFragment c.dialect).values) ∧
    made.Pairwise (fun a b => sameName a.target b.target = false) ∧
    made.countP (fun a => sameName a.target Column.modifiedName) = 1 := by
  intro kept isStamped made texts values
  have hmade : Assignment.effective now q.assignments = made := by
    rw [Assignment.effective, Assignment.stamped, Assignment.firsts_eq]
    show (if isStamped then kept else kept ++ [Assignment.stamp now]) = made
    cases h : isStamped <;> simp [made, h]
  have htexts : made.map (fun a => (a.fragment c.dialect).text) = texts := by
    cases h : isStamped <;> simp [made, texts, h, Assignment.stamp, Assignment.fragment]
  have hvalues : made.flatMap (fun a => (a.fragment c.dialect).values) = values := by
    cases h : isStamped <;> simp [made, values, h, Assignment.stamp, Assignment.fragment]
  have hfirst := Assignment.effective_eq now q.assignments
  rw [hmade] at hfirst
  refine ⟨⟨_, compile_update hq ht, ?_, ?_⟩, ?_, ?_⟩
  · rw [updateFragment_eq, hmade, htexts, hvalues]
  · rw [values_update hq ht (compile_update hq ht), hmade, hvalues]
  · rw [hfirst]
    exact pairwise_firstsBy _
  · rw [hfirst, List.countP_eq_length_filter, filter_firstsBy]
    -- the time of the change, which stands last, is found at the latest
    have hs : sameName (Assignment.stamp now).target Column.modifiedName = true := sameName_refl _
    cases hf : (q.assignments ++ [Assignment.stamp now]).find? fun a =>
        sameName a.target Column.modifiedName with
    | some a => rfl
    | none =>
      have h := List.find?_eq_none.1 hf (Assignment.stamp now) (by simp)
      exact absurd hs h

/-- An UPDATE on SQL Server that names a column twice in another case, once in raw SQL with a value
of its own. -/
theorem compile_update_eq_posts : ∃ (q : Query) (now : Timestamp) (r : Compiled),
    q.action = .update ∧ q.target = .ok "Posts" ∧
      q.compile ⟨.sqlServer, false⟩ now .action = .ok r ∧
      r.statement.sql = "UPDATE [Posts] SET [Title] = @p1, [Hits] = [Hits] + @p2, " ++
        "[LastModifiedDate] = @p3 WHERE [Id] = @p4" ∧
      r.statement.values = [.text "first", .int 1, .timestamp now, .int 7] := by
  let now : Timestamp := ⟨2024, 1, 1, 0, 0, 0, 0, by decide⟩
  let q := ((Query.eq "Id" (.int 7)).withTable "Posts").set "Title" (.text "first")
  let q := (q.set "TITLE" (.text "second")).setRaw "[Hits] = [Hits] + ?" [.int 1]
  let q := q.setRaw "hits = ? + ?" [.int 2, .int 3]
  obtain ⟨⟨r, hc, hs, hv⟩, -, -⟩ :=
    @compile_update_eq ⟨.sqlServer, false⟩ now q "Posts" rfl rfl
  refine ⟨q, now, r, rfl, rfl, hc, ?_, hv.trans (by decide +kernel)⟩
  rw [hs]
  decide +kernel

end Query

/-! ## Spellings -/

namespace Text

theorem mem_of_mem_dropBlanksRight {c : Char} {s : List Char} (h : c ∈ dropBlanksRight s) :
    c ∈ s := by
  rw [dropBlanksRight, List.mem_reverse] at h
  exact List.mem_reverse.1 ((List.dropWhile_sublist _).subset h)

theorem mem_of_mem_trimmed {c : Char} {s : List Char} (h : c ∈ trimmed s) : c ∈ s :=
  (List.dropWhile_sublist _).subset (mem_of_mem_dropBlanksRight h)

/-- Only `=` itself is made small to `=`. -/
theorem eq_of_toLower_eq {c : Char} (h : c.toLower = '=') : c = '=' := by
  delta Char.toLower at h
  split at h
  · rename_i hc
    have h1 : 65 ≤ c.val.toNat := UInt32.le_iff_toNat_le.1 hc.1
    have h2 : c.val.toNat ≤ 90 := UInt32.le_iff_toNat_le.1 hc.2
    have hv : (c.val + 32).toNat = 61 := congrArg (·.val.toNat) h
    rw [UInt32.toNat_add] at hv
    -- a capital becomes a letter
    have h32 : (32 : UInt32).toNat = 32 := rfl
    omega
  · exact h

theorem mem_of_sameName {a b : String} (h : sameName a b = true) (hb : '=' ∈ b.toList) :
    '=' ∈ a.toList := by
  simp only [sameName, beq_iff_eq, lowerAscii, String.ofList_inj] at h
  have hm : '=' ∈ a.toList.map Char.toLower := by
    rw [h]
    exact List.mem_map.2 ⟨'=', hb, by decide⟩
  obtain ⟨c, hc, he⟩ := List.mem_map.1 hm
  rwa [eq_of_toLower_eq he] at hc

end Text

namespace Identifier

theorem mem_of_mem_inner {c : Char} {s : List Char} (h : c ∈ inner s) : c ∈ s := by
  unfold inner at h
  split at h
  · split at h
    · exact .tail _ ((List.dropLast_sublist _).subset h)
    · exact h
  · exact h

theorem inner_bracketed (s : List Char) : inner ('[' :: (s ++ [']'])) = s := by
  cases s with
  | nil => decide
  | cons c s =>
    rw [List.cons_append, inner]
    have hl : (c :: (s ++ [']'])).getLast (by simp) = ']' := by
      rw [List.getLast_cons (by simp), List.getLast_concat]
    have hd : (c :: (s ++ [']'])).dropLast = c :: s := by
      rw [← List.cons_append, List.dropLast_concat]
    rw [hl, hd]
    rfl

end Identifier

namespace Assignment

/-- An assignment as raw SQL, with the name of its column between brackets. -/
def bracketed (name expression : String) : String := "[" ++ name ++ "] = " ++ expression

theorem toList_bracketed (name expression : String) : (bracketed name expression).toList =
    '[' :: (name.toList ++ ']' :: ' ' :: '=' :: ' ' :: expression.toList) := by
  simp [bracketed]

theorem wrap_bracketed (d : Dialect) {name : String} (hb : ']' ∉ name.toList)
    (expression : String) :
    d.wrap (bracketed name expression) = d.quote name ++ " = " ++ d.wrap expression := by
  rw [← String.toList_inj, Dialect.wrap, toList_bracketed, Delimiters.wrapFrom, if_pos rfl,
    Delimiters.wrapFrom_bracket hb]
  simp [Dialect.wrap, Dialect.quote, Delimiters.wrapFrom]

theorem target_bracketed {name : String} (he : '=' ∉ name.toList) (expression : String)
    (values : List Value) : target (.raw ⟨bracketed name expression, values⟩) = name := by
  have hbefore : before '=' (bracketed name expression).toList =
      '[' :: (name.toList ++ [']']) ++ [' '] := by
    have hn : ∀ c ∈ '[' :: (name.toList ++ [']']) ++ [' '], decide (c ≠ '=') = true := by
      intro c hc
      have hne : c ≠ '=' := by
        rintro rfl
        simp [he] at hc
      exact decide_eq_true hne
    have ht : (bracketed name expression).toList =
        ('[' :: (name.toList ++ [']']) ++ [' ']) ++ '=' :: ' ' :: expression.toList := by
      simp [toList_bracketed]
    rw [before, ht, List.takeWhile_append_of_pos hn, List.takeWhile_cons_of_neg (by decide),
      List.append_nil]
  have htrim : trimmed ('[' :: (name.toList ++ [']']) ++ [' ']) =
      '[' :: (name.toList ++ [']']) := by
    have hopen : isBlank '[' = false := by decide
    have hspace : isBlank ' ' = true := by decide
    have hclose : isBlank ']' = false := by decide
    simp [trimmed, dropBlanks, dropBlanksRight, hopen, hspace, hclose]
  rw [target, hbefore, Identifier.unquote, String.toList_ofList, htrim, Identifier.inner_bracketed,
    String.ofList_toList]

/-- The target of raw SQL ends before the first `=`. -/
theorem not_mem_target_raw (source : Fragment) : '=' ∉ (target (.raw source)).toList := by
  intro h
  rw [target, Identifier.unquote, String.toList_ofList, String.toList_ofList] at h
  have hb := mem_of_mem_trimmed (Identifier.mem_of_mem_inner h)
  have hp := List.mem_takeWhile_imp hb
  exact absurd rfl (of_decide_eq_true hp)

/-- The target is the name in brackets as long as the name holds no `=`. -/
theorem sameName_target_bracketed_iff (name expression : String) (values : List Value) :
    sameName (target (.raw ⟨bracketed name expression, values⟩)) name = true ↔
      '=' ∉ name.toList := by
  constructor
  · intro h he
    exact not_mem_target_raw _ (mem_of_sameName h he)
  · intro he
    rw [target_bracketed he, sameName_refl]

/-- The assignment writes a column: it gives it a value, or it is raw SQL that begins with the name
of the column between brackets. `N` are the names that stand between brackets. -/
inductive Writes (N : String → Prop) : Assignment → String → Prop
  | value (column : String) (v : Value) : Writes N (.value column v) column
  | raw {name : String} (expression : String) (values : List Value) (hN : N name)
      (hne : name ≠ "") (hb : ']' ∉ name.toList) :
      Writes N (.raw ⟨bracketed name expression, values⟩) name

variable {N : String → Prop}

/-- The SQL of an assignment begins with the column that it writes. -/
theorem Writes.text_eq {a : Assignment} {column : String} (h : a.Writes N column) (d : Dialect) :
    ∃ rest, (a.fragment d).text = d.quote column ++ " = " ++ rest := by
  cases h with
  | value column v => exact ⟨"?", by simp [fragment, String.append_assoc]⟩
  | raw expression values hN hne hb => exact ⟨d.wrap expression, wrap_bracketed d hb expression⟩

theorem Writes.target_eq {a : Assignment} {column : String} (h : a.Writes N column)
    (hN : ∀ n, N n → n ≠ "" → ']' ∉ n.toList → '=' ∉ n.toList) : a.target = column := by
  cases h with
  | value column v => rfl
  | raw expression values hn hne hb => exact target_bracketed (hN _ hn hne hb) expression values

end Assignment

namespace Query

open Assignment

/-- The UPDATE of a query assigns every column once, by the first assignment to it, where the time
of the change is assigned behind all others. `given` are the assignments of the query with the
columns that they write. -/
def AssignsFirst (c : Compiler) (now : Timestamp) (q : Query)
    (given : List (Assignment × String)) : Prop :=
  let all := given ++ [(stamp now, Column.modifiedName)]
  ∃ (table : String) (made : List (Assignment × String)) (r : Compiled),
    q.table = some table ∧ q.compile c now .action = .ok r ∧
    r.statement = .ofFragment c.dialect
      (⟨"UPDATE " ++ c.dialect.quote table ++ " SET " ++
        ", ".intercalate (made.map fun p => (p.1.fragment c.dialect).text),
        made.flatMap fun p => (p.1.fragment c.dialect).values⟩ ++ q.filterFragment c.dialect) ∧
    (∀ p ∈ made, ∃ rest, (p.1.fragment c.dialect).text = c.dialect.quote p.2 ++ " = " ++ rest) ∧
    made.Sublist all ∧
    ∀ column, (made.filter fun p => sameName p.2 column) =
      (all.find? fun p => sameName p.2 column).toList

variable {N : String → Prop}

theorem assignsFirst_of_writes (hN : ∀ n, N n → n ≠ "" → ']' ∉ n.toList → '=' ∉ n.toList)
    {c : Compiler} {now : Timestamp} {q : Query} {table : String}
    {given : List (Assignment × String)} (hq : q.action = .update) (ht : q.target = .ok table)
    (hg : q.assignments = given.map (·.1)) (hw : ∀ p ∈ given, p.1.Writes N p.2) :
    q.AssignsFirst c now given := by
  let all := given ++ [(stamp now, Column.modifiedName)]
  have hall : ∀ p ∈ all, p.1.Writes N p.2 := by
    intro p hp
    rcases List.mem_append.1 hp with hp | hp
    · exact hw p hp
    · rw [List.mem_singleton.1 hp]
      exact .value _ _
  have hmade : effective now q.assignments = (firstsBy (·.2) all).map (·.1) := by
    have hmap : q.assignments ++ [stamp now] = all.map (·.1) := by
      rw [hg, List.map_append]
      rfl
    rw [effective_eq, hmap, firstsBy_map]
    exact congrArg (List.map _) (firstsBy_congr fun p hp => (hall p hp).target_eq hN)
  refine ⟨table, firstsBy (·.2) all, _, target_eq_some ht, compile_update hq ht, ?_, fun p hp => ?_,
    firstsBy_sublist all, fun column => filter_firstsBy column all⟩
  · rw [updateFragment_eq, hmade, List.map_map, List.flatMap_map]
    rfl
  · exact (hall p ((firstsBy_sublist all).subset hp)).text_eq c.dialect

/-- An assignment that names its column between brackets and one that gives the column a value are
both made if the name holds `=`. -/
theorem mem_effective_of_bracketed {name : String} (he : '=' ∈ name.toList) (now : Timestamp)
    (expression : String) (values : List Value) (v : Value) :
    Assignment.value name v ∈
      effective now [Assignment.raw ⟨bracketed name expression, values⟩, .value name v] := by
  have hne : sameName (Assignment.raw ⟨bracketed name expression, values⟩).target name = false := by
    rw [← Bool.not_eq_true, sameName_target_bracketed_iff]
    exact not_not_intro he
  rw [effective_eq, List.cons_append, firstsBy_cons]
  refine .tail _ (List.mem_filter.2 ⟨?_, ?_⟩)
  · rw [List.cons_append, firstsBy_cons]
    exact .head _
  · show (!sameName _ name) = true
    rw [hne]
    rfl

/-- So the second of the two is not dropped, though the column is assigned already. -/
theorem not_assignsFirst_of_bracketed {name : String} (he : '=' ∈ name.toList) (c : Compiler)
    (now : Timestamp) :
    let raw := Assignment.raw ⟨bracketed name "1", []⟩
    let late := Assignment.value name .null
    ¬ (((Query.ofTable "t").assign raw).assign late).AssignsFirst c now
      [(raw, name), (late, name)] := by
  intro raw late
  rintro ⟨table, made, r, -, hc, hs, -, hsub, hcol⟩
  have hlate : .null ∈ r.statement.values := by
    have hm : late ∈ effective now [raw, late] := mem_effective_of_bracketed he now "1" [] .null
    rw [values_update rfl rfl hc]
    exact List.mem_append_left _ (List.mem_flatMap.2 ⟨late, hm, .head _⟩)
  rw [hs, Statement.values_ofFragment] at hlate
  have hnull : .null ∈ made.flatMap fun p => (p.1.fragment c.dialect).values := by
    rcases List.mem_append.1 hlate with h | h
    · exact h
    · cases h
  obtain ⟨p, hp, hv⟩ := List.mem_flatMap.1 hnull
  have hall : p ∈ [(raw, name), (late, name), (stamp now, Column.modifiedName)] := hsub.subset hp
  simp only [List.mem_cons, List.not_mem_nil, or_false] at hall
  rcases hall with h | h | h
  · have hn : (p.1.fragment c.dialect).values = [] := by rw [h]; rfl
    rw [hn] at hv
    cases hv
  · -- it is made beside the assignment that comes first
    have hf : p ∈ made.filter fun p => sameName p.2 name :=
      List.mem_filter.2 ⟨hp, by rw [h]; exact sameName_refl name⟩
    have hfind : ([(raw, name), (late, name)] ++ [(stamp now, Column.modifiedName)]).find?
        (fun p => sameName p.2 name) = some (raw, name) :=
      List.find?_cons_of_pos (sameName_refl name)
    rw [hcol name, hfind, h] at hf
    have hsame : late = raw := congrArg Prod.fst (List.mem_singleton.1 hf)
    exact Assignment.noConfusion hsame
  · have hn : (p.1.fragment c.dialect).values = [.timestamp now] := by rw [h]; rfl
    rw [hn] at hv
    cases List.mem_singleton.1 hv

/-- **How an assignment is spelled.** Every column is assigned once, by the first assignment to it,
in every UPDATE whose raw assignments name their columns between brackets: this holds where no name
that stands there holds `=`, and only there. -/
theorem update_assigns_first_iff (N : String → Prop) :
    (∀ (c : Compiler) (now : Timestamp) (q : Query) (table : String)
        (given : List (Assignment × String)), q.action = .update → q.target = .ok table →
        q.assignments = given.map (·.1) → (∀ p ∈ given, p.1.Writes N p.2) →
        q.AssignsFirst c now given) ↔
      ∀ n, N n → n ≠ "" → ']' ∉ n.toList → '=' ∉ n.toList := by
  constructor
  · intro h n hn hne hb he
    let now : Timestamp := ⟨2024, 1, 1, 0, 0, 0, 0, by decide⟩
    let raw := Assignment.raw ⟨bracketed n "1", []⟩
    let late := Assignment.value n .null
    have hw : ∀ p ∈ [(raw, n), (late, n)], p.1.Writes N p.2 := by
      intro p hp
      simp only [List.mem_cons, List.not_mem_nil, or_false] at hp
      rcases hp with rfl | rfl
      · exact .raw "1" [] hn hne hb
      · exact .value n .null
    exact not_assignsFirst_of_bracketed he ⟨.sqlite, false⟩ now
      (h _ _ (((Query.ofTable "t").assign raw).assign late) "t" _ rfl rfl rfl hw)
  · intro hN c now q table given hq ht hg hw
    exact assignsFirst_of_writes hN hq ht hg hw

/-- Two raw assignments to columns whose names agree up to their `=`: the second is lost. -/
theorem update_loses_assignment : ∃ (q : Query) (now : Timestamp) (r : Compiled),
    q.assignments = [.raw ⟨bracketed "a=b" "1", []⟩, .raw ⟨bracketed "a=c" "2", []⟩] ∧
      q.compile ⟨.sqlite, false⟩ now .action = .ok r ∧
      r.statement.sql = "UPDATE \"t\" SET \"a=b\" = 1, \"LastModifiedDate\" = ?1" ∧
      r.statement.values = [.timestamp now] := by
  let now : Timestamp := ⟨2024, 1, 1, 0, 0, 0, 0, by decide⟩
  let q := ((Query.ofTable "t").setRaw "[a=b] = 1" []).setRaw "[a=c] = 2" []
  exact ⟨q, now, _, by decide +kernel, compile_update rfl rfl, by decide +kernel, by decide +kernel⟩

end Query

end Polydialect
