import Polydialect.Proofs.Planning

/-!
# The tokens of an index

A token of an index is the name of a column, with a direction behind it or none. A token names a
direction if its last word is `asc` or `desc`, in whatever case, and a name stands before it
(`Schema.Directs`); every other token is a name.

* `Schema.readToken_eq_iff`: what a token is read as, for every token;
* `Schema.createIndex_lists_tokens`: the statement lists what its tokens are read as, in order, and
  is refused exactly without tokens or with an invalid name.
-/

namespace Polydialect

namespace Text

variable {c : Char} {s : List Char}

theorem toLower_of_isBlank (h : isBlank c = true) : c.toLower = c := by
  delta Char.toLower
  rw [dif_neg]
  rintro ⟨hl, hg⟩
  have hlow : 65 ≤ c.toNat := UInt32.le_iff_toNat_le.1 hl
  have hhigh : c.toNat ≤ 90 := UInt32.le_iff_toNat_le.1 hg
  rw [isBlank_of_printing (by omega) (by omega)] at h
  cases h

/-- A text has no blank, or it has a last one. -/
theorem solid_or_exists_blank (s : List Char) :
    (∀ c ∈ s, isBlank c = false) ∨ ∃ front c word, s = front ++ c :: word ∧ isBlank c = true ∧
      ∀ x ∈ word, isBlank x = false := by
  induction s with
  | nil => exact .inl fun c hc => absurd hc List.not_mem_nil
  | cons c s ih =>
    rcases ih with hs | ⟨front, b, word, rfl, hb, hword⟩
    · cases hc : isBlank c with
      | false => exact .inl (List.forall_mem_cons.2 ⟨hc, hs⟩)
      | true => exact .inr ⟨[], c, s, rfl, hc, hs⟩
    · exact .inr ⟨c :: front, b, word, rfl, hb, hword⟩

end Text

namespace Schema

open Text

/-- A text of blanks alone. -/
def IsBlanks (s : String) : Prop := ∀ c ∈ s.toList, isBlank c = true

instance (s : String) : Decidable (IsBlanks s) :=
  inferInstanceAs (Decidable (∀ c ∈ s.toList, isBlank c = true))

/-- A token that names a direction: a name, blanks, and the word of the direction in whatever case,
perhaps with blanks around it all. -/
inductive Directs : String → Order → Prop
  | intro {before name blanks word after : String} {direction : Direction}
      (hbefore : IsBlanks before) (hne : name ≠ "") (hname : trim name = name)
      (hgap : blanks ≠ "") (hblanks : IsBlanks blanks)
      (hword : sameName word direction.text = true) (hafter : IsBlanks after) :
      Directs (before ++ name ++ blanks ++ word ++ after) ⟨name, direction⟩

/-- A token whose last word is given. -/
inductive EndsIn : String → String → Prop
  | intro {front word after : String}
      (hfront : front = "" ∨ ∃ r c, front.toList = r ++ [c] ∧ isBlank c = true)
      (hne : word ≠ "") (hword : ∀ c ∈ word.toList, isBlank c = false) (hafter : IsBlanks after) :
      EndsIn (front ++ word ++ after) word

variable {token name word : String} {direction : Direction} {o : Order}

/-! ## Words and blanks -/

theorem cutLastBlank?_append {c : Char} {front word : List Char} (hc : isBlank c = true)
    (hword : ∀ x ∈ word, isBlank x = false) :
    cutLastBlank? (front ++ c :: word) = some (front, word) := by
  have hreverse : (front ++ c :: word).reverse = word.reverse ++ c :: front.reverse := by simp
  have htaken : ∀ x ∈ word.reverse, (!isBlank x) = true := by simpa using hword
  have htake : (word.reverse ++ c :: front.reverse).takeWhile (fun c => !isBlank c) =
      word.reverse := by
    rw [List.takeWhile_append_of_pos htaken]
    simp [hc]
  have hdrop : (word.reverse ++ c :: front.reverse).dropWhile (fun c => !isBlank c) =
      c :: front.reverse := by
    rw [List.dropWhile_append_of_pos htaken]
    simp [hc]
  rw [cutLastBlank?, hreverse, htake, hdrop, List.reverse_reverse]
  exact congrArg (fun f => some (f, word)) front.reverse_reverse

theorem cutLastBlank?_of_solid {s : List Char} (h : ∀ c ∈ s, isBlank c = false) :
    cutLastBlank? s = none := by
  have hsolid : ∀ c ∈ s.reverse, (!isBlank c) = true := by simpa using h
  have hdrop : (s.reverse ++ []).dropWhile (fun c => !isBlank c) = [].dropWhile _ :=
    List.dropWhile_append_of_pos hsolid
  rw [List.append_nil] at hdrop
  rw [cutLastBlank?, hdrop]
  rfl

theorem directionOf?_eq_some_iff {word : List Char} :
    directionOf? word = some direction ↔ sameName (.ofList word) direction.text = true := by
  have hlower : lowerAscii (.ofList word) = .ofList (word.map Char.toLower) := by
    rw [lowerAscii, String.toList_ofList]
  have hdesc : lowerAscii "DESC" = "desc" := by decide
  have hasc : lowerAscii "ASC" = "asc" := by decide
  rw [sameName, hlower, beq_iff_eq, directionOf?]
  generalize String.ofList (word.map Char.toLower) = small
  split
  · cases direction <;> simp [Direction.text, hdesc, hasc]
  · cases direction <;> simp [Direction.text, hdesc, hasc]
  · rename_i hnotDesc hnotAsc
    refine iff_of_false (by simp) fun hword => ?_
    cases direction with
    | asc => exact hnotAsc (hword.trans hasc)
    | desc => exact hnotDesc (hword.trans hdesc)

/-- A word that names a direction has no blank. -/
theorem solid_of_sameName (h : sameName word direction.text = true) :
    ∀ c ∈ word.toList, isBlank c = false := by
  intro c hc
  have hall : (lowerAscii direction.text).toList.all (!isBlank ·) = true := by
    cases direction <;> decide
  have hletters : ∀ x ∈ (lowerAscii direction.text).toList, isBlank x = false := fun x hx =>
    Bool.not_eq_true' _ ▸ List.all_eq_true.1 hall x hx
  rw [sameName, beq_iff_eq] at h
  have hmem : c.toLower ∈ (lowerAscii word).toList := by
    rw [lowerAscii, String.toList_ofList]
    exact List.mem_map_of_mem hc
  have hlower := hletters _ (h ▸ hmem)
  refine Bool.eq_false_iff.2 fun hblank => ?_
  rw [toLower_of_isBlank hblank, hblank] at hlower
  cases hlower

theorem ne_empty_of_sameName (h : sameName word direction.text = true) : word ≠ "" := by
  rintro rfl
  cases direction <;> exact absurd h (by decide)

theorem exists_eq_concat {s : String} (h : s ≠ "") : ∃ r c, s.toList = r ++ [c] := by
  have hne : s.toList ≠ [] := by simpa using h
  exact ⟨_, _, (List.dropLast_concat_getLast hne).symm⟩

/-- A token has no other last word. -/
theorem EndsIn.eq_lastWord (h : EndsIn token word) :
    word = .ofList ((dropBlanks token.toList.reverse).takeWhile fun c => !isBlank c).reverse := by
  obtain @⟨front, word, after, hfront, hne, hword, hafter⟩ := h
  obtain ⟨r, w, hlast⟩ := exists_eq_concat hne
  have hw : isBlank w = false := hword w (by simp [hlast])
  have hsolid : ∀ c ∈ word.toList.reverse, (!isBlank c) = true := by simpa using hword
  have hfrontTake : front.toList.reverse.takeWhile (fun c => !isBlank c) = [] := by
    rcases hfront with rfl | ⟨r, c, hr, hc⟩
    · rfl
    · simp [hr, hc]
  have hdrop : dropBlanks (front ++ word ++ after).toList.reverse =
      word.toList.reverse ++ front.toList.reverse := by
    have hafterReverse : ∀ c ∈ after.toList.reverse, isBlank c = true := fun c hc =>
      hafter c (List.mem_reverse.1 hc)
    have hreverse : (front ++ word ++ after).toList.reverse =
        after.toList.reverse ++ (word.toList.reverse ++ front.toList.reverse) := by simp
    rw [hreverse, dropBlanks_append hafterReverse, hlast, List.reverse_append, List.append_assoc]
    exact dropBlanks_append_cons hw [] _
  rw [hdrop, List.takeWhile_append_of_pos hsolid, hfrontTake, List.append_nil, List.reverse_reverse,
    String.ofList_toList]

/-! ## Reading a token -/

/-- What a token is read as when the text that is left of it is cut at its last blank. -/
theorem readToken_eq {front word : List Char} {c : Char}
    (htrim : trimmed token.toList = front ++ c :: word) (hc : isBlank c = true)
    (hword : ∀ x ∈ word, isBlank x = false) :
    readToken token = ((directionOf? word).map fun direction =>
      ⟨.ofList (dropBlanksRight front), direction⟩).getD ⟨trim token, .asc⟩ := by
  have hcut : cutLastBlank? (trimmed token.toList) = some (front, word) := by
    rw [htrim, cutLastBlank?_append hc hword]
  rw [readToken, hcut, trim]
  simp only [Option.bind_eq_bind, Option.bind_some]
  cases directionOf? word <;> rfl

theorem readToken_of_directs (h : Directs token o) : readToken token = o := by
  obtain @⟨before, name, blanks, word, after, direction, hbefore, hne, hname, hgap, hblanks, hword,
    hafter⟩ := h
  obtain ⟨gap, c, hend⟩ := exists_eq_concat hgap
  obtain ⟨r, w, hlast⟩ := exists_eq_concat (ne_empty_of_sameName hword)
  have hsolid := solid_of_sameName hword
  have hnameList : trimmed name.toList = name.toList := by
    simpa [trim] using congrArg String.toList hname
  obtain ⟨⟨x, t, hx, hxBlank⟩, u, y, hy, hyBlank⟩ :=
    (trimmed_eq_self_iff (by simpa using hne)).1 hnameList
  rw [IsBlanks, hend, List.forall_mem_append, List.forall_mem_singleton] at hblanks
  -- the token starts with that of the name, and ends with that of the word
  have htrim : trimmed (before ++ name ++ blanks ++ word ++ after).toList =
      (name.toList ++ gap) ++ c :: word.toList := by
    have hmiddle : (before ++ name ++ blanks ++ word ++ after).toList =
        before.toList ++ ((name.toList ++ gap) ++ c :: word.toList) ++ after.toList := by
      simp [hend]
    rw [hmiddle, trimmed_around hbefore hafter, trimmed_eq_self_iff (by simp)]
    exact ⟨⟨x, t ++ gap ++ c :: word.toList, by simp [hx], hxBlank⟩,
      name.toList ++ gap ++ c :: r, w, by simp [hlast], hsolid w (by simp [hlast])⟩
  have hkept : dropBlanksRight (name.toList ++ gap) = name.toList := by
    rw [dropBlanksRight_append hblanks.1, hy]
    exact dropBlanksRight_append_cons hyBlank u []
  have hdirection : directionOf? word.toList = some direction := by
    rw [directionOf?_eq_some_iff, String.ofList_toList]
    exact hword
  rw [readToken_eq htrim hblanks.2 hsolid, hdirection, hkept, String.ofList_toList]
  rfl

/-- A token that is left with a direction behind its last blank has a name before it. -/
theorem directs_of_directionOf? {front word : List Char} {c : Char}
    (htrim : trimmed token.toList = front ++ c :: word) (hc : isBlank c = true)
    (hdirection : directionOf? word = some direction) :
    Directs token ⟨.ofList (dropBlanksRight front), direction⟩ := by
  obtain ⟨before, after, hbefore, hafter, htoken⟩ := exists_around token.toList
  obtain ⟨gap, hgap, hfront⟩ := exists_dropBlanksRight front
  -- what is left of the token starts with a character that is no blank, so with one of the name
  obtain ⟨x, t, hx, hxBlank⟩ : ∃ x t, front = x :: t ∧ isBlank x = false := by
    have hself : trimmed (front ++ c :: word) = front ++ c :: word := by
      rw [← htrim, trimmed_trimmed]
    obtain ⟨⟨x, t, hx, hxBlank⟩, -⟩ := (trimmed_eq_self_iff (by simp)).1 hself
    cases front with
    | nil =>
      obtain rfl : c = x := (List.cons.inj hx).1
      rw [hc] at hxBlank
      cases hxBlank
    | cons x' t' => exact ⟨x', t', rfl, (List.cons.inj hx).1 ▸ hxBlank⟩
  have hne : dropBlanksRight front ≠ [] := by
    rw [hx]
    exact ne_of_eq_of_ne (dropBlanksRight_append_cons hxBlank [] t) (List.cons_ne_nil _ _)
  have hname : trimmed (dropBlanksRight front) = dropBlanksRight front := by
    have hkept : dropBlanks front = front := by
      rw [hx]
      exact dropBlanks_append_cons hxBlank [] t
    have hleft : dropBlanksRight front = trimmed front := by rw [trimmed, hkept]
    rw [hleft, trimmed_trimmed]
  have hsplit : front ++ c :: word = dropBlanksRight front ++ (gap ++ [c]) ++ word := by
    conv_lhs => rw [hfront]
    simp
  have htext : token = .ofList before ++ .ofList (dropBlanksRight front) ++ .ofList (gap ++ [c]) ++
      .ofList word ++ .ofList after := by
    rw [← String.toList_inj, htoken, htrim, hsplit]
    simp
  rw [htext]
  exact .intro (by simpa [IsBlanks] using hbefore) (by simpa using hne)
    (by rw [trim, String.toList_ofList, hname]) (by simp)
    (by simpa [IsBlanks, or_imp, forall_and, hc] using hgap)
    (directionOf?_eq_some_iff.1 hdirection) (by simpa [IsBlanks] using hafter)

theorem readToken_of_not_directs (h : ∀ o, ¬ Directs token o) :
    readToken token = ⟨trim token, .asc⟩ := by
  rcases solid_or_exists_blank (trimmed token.toList) with hsolid | ⟨front, c, word, htrim, hc, hword⟩
  · rw [readToken, cutLastBlank?_of_solid hsolid, trim]
    rfl
  · rw [readToken_eq htrim hc hword]
    cases hdirection : directionOf? word with
    | none => rfl
    | some direction => exact absurd (directs_of_directionOf? htrim hc hdirection) (h _)

/-- **What a token is read as.** -/
theorem readToken_eq_iff :
    readToken token = o ↔ Directs token o ∨ (∀ o, ¬ Directs token o) ∧ o = ⟨trim token, .asc⟩ := by
  constructor
  · rintro rfl
    by_cases h : ∃ o, Directs token o
    · obtain ⟨o, ho⟩ := h
      exact .inl (readToken_of_directs ho ▸ ho)
    · have hnone := not_exists.1 h
      exact .inr ⟨hnone, readToken_of_not_directs hnone⟩
  · rintro (h | ⟨h, rfl⟩)
    · exact readToken_of_directs h
    · exact readToken_of_not_directs h

theorem Directs.endsIn (h : Directs token o) :
    ∃ word, EndsIn token word ∧ sameName word o.direction.text = true := by
  obtain @⟨before, name, blanks, word, after, direction, -, -, -, hgap, hblanks, hword, hafter⟩ := h
  obtain ⟨gap, c, hend⟩ := exists_eq_concat hgap
  have hc : isBlank c = true := hblanks c (by simp [hend])
  have hfront : (before ++ name ++ blanks).toList = before.toList ++ name.toList ++ gap ++ [c] := by
    simp [hend]
  exact ⟨word, .intro (.inr ⟨_, c, hfront, hc⟩) (ne_empty_of_sameName hword)
    (solid_of_sameName hword) hafter, hword⟩

/-- A token whose last word is no direction is a name. -/
theorem readToken_of_endsIn
    (h : ∀ word, EndsIn token word → ∀ direction : Direction, ¬ sameName word direction.text = true) :
    readToken token = ⟨trim token, .asc⟩ :=
  readToken_of_not_directs fun o ho =>
    let ⟨word, hword, hdirection⟩ := ho.endsIn
    h word hword o.direction hdirection

/-! ## The statement -/

section

variable {d : Dialect} {table index : String} {tokens : List String} {α β : Type}

/-- If there is a failure, it is a mistake of the caller. -/
def FailsByMisuse (r : Except Error α) : Prop := ∀ e, r = .error e → ∃ cause, e = .misuse cause

theorem FailsByMisuse.ok (a : α) : FailsByMisuse (.ok a) := fun _ h => by cases h

theorem FailsByMisuse.bind {x : Except Error α} {f : α → Except Error β} (hx : FailsByMisuse x)
    (hf : ∀ a, FailsByMisuse (f a)) : FailsByMisuse (x >>= f) := by
  cases x with
  | error e => exact fun e' h => hx e' (by cases h; rfl)
  | ok a => exact hf a

theorem failsByMisuse_check (name : String) : FailsByMisuse (Identifier.check name) := by
  intro e h
  unfold Identifier.check at h
  split at h
  · cases h
  · cases h
    exact ⟨_, rfl⟩

theorem failsByMisuse_readTokens (tokens : List String) : FailsByMisuse (readTokens tokens) := by
  induction tokens with
  | nil => exact .ok _
  | cons t tokens ih => exact (failsByMisuse_check _).bind fun _ => ih.bind fun _ => .ok _

theorem failsByMisuse_createIndex (d : Dialect) (table index : String) (tokens : List String) :
    FailsByMisuse (createIndex d table index tokens) := by
  refine (failsByMisuse_check _).bind fun _ => (failsByMisuse_check _).bind fun _ => ?_
  cases tokens with
  | nil =>
    intro e h
    cases h
    exact ⟨_, rfl⟩
  | cons t tokens => exact (failsByMisuse_readTokens _).bind fun _ => .ok _

/-- What an index has to be given: tokens, and valid names. -/
structure IsIndex (table index : String) (tokens : List String) : Prop where
  nonempty : tokens ≠ []
  table : Identifier.Valid table
  index : Identifier.Valid index
  columns : ∀ t ∈ tokens, Identifier.Valid (readToken t).column

theorem exists_createIndex_iff :
    (∃ text, createIndex d table index tokens = .ok text) ↔ IsIndex table index tokens := by
  constructor
  · rintro ⟨text, h⟩
    obtain ⟨htable, hindex, hne, hcolumns, -⟩ := createIndex_eq_ok_iff.1 h
    exact ⟨hne, htable, hindex, hcolumns⟩
  · rintro ⟨hne, htable, hindex, hcolumns⟩
    exact ⟨_, createIndex_eq_ok_iff.2 ⟨htable, hindex, hne, hcolumns, rfl⟩⟩

theorem exists_misuse_iff :
    (∃ cause, createIndex d table index tokens = .error (.misuse cause)) ↔
      ¬ IsIndex table index tokens := by
  rw [← @exists_createIndex_iff d]
  cases h : createIndex d table index tokens with
  | ok text => simp
  | error e =>
    obtain ⟨cause, rfl⟩ := failsByMisuse_createIndex d table index tokens e h
    simp

/-- **An index lists what its tokens are read as.** A token is read as a name and a direction if it
has both, in whatever case and with whatever blanks between and around them; a token whose last word
is no direction is read as a name, ascending, blanks inside it kept. The statement names the index
and its table and lists what the tokens are read as, one after the other. It is refused, as a
mistake of the caller, exactly if there is no token or if one of these names is invalid. -/
theorem createIndex_lists_tokens (d : Dialect) (table index : String) (tokens : List String) :
    (∀ token o, readToken token = o ↔
      Directs token o ∨ (∀ o', ¬ Directs token o') ∧ o = ⟨trim token, .asc⟩) ∧
    (∀ token, (∀ word, EndsIn token word →
      ∀ direction : Direction, ¬ sameName word direction.text = true) →
        readToken token = ⟨trim token, .asc⟩) ∧
    ((∃ text, createIndex d table index tokens = .ok text) ↔ IsIndex table index tokens) ∧
    (∀ text, createIndex d table index tokens = .ok text →
      text = indexText d table index (tokens.map readToken) ∧
      Sql.lex d.delimiters text = indexTokens table index (tokens.map readToken)) ∧
    ((∃ cause, createIndex d table index tokens = .error (.misuse cause)) ↔
      ¬ IsIndex table index tokens) := by
  refine ⟨fun token o => readToken_eq_iff, fun token => readToken_of_endsIn,
    exists_createIndex_iff, fun text h => ?_, exists_misuse_iff⟩
  obtain ⟨-, -, -, -, rfl⟩ := createIndex_eq_ok_iff.1 h
  exact ⟨rfl, (phrase_indexText d table index _).tokens⟩

/-- A token with a direction, and one that only ends like it. -/
private def listed : List String := [" Last Name\u3000\t dEsC ", "in  desc_"]

theorem createIndex_lists_tokens_names :
    readToken " Last Name\u3000\t dEsC " = ⟨"Last Name", .desc⟩ ∧
    readToken "in  desc_" = ⟨"in  desc_", .asc⟩ ∧
    createIndex .sqlite "Posts" "IX" listed =
      .ok "CREATE INDEX \"IX\" ON \"Posts\" (\"Last Name\" DESC, \"in  desc_\" ASC)" ∧
    ¬ ∃ cause, createIndex .sqlite "Posts" "IX" listed = .error (.misuse cause) := by
  obtain ⟨hread, hname, -, htext, hmisuse⟩ :=
    createIndex_lists_tokens .sqlite "Posts" "IX" listed
  have hdirects : Directs (" " ++ "Last Name" ++ "\u3000\t " ++ "dEsC" ++ " ") ⟨"Last Name", .desc⟩ :=
    .intro (List.all_eq_true.1 (by decide)) (by decide) (by decide) (by decide)
      (List.all_eq_true.1 (by decide)) (by decide) (List.all_eq_true.1 (by decide))
  have hlist : listed.map readToken = [⟨"Last Name", .desc⟩, ⟨"in  desc_", .asc⟩] := by decide
  have hindex : IsIndex "Posts" "IX" listed := ⟨by decide, by decide, by decide, by decide⟩
  obtain ⟨text, hok⟩ := exists_createIndex_iff.2 hindex
  refine ⟨(hread _ _).2 (.inl hdirects), hname _ fun word hword direction => ?_, ?_,
    fun hfails => hmisuse.1 hfails hindex⟩
  · rw [hword.eq_lastWord]
    cases direction <;> decide
  · rw [hok, (htext text hok).1, hlist]
    decide

end

end Schema

end Polydialect
