import Mathlib.Data.List.Basic
import Polydialect.Connection

/-!
# Connection strings made of pairs

Pairs of a key and a value are written one after the other, with semicolons between them
(`ConnectionInfo.pairsText`). What they tell is the value of the key that goes first among those
that are there, and of its first pair (`ConnectionInfo.Says`). Blanks around keys and values do not
count, nor does the ASCII case of a key.

* `ConnectionInfo.pairs_pairsText`: the pairs are read from their text, whatever stands in a value;
* `ConnectionInfo.says_firstOf`: looking up the keys in their order gives what the pairs tell;
* `ConnectionInfo.tells_pairs_iff`: the text is read so where no value holds `://`; what stands
  behind the first one is otherwise read as a URL (`ConnectionInfo.password_read_as_url`).
-/

namespace Polydialect

namespace Text

variable {c : Char} {word front rest : List Char}

/-- A word goes no further than to a character that it does not hold. -/
theorem prefix_of_prefix_append_cons (front : List Char) (hc : c ∉ word)
    (h : word <+: front ++ c :: rest) : word <+: front := by
  have hsplit : front ++ c :: rest = (front ++ [c]) ++ rest := by simp
  rw [hsplit] at h
  rcases List.prefix_or_prefix_of_prefix h (List.prefix_append _ rest) with h' | h'
  · rcases List.prefix_concat_iff.1 h' with rfl | hstart
    · simp at hc
    · exact hstart
  · exact absurd (h'.subset (by simp)) hc

/-- A word stands on one side of a character that it does not hold. -/
theorem infix_append_cons_iff (hne : word ≠ []) (hc : c ∉ word) :
    word <:+: front ++ c :: rest ↔ word <:+: front ∨ word <:+: rest := by
  induction front with
  | nil =>
    have hfirst : ¬ word <+: c :: rest := fun h =>
      hne (List.prefix_nil.1 (prefix_of_prefix_append_cons [] hc h))
    simp [List.infix_cons_iff, hne, hfirst]
  | cons x front ih =>
    have hfirst : word <+: x :: (front ++ c :: rest) ↔ word <+: x :: front :=
      ⟨prefix_of_prefix_append_cons (x :: front) hc,
        fun h => h.trans (List.prefix_append (x :: front) _)⟩
    rw [List.cons_append, List.infix_cons_iff, hfirst, ih, List.infix_cons_iff, or_assoc]

theorem infix_intercalate_iff (hne : word ≠ []) (hc : c ∉ word) {parts : List (List Char)} :
    word <:+: List.intercalate [c] parts ↔ ∃ part ∈ parts, word <:+: part := by
  induction parts with
  | nil => simp [hne]
  | cons part parts ih =>
    cases parts with
    | nil => simp
    | cons part' parts =>
      rw [List.intercalate_cons_cons, List.append_assoc, List.singleton_append,
        infix_append_cons_iff hne hc, ih]
      exact (List.exists_mem_cons_iff _ part _).symm

theorem intercalate_append_cons (sep a b : List Char) (parts : List (List Char)) :
    List.intercalate sep ((a ++ b) :: parts) = a ++ List.intercalate sep (b :: parts) := by
  cases parts <;> simp [List.intercalate_cons_cons]

/-- The parts up to a place in one of them, and the parts from there on. -/
theorem intercalate_split (sep : List Char) (parts : List (List Char)) (a b : List Char)
    (parts' : List (List Char)) :
    List.intercalate sep (parts ++ (a ++ b) :: parts') =
      List.intercalate sep (parts ++ [a]) ++ List.intercalate sep (b :: parts') := by
  induction parts with
  | nil => simp [intercalate_append_cons]
  | cons part parts ih =>
    cases parts <;> simp_all [List.intercalate_cons_cons]

end Text

namespace ConnectionInfo

open Text

/-! ## Pairs and their text -/

/-- A pair as it is written. -/
def pairText (p : String × String) : String := p.1 ++ "=" ++ p.2

/-- Pairs as a connection string. -/
def pairsText (ps : List (String × String)) : String := ";".intercalate (ps.map pairText)

/-- A pair whose parts can be told apart in the text of pairs: its key ends at the first equals
sign, and its value at the next semicolon. -/
structure IsPair (p : String × String) : Prop where
  key : '=' ∉ p.1.toList ∧ ';' ∉ p.1.toList ∧ ':' ∉ p.1.toList
  value : ';' ∉ p.2.toList

instance (p : String × String) : Decidable (IsPair p) :=
  decidable_of_iff (('=' ∉ p.1.toList ∧ ';' ∉ p.1.toList ∧ ':' ∉ p.1.toList) ∧ ';' ∉ p.2.toList)
    ⟨fun h => ⟨h.1, h.2⟩, fun h => ⟨h.key, h.value⟩⟩

/-- The pair stands under a key, whatever the case of its letters and the blanks around it. -/
def IsUnder (key : String) (p : String × String) : Prop := sameName (trim p.1) key = true

/-- What pairs tell under the first of some keys that is there: the value of its first pair without
blanks around it, and nothing if none is there. -/
inductive Says (ps : List (String × String)) : List String → String → Prop
  | absent : Says ps [] ""
  | present {key : String} {keys : List String} {front back : List (String × String)}
      {p : String × String} (hps : ps = front ++ p :: back) (hfirst : ∀ q ∈ front, ¬ IsUnder key q)
      (hp : IsUnder key p) : Says ps (key :: keys) (trim p.2)
  | later {key : String} {keys : List String} {value : String} (habsent : ∀ q ∈ ps, ¬ IsUnder key q)
      (h : Says ps keys value) : Says ps (key :: keys) value

/-- What pairs tell of a database. -/
structure Tells (ps : List (String × String)) (info : ConnectionInfo) : Prop where
  owner : Says ps ownerKeys info.owner
  databaseName : Says ps databaseKeys info.databaseName

variable {ps : List (String × String)} {p : String × String}

theorem toList_pairText (p : String × String) :
    (pairText p).toList = p.1.toList ++ '=' :: p.2.toList := by
  simp [pairText]

theorem toList_pairsText (ps : List (String × String)) :
    (pairsText ps).toList = List.intercalate [';'] (ps.map fun p => (pairText p).toList) := by
  rw [pairsText, String.toList_intercalate, List.map_map]
  rfl

/-! ## Reading the pairs -/

/-- A pair as it is looked up: its key in small letters, and both parts without blanks. -/
def looked (p : List Char × List Char) : String × String :=
  (.ofList ((trimmed p.1).map Char.toLower), .ofList (trimmed p.2))

theorem pairs_eq (s : List Char) :
    pairs s = (pieces ';' s).filterMap fun piece => (cut? '=' piece).map looked := rfl

theorem pairs_pairsText (hne : ps ≠ []) (hps : ∀ p ∈ ps, IsPair p) :
    pairs (pairsText ps).toList = ps.map fun p => looked (p.1.toList, p.2.toList) := by
  have hpieces : ∀ piece ∈ ps.map fun p => (pairText p).toList, ';' ∉ piece := by
    intro piece hpiece
    obtain ⟨p, hp, rfl⟩ := List.mem_map.1 hpiece
    simp [toList_pairText, (hps p hp).key, (hps p hp).value]
  rw [pairs_eq, toList_pairsText, pieces_intercalate (by simpa using hne) hpieces,
    List.filterMap_map]
  refine List.filterMap_eq_map_iff_forall_eq_some.2 fun p hp => ?_
  simp [toList_pairText, cut?_append (hps p hp).key.1]

/-! ### Blanks around the pairs -/

theorem looked_congr {k k' v v' : List Char} (hk : trimmed k = trimmed k')
    (hv : trimmed v = trimmed v') : looked (k, v) = looked (k', v') := by
  rw [looked, looked, hk, hv]

/-- A blank in front of the pairs belongs to a key. -/
theorem pairs_cons_blank {c : Char} (hc : isBlank c = true) (s : List Char) :
    pairs (c :: s) = pairs s := by
  have hsemicolon : c ≠ ';' := ne_of_isBlank hc rfl
  have hequals : c ≠ '=' := ne_of_isBlank hc rfl
  have hcut (piece : List Char) :
      (cut? '=' (c :: piece)).map looked = (cut? '=' piece).map looked := by
    rw [cut?, if_neg hequals, Option.map_map]
    exact congrArg (Option.map · _) (funext fun p => looked_congr (trimmed_cons hc p.1) rfl)
  rw [pairs_eq, pairs_eq, pieces, if_neg hsemicolon]
  cases pieces ';' s with
  | nil => simp [cut?, hequals]
  | cons piece rest => simp only [List.filterMap_cons, hcut]

theorem cut?_concat {sep c : Char} (hc : c ≠ sep) (s : List Char) :
    cut? sep (s ++ [c]) = (cut? sep s).map fun p => (p.1, p.2 ++ [c]) := by
  induction s with
  | nil => simp [cut?, hc]
  | cons x s ih =>
    rw [List.cons_append, cut?, cut?, ih]
    split
    · rfl
    · simp [Option.map_map, Function.comp_def]

/-- A character that is no separator goes to the last piece. -/
theorem pieces_concat {sep c : Char} (hc : c ≠ sep) (s : List Char) :
    ∃ init last, pieces sep s = init ++ [last] ∧ pieces sep (s ++ [c]) = init ++ [last ++ [c]] := by
  induction s with
  | nil => exact ⟨[], [], rfl, by simp [pieces, hc]⟩
  | cons x s ih =>
    obtain ⟨init, last, hs, hconcat⟩ := ih
    rw [List.cons_append, pieces, pieces, hs, hconcat]
    split
    · exact ⟨[] :: init, last, rfl, rfl⟩
    · cases init with
      | nil => exact ⟨[], x :: last, rfl, rfl⟩
      | cons piece init => exact ⟨(x :: piece) :: init, last, rfl, rfl⟩

/-- A blank behind the pairs belongs to a value. -/
theorem pairs_concat_blank {c : Char} (hc : isBlank c = true) (s : List Char) :
    pairs (s ++ [c]) = pairs s := by
  have hsemicolon : c ≠ ';' := ne_of_isBlank hc rfl
  have hequals : c ≠ '=' := ne_of_isBlank hc rfl
  have hcut (piece : List Char) :
      (cut? '=' (piece ++ [c])).map looked = (cut? '=' piece).map looked := by
    rw [cut?_concat hequals, Option.map_map]
    exact congrArg (Option.map · _) (funext fun p => looked_congr rfl (trimmed_concat hc p.2))
  obtain ⟨init, last, hs, hconcat⟩ := pieces_concat hsemicolon s
  rw [pairs_eq, pairs_eq, hs, hconcat, List.filterMap_append, List.filterMap_append]
  simp only [List.filterMap_cons, List.filterMap_nil, hcut]

theorem pairs_trimmed (s : List Char) : pairs (trimmed s) = pairs s := by
  have hleft (t : List Char) : pairs (dropBlanks t) = pairs t := by
    induction t with
    | nil => rfl
    | cons c t ih =>
      cases hc : isBlank c with
      | false => exact congrArg pairs (dropBlanks_append_cons hc [] t)
      | true =>
        rw [pairs_cons_blank hc, ← ih]
        exact congrArg pairs (List.dropWhile_cons_of_pos hc)
  have hright (t : List Char) : pairs (dropBlanks t).reverse = pairs t.reverse := by
    induction t with
    | nil => rfl
    | cons c t ih =>
      cases hc : isBlank c with
      | false => exact congrArg (fun u => pairs u.reverse) (dropBlanks_append_cons hc [] t)
      | true =>
        rw [List.reverse_cons, pairs_concat_blank hc, ← ih]
        exact congrArg (fun u => pairs u.reverse) (List.dropWhile_cons_of_pos hc)
  rw [trimmed, dropBlanksRight, hright, List.reverse_reverse, hleft]

/-! ## Looking up the keys -/

theorem looked_fst_eq_iff {key : String} (hkey : lowerAscii key = key) (p : String × String) :
    (looked (p.1.toList, p.2.toList)).1 = key ↔ IsUnder key p := by
  have hlooked : (looked (p.1.toList, p.2.toList)).1 = lowerAscii (trim p.1) := by
    simp [looked, lowerAscii, trim]
  rw [hlooked, IsUnder, sameName, hkey, beq_iff_eq]

/-- Looking up keys in small letters, one after the other, gives what the pairs tell. -/
theorem says_firstOf {keys : List String} (hkeys : ∀ key ∈ keys, lowerAscii key = key)
    (ps : List (String × String)) :
    Says ps keys (firstOf (ps.map fun p => looked (p.1.toList, p.2.toList)) keys) := by
  induction keys with
  | nil => exact .absent
  | cons key keys ih =>
    obtain ⟨hkey, hkeys⟩ := List.forall_mem_cons.1 hkeys
    rw [firstOf, List.findSome?_cons]
    cases hlookup : List.lookup key (ps.map fun p => looked (p.1.toList, p.2.toList)) with
    | none =>
      refine .later (fun q hq hunder => ?_) (ih hkeys)
      have hne := List.lookup_eq_none_iff.1 hlookup _ (List.mem_map_of_mem hq)
      rw [bne_iff_ne] at hne
      exact hne ((looked_fst_eq_iff hkey q).2 hunder).symm
    | some value =>
      obtain ⟨l, l', hmap, hfirst⟩ := List.lookup_eq_some_iff.1 hlookup
      obtain ⟨front, rest, hps, hfront, hrest⟩ := List.map_eq_append_iff.1 hmap
      obtain ⟨p, back, rfl, hp, -⟩ := List.map_eq_cons_iff.1 hrest
      have hvalue : trim p.2 = value := congrArg Prod.snd hp
      show Says ps (key :: keys) value
      rw [← hvalue]
      refine .present hps (fun q hq hunder => ?_) ((looked_fst_eq_iff hkey p).1 (congrArg Prod.fst hp))
      have hne := hfirst _ (hfront ▸ List.mem_map_of_mem hq)
      rw [bne_iff_ne] at hne
      exact hne ((looked_fst_eq_iff hkey q).2 hunder).symm

/-- What the first pair under a key is. -/
theorem find?_of_first {key : String} {front back : List (String × String)}
    (hps : ps = front ++ p :: back) (hfirst : ∀ q ∈ front, ¬ IsUnder key q) (hp : IsUnder key p) :
    ps.find? (fun q => sameName (trim q.1) key) = some p := by
  rw [List.find?_eq_some_iff_append]
  exact ⟨hp, front, back, hps, fun q hq => by simpa [IsUnder] using hfirst q hq⟩

theorem Says.unique {keys : List String} {v v' : String} (h : Says ps keys v)
    (h' : Says ps keys v') : v = v' := by
  induction h with
  | absent =>
    cases h'
    rfl
  | present hps hfirst hp =>
    cases h' with
    | present hps' hfirst' hp' =>
      have hsame := (find?_of_first hps hfirst hp).symm.trans (find?_of_first hps' hfirst' hp')
      rw [Option.some.inj hsame]
    | later habsent => exact absurd hp (habsent _ (by simp [hps]))
  | later habsent _ ih =>
    cases h' with
    | present hps' hfirst' hp' => exact absurd hp' (habsent _ (by simp [hps']))
    | later _ h' => exact ih h'

/-- What pairs tell under keys in small letters is what looking them up gives. -/
theorem says_iff {keys : List String} (hkeys : ∀ key ∈ keys, lowerAscii key = key) {value : String} :
    Says ps keys value ↔ value = firstOf (ps.map fun p => looked (p.1.toList, p.2.toList)) keys :=
  ⟨fun h => h.unique (says_firstOf hkeys ps), fun h => h ▸ says_firstOf hkeys ps⟩

/-! ## The mark of a URL -/

/-- The text holds the mark that stands behind the scheme of a URL. -/
def HoldsMark (s : String) : Prop := "://".toList <:+: s.toList

/-- What stands behind the first mark in a value, up to the end of the text. -/
inductive BehindMark (ps : List (String × String)) : String → Prop
  | intro {front back : List (String × String)} {key a b : String}
      (hps : ps = front ++ (key, a ++ "://" ++ b) :: back)
      (hfirst : ∀ q ∈ front, ¬ HoldsMark q.2) (ha : ¬ HoldsMark a) :
      BehindMark ps (";".intercalate (b :: back.map pairText))

theorem cutMark_eq_some_iff {s front rest : List Char} :
    cutWord? "://".toList s = some (front, rest) ↔
      ¬ "://".toList <:+: front ∧ s = front ++ ("://".toList ++ rest) :=
  @cutWord?_eq_some_iff ':' ['/', '/'] _ _ _ (by decide)

/-- The mark stands in a value, since a key has no colon. -/
theorem mark_infix_pairText (hp : IsPair p) :
    "://".toList <:+: (pairText p).toList ↔ HoldsMark p.2 := by
  rw [toList_pairText, infix_append_cons_iff (by decide) (by decide), HoldsMark]
  refine or_iff_right fun h => hp.key.2.2 ?_
  exact h.subset (by decide)

theorem mark_infix_pairsText (hps : ∀ p ∈ ps, IsPair p) :
    "://".toList <:+: (pairsText ps).toList ↔ ∃ p ∈ ps, HoldsMark p.2 := by
  rw [toList_pairsText, infix_intercalate_iff (by decide) (by decide)]
  constructor
  · rintro ⟨part, hpart, hmark⟩
    obtain ⟨p, hp, rfl⟩ := List.mem_map.1 hpart
    exact ⟨p, hp, (mark_infix_pairText (hps p hp)).1 hmark⟩
  · rintro ⟨p, hp, hmark⟩
    exact ⟨_, List.mem_map_of_mem hp, (mark_infix_pairText (hps p hp)).2 hmark⟩

/-- A text with the mark is read as a URL, from its first mark on. -/
theorem ofText_of_mark {s : String} {front rest : List Char}
    (hs : s.toList = front ++ ("://".toList ++ rest)) (hfront : ¬ "://".toList <:+: front) :
    ofText s = ofUrl (dropBlanksRight rest) := by
  have hslashes : dropBlanksRight ('/' :: '/' :: rest) = '/' :: '/' :: dropBlanksRight rest := by
    have hslash : isBlank '/' = false := by decide
    exact (dropBlanksRight_append_cons hslash [] _).trans
      (congrArg ('/' :: ·) (dropBlanksRight_append_cons hslash [] rest))
  have htrim : trimmed s.toList = dropBlanks front ++ ("://".toList ++ dropBlanksRight rest) := by
    have hcolon : isBlank ':' = false := by decide
    have hmark : "://".toList = [':', '/', '/'] := rfl
    rw [hs, hmark, List.cons_append, trimmed_append_cons hcolon]
    exact congrArg (dropBlanks front ++ ':' :: ·) hslashes
  have hkept : ¬ "://".toList <:+: dropBlanks front := fun h =>
    hfront (h.trans (List.dropWhile_suffix _).isInfix)
  have hcut : cutWord? "://".toList (trimmed s.toList) =
      some (dropBlanks front, dropBlanksRight rest) :=
    cutMark_eq_some_iff.2 ⟨hkept, htrim⟩
  rw [ofText, hcut]

/-- A text in which a key stands is no path behind the scheme of SQLite. -/
theorem not_scheme_prefix {key rest : List Char} (hkey : ':' ∉ key) :
    ¬ "sqlite:".toList <+: trimmed (key ++ '=' :: rest) := by
  intro h
  rw [trimmed_append_cons (by decide)] at h
  have hstart := prefix_of_prefix_append_cons _ (by decide) h
  exact hkey ((List.dropWhile_sublist _).subset (hstart.subset (by decide)))

/-- Without a mark the text of pairs is read as pairs. -/
theorem ofText_pairsText (hne : ps ≠ []) (hps : ∀ p ∈ ps, IsPair p)
    (hmark : ∀ p ∈ ps, ¬ HoldsMark p.2) :
    ofText (pairsText ps) = ⟨firstOf (pairs (pairsText ps).toList) ownerKeys,
      firstOf (pairs (pairsText ps).toList) databaseKeys⟩ := by
  obtain ⟨p, rest, rfl⟩ := List.exists_cons_of_ne_nil hne
  obtain ⟨t, ht⟩ : ∃ t, (pairsText (p :: rest)).toList = p.1.toList ++ '=' :: t := by
    rw [toList_pairsText, List.map_cons, toList_pairText]
    cases rest with
    | nil => exact ⟨p.2.toList, by simp⟩
    | cons q rest =>
      rw [List.map_cons, List.intercalate_cons_cons]
      simp only [List.append_assoc, List.cons_append]
      exact ⟨_, rfl⟩
  have hcut : cutWord? "://".toList (trimmed (pairsText (p :: rest)).toList) = none := by
    rw [cutWord?_eq_none_iff]
    intro h
    obtain ⟨q, hq, hholds⟩ := (mark_infix_pairsText hps).1 (h.trans (isInfix_trimmed _))
    exact hmark q hq hholds
  have hscheme : ¬ "sqlite:".toList.isPrefixOf (trimmed (pairsText (p :: rest)).toList) = true := by
    rw [List.isPrefixOf_iff_prefix, ht]
    exact not_scheme_prefix (hps p List.mem_cons_self).key.2.2
  have hequals : '=' ∈ trimmed (pairsText (p :: rest)).toList := by
    rw [ht, trimmed_append_cons (by decide)]
    simp
  rw [ofText, hcut]
  show (if _ then _ else if _ then _ else _) = _
  rw [if_neg hscheme, if_pos hequals, pairs_trimmed]

/-- The first mark in a value. -/
theorem exists_behindMark (h : ∃ p ∈ ps, HoldsMark p.2) : ∃ rest, BehindMark ps rest := by
  induction ps with
  | nil => simp at h
  | cons p ps ih =>
    by_cases hp : HoldsMark p.2
    · obtain ⟨⟨a, b⟩, hcut⟩ := Option.isSome_iff_exists.1 (isSome_cutWord?_iff.2 hp)
      obtain ⟨ha, hsplit⟩ := cutMark_eq_some_iff.1 hcut
      have hvalue : p.2 = .ofList a ++ "://" ++ .ofList b := by
        simp only [← String.toList_inj, hsplit, String.toList_append, String.toList_ofList,
          List.append_assoc]
      have hps : p :: ps = [] ++ (p.1, .ofList a ++ "://" ++ .ofList b) :: ps := by
        rw [← hvalue, List.nil_append]
      exact ⟨_, .intro hps (by simp) (by simpa only [HoldsMark, String.toList_ofList] using ha)⟩
    · obtain ⟨q, hq, hmark⟩ := h
      have hrest : ∃ q ∈ ps, HoldsMark q.2 := by
        rcases List.mem_cons.1 hq with rfl | hq
        · exact absurd hmark hp
        · exact ⟨q, hq, hmark⟩
      obtain ⟨rest, hbehind⟩ := ih hrest
      obtain ⟨hps, hfirst, ha⟩ := hbehind
      rw [hps, ← List.cons_append]
      exact ⟨_, .intro rfl (List.forall_mem_cons.2 ⟨hp, hfirst⟩) ha⟩

theorem ofText_of_behindMark (hps : ∀ p ∈ ps, IsPair p) {rest : String} (h : BehindMark ps rest) :
    ofText (pairsText ps) = ofUrl (dropBlanksRight rest.toList) := by
  obtain @⟨front, back, key, a, b, rfl, hfirst, ha⟩ := h
  have hkey := (hps (key, a ++ "://" ++ b) (by simp)).key
  -- what stands before the mark are the pairs before it and a piece of its own pair
  have hbefore : ¬ "://".toList <:+:
      List.intercalate [';'] ((front.map fun p => (pairText p).toList) ++
        [key.toList ++ '=' :: a.toList]) := by
    rw [infix_intercalate_iff (by decide) (by decide)]
    rintro ⟨part, hpart, hmark⟩
    rcases List.mem_append.1 hpart with hpart | hpart
    · obtain ⟨q, hq, rfl⟩ := List.mem_map.1 hpart
      exact hfirst q hq ((mark_infix_pairText (hps q (by simp [hq]))).1 hmark)
    · rw [List.mem_singleton.1 hpart, infix_append_cons_iff (by decide) (by decide)] at hmark
      rcases hmark with hmark | hmark
      · exact hkey.2.2 (hmark.subset (by decide))
      · exact ha hmark
  refine ofText_of_mark ?_ hbefore
  have hpair : (pairText (key, a ++ "://" ++ b)).toList =
      (key.toList ++ '=' :: a.toList) ++ ("://".toList ++ b.toList) := by
    simp [toList_pairText]
  rw [toList_pairsText, List.map_append, List.map_cons, hpair, intercalate_split,
    intercalate_append_cons, String.toList_intercalate, List.map_cons, List.map_map]
  rfl

theorem lowerAscii_ownerKeys : ∀ key ∈ ownerKeys, lowerAscii key = key := by decide

theorem lowerAscii_databaseKeys : ∀ key ∈ databaseKeys, lowerAscii key = key := by decide

/-- Without a mark in a value the text of pairs is read as what they tell. -/
theorem tells_pairsText (hne : ps ≠ []) (hps : ∀ p ∈ ps, IsPair p)
    (hmark : ∀ p ∈ ps, ¬ HoldsMark p.2) : Tells ps (ofText (pairsText ps)) := by
  rw [ofText_pairsText hne hps hmark, pairs_pairsText hne hps]
  exact ⟨says_firstOf lowerAscii_ownerKeys ps, says_firstOf lowerAscii_databaseKeys ps⟩

/-- **Pairs are read by their keys unless a value holds `://`.** A text of pairs is read as what the
pairs tell if no value holds that mark. Otherwise everything up to the first mark is taken for the
scheme of a URL, whose rest says whom the database belongs to and what its name is; this is what the
pairs tell only if it happens to be the same. -/
theorem tells_pairs_iff (hne : ps ≠ []) (hps : ∀ p ∈ ps, IsPair p) :
    (Tells ps (ofText (pairsText ps)) ↔
      ∀ rest, BehindMark ps rest → Tells ps (ofUrl (dropBlanksRight rest.toList))) ∧
    ∀ rest, BehindMark ps rest →
      ofText (pairsText ps) = ofUrl (dropBlanksRight rest.toList) := by
  refine ⟨⟨fun h rest hrest => ?_, fun h => ?_⟩, fun rest hrest => ofText_of_behindMark hps hrest⟩
  · rwa [← ofText_of_behindMark hps hrest]
  · by_cases hmark : ∃ p ∈ ps, HoldsMark p.2
    · obtain ⟨rest, hrest⟩ := exists_behindMark hmark
      rw [ofText_of_behindMark hps hrest]
      exact h rest hrest
    · exact tells_pairsText hne hps fun p hp hholds => hmark ⟨p, hp, hholds⟩

/-- Two owners, of which the one under the key that goes first comes second, and two databases. -/
private def account : List (String × String) :=
  [("User", "guest"), (" USER id ", " sa "), ("Data Source", "orcl"), ("database", "a=b:c")]

theorem tells_pairs_iff_account :
    account ≠ [] ∧ (∀ p ∈ account, IsPair p) ∧ ofText (pairsText account) = ⟨"sa", "a=b:c"⟩ ∧
    (Tells account (ofText (pairsText account)) ↔ ∀ rest, BehindMark account rest →
      Tells account (ofUrl (dropBlanksRight rest.toList))) ∧
    ∀ rest, BehindMark account rest →
      ofText (pairsText account) = ofUrl (dropBlanksRight rest.toList) :=
  ⟨by decide, by decide, by decide, tells_pairs_iff (by decide) (by decide)⟩

/-- An owner whose password holds the mark. -/
private def guarded : List (String × String) := [("Uid", "sa"), ("Pwd", "a://b")]

/-- The pairs tell an owner, but the text is read as a URL without one. -/
theorem password_read_as_url :
    guarded ≠ [] ∧ (∀ p ∈ guarded, IsPair p) ∧ pairsText guarded = "Uid=sa;Pwd=a://b" ∧
      Tells guarded ⟨"sa", ""⟩ ∧ ofText (pairsText guarded) = ⟨"", ""⟩ ∧
      ¬ Tells guarded (ofText (pairsText guarded)) := by
  have htold : Tells guarded ⟨"sa", ""⟩ :=
    ⟨(says_iff lowerAscii_ownerKeys).2 (by decide), (says_iff lowerAscii_databaseKeys).2 (by decide)⟩
  have hread : ofText (pairsText guarded) = ⟨"", ""⟩ := by decide
  refine ⟨by decide, by decide, by decide, htold, hread, fun h => ?_⟩
  rw [hread] at h
  exact absurd (h.owner.unique htold.owner) (by decide)

end ConnectionInfo

end Polydialect
