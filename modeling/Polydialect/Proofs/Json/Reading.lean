import Polydialect.Proofs.Json.Escape
import Polydialect.Proofs.Json.Real

/-!
# JSON text is read as it is written

The text of a value is read as the source of the value (`Json.ofText?_toText`): the lexer gives the
tokens of the source (`Json.tokensFrom_text`), whatever stands behind the value, and the reader puts
them together again (`Json.Source.run_tokens`).
-/

namespace Polydialect.Json

/-- Induction with the items of an array, and the values of an object, taken together. -/
@[elab_as_elim]
theorem induct {P : Json → Prop} (null : P .null) (bool : ∀ b, P (.bool b))
    (integer : ∀ n, P (.integer n)) (real : ∀ x, P (.real x)) (string : ∀ s, P (.string s))
    (array : ∀ items, (∀ j ∈ items, P j) → P (.array items))
    (object : ∀ members : List (String × Json), (∀ p ∈ members, P p.2) → P (.object members))
    (j : Json) : P j :=
  @Json.rec P (fun items => ∀ j ∈ items, P j) (fun members => ∀ p ∈ members, P p.2)
    (fun p => P p.2) null bool integer real string array object
    (fun _ h => absurd h List.not_mem_nil) (fun _ _ hj hs => List.forall_mem_cons.2 ⟨hj, hs⟩)
    (fun _ h => absurd h List.not_mem_nil) (fun _ _ hp hs => List.forall_mem_cons.2 ⟨hp, hs⟩)
    (fun _ _ h => h) j

/-! ## Sources -/

mutual

/-- What the text of a value writes. -/
def source : Json → Source
  | .null => .null
  | .bool b => .bool b
  | .integer n => .number (.ofInt n)
  | .real (.finite negative r) => .number (.ofFinite negative r)
  | .real _ => .null
  | .string s => .string (s.toList.flatMap escapeChar)
  | .array items => .array (sourceItems items)
  | .object members => .object (sourceMembers members)

/-- `source` of every item. -/
def sourceItems : List Json → List Source
  | [] => []
  | j :: r => source j :: sourceItems r

/-- `source` of every member. -/
def sourceMembers : List (String × Json) → List (List Char × Source)
  | [] => []
  | (k, j) :: r => (k.toList.flatMap escapeChar, source j) :: sourceMembers r

end

namespace Source

mutual

/-- The tokens that write a source. -/
def tokens : Source → List Token
  | .null => [.null]
  | .bool b => [.bool b]
  | .number n => [.number n]
  | .string raw => [.string raw]
  | .array items => .beginArray :: itemTokens items ++ [.endArray]
  | .object members => .beginObject :: memberTokens members ++ [.endObject]

/-- The tokens of items, separated by commas. -/
def itemTokens : List Source → List Token
  | [] => []
  | [x] => tokens x
  | x :: r => tokens x ++ .comma :: itemTokens r

/-- The tokens of members, separated by commas. -/
def memberTokens : List (List Char × Source) → List Token
  | [] => []
  | [(k, x)] => .string k :: .colon :: tokens x
  | (k, x) :: r => .string k :: .colon :: tokens x ++ .comma :: memberTokens r

end

theorem itemTokens_cons_cons (x y : Source) (items : List Source) :
    itemTokens (x :: y :: items) = x.tokens ++ .comma :: itemTokens (y :: items) := by
  rw [itemTokens]
  exact List.cons_ne_nil _ _

theorem memberTokens_cons_cons (k : List Char) (x : Source) (q : List Char × Source)
    (members : List (List Char × Source)) :
    memberTokens ((k, x) :: q :: members) =
      .string k :: .colon :: x.tokens ++ .comma :: memberTokens (q :: members) := by
  rw [memberTokens]
  exact List.cons_ne_nil _ _

/-! ## The reader -/

/-- Induction with the items of an array, and the values of an object, taken together. -/
@[elab_as_elim]
theorem induct {P : Source → Prop} (null : P .null) (bool : ∀ b, P (.bool b))
    (number : ∀ n, P (.number n)) (string : ∀ raw, P (.string raw))
    (array : ∀ items, (∀ x ∈ items, P x) → P (.array items))
    (object : ∀ members : List (List Char × Source), (∀ p ∈ members, P p.2) → P (.object members))
    (x : Source) : P x :=
  @Source.rec P (fun items => ∀ x ∈ items, P x) (fun members => ∀ p ∈ members, P p.2)
    (fun p => P p.2) null bool number string array object
    (fun _ h => absurd h List.not_mem_nil) (fun _ _ hx hs => List.forall_mem_cons.2 ⟨hx, hs⟩)
    (fun _ h => absurd h List.not_mem_nil) (fun _ _ hp hs => List.forall_mem_cons.2 ⟨hp, hs⟩)
    (fun _ _ h => h) x

/-- The reader passes over the tokens of a value and completes it. -/
def Passes (x : Source) : Prop :=
  ∀ stack ts, (Reader.value stack).run (x.tokens ++ ts) = (Reader.complete x stack).run ts

/-- No value begins with the end of an array. -/
theorem run_firstItem (x : Source) (stack : List Frame) (ts : List Token) :
    (Reader.firstItem stack).run (x.tokens ++ ts) =
      (Reader.value (.array [] :: stack)).run (x.tokens ++ ts) := by
  cases x <;> rfl

theorem run_items {items : List Source} (h : ∀ x ∈ items, x.Passes) (hne : items ≠ [])
    (done : List Source) (stack : List Frame) (ts : List Token) :
    (Reader.value (.array done :: stack)).run (itemTokens items ++ .endArray :: ts) =
      (Reader.complete (.array (done.reverse ++ items)) stack).run ts := by
  -- each item is put in front of those before it, so the induction is for all `done`
  induction items generalizing done with
  | nil => exact absurd rfl hne
  | cons x items ih =>
    obtain ⟨hx, hitems⟩ := List.forall_mem_cons.1 h
    cases items with
    | nil =>
      rw [itemTokens, hx]
      show (Reader.complete (.array (x :: done).reverse) stack).run ts = _
      rw [List.reverse_cons]
    | cons y items =>
      rw [itemTokens_cons_cons, List.append_assoc, hx]
      show (Reader.value (.array (x :: done) :: stack)).run
        (itemTokens (y :: items) ++ .endArray :: ts) = _
      rw [ih hitems (List.cons_ne_nil _ _), List.reverse_cons, List.append_assoc]
      rfl

theorem run_members {members : List (List Char × Source)} (h : ∀ p ∈ members, p.2.Passes)
    (hne : members ≠ []) (done : List (List Char × Source)) (stack : List Frame) (ts : List Token) :
    (Reader.name stack done).run (memberTokens members ++ .endObject :: ts) =
      (Reader.complete (.object (done.reverse ++ members)) stack).run ts := by
  induction members generalizing done with
  | nil => exact absurd rfl hne
  | cons p members ih =>
    obtain ⟨k, x⟩ := p
    obtain ⟨hx, hmembers⟩ := List.forall_mem_cons.1 h
    cases members with
    | nil =>
      show (Reader.value (.member done k :: stack)).run (x.tokens ++ _) = _
      rw [hx]
      show (Reader.complete (.object ((k, x) :: done).reverse) stack).run ts = _
      rw [List.reverse_cons]
    | cons q members =>
      rw [memberTokens_cons_cons, List.append_assoc]
      show (Reader.value (.member done k :: stack)).run (x.tokens ++ _) = _
      rw [hx]
      show (Reader.name stack ((k, x) :: done)).run
        (memberTokens (q :: members) ++ .endObject :: ts) = _
      rw [ih hmembers (List.cons_ne_nil _ _), List.reverse_cons, List.append_assoc]
      rfl

/-- The first name of an object. -/
theorem run_firstName {members : List (List Char × Source)} (hne : members ≠ [])
    (stack : List Frame) (ts : List Token) :
    (Reader.firstName stack).run (memberTokens members ++ ts) =
      (Reader.name stack []).run (memberTokens members ++ ts) := by
  match members, hne with
  | [_], _ => rfl
  | _ :: _ :: _, _ => rfl

theorem run_tokens (x : Source) : x.Passes := by
  induction x using induct with
  | null => exact fun stack ts => rfl
  | bool b => exact fun stack ts => rfl
  | number n => exact fun stack ts => rfl
  | string raw => exact fun stack ts => rfl
  | array items ih =>
    intro stack ts
    have htokens : (Source.array items).tokens ++ ts =
        .beginArray :: (itemTokens items ++ .endArray :: ts) := by
      simp [tokens]
    rw [htokens]
    show (Reader.firstItem stack).run _ = _
    cases items with
    | nil => rfl
    | cons x items =>
      refine Eq.trans ?_ (run_items ih (List.cons_ne_nil _ _) [] stack ts)
      cases items with
      | nil => exact run_firstItem x stack _
      | cons y items =>
        rw [itemTokens_cons_cons, List.append_assoc]
        exact run_firstItem x stack _
  | object members ih =>
    intro stack ts
    have htokens : (Source.object members).tokens ++ ts =
        .beginObject :: (memberTokens members ++ .endObject :: ts) := by
      simp [tokens]
    rw [htokens]
    show (Reader.firstName stack).run _ = _
    by_cases hne : members = []
    · rw [hne]
      rfl
    · rw [run_firstName hne, run_members ih hne]
      rfl

theorem ofTokens?_tokens (x : Source) : ofTokens? x.tokens = some x := by
  have h := run_tokens x [] []
  rw [List.append_nil] at h
  rw [ofTokens?, h]
  rfl

end Source

/-! ## The lexer -/

/-- What may stand behind a value inside a text: a comma, the end of a container, or nothing. -/
def Stops (rest : List Char) : Prop :=
  ∀ c, rest.head? = some c → c = ',' ∨ c = ']' ∨ c = '\x7d'

theorem stops_nil : Stops [] := fun c h => by cases h

theorem stops_comma (rest : List Char) : Stops (',' :: rest) :=
  fun _ h => .inl (Option.some.inj h).symm

theorem stops_endArray (rest : List Char) : Stops (']' :: rest) :=
  fun _ h => .inr (.inl (Option.some.inj h).symm)

theorem stops_endObject (rest : List Char) : Stops ('\x7d' :: rest) :=
  fun _ h => .inr (.inr (Option.some.inj h).symm)

/-- A token that ends where the next character does not belong to it. -/
theorem tokensFrom_ended {m : Mode} {t : Token} {rest : List Char}
    (hfinish : finish m = some [t])
    (hstep : ∀ c, rest.head? = some c → step m c = thenStart (some t) c) :
    tokensFrom m rest = (tokensFrom .between rest).map (t :: ·) := by
  cases rest with
  | nil => exact hfinish
  | cons c rest =>
    have hc : step m c = (start c).bind fun p => some (t :: p.1, p.2) := hstep c rfl
    show ((step m c).bind fun p => (tokensFrom p.2 rest).bind fun r => some (p.1 ++ r)) =
      ((start c).bind fun p => (tokensFrom p.2 rest).bind fun r => some (p.1 ++ r)).map (t :: ·)
    rw [hc]
    cases start c with
    | none => rfl
    | some p => cases h : tokensFrom p.2 rest <;> simp [h]

/-- Characters that a mode only collects. -/
theorem tokensFrom_collect {m : List Char → Mode} {cs : List Char}
    (h : ∀ c ∈ cs, ∀ acc, step (m acc) c = some ([], m (c :: acc))) (acc rest : List Char) :
    tokensFrom (m acc) (cs ++ rest) = tokensFrom (m (cs.reverse ++ acc)) rest := by
  induction cs generalizing acc with
  | nil => rfl
  | cons c cs ih =>
    obtain ⟨hc, hcs⟩ := List.forall_mem_cons.1 h
    rw [List.cons_append, tokensFrom_silent (hc acc), ih hcs, List.reverse_cons, List.append_assoc]
    rfl

namespace Numeral

theorem isNumberChar_text {n : Numeral} (h : n.WellFormed) :
    ∀ c ∈ n.text, isNumberChar c = true := by
  have hdigit {c : Char} (hc : c.isDigit = true) : isNumberChar c = true := by
    simp [isNumberChar, hc]
  have hsign : ∀ c ∈ (if n.negative then ['-'] else []), isNumberChar c = true := by
    cases n.negative <;> exact List.all_eq_true.1 rfl
  have hfraction : ∀ c ∈ fractionText n.fraction, isNumberChar c = true := by
    unfold fractionText
    split
    · exact fun c hc => absurd hc List.not_mem_nil
    · exact List.forall_mem_cons.2 ⟨by decide, fun c hc => hdigit (h.fraction c hc)⟩
  have hpower : ∀ c ∈ powerText n.power, isNumberChar c = true := by
    cases n.power with
    | none => exact fun c hc => absurd hc List.not_mem_nil
    | some e =>
      refine List.forall_mem_cons.2 ⟨by decide, List.forall_mem_cons.2 ⟨?_, fun c hc => ?_⟩⟩
      · split <;> decide
      · exact hdigit (Number.isDigit_of_mem_toDigits hc)
  intro c hc
  simp only [text, List.mem_append] at hc
  rcases hc with hc | hc | hc | hc
  · exact hsign c hc
  · exact hdigit (h.whole c hc)
  · exact hfraction c hc
  · exact hpower c hc

/-- A number begins with a digit or a sign. -/
theorem start_text {n : Numeral} (h : n.WellFormed) :
    ∃ c r, n.text = c :: r ∧ start c = some ([], .number [c]) := by
  obtain ⟨negative, whole, fraction, power⟩ := n
  cases negative with
  | true => exact ⟨'-', _, rfl, rfl⟩
  | false =>
    cases whole with
    | nil => exact absurd rfl h.nonempty
    | cons c r =>
      have hc : c.isDigit = true := h.whole c List.mem_cons_self
      refine ⟨c, _, rfl, ?_⟩
      unfold start
      split
      all_goals first | exact absurd hc (by decide) | skip
      rw [if_pos (.inl hc)]

/-- A well-formed numeral is one token. -/
theorem tokensFrom_text {n : Numeral} (h : n.WellFormed) {rest : List Char} (hr : Stops rest) :
    tokensFrom .between (n.text ++ rest) = (tokensFrom .between rest).map (.number n :: ·) := by
  obtain ⟨c, r, htext, hstart⟩ := start_text h
  have hchars := isNumberChar_text h
  rw [htext] at hchars
  have htoken : numberToken? (r.reverse ++ [c]) = some (.number n) := by
    rw [numberToken?, List.reverse_append, List.reverse_reverse]
    show (ofChars? (c :: r)).map _ = _
    rw [← htext, ofChars?_text h]
    rfl
  have hcollect : ∀ c ∈ r, ∀ acc, step (.number acc) c = some ([], .number (c :: acc)) :=
    fun c hc acc => if_pos ((List.forall_mem_cons.1 hchars).2 c hc)
  rw [htext, List.cons_append, tokensFrom_silent (m := .between) hstart,
    tokensFrom_collect hcollect]
  -- the number ends with the text, or where a character follows that no number has
  refine tokensFrom_ended ?_ fun x hx => ?_
  · rw [finish, htoken]
    rfl
  · have hno : isNumberChar x = false := by
      rcases hr x hx with rfl | rfl | rfl <;> decide
    rw [step, hno, htoken]
    rfl

end Numeral

/-- A word is one token. -/
theorem tokensFrom_word {c : Char} {cs rest : List Char} {t : Token}
    (hstart : start c = some ([], .word [c])) (hlower : ∀ x ∈ cs, x.isLower = true)
    (ht : wordToken? (cs.reverse ++ [c]) = some t) (hr : Stops rest) :
    tokensFrom .between (c :: cs ++ rest) = (tokensFrom .between rest).map (t :: ·) := by
  have hcollect : ∀ x ∈ cs, ∀ acc, step (.word acc) x = some ([], .word (x :: acc)) :=
    fun x hx acc => if_pos (hlower x hx)
  rw [List.cons_append, tokensFrom_silent (m := .between) hstart, tokensFrom_collect hcollect]
  refine tokensFrom_ended ?_ fun x hx => ?_
  · rw [finish, ht]
    rfl
  · have hno : x.isLower = false := by
      rcases hr x hx with rfl | rfl | rfl <;> decide
    rw [step, hno, ht]
    rfl

theorem itemsText_cons_cons (j k : Json) (items : List Json) :
    itemsText (j :: k :: items) = text j ++ ',' :: itemsText (k :: items) := by
  rw [itemsText]
  exact List.cons_ne_nil _ _

theorem membersText_cons_cons (k : String) (j : Json) (q : String × Json)
    (members : List (String × Json)) :
    membersText ((k, j) :: q :: members) =
      stringText k ++ ':' :: text j ++ ',' :: membersText (q :: members) := by
  rw [membersText]
  exact List.cons_ne_nil _ _

/-- The lexer gives the tokens of a value and goes on behind it. -/
def Lexes (j : Json) : Prop :=
  ∀ rest, Stops rest →
    tokensFrom .between (text j ++ rest) = (tokensFrom .between rest).map (j.source.tokens ++ ·)

/-- A mark is one token. -/
theorem tokensFrom_mark {c : Char} {t : Token} (h : start c = some ([t], .between))
    (rest : List Char) :
    tokensFrom .between (c :: rest) = (tokensFrom .between rest).map (t :: ·) :=
  tokensFrom_cons (m := .between) h rest

theorem tokensFrom_items {items : List Json} (h : ∀ j ∈ items, j.Lexes) {rest : List Char}
    (hr : Stops rest) :
    tokensFrom .between (itemsText items ++ rest) =
      (tokensFrom .between rest).map (Source.itemTokens (sourceItems items) ++ ·) := by
  induction items with
  | nil => exact Option.map_id'.symm
  | cons j items ih =>
    obtain ⟨hj, hitems⟩ := List.forall_mem_cons.1 h
    cases items with
    | nil => exact hj rest hr
    | cons k items =>
      have htext : itemsText (j :: k :: items) ++ rest =
          text j ++ ',' :: (itemsText (k :: items) ++ rest) := by
        rw [itemsText_cons_cons, List.append_assoc]
        rfl
      rw [htext, hj _ (stops_comma _), tokensFrom_mark (t := .comma) rfl, ih hitems]
      cases tokensFrom .between rest <;> simp [sourceItems, Source.itemTokens]

theorem tokensFrom_members {members : List (String × Json)} (h : ∀ p ∈ members, p.2.Lexes)
    {rest : List Char} (hr : Stops rest) :
    tokensFrom .between (membersText members ++ rest) =
      (tokensFrom .between rest).map (Source.memberTokens (sourceMembers members) ++ ·) := by
  induction members with
  | nil => exact Option.map_id'.symm
  | cons p members ih =>
    obtain ⟨k, j⟩ := p
    obtain ⟨hj, hmembers⟩ := List.forall_mem_cons.1 h
    cases members with
    | nil =>
      have htext : membersText [(k, j)] ++ rest = stringText k ++ ':' :: (text j ++ rest) := by
        simp [membersText]
      rw [htext, tokensFrom_stringText, tokensFrom_mark (t := .colon) rfl, hj rest hr]
      cases tokensFrom .between rest <;> simp [sourceMembers, Source.memberTokens]
    | cons q members =>
      have htext : membersText ((k, j) :: q :: members) ++ rest =
          stringText k ++ ':' :: (text j ++ ',' :: (membersText (q :: members) ++ rest)) := by
        simp [membersText_cons_cons]
      rw [htext, tokensFrom_stringText, tokensFrom_mark (t := .colon) rfl, hj _ (stops_comma _),
        tokensFrom_mark (t := .comma) rfl, ih hmembers]
      cases tokensFrom .between rest <;> simp [sourceMembers, Source.memberTokens]

theorem lexes_null : Lexes .null := by
  intro rest hr
  rw [text, show "null".toList = 'n' :: ['u', 'l', 'l'] from rfl]
  exact tokensFrom_word rfl (List.all_eq_true.1 rfl) rfl hr

theorem lexes_bool (b : Bool) : Lexes (.bool b) := by
  intro rest hr
  cases b with
  | false =>
    rw [text, show "false".toList = 'f' :: ['a', 'l', 's', 'e'] from rfl]
    exact tokensFrom_word rfl (List.all_eq_true.1 rfl) rfl hr
  | true =>
    rw [text, show "true".toList = 't' :: ['r', 'u', 'e'] from rfl]
    exact tokensFrom_word rfl (List.all_eq_true.1 rfl) rfl hr

theorem tokensFrom_text (j : Json) : j.Lexes := by
  induction j using induct with
  | null => exact lexes_null
  | bool b => exact lexes_bool b
  | integer n =>
    intro rest hr
    rw [text, ← Numeral.text_ofInt, Numeral.tokensFrom_text (Numeral.wellFormed_ofInt n) hr]
    rfl
  | real x =>
    intro rest hr
    cases x with
    | finite negative r =>
      rw [text, realText, ← Numeral.text_ofFinite,
        Numeral.tokensFrom_text (Numeral.wellFormed_ofFinite negative r) hr]
      rfl
    | infinite negative => exact lexes_null rest hr
    | nan => exact lexes_null rest hr
  | string s => exact fun rest _ => tokensFrom_stringText s rest
  | array items ih =>
    intro rest hr
    have htext : text (.array items) ++ rest = '[' :: (itemsText items ++ ']' :: rest) := by
      simp [text]
    rw [htext, tokensFrom_mark (t := .beginArray) rfl, tokensFrom_items ih (stops_endArray _),
      tokensFrom_mark (t := .endArray) rfl]
    cases tokensFrom .between rest <;> simp [source, Source.tokens]
  | object members ih =>
    intro rest hr
    have htext : text (.object members) ++ rest =
        '\x7b' :: (membersText members ++ '\x7d' :: rest) := by
      simp [text]
    rw [htext, tokensFrom_mark (t := .beginObject) rfl, tokensFrom_members ih (stops_endObject _),
      tokensFrom_mark (t := .endObject) rfl]
    cases tokensFrom .between rest <;> simp [source, Source.tokens]

/-- The text of a value writes its source. -/
theorem ofText?_toText (j : Json) : Source.ofText? j.toText = some j.source := by
  have htokens := tokensFrom_text j [] stops_nil
  rw [List.append_nil] at htokens
  rw [Source.ofText?, toText, String.toList_ofList, tokens, htokens]
  show Source.ofTokens? (j.source.tokens ++ []) = _
  rw [List.append_nil, Source.ofTokens?_tokens]

end Polydialect.Json
