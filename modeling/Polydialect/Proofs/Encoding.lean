import Polydialect.Proofs.Json.Depth

/-!
# Results that are encoded

A codec writes every result but a missing one, and reads it back from its text. Truth values,
integers, counts and texts are always read back (`Cache.Codec.Exact`). A JSON value of 64-bit
integers and texts is written however deep it is, but read only if it opens at most 127 containers
at once (`Cache.Codec.decode_document_iff`).

* `Number.readInt64_of_writes`, `readUInt64_of_writes`: digits with a sign are read as the integer
  that they write, or refused if it is out of range;
* `Json.Integral.exists_within`, `Json.Within.of_reread?`: a value of integers is as deep as the
  containers that its reading needs;
* `Cache.Codec.codecs_round_trip`: all codecs.
-/

namespace Polydialect

/-! ## Integers that are written -/

namespace Number

/-- The characters write an integer: digits, behind a sign or not. -/
inductive Writes : List Char → Int → Prop where
  | plain {ds : List Char} (hne : ds ≠ []) (hd : ∀ c ∈ ds, c.isDigit = true) :
    Writes ds (Nat.ofDigitChars 10 ds 0)
  | plus {ds : List Char} (hne : ds ≠ []) (hd : ∀ c ∈ ds, c.isDigit = true) :
    Writes ('+' :: ds) (Nat.ofDigitChars 10 ds 0)
  | minus {ds : List Char} (hne : ds ≠ []) (hd : ∀ c ∈ ds, c.isDigit = true) :
    Writes ('-' :: ds) (-(Nat.ofDigitChars 10 ds 0))

theorem writes_toString (z : Int) : Writes (toString z).toList z := by
  have hne (n : Nat) : Nat.toDigits 10 n ≠ [] := Nat.toDigits_ne_nil
  have hvalue (n : Nat) : Nat.ofDigitChars 10 (Nat.toDigits 10 n) 0 = n :=
    Nat.ofDigitChars_toDigits (by decide) (by decide)
  cases z with
  | ofNat n =>
    have h := Writes.plain (hne n) fun _ => isDigit_of_mem_toDigits
    rw [hvalue] at h
    rwa [Int.toString_eq_repr, Int.repr, Nat.toList_repr]
  | negSucc n =>
    have h := Writes.minus (hne (n + 1)) fun _ => isDigit_of_mem_toDigits
    rw [hvalue] at h
    rwa [Int.toString_eq_repr, Int.repr, String.toList_append, Nat.toList_repr]

variable {cs : List Char} {z : Int}

theorem Writes.ne_nil (h : Writes cs z) : cs ≠ [] := by
  cases h with
  | plain hne hd => exact hne
  | plus | minus => exact List.cons_ne_nil _ _

theorem Writes.isBlank_eq_false (h : Writes cs z) : ∀ c ∈ cs, Text.isBlank c = false := by
  cases h with
  | plain hne hd => exact fun c hc => Text.isBlank_of_isDigit (hd c hc)
  | plus hne hd | minus hne hd =>
    exact List.forall_mem_cons.2 ⟨by decide, fun c hc => Text.isBlank_of_isDigit (hd c hc)⟩

/-- Digits are read as their number, up to the limit. -/
theorem readDigits_of_digits {ds : List Char} (hd : ∀ c ∈ ds, c.isDigit = true) {limit acc : Nat}
    (hacc : acc ≤ limit) (fault : IntegerFault) :
    readDigits limit fault acc ds =
      if Nat.ofDigitChars 10 ds acc ≤ limit then .ok (Nat.ofDigitChars 10 ds acc)
      else .error fault := by
  split
  · rename_i hle
    exact readDigits_eq_ok hd hle
  · rename_i hlarge
    induction ds generalizing acc with
    | nil => exact absurd hacc hlarge
    | cons c ds ih =>
      obtain ⟨hc, hds⟩ := List.forall_mem_cons.1 hd
      rw [Nat.ofDigitChars_cons] at hlarge
      rw [readDigits, if_pos hc]
      show (if _ then _ else _) = _
      split
      · rename_i hle
        exact ih hds hle hlarge
      · rfl

/-- Digits do not begin with a sign. -/
theorem exists_digits_eq_cons {ds : List Char} (hne : ds ≠ [])
    (hd : ∀ c ∈ ds, c.isDigit = true) : ∃ c r, ds = c :: r ∧ c ≠ '+' ∧ c ≠ '-' := by
  obtain ⟨c, r, rfl⟩ := List.exists_cons_of_ne_nil hne
  have hc := hd c List.mem_cons_self
  refine ⟨c, r, rfl, ?_, ?_⟩
  · rintro rfl
    exact absurd hc (by decide)
  · rintro rfl
    exact absurd hc (by decide)

/-- A signed number is read as what is written, unless that is out of range. -/
theorem readInt64_of_writes (h : Writes cs z) :
    readInt64 (.ofList cs) =
      if z < -(maxInt64 + 1 : Int) then .error .tooSmall
      else if (maxInt64 : Int) < z then .error .tooLarge
      else .ok (Int64.ofInt z) := by
  -- without a minus the digits are all there is to the number
  have hpositive {ds : List Char} (hd : ∀ c ∈ ds, c.isDigit = true) :
      (readDigits maxInt64 .tooLarge 0 ds).map Int64.ofNat =
        if (Nat.ofDigitChars 10 ds 0 : Int) < -(maxInt64 + 1 : Int) then .error .tooSmall
        else if (maxInt64 : Int) < Nat.ofDigitChars 10 ds 0 then .error .tooLarge
        else .ok (Int64.ofInt (Nat.ofDigitChars 10 ds 0)) := by
    rw [readDigits_of_digits hd (Nat.zero_le _)]
    generalize Nat.ofDigitChars 10 ds 0 = v
    split_ifs
    all_goals first | rfl | omega
  rw [readInt64, String.toList_ofList]
  cases h with
  | plain hne hd =>
    obtain ⟨c, r, rfl, hplus, hminus⟩ := exists_digits_eq_cons hne hd
    rw [← hpositive hd]
    split <;> simp_all
  | @plus ds hne hd =>
    rw [← hpositive hd]
    obtain ⟨c, r, rfl, -, -⟩ := exists_digits_eq_cons hne hd
    rfl
  | @minus ds hne hd =>
    have hread : (readDigits (maxInt64 + 1) .tooSmall 0 ds).map (fun n => Int64.ofInt (-n)) =
        if (-(Nat.ofDigitChars 10 ds 0) : Int) < -(maxInt64 + 1 : Int) then .error .tooSmall
        else if (maxInt64 : Int) < -(Nat.ofDigitChars 10 ds 0) then .error .tooLarge
        else .ok (Int64.ofInt (-(Nat.ofDigitChars 10 ds 0))) := by
      rw [readDigits_of_digits hd (Nat.zero_le _)]
      generalize Nat.ofDigitChars 10 ds 0 = v
      split_ifs
      all_goals first | rfl | omega
    rw [← hread]
    obtain ⟨c, r, rfl, -, -⟩ := exists_digits_eq_cons hne hd
    rfl

/-- A count is read as what is written, unless that has a minus or is out of range. -/
theorem readUInt64_of_writes (h : Writes cs z) {n : UInt64}
    (hn : readUInt64 (.ofList cs) = .ok n) : (n.toNat : Int) = z := by
  have hpositive {ds : List Char} (hd : ∀ c ∈ ds, c.isDigit = true)
      (hn : (readDigits (UInt64.size - 1) .tooLarge 0 ds).map UInt64.ofNat = .ok n) :
      (n.toNat : Int) = Nat.ofDigitChars 10 ds 0 := by
    rw [readDigits_of_digits hd (Nat.zero_le _)] at hn
    split at hn
    · rename_i hle
      obtain rfl := Except.ok.inj hn
      rw [UInt64.toNat_ofNat_of_lt' (Nat.lt_of_le_sub_one (by decide) hle)]
    · cases hn
  rw [readUInt64, readNat, String.toList_ofList] at hn
  cases h with
  | plain hne hd =>
    obtain ⟨c, r, rfl, hplus, -⟩ := exists_digits_eq_cons hne hd
    refine hpositive hd ?_
    split at hn <;> simp_all
  | plus hne hd =>
    obtain ⟨c, r, rfl, -, -⟩ := exists_digits_eq_cons hne hd
    exact hpositive hd hn
  | minus hne hd => cases hn

end Number

namespace Json

/-! ## Values of integers -/

/-- A value whose numbers are integers of 64 bits. -/
inductive Integral : Json → Prop where
  | null : Integral .null
  | bool (b : Bool) : Integral (.bool b)
  | integer {n : Int} : -(Number.maxInt64 + 1 : Int) ≤ n → n < UInt64.size → Integral (.integer n)
  | string (s : String) : Integral (.string s)
  | array {items : List Json} : (∀ j ∈ items, Integral j) → Integral (.array items)
  | object {members : List (String × Json)} : (∀ p ∈ members, Integral p.2) →
    Integral (.object members)

theorem Within.mono {m n : Nat} {j : Json} (h : Within m j) (hmn : m ≤ n) : Within n j := by
  induction h generalizing n with
  | null => exact .null n
  | bool _ b => exact .bool n b
  | integer _ hmin hmax => exact .integer n hmin hmax
  | string _ s => exact .string n s
  | array _ ih =>
    cases n with
    | zero => exact absurd hmn (Nat.not_succ_le_zero _)
    | succ n => exact .array fun j hj => ih j hj (Nat.le_of_succ_le_succ hmn)
  | object _ ih =>
    cases n with
    | zero => exact absurd hmn (Nat.not_succ_le_zero _)
    | succ n => exact .object fun p hp => ih p hp (Nat.le_of_succ_le_succ hmn)

/-- Values that are each within some bound are so within a common one. -/
theorem exists_within_all {α : Type} {f : α → Json} {as : List α}
    (h : ∀ a ∈ as, ∃ n, Within n (f a)) : ∃ n, ∀ a ∈ as, Within n (f a) := by
  induction as with
  | nil => exact ⟨0, fun a ha => absurd ha List.not_mem_nil⟩
  | cons a as ih =>
    obtain ⟨ha, has⟩ := List.forall_mem_cons.1 h
    obtain ⟨m, hm⟩ := ha
    obtain ⟨n, hn⟩ := ih has
    refine ⟨max m n, List.forall_mem_cons.2 ⟨hm.mono (Nat.le_max_left m n), fun b hb => ?_⟩⟩
    exact (hn b hb).mono (Nat.le_max_right m n)

theorem Integral.exists_within {j : Json} (h : Integral j) : ∃ n, Within n j := by
  induction h with
  | null => exact ⟨0, .null 0⟩
  | bool b => exact ⟨0, .bool 0 b⟩
  | integer hmin hmax => exact ⟨0, .integer 0 hmin hmax⟩
  | string s => exact ⟨0, .string 0 s⟩
  | array _ ih =>
    obtain ⟨n, hn⟩ := exists_within_all (f := id) ih
    exact ⟨n + 1, .array hn⟩
  | object _ ih =>
    obtain ⟨n, hn⟩ := exists_within_all ih
    exact ⟨n + 1, .object hn⟩

/-- Where all items have a result, each of them has. -/
theorem isSome_of_mapM {α β : Type} {f : α → Option β} {as : List α}
    (h : (as.mapM f).isSome = true) {a : α} (ha : a ∈ as) : (f a).isSome = true := by
  obtain ⟨bs, hbs⟩ := Option.isSome_iff_exists.1 h
  have hall := mapM_eq_some_iff.1 hbs
  clear h hbs
  induction hall with
  | nil => exact absurd ha List.not_mem_nil
  | cons hb _ ih =>
    rcases List.mem_cons.1 ha with rfl | ha
    · exact Option.isSome_iff_exists.2 ⟨_, hb⟩
    · exact ih ha

/-- A value of integers that is read is not deeper than what may be opened. -/
theorem Within.of_reread? {m n : Nat} {j : Json} (h : Within m j)
    (hread : (reread? n j).isSome = true) : Within n j := by
  induction h generalizing n with
  | null => exact .null n
  | bool _ b => exact .bool n b
  | integer _ hmin hmax => exact .integer n hmin hmax
  | string _ s => exact .string n s
  | array _ ih =>
    cases n with
    | zero => cases hread
    | succ n =>
      rw [reread?_array, Option.isSome_map] at hread
      exact .array fun j hj => ih j hj (isSome_of_mapM hread hj)
  | object _ ih =>
    cases n with
    | zero => cases hread
    | succ n =>
      rw [reread?_object, Option.isSome_map] at hread
      refine .object fun p hp => ih p hp ?_
      simpa using isSome_of_mapM hread hp

theorem integral_nested (n : Nat) : (nested n).Integral := by
  induction n with
  | zero => exact .null
  | succ n ih => exact .object (List.forall_mem_singleton.2 ih)

end Json

/-- The text is another one between blanks. -/
def Text.Frames (text inner : String) : Prop :=
  ∃ before after, (∀ c ∈ before.toList, isBlank c = true) ∧ (∀ c ∈ after.toList, isBlank c = true) ∧
    text = before ++ inner ++ after

/-- Trimming takes off the blanks around an integer. -/
theorem Number.Writes.trim_eq {cs : List Char} {z : Int} (h : Writes cs z) {text : String}
    (ht : Text.Frames text (.ofList cs)) : Text.trim text = .ofList cs := by
  obtain ⟨before, after, hb, ha, rfl⟩ := ht
  have hfirst : ∃ c r, cs = c :: r ∧ Text.isBlank c = false := by
    obtain ⟨c, r, rfl⟩ := List.exists_cons_of_ne_nil h.ne_nil
    exact ⟨c, r, rfl, h.isBlank_eq_false c List.mem_cons_self⟩
  have hlast : ∃ r c, cs = r ++ [c] ∧ Text.isBlank c = false :=
    ⟨_, _, (List.dropLast_concat_getLast h.ne_nil).symm,
      h.isBlank_eq_false _ (List.getLast_mem h.ne_nil)⟩
  rw [Text.trim, String.toList_append, String.toList_append, String.toList_ofList,
    Text.trimmed_between hb ha hfirst hlast]

/-! ## Codecs -/

namespace Cache.Codec

open Number

variable {α : Type}

/-- A result has no text exactly if it is missing, and is read back from its text. -/
structure Exact (codec : Codec α) (missing : α → Prop) : Prop where
  encode_eq_none_iff : ∀ a, codec.encode a = none ↔ missing a
  faithful : codec.Faithful

/-- A codec of integers allows blanks around a text. It gives no other result than one that stands
for the integer that is written, and where there is none it fails. -/
structure ReadsIntegers (codec : Codec α) (stands : α → Int → Prop)
    (failure : String → IntegerFault → CacheFault) : Prop where
  trims : ∀ {a inner text}, codec.encode a = some inner → Text.Frames text inner →
    codec.decode text = .ok a
  reads : ∀ {cs z text a}, Writes cs z → Text.Frames text (.ofList cs) →
    codec.decode text = .ok a → stands a z
  refuses : ∀ {cs z text}, Writes cs z → Text.Frames text (.ofList cs) → (∀ a, ¬ stands a z) →
    ∃ fault, codec.decode text = .error (.cache (failure text fault))

/-- A codec that reads the text without its blanks. -/
theorem readsIntegers_of_read {codec : Codec α} {stands : α → Int → Prop}
    {failure : String → IntegerFault → CacheFault} (read : String → Except IntegerFault α)
    (hdecode : ∀ text, codec.decode text =
      (read (Text.trim text)).mapError fun fault => .cache (failure text fault))
    (hencode : ∀ {a inner}, codec.encode a = some inner →
      read inner = .ok a ∧ ∃ z, inner = toString (z : Int))
    (hread : ∀ {cs z a}, Writes cs z → read (.ofList cs) = .ok a → stands a z) :
    codec.ReadsIntegers stands failure := by
  refine ⟨fun {a inner text} hinner htext => ?_, fun {cs z text a} hcs htext ha => ?_,
    fun {cs z text} hcs htext hnone => ?_⟩
  · obtain ⟨hok, z, hz⟩ := hencode hinner
    have hwrites : Writes inner.toList z := hz ▸ writes_toString z
    rw [← String.ofList_toList (s := inner)] at htext
    rw [hdecode, hwrites.trim_eq htext, String.ofList_toList, hok]
    rfl
  · rw [hdecode, hcs.trim_eq htext] at ha
    cases hresult : read (.ofList cs) with
    | error fault =>
      rw [hresult] at ha
      cases ha
    | ok a' =>
      rw [hresult] at ha
      cases ha
      exact hread hcs hresult
  · rw [hdecode, hcs.trim_eq htext]
    cases hresult : read (.ofList cs) with
    | error fault => exact ⟨fault, rfl⟩
    | ok a => exact absurd (hread hcs hresult) (hnone a)

theorem decodeInt_eq (text : String) :
    decodeInt text = (readInt64 (Text.trim text)).mapError fun fault =>
      .cache (.notInteger text fault) := by
  rw [decodeInt]
  cases readInt64 (Text.trim text) <;> rfl

/-- A signed number that is read is the one that is written. -/
theorem toInt_of_readInt64 {cs : List Char} {z : Int} (h : Writes cs z) {n : Int64}
    (hn : readInt64 (.ofList cs) = .ok n) : n.toInt = z := by
  rw [readInt64_of_writes h] at hn
  split_ifs at hn with hsmall hlarge
  obtain rfl := Except.ok.inj hn
  simp only [maxInt64] at hsmall hlarge
  exact Int64.toInt_ofInt_of_le (by omega) (by omega)

theorem readsIntegers_int : int.ReadsIntegers (fun n z => n.toInt = z) .notInteger := by
  refine readsIntegers_of_read readInt64 (fun text => ?_) (fun {n inner} h => ?_)
    fun h hn => toInt_of_readInt64 h hn
  · simp only [int, decodeInt_eq]
  · obtain rfl := Option.some.inj h
    exact ⟨readInt64_toString n, n.toInt, rfl⟩

theorem readsIntegers_count : count.ReadsIntegers (fun n z => (n.toNat : Int) = z) .notCount := by
  refine readsIntegers_of_read readUInt64 (fun text => ?_) (fun {n inner} h => ?_)
    fun h hn => readUInt64_of_writes h hn
  · simp only [count, decodeCount]
    cases readUInt64 (Text.trim text) <;> rfl
  · obtain rfl := Option.some.inj h
    exact ⟨readUInt64_repr n, n.toNat, rfl⟩

theorem readsIntegers_optionalInt :
    optionalInt.ReadsIntegers (fun n z => ∃ m, n = some m ∧ m.toInt = z) .notInteger := by
  refine readsIntegers_of_read (fun s => (readInt64 s).map some) (fun text => ?_)
    (fun {n inner} h => ?_) fun {cs z n} h hn => ?_
  · simp only [optionalInt, decodeInt_eq]
    cases readInt64 (Text.trim text) <;> rfl
  · obtain ⟨m, rfl, rfl⟩ := Option.map_eq_some_iff.1 h
    rw [readInt64_toString]
    exact ⟨rfl, m.toInt, rfl⟩
  · cases hm : readInt64 (.ofList cs) with
    | error fault =>
      rw [hm] at hn
      cases hn
    | ok m =>
      rw [hm] at hn
      cases hn
      exact ⟨m, rfl, toInt_of_readInt64 h hm⟩

/-- A codec that writes every result. -/
theorem Exact.of_faithful {codec : Codec α} (h : codec.Faithful)
    (hencode : ∀ a, codec.encode a ≠ none) : codec.Exact fun _ => False :=
  ⟨fun a => iff_of_false (hencode a) id, h⟩

theorem exact_optionalInt : optionalInt.Exact (· = none) where
  encode_eq_none_iff n := by cases n <;> simp [optionalInt]
  faithful := faithful_optionalInt

theorem decode_document (j : Json) :
    document.decode j.toText =
      ((j.reread? Json.Source.maxDepth).map fun j => .ok j.canonical).getD (.error .json) := by
  have hread : j.source.value? = j.reread? Json.Source.maxDepth := rfl
  rw [document, json, written]
  simp only [Json.ofText?_toText, Option.bind_some, hread]
  cases j.reread? Json.Source.maxDepth <;> rfl

theorem encode_document {j : Json} (hc : j.IsCanonical) (hne : j ≠ .null) :
    document.encode j = some j.toText := by
  have hid : (id j).canonical = j := hc
  rw [document, json, written]
  simp only [hid]

/-- A JSON value whose names stand in order is read from its text if it is not too deep; else its
text is refused. -/
theorem decode_document_iff {j : Json} (h : j.Integral) (hc : j.IsCanonical) :
    (document.decode j.toText = .ok j ↔ j.Within Json.Source.maxDepth) ∧
      (¬ j.Within Json.Source.maxDepth → document.decode j.toText = .error .json) := by
  have hdeep (hn : ¬ j.Within Json.Source.maxDepth) :
      document.decode j.toText = .error .json := by
    obtain ⟨n, hwithin⟩ := h.exists_within
    have hnone : j.reread? Json.Source.maxDepth = none := by
      by_contra hsome
      exact hn (hwithin.of_reread? (Option.isSome_iff_ne_none.2 hsome))
    rw [decode_document, hnone]
    rfl
  refine ⟨⟨fun hok => ?_, fun hwithin => ?_⟩, hdeep⟩
  · by_contra hn
    rw [hdeep hn] at hok
    cases hok
  · rw [decode_document, hwithin.reread?_eq]
    exact congrArg Except.ok hc

/-- **Codecs round-trip.** Truth values, integers, counts and texts are all written, and an optional
integer unless it is missing; each of them is read back from its text. Blanks around an integer are
allowed, and an integer that does not fit is refused. A JSON value of 64-bit integers is written
unless it is null, and read back from its text exactly if it opens at most 127 containers at once;
the text of a deeper value is refused. -/
theorem codecs_round_trip :
    (bool.Exact (fun _ => False) ∧ int.Exact (fun _ => False) ∧ count.Exact (fun _ => False) ∧
      string.Exact (fun _ => False) ∧ optionalInt.Exact (· = none)) ∧
    (int.ReadsIntegers (fun n z => n.toInt = z) .notInteger ∧
      count.ReadsIntegers (fun n z => (n.toNat : Int) = z) .notCount ∧
      optionalInt.ReadsIntegers (fun n z => ∃ m, n = some m ∧ m.toInt = z) .notInteger) ∧
    ∀ j : Json, j.Integral → j.IsCanonical →
      (document.encode j = none ↔ j = .null) ∧
      ∀ text, document.encode j = some text →
        (document.decode text = .ok j ↔ j.Within Json.Source.maxDepth) ∧
        (¬ j.Within Json.Source.maxDepth → document.decode text = .error .json) := by
  have hstring : string.Faithful := by
    intro a text h
    rw [← Option.some.inj h]
    rfl
  refine ⟨⟨?_, ?_, ?_, ?_, exact_optionalInt⟩, ?_, fun j h hc => ?_⟩
  · exact .of_faithful faithful_bool fun _ => nofun
  · exact .of_faithful faithful_int fun _ => nofun
  · exact .of_faithful faithful_count fun _ => nofun
  · exact .of_faithful hstring fun _ => nofun
  · exact ⟨readsIntegers_int, readsIntegers_count, readsIntegers_optionalInt⟩
  · by_cases hnull : j = .null
    · subst hnull
      exact ⟨iff_of_true rfl rfl, nofun⟩
    · rw [encode_document hc hnull]
      refine ⟨iff_of_false nofun hnull, fun text htext => ?_⟩
      obtain rfl := Option.some.inj htext
      exact decode_document_iff h hc

/-- A value with integers at both ends of their range. -/
private def range : Json :=
  .object [("most", .integer 18446744073709551615),
    ("−∞ \"least\"", .array [.integer (-9223372036854775808)])]

theorem codecs_round_trip_range :
    range.Integral ∧ range.IsCanonical ∧ document.encode range = some range.toText ∧
      document.decode range.toText = .ok range := by
  have hintegral : range.Integral := by
    refine .object (List.forall_mem_cons.2 ⟨.integer (by decide) (by decide), ?_⟩)
    refine List.forall_mem_singleton.2 (.array (List.forall_mem_singleton.2 ?_))
    exact .integer (by decide) (by decide)
  have hcanonical : range.IsCanonical := by rfl
  have hencode : document.encode range = some range.toText := encode_document hcanonical nofun
  have hwithin : range.Within Json.Source.maxDepth := by
    refine .object (List.forall_mem_cons.2 ⟨.integer _ (by decide) (by decide), ?_⟩)
    refine List.forall_mem_singleton.2 (.array (List.forall_mem_singleton.2 ?_))
    exact .integer _ (by decide) (by decide)
  have hread := (codecs_round_trip.2.2 range hintegral hcanonical).2 _ hencode
  exact ⟨hintegral, hcanonical, hencode, hread.1.2 hwithin⟩

/-- An object inside of an object and so on, one more than are read. -/
theorem document_refuses_deep_text :
    (Json.nested 128).Integral ∧ (Json.nested 128).IsCanonical ∧
    document.encode (Json.nested 128) = some (Json.nested 128).toText ∧
    document.decode (Json.nested 128).toText = .error .json := by
  refine ⟨Json.integral_nested 128, Json.isCanonical_nested 128,
    encode_document (Json.isCanonical_nested 128) nofun, ?_⟩
  rw [decode_document, Json.reread?_nested (by decide)]
  rfl

end Cache.Codec

end Polydialect
