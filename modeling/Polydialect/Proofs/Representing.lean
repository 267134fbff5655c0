import Polydialect.Proofs.Dating
import Polydialect.Proofs.Decimal
import Polydialect.Proofs.Introspection
import Polydialect.Proofs.Running
import Polydialect.Record

/-!
# Values in another representation

SQLite keeps truth values as integers and decimals and timestamps as texts, so a value is read from
what it has become there. The readers of integers and truth values are stricter on texts than on
decimals: they take the text of an integer and the two digits `0` and `1`.

* `Decimal.readInt64_toText`, `point_mem_toText`: the text of a decimal is that of an integer as
  long as it has no places;
* `Value.boolOfWord?_toText_iff`: the decimals whose texts are words of truth;
* `Value.read_stored_iff`: so which values the readers still see in SQLite (`Value.price_unread`
  shows one that they do not).
-/

namespace Polydialect

/-! ## Integers in texts -/

namespace Number

variable {limit n : Nat} {fault : IntegerFault} {s : String} {i : Int64}

theorem isDigit_of_readDigits {acc : Nat} {cs : List Char}
    (h : readDigits limit fault acc cs = .ok n) : ∀ c ∈ cs, c.isDigit = true := by
  induction cs generalizing acc with
  | nil => exact fun _ hc => absurd hc List.not_mem_nil
  | cons c cs ih =>
    rw [readDigits] at h
    split at h
    · rename_i hc
      simp only at h
      split at h
      · exact List.forall_mem_cons.2 ⟨hc, ih h⟩
      · cases h
    · cases h

/-- An integer is written without a point. -/
theorem point_not_mem_of_readInt64 (h : readInt64 s = .ok i) : '.' ∉ s.toList := by
  have hdigits {limit n : Nat} {fault : IntegerFault} {cs : List Char}
      (h : readDigits limit fault 0 cs = .ok n) : '.' ∉ cs := fun hc =>
    absurd (isDigit_of_readDigits h _ hc) (by decide)
  have hmap {x : Except IntegerFault Nat} {f : Nat → Int64} (h : x.map f = .ok i) :
      ∃ n, x = .ok n := by
    cases x with
    | error e => cases h
    | ok n => exact ⟨n, rfl⟩
  rw [readInt64] at h
  split at h
  · cases h
  · cases h
  · cases h
  · rename_i r _ hs
    rw [hs]
    refine List.not_mem_cons_of_ne_of_not_mem (by decide) ?_
    cases hr : readDigits (maxInt64 + 1) .tooSmall 0 r with
    | error e =>
      rw [hr] at h
      cases h
    | ok n => exact hdigits hr
  · rename_i r _ hs
    obtain ⟨n, hn⟩ := hmap h
    rw [hs]
    exact List.not_mem_cons_of_ne_of_not_mem (by decide) (hdigits hn)
  · obtain ⟨n, hn⟩ := hmap h
    exact hdigits hn

end Number

namespace Decimal

variable {d : Decimal}

/-! ## Texts of decimals -/

theorem toText_of_scale (h : d.scale = 0) :
    d.toText = (if d.negative then "-" else "") ++ d.coefficient.repr := by
  have hdigits : d.digits = Nat.toDigits 10 d.coefficient := by
    have hpos : 0 < (Nat.toDigits 10 d.coefficient).length :=
      List.length_pos_iff.2 Nat.toDigits_ne_nil
    have hpad : d.scale + 1 - (Nat.toDigits 10 d.coefficient).length = 0 := by omega
    rw [digits, Timestamp.padded, hpad]
    rfl
  rw [← String.toList_inj, toList_toText, if_pos h, wholeLength, h, Nat.sub_zero, List.take_length,
    List.append_nil, hdigits, String.toList_append, Nat.toList_repr]
  split <;> rfl

theorem point_mem_toText (h : d.scale ≠ 0) : '.' ∈ d.toText.toList := by
  rw [toList_toText, if_neg h]
  simp

theorem minus_mem_toText (h : d.negative = true) : '-' ∈ d.toText.toList := by
  rw [toList_toText, if_pos h]
  simp

/-- The text has digits, a sign and a point. -/
theorem mem_toText {c : Char} (h : c ∈ d.toText.toList) : c.isDigit = true ∨ c = '-' ∨ c = '.' := by
  rw [toList_toText, List.mem_append, List.mem_append] at h
  rcases h with h | h | h
  · split at h
    · exact .inr (.inl (List.mem_singleton.1 h))
    · cases h
  · exact .inl (isDigit_of_mem_digits (List.mem_of_mem_take h))
  · split at h
    · cases h
    · rcases List.mem_cons.1 h with rfl | h
      · exact .inr (.inr rfl)
      · exact .inl (isDigit_of_mem_digits (List.mem_of_mem_drop h))

theorem trim_toText (d : Decimal) : Text.trim d.toText = d.toText := by
  refine Text.trim_eq_self fun c hc => ?_
  rcases mem_toText hc with h | rfl | rfl
  · exact Text.isBlank_of_isDigit h
  · decide
  · decide

theorem lowerAscii_toText (d : Decimal) : Text.lowerAscii d.toText = d.toText := by
  have hlower : ∀ c ∈ d.toText.toList, c.toLower = c := fun c hc => by
    rcases mem_toText hc with h | rfl | rfl
    · exact Text.toLower_of_isDigit h
    · decide
    · decide
  rw [Text.lowerAscii, List.map_congr_left hlower, List.map_id', String.ofList_toList]

/-- Without places the text is that of the whole part, if this is an integer of 64 bits. -/
theorem readInt64_toText (h : d.scale = 0) {n : Int64} (hn : d.toInt64? = some n) :
    Number.readInt64 d.toText = .ok n := by
  have hwhole : d.coefficient / Nat.pow 10 d.scale = d.coefficient := by
    rw [h]
    exact Nat.div_one _
  rw [toInt64?, hwhole] at hn
  rw [toText_of_scale h]
  cases hs : d.negative with
  | true =>
    rw [hs, if_pos rfl] at hn
    obtain ⟨hle, hn⟩ := Option.ite_none_right_eq_some.1 hn
    rw [if_pos rfl, Number.readInt64_neg_repr hle, ← Option.some.inj hn]
  | false =>
    rw [hs, if_neg Bool.false_ne_true] at hn
    obtain ⟨hle, hn⟩ := Option.ite_none_right_eq_some.1 hn
    rw [if_neg Bool.false_ne_true, String.empty_append, Number.readInt64_repr hle,
      ← Option.some.inj hn]

end Decimal

namespace Value

variable {α : Type} {d : Decimal}

/-! ## Readers -/

/-- A reader sees a value in SQLite: it reads from there whatever it reads from the value. -/
def ReadStored (read : Value → Option α) (v : Value) : Prop :=
  ∀ a, read v = some a → read (Sqlite.stored v) = some a

theorem int?_text_toText (d : Decimal) :
    (Value.text d.toText).int? = (Number.readInt64 d.toText).toOption := by
  rw [int?, d.trim_toText]

theorem bool?_text_toText (d : Decimal) : (Value.text d.toText).bool? = boolOfWord? d.toText := by
  rw [bool?, d.trim_toText, d.lowerAscii_toText]

/-- The words of truth have no sign and no point, and two of them are digits. -/
theorem of_boolOfWord?_eq_some {w : String} {b : Bool} (h : boolOfWord? w = some b) :
    '-' ∉ w.toList ∧ '.' ∉ w.toList ∧ (w = "1" ∨ w = "0" ∨ ∃ c ∈ w.toList, c.isDigit = false) := by
  unfold boolOfWord? at h
  split at h
  all_goals first | simp | cases h

theorem boolOfWord?_toText_iff :
    boolOfWord? d.toText = some (!d.isZero) ↔
      d.scale = 0 ∧ d.negative = false ∧ d.coefficient ≤ 1 := by
  constructor
  · intro h
    obtain ⟨hminus, hpoint, hword⟩ := of_boolOfWord?_eq_some h
    have hs : d.scale = 0 := by
      by_contra hs
      exact hpoint (Decimal.point_mem_toText hs)
    have hneg : d.negative = false :=
      Bool.eq_false_iff.2 fun hneg => hminus (Decimal.minus_mem_toText hneg)
    have htext : d.toText = d.coefficient.repr := by
      rw [Decimal.toText_of_scale hs, hneg]
      exact String.empty_append
    rw [htext] at hword
    have hvalue : Nat.ofDigitChars 10 d.coefficient.repr.toList 0 = d.coefficient := by
      rw [Nat.toList_repr, Nat.ofDigitChars_ten_toDigits]
    refine ⟨hs, hneg, ?_⟩
    rcases hword with hone | hzero | ⟨c, hc, hdigit⟩
    · rw [← hvalue, hone]
      decide
    · rw [← hvalue, hzero]
      decide
    · rw [Nat.toList_repr] at hc
      exact absurd (Number.isDigit_of_mem_toDigits hc) (by simp [hdigit])
  · rintro ⟨hs, hneg, hle⟩
    rw [Decimal.toText_of_scale hs, hneg, Decimal.isZero]
    obtain h | h : d.coefficient = 0 ∨ d.coefficient = 1 := by omega
    · rw [h]
      decide
    · rw [h]
      decide

/-- Integers are seen unless they are read from a decimal with places, or from the undefined number,
which SQLite does not keep. -/
theorem readStored_int?_iff (v : Value) : v.ReadStored int? ↔
    v ≠ .real .nan ∧ ∀ d, v = .decimal d → d.toInt64?.isSome = true → d.scale = 0 := by
  cases v with
  | real x =>
    cases x with
    | nan => simp [ReadStored, Sqlite.stored, int?]
    | infinite | finite => simp [ReadStored, Sqlite.stored]
  | decimal d =>
    have hread : (Sqlite.stored (.decimal d)).int? = (Number.readInt64 d.toText).toOption :=
      int?_text_toText d
    simp only [ReadStored, ne_eq, reduceCtorEq, not_false_eq_true, true_and, decimal.injEq,
      forall_eq']
    constructor
    · intro h hsome
      obtain ⟨n, hn⟩ := Option.isSome_iff_exists.1 hsome
      have hn' := h n hn
      rw [hread] at hn'
      by_contra hs
      cases hr : Number.readInt64 d.toText with
      | error e =>
        rw [hr] at hn'
        cases hn'
      | ok i => exact Number.point_not_mem_of_readInt64 hr (Decimal.point_mem_toText hs)
    · intro h n hn
      have hs := h (Option.isSome_iff_exists.2 ⟨n, hn⟩)
      rw [hread, Decimal.readInt64_toText hs hn]
      rfl
  | null | bool | int | text | timestamp | bytes => simp [ReadStored, Sqlite.stored, int?]

/-- Truth values are seen in all but the decimals that are neither `0` nor `1`. -/
theorem readStored_bool?_iff (v : Value) : v.ReadStored bool? ↔
    ∀ d, v = .decimal d → d.scale = 0 ∧ d.negative = false ∧ d.coefficient ≤ 1 := by
  cases v with
  | bool b => cases b <;> simp [ReadStored, Sqlite.stored, bool?]
  | decimal d =>
    have hread : (Sqlite.stored (.decimal d)).bool? = boolOfWord? d.toText := bool?_text_toText d
    simp only [ReadStored, decimal.injEq, forall_eq', hread]
    rw [← boolOfWord?_toText_iff]
    exact ⟨fun h => h _ rfl, fun h b hb => hb ▸ h⟩
  | real x =>
    cases x <;> simp [ReadStored, Sqlite.stored, bool?]
  | null | int | text | timestamp | bytes => simp [ReadStored, Sqlite.stored, bool?]

/-- Timestamps are seen unless their text is that of another. -/
theorem readStored_timestamp?_iff (v : Value) : v.ReadStored timestamp? ↔
    ∀ t, v = .timestamp t → t.nanosecond < 1000000000 ∨ t.second = 59 := by
  cases v with
  | timestamp t =>
    have hread : (Sqlite.stored (.timestamp t)).timestamp? = some t.asWritten := t.ofText?_toText
    simp only [ReadStored, timestamp.injEq, forall_eq', hread]
    rw [← Timestamp.HasOwnText, ← Timestamp.asWritten_eq_self_iff]
    exact ⟨fun h => Option.some.inj (h t rfl), fun h a ha => by rw [h, ← Option.some.inj ha]⟩
  | real x => cases x <;> simp [ReadStored, Sqlite.stored, timestamp?]
  | null | bool | int | decimal | text | bytes => simp [ReadStored, Sqlite.stored, timestamp?]

/-- **Values in SQLite.** Integers that are read from a value are read from what SQLite keeps of it,
except from the undefined number, of which nothing is kept, and from the decimals with places whose
whole part is an integer; truth values are, except from the decimals other than `0` and `1`; and
timestamps are, except from those whose nanoseconds go on after a second other than 59. -/
theorem read_stored_iff (v : Value) :
    (v.ReadStored int? ↔
      v ≠ .real .nan ∧ ∀ d, v = .decimal d → d.toInt64?.isSome = true → d.scale = 0) ∧
    (v.ReadStored bool? ↔
      ∀ d, v = .decimal d → d.scale = 0 ∧ d.negative = false ∧ d.coefficient ≤ 1) ∧
    (v.ReadStored timestamp? ↔
      ∀ t, v = .timestamp t → t.nanosecond < 1000000000 ∨ t.second = 59) :=
  ⟨readStored_int?_iff v, readStored_bool?_iff v, readStored_timestamp?_iff v⟩

/-- The price `1.50` is the integer 1 and is true, but from its text neither is read, so the
greatest price of a table in SQLite is the one of a table without rows. -/
theorem price_unread : ∃ (d : Decimal) (r : Repository Record) (s : Session) (q : Query),
    d.toText = "1.50" ∧ (Value.decimal d).int? = some 1 ∧ (Value.decimal d).bool? = some true ∧
      Sqlite.stored (.decimal d) = .text "1.50" ∧
      ¬ (Value.decimal d).ReadStored int? ∧ ¬ (Value.decimal d).ReadStored bool? ∧
      r.db.dialect = .sqlite ∧ q.columns = ["Price"] ∧
      Step.result (r.max q) (s.script [.answer 0 [⟨["p"], [.decimal d]⟩]]) = .ok (some 1) ∧
      Step.result (r.max q) (s.script [.answer 0 [⟨["p"], [Sqlite.stored (.decimal d)]⟩]]) =
        .ok none := by
  let now : Timestamp := ⟨2024, 1, 1, 0, 0, 0, 0, by decide⟩
  let guid : Guid := ⟨"6f1c9a44-0b1e-4c57-9d0a-2f6f3f1f7a10", by decide⟩
  let d : Decimal := ⟨false, 150, 2, by decide⟩
  have hint : ¬ (Value.decimal d).ReadStored int? := fun h =>
    absurd (((readStored_int?_iff _).1 h).2 d rfl (by decide)) (by decide)
  have hbool : ¬ (Value.decimal d).ReadStored bool? := fun h =>
    absurd ((readStored_bool?_iff _).1 h d rfl).1 (by decide)
  exact ⟨d, ⟨⟨.sqlite, "", 0⟩, "Items", []⟩,
    .start ⟨fun _ => guid, fun _ => now, fun _ => 0⟩ none, Query.empty.select ["Price"],
    by decide, by decide, by decide, by decide, hint, hbool, rfl, rfl, by decide +kernel,
    by decide +kernel⟩

end Value

end Polydialect
