import Polydialect.Proofs.Calendar
import Polydialect.Sqlite.Storage
import Polydialect.Value.Access

/-!
# Timestamps in SQL text

A timestamp that is sent to a database as text is read back as the text says it, with blanks around
it or without.

* `Timestamp.ofText?_between`: of the formats that are tried the first reads the text of a
  timestamp, and as what it says;
* `Value.timestamp_survives`: so a timestamp survives its text, and SQLite, exactly if the text is
  its own (`Value.timestamp_moves` shows one without).
-/

namespace Polydialect

namespace Timestamp

open Text

/-! ## The ends of the text -/

theorem exists_padded_eq_concat (width n : Nat) :
    ∃ r d, padded width n = r ++ [d] ∧ d.isDigit = true := by
  have h := List.dropLast_concat_getLast (padded_ne_nil width n)
  exact ⟨_, _, h.symm, isDigit_of_mem_padded (List.getLast_mem (padded_ne_nil width n))⟩

/-- The text starts with a digit or the sign of the year. -/
theorem exists_textWith_eq_cons (sep : Char) (t : Timestamp) :
    ∃ c r, textWith sep t = c :: r ∧ isBlank c = false := by
  obtain ⟨c, r, hyear, hc⟩ : ∃ c r, yearText t.year = c :: r ∧ isBlank c = false := by
    unfold yearText
    split
    · obtain ⟨d, r, h, hd⟩ := exists_padded_eq_cons 4 t.year.toNat
      exact ⟨d, r, h, isBlank_of_isDigit hd⟩
    · refine ⟨_, _, rfl, ?_⟩
      split <;> decide
  rw [textWith, hyear]
  exact ⟨c, _, rfl, hc⟩

/-- It ends with a digit of the second or of its fraction. -/
theorem exists_textWith_eq_concat (sep : Char) (t : Timestamp) :
    ∃ r c, textWith sep t = r ++ [c] ∧ isBlank c = false := by
  obtain ⟨r, d, htail, hd⟩ :
      ∃ r d, padded 2 t.writtenSecond ++ fractionText t.writtenNanosecond = r ++ [d] ∧
        d.isDigit = true := by
    have hpoint (before : List Char) (width n : Nat) :
        ∃ r d, before ++ '.' :: padded width n = r ++ [d] ∧ d.isDigit = true := by
      obtain ⟨r, d, h, hd⟩ := exists_padded_eq_concat width n
      exact ⟨before ++ '.' :: r, d, by simp [h], hd⟩
    unfold fractionText
    split
    · rw [List.append_nil]
      exact exists_padded_eq_concat 2 t.writtenSecond
    · split
      · exact hpoint ..
      · split
        · exact hpoint ..
        · exact hpoint ..
  refine ⟨yearText t.year ++ '-' :: padded 2 t.month ++ '-' :: padded 2 t.day ++
    sep :: padded 2 t.hour ++ ':' :: padded 2 t.minute ++ ':' :: r, d, ?_, isBlank_of_isDigit hd⟩
  simp only [textWith, List.append_assoc, List.cons_append, htail]

/-! ## Reading it -/

/-- The text with a space is of the first format. -/
theorem readItems_text (t : Timestamp) :
    readItems .start (textWith ' ' t) (dateItems ++ .blanks :: timeItems) =
      some t.asWritten := by
  have hblank (s : List Char) : dropBlanks (' ' :: s) = dropBlanks s :=
    List.dropWhile_cons_of_pos (by decide)
  simp [textWith, dateItems, timeItems, readItems, Item.read, takeYear_yearText,
    takeNumber_padded, t.two_digits, hblank, dropBlanks_padded, t.takeFraction_writtenNanosecond,
    t.timestamp?_written]

/-- Among blanks the text of a timestamp is read as what it says. -/
theorem ofText?_between (t : Timestamp) {before after : String}
    (hb : ∀ c ∈ before.toList, isBlank c = true) (ha : ∀ c ∈ after.toList, isBlank c = true) :
    ofText? (before ++ t.toText ++ after) = some t.asWritten := by
  have htrim : trimmed (before ++ t.toText ++ after).toList = textWith ' ' t := by
    rw [String.toList_append, String.toList_append, toText, String.toList_ofList]
    exact trimmed_between hb ha (exists_textWith_eq_cons ' ' t) (exists_textWith_eq_concat ' ' t)
  rw [ofText?, htrim, textFormats, List.findSome?_cons, readItems_text]

theorem ofText?_toText (t : Timestamp) : ofText? t.toText = some t.asWritten := by
  have hnone : ∀ c ∈ "".toList, isBlank c = true := fun c hc => absurd hc List.not_mem_nil
  simpa using t.ofText?_between hnone hnone

end Timestamp

namespace Value

/-- **Timestamps survive text.** Whatever its year, its second and its fraction, a timestamp has a
text that is read as what it says, among any blanks. It is the text that SQLite keeps for the
timestamp, so what comes back from there is a text and is read as the same. What the text says is
the timestamp itself, leap seconds behind second 59 included, unless its nanoseconds go on after
another second. -/
theorem timestamp_survives (t : Timestamp) (before after : String)
    (hb : ∀ c ∈ before.toList, Text.isBlank c = true)
    (ha : ∀ c ∈ after.toList, Text.isBlank c = true) :
    ∃ s, (Value.timestamp t).toText? = some s ∧
      (Value.text (before ++ s ++ after)).timestamp? = some t.asWritten ∧
      Sqlite.stored (.timestamp t) = .text s ∧
      (Sqlite.stored (.timestamp t)).timestamp? = some t.asWritten ∧
      (t.asWritten = t ↔ t.nanosecond < 1000000000 ∨ t.second = 59) :=
  ⟨t.toText, rfl, t.ofText?_between hb ha, rfl, t.ofText?_toText, Timestamp.asWritten_eq_self_iff⟩

/-- A leap second before the first year, to the nanosecond, between a tab and a line break. -/
theorem timestamp_survives_leap :
    ∃ t : Timestamp, t.toText = "-0044-03-15 23:59:60.000000001" ∧
      (Value.text ("\t" ++ t.toText ++ "\n")).timestamp? = some t := by
  let t : Timestamp := ⟨-44, 3, 15, 23, 59, 59, 1000000001, by decide⟩
  have htab : "\t".toList.all Text.isBlank = true := by decide
  have hline : "\n".toList.all Text.isBlank = true := by decide
  obtain ⟨s, htext, hread, -, -, hown⟩ :=
    timestamp_survives t "\t" "\n" (List.all_eq_true.1 htab) (List.all_eq_true.1 hline)
  have hs : t.toText = s := Option.some.inj htext
  exact ⟨t, by decide, by rw [hs, hread, hown.2 (.inr rfl)]⟩

/-- Nanoseconds that go on after second 30 are written as those of second 31 and read so; and what
SQLite gives back is a text, of whatever timestamp. -/
theorem timestamp_moves :
    ∃ t t' : Timestamp, t.second = 30 ∧ t.nanosecond = 1333333333 ∧
      t'.second = 31 ∧ t'.nanosecond = 333333333 ∧
      t.toText = "2021-07-19 12:00:31.333333333" ∧
      (Value.text t.toText).timestamp? = some t' ∧
      Sqlite.stored (.timestamp t) = .text t.toText ∧
      (Sqlite.stored (.timestamp t)).timestamp? ≠ some t ∧
      Sqlite.stored (.timestamp t') ≠ .timestamp t' := by
  let t : Timestamp := ⟨2021, 7, 19, 12, 0, 30, 1333333333, by decide⟩
  let t' : Timestamp := ⟨2021, 7, 19, 12, 0, 31, 333333333, by decide⟩
  have hmoved : t.asWritten = t' := by decide
  have hread : (Value.text t.toText).timestamp? = some t' := by
    rw [← hmoved, ← t.ofText?_toText]
    rfl
  have hne : t' ≠ t := by decide
  exact ⟨t, t', rfl, rfl, rfl, rfl, by decide, hread, rfl,
    fun h => hne (Option.some.inj (hread.symm.trans h)), nofun⟩

end Value

end Polydialect
