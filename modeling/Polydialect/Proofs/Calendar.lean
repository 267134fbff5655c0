import Polydialect.Calendar.Reader
import Polydialect.Proofs.Codec

/-!
# Timestamps in JSON

What a text says of a timestamp is read from it (`Timestamp.ofIso?_toIso`): the years with a sign
and every fraction of a second included. Each field is written with as many digits as it is read
with, or has something other than a digit behind it (`Timestamp.takeDigits_append`). A text says
everything of the timestamps with a text of their own, and only of these
(`Timestamp.asWritten_eq_self_iff`): of nanoseconds from `10^9` on it shows the second after, and
it is read as that second unless this is the leap second of its minute.
-/

namespace Polydialect.Timestamp

open Number Text

variable {ds rest : List Char}

/-! ## Digits -/

theorem isDigit_of_mem_padded {width n : Nat} {c : Char} (h : c ∈ padded width n) :
    c.isDigit = true := by
  rcases List.mem_append.1 h with h | h
  · rw [(List.mem_replicate.1 h).2]
    decide
  · exact isDigit_of_mem_toDigits h

theorem padded_ne_nil (width n : Nat) : padded width n ≠ [] :=
  List.append_ne_nil_of_right_ne_nil _ Nat.toDigits_ne_nil

theorem exists_padded_eq_cons (width n : Nat) :
    ∃ d r, padded width n = d :: r ∧ d.isDigit = true := by
  obtain ⟨d, r, h⟩ := List.exists_cons_of_ne_nil (padded_ne_nil width n)
  exact ⟨d, r, h, isDigit_of_mem_padded (h ▸ List.mem_cons_self)⟩

theorem ofDigitChars_padded (width n : Nat) : Nat.ofDigitChars 10 (padded width n) 0 = n := by
  show Nat.ofDigitChars 10 (List.replicate _ '0' ++ Nat.toDigits 10 n) 0 = n
  rw [Nat.ofDigitChars_append, Nat.ofDigitChars_replicate_zero, Nat.mul_zero,
    Nat.ofDigitChars_ten_toDigits]

theorem length_padded {width n : Nat} (hw : 0 < width) (h : n < Nat.pow 10 width) :
    (padded width n).length = width := by
  have hlen := (Nat.length_toDigits_le_iff (b := 10) (by decide) hw).2 h
  simp only [padded, List.length_append, List.length_replicate]
  omega

/-- Digits are read up to the width, or up to something else. -/
theorem takeDigits_append {width : Nat} (hd : ∀ c ∈ ds, c.isDigit = true) (hne : ds ≠ [])
    (hle : ds.length ≤ width)
    (hr : ds.length = width ∨ ∀ c, rest.head? = some c → c.isDigit = false) :
    takeDigits width (ds ++ rest) = some (ds, rest) := by
  have htake : ((ds ++ rest).take width).takeWhile Char.isDigit = ds := by
    rw [List.take_append, List.take_of_length_le hle, List.takeWhile_append_of_pos hd]
    have hrest : (rest.take (width - ds.length)).takeWhile Char.isDigit = [] := by
      rcases hr with hr | hr
      · rw [hr, Nat.sub_self, List.take_zero]
        rfl
      · cases rest with
        | nil => simp
        | cons c rest =>
          cases width - ds.length with
          | zero => rfl
          | succ n => simp [hr c rfl]
    rw [hrest, List.append_nil]
  rw [takeDigits, htake]
  cases ds with
  | nil => exact absurd rfl hne
  | cons c ds => simp

theorem dropBlanks_padded (width n : Nat) (rest : List Char) :
    dropBlanks (padded width n ++ rest) = padded width n ++ rest := by
  obtain ⟨d, r, h, hd⟩ := exists_padded_eq_cons width n
  rw [h]
  exact List.dropWhile_cons_of_neg (by simp [isBlank_of_isDigit hd])

/-! ## Fields -/

/-- A field of two digits. -/
theorem takeNumber_padded {n : Nat} (h : n < 100) (rest : List Char) :
    takeNumber 2 (padded 2 n ++ rest) = some (n, rest) := by
  have hlen : (padded 2 n).length = 2 := length_padded (by decide) h
  rw [takeNumber, dropBlanks_padded, takeDigits_append (fun _ => isDigit_of_mem_padded)
    (padded_ne_nil 2 n) (Nat.le_of_eq hlen) (.inl hlen), Option.map_some, ofDigitChars_padded]

/-- A year of four digits has no sign before it. -/
theorem takeYear_padded {n : Nat} (h : n < 10000) (rest : List Char) :
    takeYear (padded 4 n ++ rest) = some ((n : Int), rest) := by
  have hlen : (padded 4 n).length = 4 := length_padded (by decide) h
  have htake : takeDigits 4 (padded 4 n ++ rest) = some (padded 4 n, rest) :=
    takeDigits_append (fun _ => isDigit_of_mem_padded) (padded_ne_nil 4 n) (Nat.le_of_eq hlen)
      (.inl hlen)
  have hdigit {c : Char} {r : List Char} (hc : padded 4 n ++ rest = c :: r) : c.isDigit = true := by
    obtain ⟨d, ds, hpadded, hd⟩ := exists_padded_eq_cons 4 n
    rw [hpadded] at hc
    exact (List.cons.inj hc).1 ▸ hd
  unfold takeYear
  simp only [dropBlanks_padded]
  split
  · exact absurd (hdigit ‹_›) (by decide)
  · exact absurd (hdigit ‹_›) (by decide)
  · rw [htake, Option.map_some, Option.map_some, ofDigitChars_padded]

theorem takeYear_minus (s : List Char) :
    takeYear ('-' :: s) =
      (takeDigits s.length s).map fun p => (-(Nat.ofDigitChars 10 p.1 0 : Int), p.2) :=
  Option.map_map ..

theorem takeYear_plus (s : List Char) :
    takeYear ('+' :: s) =
      (takeDigits s.length s).map fun p => ((Nat.ofDigitChars 10 p.1 0 : Int), p.2) :=
  Option.map_map ..

/-- A year, up to the `-` behind it. -/
theorem takeYear_yearText (year : Int) (rest : List Char) :
    takeYear (yearText year ++ '-' :: rest) = some (year, '-' :: rest) := by
  have hminus : ∀ c, ('-' :: rest).head? = some c → c.isDigit = false := fun c hc => by
    rw [← Option.some.inj hc]
    decide
  -- behind a sign any number of digits is read: they end at the `-`
  have hsigned : takeDigits (padded 4 year.natAbs ++ '-' :: rest).length
      (padded 4 year.natAbs ++ '-' :: rest) = some (padded 4 year.natAbs, '-' :: rest) :=
    takeDigits_append (fun _ => isDigit_of_mem_padded) (padded_ne_nil 4 _)
      (by rw [List.length_append]; exact Nat.le_add_right _ _) (.inr hminus)
  unfold yearText
  split
  · rename_i h
    rw [takeYear_padded (by omega)]
    exact congrArg (fun n : Int => some (n, '-' :: rest)) (by omega)
  · split
    · rw [List.cons_append, takeYear_minus, hsigned, Option.map_some, ofDigitChars_padded]
      exact congrArg (fun n : Int => some (n, '-' :: rest)) (by omega)
    · rw [List.cons_append, takeYear_plus, hsigned, Option.map_some, ofDigitChars_padded]
      exact congrArg (fun n : Int => some (n, '-' :: rest)) (by omega)

/-- A fraction of some of nine digits. -/
theorem takeFraction_padded {width n : Nat} (hw : 0 < width ∧ width ≤ 9)
    (h : n < Nat.pow 10 width) :
    takeFraction ('.' :: padded width n) = some (n * Nat.pow 10 (9 - width), []) := by
  have hlen : (padded width n).length = width := length_padded hw.1 h
  have htake : takeDigits 9 (padded width n ++ []) = some (padded width n, []) :=
    takeDigits_append (fun _ => isDigit_of_mem_padded) (padded_ne_nil width n) (by omega)
      (.inr nofun)
  rw [List.append_nil] at htake
  rw [takeFraction, htake, Option.map_some, ofDigitChars_padded, hlen]
  rfl

theorem takeFraction_fractionText {n : Nat} (h : n < 1000000000) :
    takeFraction (fractionText n) = some (n, []) := by
  unfold fractionText
  split
  · rename_i h0
    rw [h0]
    rfl
  · split
    · rw [takeFraction_padded (by decide) (by show n / 1000000 < 1000; omega)]
      exact congrArg (fun n => some (n, [])) (by show n / 1000000 * 1000000 = n; omega)
    · split
      · rw [takeFraction_padded (by decide) (by show n / 1000 < 1000000; omega)]
        exact congrArg (fun n => some (n, [])) (by show n / 1000 * 1000 = n; omega)
      · rw [takeFraction_padded (by decide) h]
        exact congrArg (fun n => some (n, [])) (Nat.mul_one n)

/-! ## Timestamps -/

theorem daysInMonth_le (year : Int) (month : Nat) : daysInMonth year month ≤ 31 := by
  fun_cases daysInMonth year month <;> decide

/-- A month that has a day is one of the twelve. -/
theorem month_le {year : Int} {month : Nat} (h : 0 < daysInMonth year month) : month ≤ 12 := by
  refine Nat.le_of_not_lt fun hlt => ?_
  have h0 : daysInMonth year month = 0 := by
    unfold daysInMonth
    split <;> omega
  omega

theorem second_lt (t : Timestamp) : t.second < 60 := t.ok.2.2.2.2.1

theorem nanosecond_lt (t : Timestamp) : t.nanosecond < 2000000000 := t.ok.2.2.2.2.2

theorem writtenSecond_of_lt {t : Timestamp} (h : t.nanosecond < 1000000000) :
    t.writtenSecond = t.second := by
  rw [writtenSecond, Nat.div_eq_of_lt h, Nat.add_zero]

theorem writtenSecond_of_le {t : Timestamp} (h : 1000000000 ≤ t.nanosecond) :
    t.writtenSecond = t.second + 1 := by
  have hlt := t.nanosecond_lt
  rw [writtenSecond]
  omega

theorem writtenNanosecond_of_le {t : Timestamp} (h : 1000000000 ≤ t.nanosecond) :
    t.writtenNanosecond + 1000000000 = t.nanosecond := by
  have hlt := t.nanosecond_lt
  rw [writtenNanosecond]
  omega

theorem writtenNanosecond_lt (t : Timestamp) : t.writtenNanosecond < 1000000000 :=
  Nat.mod_lt _ (by decide)

/-- Two digits are enough for each field but the year. -/
theorem two_digits (t : Timestamp) :
    t.month < 100 ∧ t.day < 100 ∧ t.hour < 100 ∧ t.minute < 100 ∧ t.writtenSecond < 100 := by
  obtain ⟨-, ⟨hday, hdays⟩, hhour, hminute, hsecond, hnanosecond⟩ := t.ok
  have hlast := daysInMonth_le t.year t.month
  have htwelve := month_le (Nat.lt_of_lt_of_le hday hdays)
  rw [writtenSecond]
  omega

theorem takeFraction_writtenNanosecond (t : Timestamp) :
    takeFraction (fractionText t.writtenNanosecond) = some (t.writtenNanosecond, []) :=
  takeFraction_fractionText t.writtenNanosecond_lt

/-- The nanoseconds of the timestamp are those of its second, or of the leap second behind
second 59. -/
def HasOwnText (t : Timestamp) : Prop := t.nanosecond < 1000000000 ∨ t.second = 59

instance (t : Timestamp) : Decidable t.HasOwnText := inferInstanceAs (Decidable (_ ∨ _))

theorem ok_of_not_hasOwnText {t : Timestamp} (h : ¬ t.HasOwnText) :
    Exists t.year t.month t.day t.hour t.minute t.writtenSecond t.writtenNanosecond := by
  obtain ⟨hyear, hday, hhour, hminute, hsecond, -⟩ := t.ok
  obtain ⟨hle, hne⟩ := not_or.1 h
  have hnanosecond := t.writtenNanosecond_lt
  have hwritten := writtenSecond_of_le (Nat.le_of_not_lt hle)
  exact ⟨hyear, hday, hhour, hminute, by omega, by omega⟩

/-- The timestamp that a text says: nanoseconds from `10^9` on become those of the second after. -/
def asWritten (t : Timestamp) : Timestamp :=
  if h : t.HasOwnText then t
  else ⟨t.year, t.month, t.day, t.hour, t.minute, t.writtenSecond, t.writtenNanosecond,
    ok_of_not_hasOwnText h⟩

theorem asWritten_eq_self_iff {t : Timestamp} : t.asWritten = t ↔ t.HasOwnText := by
  constructor
  · refine fun h => Decidable.byContradiction fun hown => ?_
    have hle := Nat.le_of_not_lt (not_or.1 hown).1
    have hsecond : t.writtenSecond = t.second := by
      rw [asWritten, dif_neg hown] at h
      exact congrArg second h
    rw [writtenSecond_of_le hle] at hsecond
    omega
  · intro h
    rw [asWritten, dif_pos h]

theorem ofFields?_self (t : Timestamp) :
    ofFields? t.year t.month t.day t.hour t.minute t.second t.nanosecond = some t := dif_pos t.ok

/-- The fields that a text shows are those of the timestamp that it says. -/
theorem timestamp?_written (t : Timestamp) :
    Fields.timestamp? ⟨t.year, t.month, t.day, t.hour, t.minute, t.writtenSecond,
      t.writtenNanosecond⟩ = some t.asWritten := by
  have hsecond := t.second_lt
  rw [Fields.timestamp?]
  by_cases hlt : t.nanosecond < 1000000000
  · have hwritten := writtenSecond_of_lt hlt
    have hne : t.writtenSecond ≠ 60 := by omega
    rw [if_neg hne, hwritten, writtenNanosecond, Nat.mod_eq_of_lt hlt, ofFields?_self,
      asWritten_eq_self_iff.2 (.inl hlt)]
  · have hle := Nat.le_of_not_lt hlt
    have hwritten := writtenSecond_of_le hle
    by_cases hlast : t.second = 59
    · -- the leap second of the minute
      have heq : t.writtenSecond = 60 := by omega
      rw [if_pos heq, writtenNanosecond_of_le hle, ← hlast, ofFields?_self,
        asWritten_eq_self_iff.2 (.inr hlast)]
    · have hown : ¬ t.HasOwnText := not_or.2 ⟨hlt, hlast⟩
      have hne : t.writtenSecond ≠ 60 := by omega
      rw [if_neg hne, asWritten, dif_neg hown]
      exact dif_pos (ok_of_not_hasOwnText hown)

/-- A text is read as the timestamp that it says. -/
theorem ofIso?_toIso (t : Timestamp) : ofIso? t.toIso = some t.asWritten := by
  have hdrop {c : Char} (hc : isBlank c = false) (s : List Char) : dropBlanks (c :: s) = c :: s :=
    List.dropWhile_cons_of_neg (by simp [hc])
  have hdash := hdrop (c := '-') (by decide)
  have hletter := hdrop (c := 'T') (by decide)
  have hcolon := hdrop (c := ':') (by decide)
  have hend : dropBlanks [] = [] := rfl
  rw [ofIso?, toIso, String.toList_ofList]
  simp [textWith, isoFormat, readItems, Item.read, takeYear_yearText, takeNumber_padded,
    t.two_digits, hdash, hletter, hcolon, hend, t.takeFraction_writtenNanosecond,
    t.timestamp?_written]

end Polydialect.Timestamp
