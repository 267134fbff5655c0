import Polydialect.Cache.Codec

/-!
# Cached texts are read back

The truth values, integers and counts that are written into a cache are read back as they were
(`Cache.Codec.Faithful`), whatever a cache does to other texts.
-/

namespace Polydialect

namespace Number

variable {limit : Nat} {fault : IntegerFault}

theorem le_ofDigitChars (cs : List Char) (acc : Nat) : acc ≤ Nat.ofDigitChars 10 cs acc := by
  rw [Nat.ofDigitChars_eq_ofDigitChars_zero]
  calc acc ≤ 10 ^ cs.length * acc := Nat.le_mul_of_pos_left acc (Nat.pow_pos (by decide))
    _ ≤ _ := Nat.le_add_right _ _

theorem readDigits_eq_ok {cs : List Char} (hd : ∀ c ∈ cs, c.isDigit = true) {acc : Nat}
    (hl : Nat.ofDigitChars 10 cs acc ≤ limit) :
    readDigits limit fault acc cs = .ok (Nat.ofDigitChars 10 cs acc) := by
  induction cs generalizing acc with
  | nil => rfl
  | cons c cs ih =>
    obtain ⟨hc, hcs⟩ := List.forall_mem_cons.1 hd
    rw [Nat.ofDigitChars_cons] at hl ⊢
    have hn : 10 * acc + (c.toNat - '0'.toNat) ≤ limit := Nat.le_trans (le_ofDigitChars cs _) hl
    rw [readDigits, if_pos hc]
    show (if _ then _ else _) = _
    rw [if_pos hn, ih hcs hl]

theorem isDigit_of_mem_toDigits {n : Nat} {c : Char} (hc : c ∈ Nat.toDigits 10 n) :
    c.isDigit = true := Nat.isDigit_of_mem_toDigits (by decide) (by decide) hc

theorem readDigits_toDigits {n : Nat} (hn : n ≤ limit) :
    readDigits limit fault 0 (Nat.toDigits 10 n) = .ok n := by
  have h : Nat.ofDigitChars 10 (Nat.toDigits 10 n) 0 = n :=
    Nat.ofDigitChars_toDigits (by decide) (by decide)
  rw [readDigits_eq_ok (fun c => isDigit_of_mem_toDigits) (h.symm ▸ hn), h]

theorem exists_toDigits_eq_cons (n : Nat) :
    ∃ c r, Nat.toDigits 10 n = c :: r ∧ c ≠ '+' ∧ c ≠ '-' := by
  obtain ⟨c, r, h⟩ := List.exists_cons_of_ne_nil (Nat.toDigits_ne_nil (n := n) (b := 10))
  have hc : c.isDigit = true := isDigit_of_mem_toDigits (h ▸ List.mem_cons_self)
  refine ⟨c, r, h, ?_, ?_⟩
  · rintro rfl
    exact absurd hc (by decide)
  · rintro rfl
    exact absurd hc (by decide)

theorem readNat_repr {n : Nat} (hn : n ≤ limit) : readNat limit n.repr = .ok n := by
  obtain ⟨c, r, h, hplus, -⟩ := exists_toDigits_eq_cons n
  rw [← @readDigits_toDigits _ .tooLarge _ hn, readNat, Nat.toList_repr, h]
  split <;> simp_all

theorem readUInt64_repr (n : UInt64) : readUInt64 (toString n.toNat) = .ok n := by
  have hn : n.toNat ≤ UInt64.size - 1 := Nat.le_sub_one_of_lt n.toNat_lt_size
  rw [readUInt64, Nat.toString_eq_repr, readNat_repr hn]
  exact congrArg Except.ok UInt64.ofNat_toNat

theorem readInt64_repr {n : Nat} (hn : n ≤ maxInt64) :
    readInt64 n.repr = .ok (Int64.ofNat n) := by
  obtain ⟨c, r, h, hplus, hminus⟩ := exists_toDigits_eq_cons n
  have hr := @readDigits_toDigits _ .tooLarge _ hn
  rw [h] at hr
  rw [readInt64, Nat.toList_repr, h]
  split <;> simp_all [Except.map]

theorem readInt64_neg_repr {n : Nat} (hn : n ≤ maxInt64 + 1) :
    readInt64 ("-" ++ n.repr) = .ok (Int64.ofInt (-n)) := by
  obtain ⟨c, r, h, -⟩ := exists_toDigits_eq_cons n
  have hr := @readDigits_toDigits _ .tooSmall _ hn
  rw [h] at hr
  rw [readInt64, String.toList_append, Nat.toList_repr, h]
  show Except.map _ (readDigits (maxInt64 + 1) .tooSmall 0 (c :: r) >>= fun n => pure (n : Int)) = _
  rw [hr]
  rfl

theorem readInt64_toString (n : Int64) : readInt64 (toString n.toInt) = .ok n := by
  have hlt := n.toInt_lt
  have hle := n.le_toInt
  cases h : n.toInt with
  | ofNat m =>
    have hm : m ≤ maxInt64 := by
      rw [h, Int.ofNat_eq_natCast] at hlt
      show m ≤ 9223372036854775807
      omega
    rw [Int.toString_eq_repr, Int.repr, readInt64_repr hm, ← Int64.ofInt_toInt n, h]
    rfl
  | negSucc m =>
    have hm : m + 1 ≤ maxInt64 + 1 := by
      rw [h, Int.negSucc_eq] at hle
      show m + 1 ≤ 9223372036854775808
      omega
    rw [Int.toString_eq_repr, Int.repr, readInt64_neg_repr hm, ← Int64.ofInt_toInt n, h]
    rfl

end Number

namespace Text

theorem dropBlanks_eq_self {s : List Char} (h : ∀ c ∈ s, isBlank c = false) : dropBlanks s = s := by
  cases s with
  | nil => rfl
  | cons c s => exact List.dropWhile_cons_of_neg (by simp [h c List.mem_cons_self])

theorem trimmed_eq_self {s : List Char} (h : ∀ c ∈ s, isBlank c = false) : trimmed s = s := by
  have hr : ∀ c ∈ s.reverse, isBlank c = false := fun c hc => h c (List.mem_reverse.1 hc)
  rw [trimmed, dropBlanks_eq_self h, dropBlanksRight, dropBlanks_eq_self hr, List.reverse_reverse]

theorem trim_eq_self {s : String} (h : ∀ c ∈ s.toList, isBlank c = false) : trim s = s := by
  rw [trim, trimmed_eq_self h, String.ofList_toList]

/-- Blanks around a text that neither starts nor ends with one are cut off. -/
theorem trimmed_between {before s after : List Char} (hb : ∀ c ∈ before, isBlank c = true)
    (ha : ∀ c ∈ after, isBlank c = true) (hfirst : ∃ c r, s = c :: r ∧ isBlank c = false)
    (hlast : ∃ r c, s = r ++ [c] ∧ isBlank c = false) :
    trimmed (before ++ s ++ after) = s := by
  have hne : s ≠ [] := by
    obtain ⟨c, r, rfl, -⟩ := hfirst
    exact List.cons_ne_nil c r
  rw [trimmed_around hb ha, (trimmed_eq_self_iff hne).2 ⟨hfirst, hlast⟩]

theorem isBlank_of_isDigit {c : Char} (h : c.isDigit = true) : isBlank c = false := by
  obtain ⟨hlow, hhigh⟩ : 48 ≤ c.toNat ∧ c.toNat ≤ 57 := by
    simpa [Char.isDigit, UInt32.le_iff_toNat_le] using h
  exact isBlank_of_printing (by omega) (by omega)

theorem trim_repr (n : Nat) : trim n.repr = n.repr :=
  trim_eq_self fun _ hc =>
    isBlank_of_isDigit (Number.isDigit_of_mem_toDigits (Nat.toList_repr ▸ hc))

theorem trim_toString (n : Int) : trim (toString n) = toString n := by
  cases n with
  | ofNat m => exact trim_repr m
  | negSucc m =>
    refine trim_eq_self fun c hc => ?_
    rw [Int.toString_eq_repr, Int.repr, String.toList_append, List.mem_append] at hc
    rcases hc with hc | hc
    · obtain rfl : c = '-' := List.mem_singleton.1 hc
      decide
    · exact isBlank_of_isDigit (Number.isDigit_of_mem_toDigits (Nat.toList_repr ▸ hc))

end Text

namespace Cache.Codec

/-- Every text that is written is read back as what it was written for. -/
def Faithful {α : Type} (codec : Codec α) : Prop :=
  ∀ a text, codec.encode a = some text → codec.decode text = .ok a

theorem faithful_bool : bool.Faithful := by
  intro b text h
  rw [← Option.some.inj h]
  cases b <;> rfl

theorem decodeInt_toString (n : Int64) : decodeInt (toString n.toInt) = .ok n := by
  rw [decodeInt, Text.trim_toString, Number.readInt64_toString]

theorem faithful_int : int.Faithful := by
  intro n text h
  have ht : toString n.toInt = text := Option.some.inj h
  simp only [← ht, int, decodeInt_toString]

theorem faithful_count : count.Faithful := by
  intro n text h
  have ht : toString n.toNat = text := Option.some.inj h
  simp only [← ht, count]
  rw [decodeCount, Nat.toString_eq_repr, Text.trim_repr, ← Nat.toString_eq_repr,
    Number.readUInt64_repr]

theorem faithful_optionalInt : optionalInt.Faithful := by
  intro n text h
  cases n with
  | none => cases h
  | some n =>
    have ht : toString n.toInt = text := Option.some.inj h
    simp only [← ht, optionalInt, decodeInt_toString]
    rfl

end Cache.Codec

end Polydialect
