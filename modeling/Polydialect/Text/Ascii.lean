/-! # Names up to ASCII case

Columns and keywords are compared letter by letter, the ASCII letters without regard to case and
every other character as it is.
-/

namespace Polydialect.Text

/-- The text with its ASCII capitals made small. -/
def lowerAscii (s : String) : String := .ofList (s.toList.map Char.toLower)

/-- Equality up to the case of ASCII letters. -/
def sameName (a b : String) : Bool := lowerAscii a == lowerAscii b

theorem sameName_refl (a : String) : sameName a a = true := by simp [sameName]

theorem sameName_comm (a b : String) : sameName a b = sameName b a := BEq.comm

theorem sameName_trans {a b c : String} (hab : sameName a b = true) (hbc : sameName b c = true) :
    sameName a c = true := by
  simp only [sameName, beq_iff_eq] at *
  exact hab.trans hbc

theorem sameName_congr_left {a b : String} (h : sameName a b = true) (c : String) :
    sameName a c = sameName b c := by
  simp only [sameName, beq_iff_eq] at h
  simp only [sameName, h]

end Polydialect.Text
