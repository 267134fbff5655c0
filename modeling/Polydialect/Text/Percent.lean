import Polydialect.Text.Hex
import Polydialect.Text.Utf8

/-! # Percent codes

In a location a percent sign and two hexadecimal digits stand for a byte, so that a path may hold
any character. A sign without its digits stands for itself. In the parameters of a location a plus
sign stands for a space, and bytes that are no UTF-8 are replaced instead of refused.
-/

namespace Polydialect.Text.Percent

/-- The bytes that a text with percent codes stands for. -/
def bytes : List Char → List UInt8
  | [] => []
  | '%' :: a :: b :: r =>
    match hexValue? a, hexValue? b with
    | some x, some y => UInt8.ofNat (16 * x + y) :: bytes r
    | _, _ => Utf8.encodeChar '%' ++ bytes (a :: b :: r)
  | c :: r => Utf8.encodeChar c ++ bytes r

/-- Without a percent sign every character stands for itself. -/
theorem bytes_of_not_mem {s : List Char} (h : '%' ∉ s) : bytes s = Utf8.encode s := by
  induction s with
  | nil => rfl
  | cons c s ih =>
    obtain ⟨hc, hs⟩ := not_or.1 (mt List.mem_cons.2 h)
    rw [bytes.eq_3 _ _ fun a b r hcode _ => hc hcode.symm, ih hs]
    rfl

/-- The text behind percent codes, nothing when its bytes are no UTF-8. -/
def decode? (s : List Char) : Option String :=
  let bs := bytes s
  if Utf8.isValid bs then some (Utf8.decode bs) else none

theorem decode?_of_not_mem {s : List Char} (h : '%' ∉ s) : decode? s = some (.ofList s) := by
  have hvalid : Utf8.isValid (Utf8.encode s) = true := by
    rw [Utf8.isValid, Utf8.decodeFrom_encode, beq_self_eq_true]
  rw [decode?, bytes_of_not_mem h, if_pos hvalid, Utf8.decode, Utf8.decodeFrom_encode]

/-- The text behind percent codes, with replacements for bytes that are no UTF-8. -/
def decodeLossy (s : List Char) : String := Utf8.decode (bytes s)

/-- The text behind a part of a parameter. -/
def decodeParameter (s : List Char) : String :=
  decodeLossy (s.map fun c => if c = '+' then ' ' else c)

end Polydialect.Text.Percent
