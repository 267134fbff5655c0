import Polydialect.Number.Binary64

/-! # Reading a binary number

A number is an optional sign and a word for an infinity or the undefined value, or digits with at
most one point among them and an optional power of ten. It is read to the nearest number.
-/

namespace Polydialect

namespace Number

/-- An optional sign and at least one digit. -/
def readExponent (s : List Char) : Option Int :=
  let digits (r : List Char) : Option Nat :=
    if r ≠ [] ∧ r.all Char.isDigit then some (Nat.ofDigitChars 10 r 0) else none
  match s with
  | '-' :: r => (digits r).map fun n => -(n : Int)
  | '+' :: r => (digits r).map Int.ofNat
  | r => (digits r).map Int.ofNat

/-- Digits with a point and a power of ten, as the coefficient and the exponent of a decimal. -/
def readDecimal (s : List Char) : Option (Nat × Int) := do
  let (whole, r) := s.span Char.isDigit
  let (fraction, r) := match r with
    | '.' :: t => t.span Char.isDigit
    | _ => ([], r)
  let digits := whole ++ fraction
  if digits = [] then none
  else do
    let e ← match r with
      | [] => some 0
      | c :: t => if c = 'e' ∨ c = 'E' then readExponent t else none
    some (Nat.ofDigitChars 10 digits 0, e - fraction.length)

end Number

namespace Binary64

/-- The number nearest to `c * 10 ^ e`. Decimals from `10 ^ 310` on are infinite and those below
`10 ^ -330` are zero, so no large power is computed for them. -/
def ofDecimal (negative : Bool) (c : Nat) (e : Int) : Binary64 :=
  let digits : Int := (Nat.toDigits 10 c).length
  if c = 0 then signedZero negative
  else if digits + e > 310 then .infinite negative
  else if digits + e < -330 then signedZero negative
  else if e < 0 then nearest negative c (Nat.pow 10 (-e).toNat)
  else nearest negative (c * Nat.pow 10 e.toNat) 1

/-- The number without its sign that a text stands for. -/
def readUnsigned (negative : Bool) (s : List Char) : Option Binary64 :=
  match String.ofList (s.map Char.toLower) with
  | "nan" => some .nan
  | "inf" | "infinity" => some (.infinite negative)
  | _ => (Number.readDecimal s).map fun d => ofDecimal negative d.1 d.2

/-- The number that a text stands for. -/
def ofText? (s : String) : Option Binary64 :=
  match s.toList with
  | '-' :: r => readUnsigned true r
  | '+' :: r => readUnsigned false r
  | r => readUnsigned false r

end Binary64

end Polydialect
