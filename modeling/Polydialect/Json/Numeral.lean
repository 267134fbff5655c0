import Polydialect.Json.Basic
import Polydialect.Number.Integer
import Polydialect.Number.Binary64.Reader

/-! # Numbers in JSON text

A number is read in two steps: its form (`Numeral.ofChars?`), which says nothing of its size, and
its value (`Numeral.value?`), which has to have one. A number without fraction and exponent that
fits 64 bits is an integer, but `-0` is not. Every other number is a binary one: its leading digits,
as many as fit 64 bits, are converted and then multiplied or divided by a power of ten, so the
result can differ from the nearest number in its last place.
-/

namespace Polydialect.Json

/-- Leading digits as a number of 64 bits, after those that gave the first argument, and how
many of them it holds. -/
def significand : Nat → List Char → Nat × Nat
  | acc, [] => (acc, 0)
  | acc, c :: r =>
    let n := 10 * acc + (c.toNat - '0'.toNat)
    if n < UInt64.size then
      let (m, k) := significand n r
      (m, k + 1)
    else (acc, 0)

/-- A power of ten up to `10 ^ 308`. -/
def powerOfTen (n : Nat) : Binary64 := .ofDecimal false 1 n

/-- Divides by powers of ten until the exponent is used up; three steps reach zero. -/
def scaleDown (x : Binary64) (e : Nat) : Nat → Binary64
  | 0 => .zero
  | fuel + 1 =>
    if e ≤ 308 then x.div (powerOfTen e)
    else if x.isZero then x
    else scaleDown (x.div (powerOfTen 308)) (e - 308) fuel

/-- The binary number of digits and a power of ten, nothing when it is too large. -/
def realOf? (negative : Bool) (digits : Nat) (e : Int) : Option Json :=
  let x := Binary64.ofInt digits
  let signed (y : Binary64) := Json.real (if negative then y.neg else y)
  if 0 ≤ e then
    if e ≤ 308 then
      let y := x.mul (powerOfTen e.toNat)
      if y.isInfinite then none else some (signed y)
    else if x.isZero then some (signed x)
    else none
  else some (signed (scaleDown x e.natAbs 4))

/-- The number of digits and a written power of ten: `digits * 10 ^ (e + p)`. A power past 31 bits
is not added up any more: without it the number is too large, or zero. -/
def withPower? (negative : Bool) (digits : Nat) (e p : Int) : Option Json :=
  if p.natAbs < 2147483648 then realOf? negative digits (e + p)
  else if digits ≠ 0 ∧ 0 ≤ p then none
  else some (.real (.signedZero negative))

/-- An integer, or a binary number where it does not fit. -/
def integerOf (negative : Bool) (n : Nat) : Json :=
  if !negative then .integer n
  else if 0 < n ∧ n ≤ Number.maxInt64 + 1 then .integer (-n)
  else .real ((Binary64.ofInt n).neg)

/-- A number as it is written: a sign, digits before and after the point, and a power of ten. A
number with a point has digits after it. -/
structure Numeral where
  negative : Bool
  whole : List Char
  fraction : List Char
  power : Option Int
  deriving BEq, Repr

namespace Numeral

/-- The digits after the point and what follows them; a point needs a digit. -/
def splitFraction? : List Char → Option (List Char × List Char)
  | '.' :: r =>
    let (fraction, r) := r.span Char.isDigit
    if fraction.isEmpty then none else some (fraction, r)
  | r => some ([], r)

/-- The power of ten at the end of a number. -/
def readPower? : List Char → Option (Option Int)
  | [] => some none
  | c :: r => if c = 'e' ∨ c = 'E' then (Number.readExponent r).map some else none

/-- A number after its sign; of several digits before the point the first is not zero. -/
def ofUnsigned? (negative : Bool) (s : List Char) : Option Numeral := do
  let (whole, r) := s.span Char.isDigit
  if whole.isEmpty ∨ (1 < whole.length ∧ whole.head? = some '0') then none
  let (fraction, r) ← splitFraction? r
  let power ← readPower? r
  return ⟨negative, whole, fraction, power⟩

/-- The number that a text writes. -/
def ofChars? : List Char → Option Numeral
  | '-' :: r => ofUnsigned? true r
  | r => ofUnsigned? false r

/-- The value of a number, nothing when it is too large. -/
def value? (n : Numeral) : Option Json :=
  let (digits, used) := significand 0 n.whole
  let dropped : Nat := n.whole.length - used
  if n.fraction.isEmpty ∧ n.power = none ∧ dropped = 0 then some (integerOf n.negative digits)
  else
    let (digits, used) := significand digits n.fraction
    let e : Int := dropped - used
    match n.power with
    | none => realOf? n.negative digits e
    | some p => withPower? n.negative digits e p

end Numeral

end Polydialect.Json
