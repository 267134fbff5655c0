import Polydialect.Number.Binary64
import Polydialect.Number.Integer

/-! # Decimals with a scale

A decimal is a coefficient of at most 96 bits over a power of ten of at most 28, and keeps the
scale it was written with: `1.50` is not `1.5`. Reading takes digits with a point and rounds at the
first digit that has no room any more; a zero that is read has no sign. Only a negative number that
a power of ten makes too small for its places is left as a zero with a sign.
-/

namespace Polydialect

/-- The first coefficient that needs more than 96 bits. -/
abbrev Decimal.limit : Nat := 79228162514264337593543950336

/-- The most places a decimal has. -/
abbrev Decimal.maxScale : Nat := 28

/-- The bounds of a decimal: 96 bits and 28 places. -/
abbrev Decimal.InRange (coefficient scale : Nat) : Prop := coefficient < limit ∧ scale ≤ maxScale

/-- The number `± coefficient / 10 ^ scale`. -/
structure Decimal where
  negative : Bool
  coefficient : Nat
  scale : Nat
  inRange : Decimal.InRange coefficient scale
  deriving DecidableEq

namespace Decimal

/-- The decimal of the given parts, without its sign when it is zero. -/
def ofParts? (negative : Bool) (coefficient scale : Nat) : Option Decimal :=
  if h : InRange coefficient scale then some ⟨negative && coefficient != 0, coefficient, scale, h⟩
  else none

def isZero (d : Decimal) : Bool := d.coefficient == 0

/-- The text with as many places as the scale says. -/
def toText (d : Decimal) : String :=
  let digits := Nat.toDigits 10 d.coefficient
  let padded := List.replicate (d.scale + 1 - digits.length) '0' ++ digits
  let whole := padded.length - d.scale
  .ofList ((if d.negative then ['-'] else []) ++ padded.take whole ++
    if d.scale = 0 then [] else '.' :: padded.drop whole)

/-- The whole part as an integer of 64 bits. -/
def toInt64? (d : Decimal) : Option Int64 :=
  let n := d.coefficient / Nat.pow 10 d.scale
  if d.negative then (if n ≤ Number.maxInt64 + 1 then some (Int64.ofInt (-n)) else none)
  else if n ≤ Number.maxInt64 then some (Int64.ofNat n) else none

/-- The value as a binary number: the whole part and the fraction are converted on their own, added
and rounded to the decimal's places. -/
def toBinary64 (d : Decimal) : Binary64 :=
  let signed (x : Binary64) := if d.negative then x.neg else x
  if d.scale = 0 then signed (.ofInt d.coefficient)
  else
    let precision := Nat.pow 10 d.scale
    let whole := Binary64.ofInt (d.coefficient / precision : Nat)
    let fraction := (Binary64.ofInt (d.coefficient % precision : Nat)).div (.ofInt precision)
    if fraction.isZero then signed whole
    else
      let places := (Binary64.ofInt 10).pow d.scale
      signed ((((whole.add fraction).mul places).round).div places)

/-! ## Reading -/

/-- What has been read of a decimal: the digits so far, the places after the point, and whether a
point and a digit have been met. -/
structure Reading where
  negative : Bool
  coefficient : Nat
  scale : Nat
  point : Bool
  digit : Bool

/-- The decimal read once nothing is left. -/
def Reading.finish (s : Reading) : Option Decimal :=
  if s.digit then ofParts? s.negative s.coefficient s.scale else none

/-- Ends the reading where no digit has room any more: the first digit left decides the rounding, a
half goes up, and only digits and underscores may be left. -/
def Reading.roundOff (s : Reading) (rest : List Char) : Option Decimal :=
  if rest.all fun c => c.isDigit || c == '_' then
    let up := (rest.find? Char.isDigit).any ('5' ≤ ·)
    let n := s.coefficient + if up then 1 else 0
    if n < limit then ofParts? s.negative n s.scale
    else if s.scale = 0 then none
    else ofParts? s.negative ((n + 4) / 10) (s.scale - 1)
  else none

/-- Reads on; underscores may stand after the first digit. -/
def Reading.run (s : Reading) : List Char → Option Decimal
  | [] => s.finish
  | c :: r =>
    if s.point ∧ maxScale ≤ s.scale then s.roundOff (c :: r)
    else if c.isDigit then
      let n := 10 * s.coefficient + (c.toNat - '0'.toNat)
      if n < limit then
        run { s with
          coefficient := n
          scale := if s.point then s.scale + 1 else 0
          digit := true } r
      else if s.point then s.roundOff (c :: r)
      else none
    else if c = '.' ∧ !s.point then run { s with point := true } r
    else if c = '_' ∧ s.digit then run s r
    else none

/-- The decimal that a text stands for. -/
def ofText? (s : String) : Option Decimal :=
  match s.toList with
  | [] => none
  | '-' :: r => Reading.run ⟨true, 0, 0, false, false⟩ r
  | '+' :: r => Reading.run ⟨false, 0, 0, false, false⟩ r
  | r => Reading.run ⟨false, 0, 0, false, false⟩ r

/-! ## Powers of ten -/

/-- The decimal with its last `n` places dropped: the last digit dropped decides the rounding, and a
half goes up. -/
def dropPlaces (d : Decimal) (n : Nat) : Nat :=
  if n = 0 then d.coefficient else (d.coefficient / Nat.pow 10 (n - 1) + 5) / 10

/-- The decimal times `10 ^ e`: a smaller scale, or a larger coefficient once the scale is used
up. -/
def scaleUp? (d : Decimal) (e : Nat) : Option Decimal :=
  if e ≤ d.scale then some ⟨d.negative, d.coefficient, d.scale - e, d.inRange.1, by
    have := d.inRange.2; omega⟩
  else if maxScale < e then none
  else ofParts? d.negative (d.coefficient * Nat.pow 10 (e - d.scale)) 0

theorem dropPlaces_lt (d : Decimal) (n : Nat) : d.dropPlaces n < limit := by
  have h := d.inRange.1
  unfold dropPlaces
  split
  · exact h
  · have := Nat.div_le_self d.coefficient (Nat.pow 10 (n - 1))
    simp only [limit] at *
    omega

/-- The decimal over `10 ^ e`: a larger scale, and places dropped once the scale is used up. The
sign stays, also on what has become zero. -/
def scaleDown? (d : Decimal) (e : Nat) : Option Decimal :=
  if maxScale < e then none
  else
    let scale := min (d.scale + e) maxScale
    some ⟨d.negative, d.dropPlaces (d.scale + e - maxScale), scale, d.dropPlaces_lt _,
      Nat.min_le_right _ _⟩

/-- The decimal that a text with a power of ten stands for. -/
def ofScientific? (s : String) : Option Decimal := do
  let base := s.toList.takeWhile fun c => c ≠ 'e' ∧ c ≠ 'E'
  match s.toList.dropWhile fun c => c ≠ 'e' ∧ c ≠ 'E' with
  | [] => none
  | _ :: '-' :: r =>
    let e ← (Number.readUInt32 (.ofList r)).toOption
    (← ofText? (.ofList base)).scaleDown? e.toNat
  | _ :: r =>
    let e ← (Number.readUInt32 (.ofList r)).toOption
    (← ofText? (.ofList base)).scaleUp? e.toNat

/-- An integer without places. -/
def ofInt? (n : Int) : Option Decimal := ofParts? (n < 0) n.natAbs 0

end Decimal

end Polydialect
