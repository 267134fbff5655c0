import Polydialect.Number.Binary64

/-! # The shortest decimal that reads back

The decimals that round to a number fill an interval around it, whose ends belong to it iff the
rank is even. `shortest` looks on the decimal grids of one, two, … digits for the first one with a
point in the interval; only the two points next to the number can be there. Of two such points the
nearer is taken, and a tie is left to the format.
-/

namespace Polydialect.Binary64

/-- Which of two equally near decimals a format takes. -/
inductive Tie where
  | away
  | even
  deriving DecidableEq, Repr

/-- The decimal `coefficient * 10 ^ exponent`. -/
structure Shortest where
  coefficient : Nat
  exponent : Int
  deriving DecidableEq, Repr

/-- The power of ten by which `10 ^ e` must be multiplied to be a whole number. -/
def lift (e : Int) : Nat := Nat.pow 10 (-e).toNat

/-- `10 ^ e` for a positive exponent, one for a negative one. -/
def scale (e : Int) : Nat := Nat.pow 10 e.toNat

/-- The number of digits before the point, negative when zeros follow the point: the size of rank
`r` lies in `[10 ^ (p - 1), 10 ^ p)`. Every positive size is at least `10 ^ -340`. -/
def pointOf (r : Nat) : Int :=
  (Nat.toDigits 10 (units r * Nat.pow 10 340 / one)).length - 340

/-- Whether `c * 10 ^ e` lies in the interval of the decimals that round to rank `r`. -/
def rounds (r : Nat) (c : Nat) (e : Int) : Bool :=
  let value := 2 * c * scale e * one
  let low := (units (r - 1) + units r) * lift e
  let high := (units r + units (r + 1)) * lift e
  if r % 2 = 0 then low ≤ value && value ≤ high else low < value && value < high

/-- The best point of the grid of the multiples of `10 ^ e`, nothing when none rounds to rank
`r`. -/
def onGrid? (tie : Tie) (r : Nat) (e : Int) : Option Nat :=
  let num := units r * lift e
  let den := one * scale e
  let c := num / den
  let down := rounds r c e
  let up := rounds r (c + 1) e
  if down && up then
    let twice := 2 * (num % den)
    if twice < den then some c
    else if twice > den then some (c + 1)
    else match tie with
      | .away => some (c + 1)
      | .even => some (c + c % 2)
  else if down then some c
  else if up then some (c + 1)
  else none

/-- Moves zeros at the end of the coefficient into the exponent. -/
def Shortest.stripZeros : Nat → Shortest → Shortest
  | 0, d => d
  | fuel + 1, d =>
    if d.coefficient % 10 = 0 then stripZeros fuel ⟨d.coefficient / 10, d.exponent + 1⟩ else d

/-- The shortest decimal that rounds to a positive rank. Seventeen digits always suffice. -/
def shortest (tie : Tie) (r : Nat) : Shortest :=
  let p := pointOf r
  let found := (List.range 17).findSome? fun (k : Nat) =>
    let e : Int := p - (k + 1)
    (onGrid? tie r e).map fun c => Shortest.mk c e
  match found with
  | some d => d.stripZeros 17
  | none => ⟨units r * lift (p - 17) / (one * scale (p - 17)), p - 17⟩

end Polydialect.Binary64
