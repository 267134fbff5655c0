import Polydialect.Number.Integer

/-! # Binary floating-point numbers of 64 bits

The finite magnitudes are numbered in increasing order: magnitude `r` is `units r` times
`2 ^ -1074`, the smallest positive one. Every operation computes its exact result as a ratio of
natural numbers and takes the nearest number (`nearest`): of two equally near ones the one with the
even rank, and an infinity from the middle between the largest magnitude and the next power of two
on.
-/

namespace Polydialect

namespace Binary64

/-- How many magnitudes lie from one power of two up to the next: the fractions of 52 bits. -/
abbrev binade : Nat := Nat.pow 2 52

/-- How many finite magnitudes there are. -/
abbrev magnitudes : Nat := 2047 * binade

/-- How many units make one. -/
def one : Nat := Nat.pow 2 1074

end Binary64

/-- A number of 64 bits. All undefined results are one value. -/
inductive Binary64 where
  | nan
  | infinite (negative : Bool)
  | finite (negative : Bool) (rank : Fin Binary64.magnitudes)
  deriving DecidableEq, Repr

namespace Binary64

/-- The size of a magnitude in units of `2 ^ -1074`. -/
def units (r : Nat) : Nat :=
  if r < binade then r else (binade + r % binade) * Nat.pow 2 (r / binade - 1)

/-- The rank of the largest magnitude of at most `n` units. -/
def rankBelow (n : Nat) : Nat :=
  let shift := n.log2 - 52
  shift * binade + n >>> shift

/-- The rank of the magnitude nearest to `num / den` units, the even one in the middle. -/
def nearestRank (num den : Nat) : Nat :=
  let r := rankBelow (num / den)
  let above := 2 * (num - units r * den)
  let gap := (units (r + 1) - units r) * den
  if above > gap ∨ (above = gap ∧ r % 2 = 1) then r + 1 else r

/-- The magnitude of a rank with a sign, an infinity when the rank is no finite one. -/
def ofRank (negative : Bool) (r : Nat) : Binary64 :=
  if h : r < magnitudes then .finite negative ⟨r, h⟩ else .infinite negative

/-- The number nearest to `num / den`, where `den` is positive. -/
def nearest (negative : Bool) (num den : Nat) : Binary64 :=
  ofRank negative (nearestRank (num * one) den)

/-- The number nearest to an integer. -/
def ofInt (n : Int) : Binary64 := nearest (n < 0) n.natAbs 1

/-- Zero with a sign. -/
def signedZero (negative : Bool) : Binary64 := .finite negative ⟨0, by decide⟩

/-- Zero without a sign. -/
def zero : Binary64 := signedZero false

def neg : Binary64 → Binary64
  | .nan => .nan
  | .infinite s => .infinite (!s)
  | .finite s r => .finite (!s) r

/-- Whether the number is zero, of either sign. -/
def isZero : Binary64 → Bool
  | .finite _ r => r.val == 0
  | _ => false

/-- Whether the number is an infinity. -/
def isInfinite : Binary64 → Bool
  | .infinite _ => true
  | _ => false

/-- The size with its sign, in units. -/
def signedUnits (negative : Bool) (r : Nat) : Int :=
  if negative then -(units r) else units r

def add : Binary64 → Binary64 → Binary64
  | .nan, _ | _, .nan => .nan
  | .infinite s, .infinite t => if s = t then .infinite s else .nan
  | .infinite s, .finite _ _ => .infinite s
  | .finite _ _, .infinite t => .infinite t
  | .finite s a, .finite t b =>
    let sum := signedUnits s a + signedUnits t b
    if sum = 0 then signedZero (s && t) else nearest (sum < 0) sum.natAbs one

def mul : Binary64 → Binary64 → Binary64
  | .nan, _ | _, .nan => .nan
  | .infinite s, .infinite t => .infinite (s != t)
  | .infinite s, .finite t b => if b.val = 0 then .nan else .infinite (s != t)
  | .finite s a, .infinite t => if a.val = 0 then .nan else .infinite (s != t)
  | .finite s a, .finite t b => nearest (s != t) (units a * units b) (one * one)

def div : Binary64 → Binary64 → Binary64
  | .nan, _ | _, .nan => .nan
  | .infinite _, .infinite _ => .nan
  | .infinite s, .finite t _ => .infinite (s != t)
  | .finite s _, .infinite t => signedZero (s != t)
  | .finite s a, .finite t b =>
    if b.val = 0 then (if a.val = 0 then .nan else .infinite (s != t))
    else nearest (s != t) (units a) (units b)

/-- The nearest integer, away from zero in the middle. -/
def round : Binary64 → Binary64
  | .finite s a => nearest s ((2 * units a + one) / (2 * one)) 1
  | x => x

/-- The integer part, the nearest end of the range outside it, and zero when undefined. -/
def toInt64 : Binary64 → Int64
  | .nan => 0
  | .infinite s => if s then Int64.minValue else Int64.maxValue
  | .finite s a =>
    let n := units a / one
    if s then Int64.ofInt (-(min n (Number.maxInt64 + 1))) else Int64.ofNat (min n Number.maxInt64)

/-- `x` to the power `n` by repeated squaring from the lowest bit of `n`, times `acc`; `fuel` is at
least the number of those bits. -/
def powFrom (x acc : Binary64) (n : Nat) : Nat → Binary64
  | 0 => acc
  | fuel + 1 =>
    let acc := if n % 2 = 1 then mul acc x else acc
    if n / 2 = 0 then acc else powFrom (mul x x) acc (n / 2) fuel

/-- `x` to the power `n`, rounded at every multiplication. -/
def pow (x : Binary64) (n : Nat) : Binary64 := powFrom x (ofInt 1) n (n.log2 + 1)

end Binary64

end Polydialect
