import Polydialect.Number.Binary64.Shortest

/-! # Writing a binary number

A layout says how the shortest digits of a number are laid out: where the positional form ends,
whether a whole number keeps a fraction, and which of two equally near decimals is taken.
-/

namespace Polydialect.Binary64

/-- How a number is written. -/
structure Layout where
  /-- The places of the decimal point, counted from before the first digit, that are written
  positionally; all of them when there is no bound. -/
  positional : Option (Int × Int)
  /-- Whether a number without a fractional part is written with `.0`. -/
  keepsFraction : Bool
  tie : Tie

/-- The form in SQL text: never an exponent, and no fraction where there is none. -/
def Layout.plain : Layout := ⟨none, false, .away⟩

/-- The form in JSON: positional from `0.00001` up to sixteen digits, else with an exponent. -/
def Layout.json : Layout := ⟨some (-4, 16), true, .even⟩

/-- Digits with the decimal point after the first `point` of them. -/
def positionalText (keepsFraction : Bool) (digits : List Char) (point : Int) : List Char :=
  let n := point.toNat
  if point ≤ 0 then '0' :: '.' :: List.replicate (-point).toNat '0' ++ digits
  else if digits.length ≤ n then
    digits ++ List.replicate (n - digits.length) '0' ++ (if keepsFraction then ['.', '0'] else [])
  else digits.take n ++ '.' :: digits.drop n

/-- Digits with the decimal point after the first of them and a power of ten. -/
def exponentText (digits : List Char) (point : Int) : List Char :=
  let mantissa := match digits with
    | d :: e :: r => d :: '.' :: e :: r
    | ds => ds
  let e := point - 1
  mantissa ++ 'e' :: (if e < 0 then '-' else '+') :: Nat.toDigits 10 e.natAbs

/-- The text of a positive decimal. -/
def Shortest.text (layout : Layout) (d : Shortest) : List Char :=
  let digits := Nat.toDigits 10 d.coefficient
  let point := digits.length + d.exponent
  match layout.positional with
  | none => positionalText layout.keepsFraction digits point
  | some (lo, hi) =>
    if lo ≤ point ∧ point ≤ hi then positionalText layout.keepsFraction digits point
    else exponentText digits point

/-- The text of a finite number. -/
def finiteText (layout : Layout) (negative : Bool) (r : Nat) : List Char :=
  (if negative then ['-'] else []) ++
    if r = 0 then '0' :: (if layout.keepsFraction then ['.', '0'] else [])
    else (shortest layout.tie r).text layout

/-- The text of any number in the plain layout. -/
def toText : Binary64 → String
  | .nan => "NaN"
  | .infinite false => "inf"
  | .infinite true => "-inf"
  | .finite s r => .ofList (finiteText .plain s r)

end Polydialect.Binary64
