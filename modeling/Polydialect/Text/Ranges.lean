/-! # Sets of code points

A property of characters is a list of closed ranges of code points, in increasing order.
-/

namespace Polydialect.Text

/-- Closed ranges of code points, `(first, last)`. -/
abbrev Ranges := List (Nat × Nat)

/-- Whether one of the ranges holds the character. -/
def Ranges.contains (rs : Ranges) (c : Char) : Bool :=
  rs.any fun r => r.1 ≤ c.toNat && c.toNat ≤ r.2

end Polydialect.Text
