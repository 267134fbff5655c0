import Polydialect.Text.Cut
import Polydialect.Text.Hex

/-! # Global identifiers

A global identifier is 32 hexadecimal digits in five groups with hyphens between them.
-/

namespace Polydialect

namespace Guid

/-- The lengths of the groups. -/
def groups : List Nat := [8, 4, 4, 4, 12]

/-- A hexadecimal digit of either case. -/
def isHexDigit (c : Char) : Bool := (Text.hexValue? c).isSome

/-- Whether a text is a global identifier. -/
def isValid (s : String) : Bool :=
  let parts := Text.pieces '-' s.toList
  parts.map List.length == groups && parts.all fun part => part.all isHexDigit

end Guid

/-- A text that is a global identifier. -/
def Guid : Type := { s : String // Guid.isValid s = true }

/-- The text of a global identifier. -/
def Guid.text (g : Guid) : String := g.val

end Polydialect
