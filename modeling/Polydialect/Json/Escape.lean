import Polydialect.Text.Hex

/-! # Escapes in JSON strings

Between its quotes a string may write a character by a backslash and a letter, or by the code units
of its UTF-16 form, each of four hexadecimal digits. Two units stand for one character when they
are the halves of a pair, and half a pair alone stands for none.
-/

namespace Polydialect.Json

/-- The character that a letter after a backslash stands for. -/
def unescape? : Char → Option Char
  | '"' => some '"'
  | '\\' => some '\\'
  | '/' => some '/'
  | 'b' => some '\x08'
  | 'f' => some '\x0c'
  | 'n' => some '\n'
  | 'r' => some '\r'
  | 't' => some '\t'
  | _ => none

/-- The code unit of four digits. -/
def codeUnit? (a b c d : Char) : Option Nat := do
  let a ← Text.hexValue? a
  let b ← Text.hexValue? b
  let c ← Text.hexValue? c
  let d ← Text.hexValue? d
  return 0x1000 * a + 0x100 * b + 0x10 * c + d

/-- The first half of a pair. -/
def isHighHalf (unit : Nat) : Bool := 0xD800 ≤ unit && unit < 0xDC00

/-- The second half of a pair. -/
def isLowHalf (unit : Nat) : Bool := 0xDC00 ≤ unit && unit < 0xE000

/-- The character of two code units. -/
def pairChar? (high low : Nat) : Option Char :=
  if isLowHalf low then some (Char.ofNat (0x10000 + 0x400 * (high - 0xD800) + (low - 0xDC00)))
  else none

/-- The text behind its escapes, nothing when half a pair stands alone. -/
def unescapeAll? : List Char → Option (List Char)
  | [] => some []
  | '\\' :: 'u' :: a :: b :: c :: d :: r => do
    let u ← codeUnit? a b c d
    if isHighHalf u then
      match r with
      | '\\' :: 'u' :: a :: b :: c :: d :: r =>
        let x ← pairChar? u (← codeUnit? a b c d)
        return x :: (← unescapeAll? r)
      | _ => none
    else if isLowHalf u then none
    else return Char.ofNat u :: (← unescapeAll? r)
  | '\\' :: c :: r => do
    let x ← unescape? c
    return x :: (← unescapeAll? r)
  | c :: r => do return c :: (← unescapeAll? r)

end Polydialect.Json
