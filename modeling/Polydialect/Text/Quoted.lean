import Polydialect.Text.Printable

/-! # Quotations in messages

A message quotes a name between double quotes. Inside, a quote, a backslash and the four commonest
controls are written by a backslash and a letter, and every other character that is not shown as
itself by its code point in braces.
-/

namespace Polydialect.Text

/-- One character inside a quotation. -/
def quoteChar (c : Char) : List Char :=
  match c with
  | '\x00' => ['\\', '0']
  | '\t' => ['\\', 't']
  | '\r' => ['\\', 'r']
  | '\n' => ['\\', 'n']
  | '"' => ['\\', '"']
  | '\\' => ['\\', '\\']
  | c => if isShown c then [c] else ['\\', 'u', '\x7b'] ++ Nat.toDigits 16 c.toNat ++ ['\x7d']

/-- The text as a message quotes it. -/
def quoted (s : String) : String := .ofList ('"' :: s.toList.flatMap quoteChar ++ ['"'])

end Polydialect.Text
