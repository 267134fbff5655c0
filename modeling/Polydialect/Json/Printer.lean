import Polydialect.Json.Basic
import Polydialect.Number.Binary64.Layout

/-! # JSON text

Values are written without any space. In a string the quote, the backslash and the controls are
escaped, five of them by a letter and the others by four hexadecimal digits.
-/

namespace Polydialect.Json

/-- One hexadecimal digit. -/
def hexDigit (n : Nat) : Char := Nat.digitChar n

/-- One character inside a string. -/
def escapeChar (c : Char) : List Char :=
  match c with
  | '"' => ['\\', '"']
  | '\\' => ['\\', '\\']
  | '\x08' => ['\\', 'b']
  | '\x0c' => ['\\', 'f']
  | '\n' => ['\\', 'n']
  | '\r' => ['\\', 'r']
  | '\t' => ['\\', 't']
  | c =>
    if c.toNat < 0x20 then ['\\', 'u', '0', '0', hexDigit (c.toNat / 16), hexDigit (c.toNat % 16)]
    else [c]

/-- A string with its quotes. -/
def stringText (s : String) : List Char := '"' :: s.toList.flatMap escapeChar ++ ['"']

/-- An integer. -/
def integerText (n : Int) : List Char :=
  (if n < 0 then ['-'] else []) ++ Nat.toDigits 10 n.natAbs

/-- A binary number, null when it is not finite. -/
def realText : Binary64 → List Char
  | .finite s r => Binary64.finiteText .json s r
  | _ => "null".toList

mutual

/-- The text of a value. -/
def text : Json → List Char
  | .null => "null".toList
  | .bool true => "true".toList
  | .bool false => "false".toList
  | .integer n => integerText n
  | .real x => realText x
  | .string s => stringText s
  | .array items => '[' :: itemsText items ++ [']']
  | .object members => '\x7b' :: membersText members ++ ['\x7d']

/-- The texts of items, separated by commas. -/
def itemsText : List Json → List Char
  | [] => []
  | [j] => text j
  | j :: r => text j ++ ',' :: itemsText r

/-- The texts of members, separated by commas. -/
def membersText : List (String × Json) → List Char
  | [] => []
  | [(k, j)] => stringText k ++ ':' :: text j
  | (k, j) :: r => stringText k ++ ':' :: text j ++ ',' :: membersText r

end

/-- The text of a value as a string. -/
def toText (j : Json) : String := .ofList (text j)

end Polydialect.Json
