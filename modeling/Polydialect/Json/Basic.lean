import Polydialect.Keyed
import Polydialect.Number.Binary64

/-! # JSON values

Numbers are integers where they are written as such and fit 64 bits, and binary numbers otherwise.
A canonical value has the members of every object in the order of their names, each name once.
-/

namespace Polydialect

/-- A JSON value; the members of an object stand in the order in which they were written. -/
inductive Json where
  | null
  | bool (b : Bool)
  | integer (n : Int)
  | real (x : Binary64)
  | string (s : String)
  | array (items : List Json)
  | object (members : List (String × Json))
  deriving BEq, Repr, Inhabited

namespace Json

mutual

/-- The value with the members of its objects in order, the last one of each name. -/
def canonical : Json → Json
  | .array items => .array (canonicalItems items)
  | .object members => .object (Keyed.ofPairs (canonicalMembers members))
  | j => j

/-- `canonical` on every item. -/
def canonicalItems : List Json → List Json
  | [] => []
  | j :: r => canonical j :: canonicalItems r

/-- `canonical` on every member. -/
def canonicalMembers : List (String × Json) → List (String × Json)
  | [] => []
  | (k, j) :: r => (k, canonical j) :: canonicalMembers r

end

/-- A binary number as a value; JSON has no undefined or infinite numbers. -/
def ofBinary64 : Binary64 → Json
  | .finite s r => .real (.finite s r)
  | _ => .null

/-- A 64-bit integer as a value. -/
def ofInt64 (n : Int64) : Json := .integer n.toInt

/-- A text, or null for none. -/
def textOrNull : Option String → Json
  | some s => .string s
  | none => .null

/-- The fields of a record: the members of an object, or the items of an array as the values of the
first names. -/
def fields? (names : List String) : Json → Option (List (String × Json))
  | .object members => some members
  | .array items => if items.length ≤ names.length then some (names.zip items) else none
  | _ => none

/-- The text that JSON stands for. -/
def text? : Json → Option String
  | .string s => some s
  | _ => none

/-- The truth value that JSON stands for. -/
def bool? : Json → Option Bool
  | .bool b => some b
  | _ => none

/-- The natural number of 64 bits that JSON stands for. -/
def count? : Json → Option Nat
  | .integer n => if 0 ≤ n ∧ n < UInt64.size then some n.toNat else none
  | _ => none

end Json

end Polydialect
