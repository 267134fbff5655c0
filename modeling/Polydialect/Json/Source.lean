import Polydialect.Json.Escape
import Polydialect.Json.Numeral

/-! # JSON as it is written

Well-formed JSON need not stand for a value: a number can be too large, half a pair of code units
stands for no character, and a value opens at most 127 containers. So reading takes two steps.
A text is read as it is written, whatever it holds, and a part of it is given its value
(`Source.value?`) where the value is wanted. Members that nobody asks for may hold anything.
-/

namespace Polydialect.Json

/-- JSON as it is written: strings are the characters between their quotes. -/
inductive Source where
  | null
  | bool (b : Bool)
  | number (n : Numeral)
  | string (raw : List Char)
  | array (items : List Source)
  | object (members : List (List Char × Source))

namespace Source

/-- How many containers of a value may be open at once. -/
def maxDepth : Nat := 127

/-- The text of a string between its quotes. -/
def nameOf? (raw : List Char) : Option String := (unescapeAll? raw).map .ofList

mutual

/-- The value where `depth` containers may still be opened. -/
def valueWithin? (depth : Nat) : Source → Option Json
  | .null => some .null
  | .bool b => some (.bool b)
  | .number n => n.value?
  | .string raw => (nameOf? raw).map .string
  | .array items => if depth = 0 then none else (itemsWithin? (depth - 1) items).map .array
  | .object members =>
    if depth = 0 then none else (membersWithin? (depth - 1) members).map .object

/-- The values of items. -/
def itemsWithin? (depth : Nat) : List Source → Option (List Json)
  | [] => some []
  | x :: r => do return (← valueWithin? depth x) :: (← itemsWithin? depth r)

/-- The names and values of members. -/
def membersWithin? (depth : Nat) : List (List Char × Source) → Option (List (String × Json))
  | [] => some []
  | (k, x) :: r => do
    return (← nameOf? k, ← valueWithin? depth x) :: (← membersWithin? depth r)

end

/-- The value of what is written, its members as they stand. -/
def value? (x : Source) : Option Json := x.valueWithin? maxDepth

/-- The members of an object under their names, their values as they are written. -/
def members? (members : List (List Char × Source)) : Option (List (String × Source)) :=
  members.mapM fun p => (nameOf? p.1).map fun k => (k, p.2)

/-- The fields of a record: the members of an object, or the items of an array as the values of the
first names. -/
def fields? (names : List String) : Source → Option (List (String × Source))
  | .object members => members? members
  | .array items => if items.length ≤ names.length then some (names.zip items) else none
  | _ => none

end Source

end Polydialect.Json
