import Polydialect.Json.Lexer

/-! # Reading JSON

The reader is a machine over tokens with a stack of the containers that are still open. It keeps
everything as it is written; `parse?` goes on to the value.
-/

namespace Polydialect.Json

/-- A container whose next item or member is being read; what it holds so far is in reverse. -/
inductive Frame where
  | array (done : List Source)
  | member (done : List (List Char × Source)) (name : List Char)

/-- Where the reader stands. -/
inductive Reader where
  /-- A value must come. -/
  | value (stack : List Frame)
  /-- The first item or the end of an array must come. -/
  | firstItem (stack : List Frame)
  | afterItem (stack : List Frame) (done : List Source)
  /-- The first name or the end of an object must come. -/
  | firstName (stack : List Frame)
  | name (stack : List Frame) (done : List (List Char × Source))
  | afterName (stack : List Frame) (done : List (List Char × Source)) (name : List Char)
  | afterMember (stack : List Frame) (done : List (List Char × Source))
  | finished (x : Source)

/-- A value is complete. -/
def Reader.complete (x : Source) : List Frame → Reader
  | [] => .finished x
  | .array done :: stack => .afterItem stack (x :: done)
  | .member done k :: stack => .afterMember stack ((k, x) :: done)

/-- The first token of a value. -/
def Reader.beginValue (stack : List Frame) : Token → Option Reader
  | .null => some (complete .null stack)
  | .bool b => some (complete (.bool b) stack)
  | .number n => some (complete (.number n) stack)
  | .string raw => some (complete (.string raw) stack)
  | .beginArray => some (.firstItem stack)
  | .beginObject => some (.firstName stack)
  | _ => none

/-- One token. -/
def Reader.step : Reader → Token → Option Reader
  | .value stack, t => beginValue stack t
  | .firstItem stack, .endArray => some (complete (.array []) stack)
  | .firstItem stack, t => beginValue (.array [] :: stack) t
  | .afterItem stack done, .comma => some (.value (.array done :: stack))
  | .afterItem stack done, .endArray => some (complete (.array done.reverse) stack)
  | .firstName stack, .endObject => some (complete (.object []) stack)
  | .firstName stack, .string s => some (.afterName stack [] s)
  | .name stack done, .string s => some (.afterName stack done s)
  | .afterName stack done s, .colon => some (.value (.member done s :: stack))
  | .afterMember stack done, .comma => some (.name stack done)
  | .afterMember stack done, .endObject => some (complete (.object done.reverse) stack)
  | _, _ => none

/-- All tokens that are left. -/
def Reader.run (q : Reader) : List Token → Option Reader
  | [] => some q
  | t :: ts => (q.step t).bind fun q' => run q' ts

/-- What tokens write. -/
def Source.ofTokens? (ts : List Token) : Option Source :=
  match Reader.run (.value []) ts with
  | some (.finished x) => some x
  | _ => none

/-- What a text writes. -/
def Source.ofText? (s : String) : Option Source := (tokens s.toList).bind ofTokens?

/-- The value that a text stands for, its members as they are written. -/
def parse? (s : String) : Option Json := (Source.ofText? s).bind Source.value?

end Polydialect.Json
