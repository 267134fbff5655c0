import Polydialect.Error
import Polydialect.Json.Parser
import Polydialect.Json.Printer
import Polydialect.Row
import Polydialect.Text.Blank

/-! # Cached texts

A cache holds texts. A codec writes a result as a text, or declines to when there is nothing worth
keeping, and reads it back.
-/

namespace Polydialect.Cache

/-- Results as texts. -/
structure Codec (α : Type) where
  /-- The text, unless the result is not to be cached. -/
  encode : α → Option String
  decode : String → Except Error α

namespace Codec

def string : Codec String := ⟨some, .ok⟩

/-- Reads a truth value, in any ASCII case and between blanks. -/
def decodeBool (text : String) : Except Error Bool :=
  match Text.lowerAscii (Text.trim text) with
  | "true" | "1" => .ok true
  | "false" | "0" => .ok false
  | other => .error (.cache (.notBoolean other))

def bool : Codec Bool := ⟨fun b => some (if b then "true" else "false"), decodeBool⟩

/-- Reads an integer between blanks. -/
def decodeInt (text : String) : Except Error Int64 :=
  match Number.readInt64 (Text.trim text) with
  | .ok n => .ok n
  | .error fault => .error (.cache (.notInteger text fault))

/-- Reads a count between blanks. -/
def decodeCount (text : String) : Except Error UInt64 :=
  match Number.readUInt64 (Text.trim text) with
  | .ok n => .ok n
  | .error fault => .error (.cache (.notCount text fault))

def int : Codec Int64 := ⟨fun n => some (toString n.toInt), decodeInt⟩

def count : Codec UInt64 := ⟨fun n => some (toString n.toNat), decodeCount⟩

/-- An integer that may be missing, which is not cached. -/
def optionalInt : Codec (Option Int64) :=
  ⟨fun n => n.map fun n => toString n.toInt, fun text => (decodeInt text).map some⟩

/-- A result that is kept as JSON with its names in order; null is not cached. -/
def written {α : Type} (toJson : α → Json) (ofSource? : Json.Source → Option α) : Codec α where
  encode a := match (toJson a).canonical with
    | .null => none
    | j => some j.toText
  decode text := match (Json.Source.ofText? text).bind ofSource? with
    | some a => .ok a
    | none => .error .json

/-- A result that is kept as JSON and read from the value of all that is written. -/
def json {α : Type} (toJson : α → Json) (ofJson? : Json → Option α) : Codec α :=
  written toJson (·.value?.bind ofJson?)

/-- JSON itself. -/
def document : Codec Json := json id fun j => some j.canonical

/-- A result that may be missing, in JSON. -/
def optionToJson {α : Type} (toJson : α → Json) : Option α → Json
  | none => .null
  | some a => toJson a

/-- The result that may be missing that JSON stands for. -/
def optionOfJson? {α : Type} (ofJson? : Json → Option α) : Json → Option (Option α)
  | .null => some none
  | j => (ofJson? j).map some

/-- A result that may be missing, kept as JSON. -/
def optional {α : Type} (toJson : α → Json) (ofJson? : Json → Option α) : Codec (Option α) :=
  json (optionToJson toJson) (optionOfJson? ofJson?)

/-- The list that JSON stands for. -/
def listOfJson? {α : Type} (ofJson? : Json → Option α) : Json → Option (List α)
  | .array items => items.mapM ofJson?
  | _ => none

/-- A list of results, kept as JSON. -/
def list {α : Type} (toJson : α → Json) (ofJson? : Json → Option α) : Codec (List α) :=
  json (fun as => .array (as.map toJson)) (listOfJson? ofJson?)

def value : Codec Value := json Value.toJson Value.ofJson?

def optionalValue : Codec (Option Value) := optional Value.toJson Value.ofJson?

def values : Codec (List Value) := list Value.toJson Value.ofJson?

/-- The rows that are written in JSON. -/
def rowsOfSource? : Json.Source → Option (List Row)
  | .array items => items.mapM Row.ofSource?
  | _ => none

def rows : Codec (List Row) := written (fun rs => .array (rs.map Row.toJson)) rowsOfSource?

end Codec

end Polydialect.Cache
