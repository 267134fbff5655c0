import Polydialect.Calendar.Reader
import Polydialect.Json.Basic
import Polydialect.Value.Basic

/-! # SQL values in JSON

A value is an object with its kind as the only name; NULL is also written as the word alone. Binary
numbers are JSON numbers, so the undefined one and the infinities are written as null and cannot be
read back. Decimals and timestamps are texts.
-/

namespace Polydialect.Value

/-- The value in JSON. -/
def toJson : Value → Json
  | .null => .string "Null"
  | .bool b => .object [("Bool", .bool b)]
  | .int n => .object [("I64", .ofInt64 n)]
  | .real x => .object [("F64", .ofBinary64 x)]
  | .decimal d => .object [("Decimal", .string d.toText)]
  | .text s => .object [("Text", .string s)]
  | .timestamp t => .object [("DateTime", .string t.toIso)]
  | .bytes bs => .object [("Bytes", .array (bs.map fun b => .integer b.toNat))]

/-- An integer of 64 bits. -/
def int64OfJson? : Json → Option Int64
  | .integer n => if Int64.minValue.toInt ≤ n ∧ n ≤ Int64.maxValue.toInt then some (Int64.ofInt n) else none
  | _ => none

/-- A number of any form as a binary one. -/
def binary64OfJson? : Json → Option Binary64
  | .integer n => some (.ofInt n)
  | .real x => some x
  | _ => none

/-- A decimal: a text, also with a power of ten, or a number. -/
def decimalOfJson? : Json → Option Decimal
  | .string s => (Decimal.ofText? s).or (Decimal.ofScientific? s)
  | .integer n => Decimal.ofInt? n
  | .real x => Decimal.ofText? x.toText
  | _ => none

/-- A byte. -/
def byteOfJson? : Json → Option UInt8
  | .integer n => if 0 ≤ n ∧ n < 256 then some (UInt8.ofNat n.toNat) else none
  | _ => none

/-- The value under the name of its kind. -/
def ofMember? : String → Json → Option Value
  | "Null", .null => some .null
  | "Bool", .bool b => some (.bool b)
  | "I64", j => (int64OfJson? j).map .int
  | "F64", j => (binary64OfJson? j).map .real
  | "Decimal", j => (decimalOfJson? j).map .decimal
  | "Text", .string s => some (.text s)
  | "DateTime", .string s => (Timestamp.ofIso? s).map .timestamp
  | "Bytes", .array items => (items.mapM byteOfJson?).map .bytes
  | _, _ => none

/-- The value that JSON stands for. -/
def ofJson? : Json → Option Value
  | .string "Null" => some .null
  | .object [(k, j)] => ofMember? k j
  | _ => none

end Polydialect.Value
