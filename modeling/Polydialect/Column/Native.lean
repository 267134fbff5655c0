import Polydialect.Column.Basic
import Polydialect.Number.Integer
import Polydialect.Text.Blank
import Polydialect.Text.Cut

/-! # Types as a catalog reports them

A catalog names a type by its family, sometimes with a length in parentheses and words after it:
`VARCHAR(255)`, `decimal(18, 2)`, `timestamp(6) with time zone`. `NativeType.canonical` maps a
family back to one of the six column types.
-/

namespace Polydialect

/-- A native type: its family in small letters and its length. -/
structure NativeType where
  family : String
  length : Option Int64
  deriving DecidableEq

namespace NativeType

/-- The length inside parentheses: the number before the first comma, or `-1` for `max`. -/
def lengthOf? (inside : List Char) : Option Int64 :=
  let first := Text.before ',' inside
  match Number.readInt64 (.ofList (Text.trimmed first)) with
  | .ok n => some n
  | .error _ => if Text.trimmed inside = "max".toList then some (-1) else none

/-- The native type that a text names. -/
def ofText (native : String) : NativeType :=
  let lower := (Text.trimmed native.toList).map Char.toLower
  match Text.cut? '(' lower with
  | none => ⟨.ofList lower, none⟩
  | some (front, r) =>
    let family := Text.trimmed front
    match Text.cut? ')' r with
    | none => ⟨.ofList family, none⟩
    | some (inside, r) =>
      let rest := Text.trimmed r
      ⟨.ofList (if rest.isEmpty then family else family ++ ' ' :: rest), lengthOf? inside⟩

/-- Families of whole numbers. -/
def integerFamilies : List String :=
  ["int", "integer", "bigint", "smallint", "mediumint", "tinyint", "int2", "int4", "int8", "serial",
   "bigserial", "number", "counter"]

/-- Families of truth values. -/
def booleanFamilies : List String := ["bit", "bool", "boolean"]

/-- Families of numbers with a fraction. -/
def decimalFamilies : List String :=
  ["decimal", "numeric", "money", "smallmoney", "float", "real", "double", "double precision",
   "float4", "float8", "binary_float", "binary_double"]

/-- Families of unbounded text. -/
def textFamilies : List String :=
  ["text", "ntext", "tinytext", "mediumtext", "longtext", "clob", "nclob", "long", "json", "jsonb",
   "xml"]

/-- The family without the words for the sign and the filling of a number. -/
def stem (family : String) : String :=
  .ofList
    (Text.dropWordsRight " signed".toList
      (Text.dropWordsRight " unsigned".toList
        (Text.dropWordsRight " zerofill".toList family.toList)))

/-- The column type of a family; a bounded text of negative length is unbounded. -/
def typeOf (family : String) (length : Int64) : ColumnType :=
  if family ∈ integerFamilies then .integer
  else if family ∈ booleanFamilies then .boolean
  else if family ∈ decimalFamilies then .decimal
  else if family ∈ textFamilies then .text
  else if "date".toList.isPrefixOf family.toList || "timestamp".toList.isPrefixOf family.toList ||
      family == "smalldatetime" then .datetime
  else if (Text.cutWord? "char".toList family.toList).isSome then
    if length < 0 then .text else .varchar
  else .text

/-- The low 32 bits of a length. -/
def lengthBits (n : Int64) : UInt32 := UInt32.ofNat (n.toInt % UInt32.size).toNat

/-- The length of a column of a type: only a bounded text has one. -/
def columnLength (type : ColumnType) (length : Int64) : UInt32 :=
  match type with
  | .varchar => if 0 < length then lengthBits length else Column.defaultLength
  | _ => 0

/-- The length of a native type: what the catalog reports unless it is zero, then what the type's
name holds. -/
def reportedLength (t : NativeType) (maxLength : Int64) : Int64 :=
  if maxLength ≠ 0 then maxLength else t.length.getD 0

/-- The column type and length of a native type. -/
def canonical (native : String) (maxLength : Int64) : ColumnType × UInt32 :=
  let t := ofText native
  let length := t.reportedLength maxLength
  let type := typeOf (stem t.family) length
  (type, columnLength type length)

end NativeType

end Polydialect
