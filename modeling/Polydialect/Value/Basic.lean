import Polydialect.Calendar.Timestamp
import Polydialect.Number.Binary64.Layout
import Polydialect.Number.Decimal
import Polydialect.Text.Utf8

/-! # SQL values

The values that are bound to statements and come back in rows.
-/

namespace Polydialect

/-- A value of a database, NULL among them. -/
inductive Value where
  | null
  | bool (b : Bool)
  | int (n : Int64)
  | real (x : Binary64)
  | decimal (d : Decimal)
  | text (s : String)
  | timestamp (t : Timestamp)
  | bytes (bs : List UInt8)
  deriving DecidableEq

namespace Value

instance : Inhabited Value := ⟨.null⟩

/-- Whether the value is NULL. -/
def isNull : Value → Bool
  | .null => true
  | _ => false

/-- The value as text, nothing for NULL. -/
def toText? : Value → Option String
  | .null => none
  | .bool b => some (if b then "true" else "false")
  | .int n => some (toString n.toInt)
  | .real x => some x.toText
  | .decimal d => some d.toText
  | .text s => some s
  | .timestamp t => some t.toText
  | .bytes bs => some (Text.Utf8.decode bs)

/-- The text of a text value. -/
def text? : Value → Option String
  | .text s => some s
  | _ => none

end Value

end Polydialect
