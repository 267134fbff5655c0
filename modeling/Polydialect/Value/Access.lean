import Polydialect.Calendar.Reader
import Polydialect.Number.Binary64.Reader
import Polydialect.Text.Ascii
import Polydialect.Value.Basic

/-! # Reading values leniently

A database gives back what it likes for a value: an integer or a word for a truth value, a text for
a number or a timestamp. The readers here accept the usual forms of each kind.
-/

namespace Polydialect.Value

/-- An integer: numbers lose their fraction, binary ones are cut to the range, and a text must be an
integer between blanks. -/
def int? : Value → Option Int64
  | .int n => some n
  | .bool b => some (if b then 1 else 0)
  | .real x => some x.toInt64
  | .decimal d => d.toInt64?
  | .text s => (Number.readInt64 (Text.trim s)).toOption
  | _ => none

/-- A binary number; a text must be a number between blanks. -/
def real? : Value → Option Binary64
  | .real x => some x
  | .int n => some (.ofInt n.toInt)
  | .decimal d => some d.toBinary64
  | .text s => Binary64.ofText? (Text.trim s)
  | _ => none

/-- The truth value that a word stands for. -/
def boolOfWord? : String → Option Bool
  | "1" | "true" | "t" | "yes" | "y" => some true
  | "0" | "false" | "f" | "no" | "n" => some false
  | _ => none

/-- A truth value: exact numbers are true unless they are zero, and a text must be one of ten words
between blanks. -/
def bool? : Value → Option Bool
  | .bool b => some b
  | .int n => some (n != 0)
  | .decimal d => some (!d.isZero)
  | .text s => boolOfWord? (Text.lowerAscii (Text.trim s))
  | _ => none

/-- A timestamp. -/
def timestamp? : Value → Option Timestamp
  | .timestamp t => some t
  | .text s => Timestamp.ofText? s
  | _ => none

end Polydialect.Value
