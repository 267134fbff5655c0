/-! # Reading integers

An integer is an optional sign and at least one ASCII digit. A reader knows the largest magnitude
it may give; the first character that is no digit and the first digit that leaves the range are the
two ways to fail besides a missing digit.
-/

namespace Polydialect

/-- Why a text is no integer of the wanted range. -/
inductive IntegerFault where
  | empty
  | invalidDigit
  | tooLarge
  | tooSmall
  deriving DecidableEq, Repr

/-- The fault in words. -/
def IntegerFault.message : IntegerFault → String
  | .empty => "cannot parse integer from empty string"
  | .invalidDigit => "invalid digit found in string"
  | .tooLarge => "number too large to fit in target type"
  | .tooSmall => "number too small to fit in target type"

namespace Number

/-- The greatest signed number of 64 bits. -/
abbrev maxInt64 : Nat := 9223372036854775807

/-- Reads digits after those that gave `acc`, failing with `fault` past `limit`. -/
def readDigits (limit : Nat) (fault : IntegerFault) : Nat → List Char → Except IntegerFault Nat
  | acc, [] => .ok acc
  | acc, c :: r =>
    if c.isDigit then
      let n := 10 * acc + (c.toNat - '0'.toNat)
      if n ≤ limit then readDigits limit fault n r else .error fault
    else .error .invalidDigit

/-- A natural number of at most `limit`. -/
def readNat (limit : Nat) (s : String) : Except IntegerFault Nat :=
  match s.toList with
  | [] => .error .empty
  | ['+'] => .error .invalidDigit
  | '+' :: r => readDigits limit .tooLarge 0 r
  | r => readDigits limit .tooLarge 0 r

/-- A signed number of 64 bits. -/
def readInt64 (s : String) : Except IntegerFault Int64 :=
  match s.toList with
  | [] => .error .empty
  | ['+'] | ['-'] => .error .invalidDigit
  | '-' :: r => (readDigits (maxInt64 + 1) .tooSmall 0 r).map fun n => Int64.ofInt (-n)
  | '+' :: r => (readDigits maxInt64 .tooLarge 0 r).map Int64.ofNat
  | r => (readDigits maxInt64 .tooLarge 0 r).map Int64.ofNat

/-- An unsigned number of 64 bits. -/
def readUInt64 (s : String) : Except IntegerFault UInt64 :=
  (readNat (UInt64.size - 1) s).map UInt64.ofNat

/-- An unsigned number of 32 bits. -/
def readUInt32 (s : String) : Except IntegerFault UInt32 :=
  (readNat (UInt32.size - 1) s).map UInt32.ofNat

end Number

end Polydialect
