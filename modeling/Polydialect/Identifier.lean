import Polydialect.Error
import Polydialect.Text.Blank

/-! # Identifiers

Names of tables, columns and indexes cannot be bound as values, so they are quoted, and checked
before that: a name is not empty, holds no NUL and has at most 128 bytes.
-/

namespace Polydialect.Identifier

/-- What is wrong with a name, if anything. -/
def fault? (name : String) : Option IdentifierFault :=
  if name.isEmpty then some .empty
  else if '\x00' ∈ name.toList then some .nullByte
  else if name.utf8ByteSize > maxIdentifierBytes then some .tooLong
  else none

/-- A name that may be quoted into a statement. -/
def Valid (name : String) : Prop := fault? name = none

instance (name : String) : Decidable (Valid name) := inferInstanceAs (Decidable (_ = _))

/-- Fails on a name that is no identifier. -/
def check (name : String) : Except Error Unit :=
  match fault? name with
  | none => .ok ()
  | some fault => .error (.misuse (.identifier name fault))

/-- Fails on the first name that is no identifier. -/
def checkAll : List String → Except Error Unit
  | [] => .ok ()
  | n :: ns => do
    check n
    checkAll ns

theorem check_eq_ok_iff {name : String} : check name = .ok () ↔ Valid name := by
  unfold check Valid
  split <;> simp_all

theorem checkAll_eq_ok_iff {names : List String} :
    checkAll names = .ok () ↔ ∀ n ∈ names, Valid n := by
  induction names with
  | nil => simp [checkAll]
  | cons n ns ih =>
    rw [List.forall_mem_cons, ← ih, ← check_eq_ok_iff]
    cases h : check n <;> simp [checkAll, h, bind, Except.bind]

/-- A pair of quotes that an identifier may stand in. -/
def isQuotePair (first last : Char) : Bool :=
  (first == '[' && last == ']') || (first == '"' && last == '"') || (first == '\x60' && last == '\x60')

/-- The text inside one pair of identifier quotes, all of it when it is not quoted. -/
def inner (s : List Char) : List Char :=
  match s with
  | first :: second :: r =>
    if isQuotePair first ((second :: r).getLast (by simp)) then (second :: r).dropLast else s
  | s => s

/-- The name without blanks around it and without one pair of quotes. -/
def unquote (name : String) : String := .ofList (inner (Text.trimmed name.toList))

end Polydialect.Identifier
