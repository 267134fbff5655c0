import Polydialect.Number.Integer
import Polydialect.Text.Quoted

/-! # Errors

Every failure carries its cause. Only mistakes of the caller and failures of the database or the
cache are errors: a missing row and a missing table are not. A sum that does not fit into its word
is the one failure that nothing handles: the program breaks off.
-/

namespace Polydialect

/-- Why a name cannot be an identifier. -/
inductive IdentifierFault where
  | empty
  | nullByte
  | tooLong
  deriving DecidableEq, Repr

/-- Longest identifier, in bytes. -/
def maxIdentifierBytes : Nat := 128

/-- The fault in words. -/
def IdentifierFault.message : IdentifierFault → String
  | .empty => "is empty"
  | .nullByte => "contains a null byte"
  | .tooLong => "exceeds the maximum length"

/-- A mistake that fails the same way on every retry. -/
inductive Misuse where
  | identifier (name : String) (fault : IdentifierFault)
  | unknownDialect (name : String)
  | noTable
  | noInsertValues (table : String)
  | notAnInsert
  | notOneColumn (operation : String) (count : Nat)
  | tableWithoutColumns (table : String)
  | indexWithoutColumns (index : String)
  | updateWithoutId (table : String)
  | notSqlite (dialect : String)
  | settingRequired (setting : String)
  | ttlTooSmall
  | other (text : String)
  deriving DecidableEq, Repr

/-- The mistake in words. -/
def Misuse.message : Misuse → String
  | .identifier name fault =>
    "identifier " ++ Text.quoted name ++ " " ++ fault.message ++
      " (limit " ++ toString maxIdentifierBytes ++ " bytes)"
  | .unknownDialect name =>
    "Unknown database type: '" ++ name ++
      "'. Supported types: mysql, sqlserver, postgresql, oracle, sqlite"
  | .noTable => "query has no target table"
  | .noInsertValues table => "insert into " ++ table ++ " has no values"
  | .notAnInsert => "insert returning id requires an insert query"
  | .notOneColumn operation count => operation ++ " takes one column, got " ++ toString count
  | .tableWithoutColumns table => "table " ++ table ++ " needs at least one column"
  | .indexWithoutColumns index => "index " ++ index ++ " needs at least one column"
  | .updateWithoutId table => "cannot update a " ++ table ++ " row without an Id"
  | .notSqlite dialect => "SQLite connection factory cannot open a " ++ dialect ++ " database"
  | .settingRequired setting => setting ++ " is required"
  | .ttlTooSmall => "cache.default_ttl_secs must be at least 1"
  | .other text => text

/-- A failure of the cache or of one of its texts. -/
inductive CacheFault where
  | notBoolean (text : String)
  | notInteger (text : String) (fault : IntegerFault)
  | notCount (text : String) (fault : IntegerFault)
  | refused (call : String)
  | other (text : String)
  deriving DecidableEq, Repr

/-- The fault in words. -/
def CacheFault.message : CacheFault → String
  | .notBoolean text => "not a boolean: " ++ Text.quoted text
  | .notInteger text fault => "not an integer: " ++ Text.quoted text ++ " (" ++ fault.message ++ ")"
  | .notCount text fault => "not a count: " ++ Text.quoted text ++ " (" ++ fault.message ++ ")"
  | .refused call => call ++ " refused"
  | .other text => text

/-- Any failure. -/
inductive Error where
  | misuse (cause : Misuse)
  | aggregationTargetMissing (operation : String)
  | connection (message context : String)
  | driver (message context : String)
  | decode (column message : String)
  | cache (fault : CacheFault)
  | io (message : String)
  | yaml
  | json
  | overflow
  deriving DecidableEq, Repr

namespace Error

/-- The failure in words. -/
def message : Error → String
  | .misuse cause => "Configuration error: " ++ cause.message
  | .aggregationTargetMissing operation =>
    "Aggregation target missing: " ++ operation ++ " requires exactly one selected column"
  | .connection message context => "Connection error: " ++ message ++ "\n  Context: " ++ context
  | .driver message context => "Driver error: " ++ message ++ "\n  Context: " ++ context
  | .decode column message => "Decode error for column " ++ column ++ ": " ++ message
  | .cache fault => "Cache error: " ++ fault.message
  | .io message => "IO error: " ++ message
  | .yaml => "YAML error"
  | .json => "JSON error"
  | .overflow => "attempt to add with overflow"

/-- Whether the caller made the mistake. -/
def isMisuse : Error → Bool
  | .misuse _ | .aggregationTargetMissing _ => true
  | _ => false

/-- The underlying failures, the nearest first. -/
def causes : Error → List String
  | .io message => [message]
  | _ => []

/-- Numbered lines for the underlying failures. -/
def causeLines : Nat → List String → String
  | _, [] => ""
  | depth, c :: cs =>
    "\nCaused by:\n  " ++ toString depth ++ ": " ++ c ++ causeLines (depth + 1) cs

/-- The failure followed by the underlying ones. -/
def detailed (e : Error) : String := "Error: " ++ e.message ++ "\n" ++ causeLines 1 e.causes

end Error

end Polydialect
