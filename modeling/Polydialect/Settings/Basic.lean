import Polydialect.Cache.Memory
import Polydialect.Connection
import Polydialect.Dialect.Basic
import Polydialect.Json.Basic
import Polydialect.Members
import Polydialect.Number.Integer
import Polydialect.Settings.Document

/-! # Settings

Which database is used, how it is reached, and how long cached results live. Settings come from a
document or from JSON; either way the same fields are read and the same rules are checked.
-/

namespace Polydialect

/-- The settings of a program. -/
structure Settings where
  dialect : String
  connectionString : String
  /-- Results are cached. -/
  enabled : Bool
  /-- Seconds for which a result without a policy of its own is cached. -/
  ttl : Nat
  /-- The time counts from the last read. -/
  sliding : Bool
  deriving DecidableEq, Repr

namespace Settings

/-- Seconds for which results are cached where the settings do not say it. -/
def defaultTtl : Nat := 300

/-- The policy of cached results. -/
def policy (s : Settings) : Cache.Policy :=
  let time := s.ttl * Cache.nanosecondsPerSecond
  if s.sliding then ⟨none, some time, false⟩ else .after time

/-- The cache, unless results are not cached. -/
def cache? (s : Settings) : Option Cache.Memory :=
  if s.enabled then some (.empty s.policy) else none

/-- What the connection string tells. -/
def connection (s : Settings) : ConnectionInfo := .ofText s.connectionString

/-- Fails on a setting that is missing or out of range. -/
def validate (s : Settings) : Except Error Unit := do
  if (Text.trim s.dialect).isEmpty then throw (.misuse (.settingRequired "database.dialect"))
  discard <| Dialect.ofName s.dialect
  if (Text.trim s.connectionString).isEmpty then
    throw (.misuse (.settingRequired "database.connection_string"))
  if s.enabled && s.ttl == 0 then throw (.misuse .ttlTooSmall)

/-- How the values of settings are read. -/
structure Leaves (α : Type) where
  text : α → Option String
  flag : α → Option Bool
  count : α → Option Nat

/-- The settings in the fields of the database and of the cache. -/
def ofFields? {α : Type} (v : Leaves α) (database cache : List (String × α)) : Option Settings := do
  let dialect ← Members.required? v.text "dialect" database
  let connectionString ← Members.required? v.text "connection_string" database
  let enabled ← Members.optional? v.flag true "enabled" cache
  let ttl ← Members.optional? v.count defaultTtl "default_ttl_secs" cache
  let sliding ← Members.optional? v.flag false "sliding" cache
  return ⟨dialect, connectionString, enabled, ttl, sliding⟩

/-! ## From JSON -/

/-- The values in JSON. -/
def jsonLeaves : Leaves Json := ⟨Json.text?, Json.bool?, Json.count?⟩

/-- The settings that JSON stands for. -/
def ofJson? (j : Json) : Option Settings := do
  let fields ← j.fields? ["database", "cache"]
  let database ←
    Members.required? (Json.fields? ["dialect", "connection_string"]) "database" fields
  let cache ←
    Members.optional? (Json.fields? ["enabled", "default_ttl_secs", "sliding"]) [] "cache" fields
  ofFields? jsonLeaves database cache

/-- The settings in JSON, checked. -/
def ofJson (j : Json) : Except Error Settings :=
  match ofJson? j with
  | none => .error .json
  | some s => do
    s.validate
    return s

/-! ## From documents -/

/-- The value of digits in a base, at most 64 bits wide. -/
def readRadix (base : Nat) (s : List Char) : Option Nat := do
  let digits ← s.mapM Text.hexValue?
  if digits.isEmpty || digits.any (base ≤ ·) then none
  else
    let n := digits.foldl (base * · + ·) 0
    if n < UInt64.size then some n else none

/-- The base that a number names, and its digits. -/
def radixOf : List Char → Nat × List Char
  | '0' :: 'x' :: r => (16, r)
  | '0' :: 'o' :: r => (8, r)
  | '0' :: 'b' :: r => (2, r)
  | r => (10, r)

/-- A natural number of 64 bits with or without a plus sign; a decimal one of several digits does
not start with zero. -/
def readCount (s : List Char) : Option Nat :=
  let unsigned := if s.head? == some '+' then s.tail else s
  match radixOf unsigned with
  | (10, '0' :: _ :: _) => none
  | (base, digits) => readRadix base digits

/-- The natural number of a plain scalar. -/
def Scalar.count? : Scalar → Option Nat
  | .plain s => readCount s.toList
  | .quoted _ => none

/-- The truth value of a plain scalar. -/
def Scalar.flag? : Scalar → Option Bool
  | .plain "true" | .plain "True" | .plain "TRUE" => some true
  | .plain "false" | .plain "False" | .plain "FALSE" => some false
  | _ => none

/-- The scalar that stands under a name. -/
def Content.scalar? : Content → Option Scalar
  | .scalar s => some s
  | .block _ => none

/-- The values in a document; every scalar is a text. -/
def contentLeaves : Leaves Content where
  text c := c.scalar?.map Scalar.text
  flag c := c.scalar?.bind Scalar.flag?
  count c := c.scalar?.bind Scalar.count?

/-- The fields of a section; one that is written as nothing has none. -/
def Content.fields? : Content → Option (List (String × Content))
  | .block entries => some entries
  | .scalar s => if s = .absent then some [] else none

/-- The settings that a document stands for. -/
def ofDocument? (text : String) : Option Settings := do
  let sections ← readDocument text
  let database ← Members.required? Content.fields? "database" sections
  let cache ← Members.optional? Content.fields? [] "cache" sections
  ofFields? contentLeaves database cache

/-- The settings in a document, checked. -/
def ofDocument (text : String) : Except Error Settings :=
  match ofDocument? text with
  | none => .error .yaml
  | some s => do
    s.validate
    return s

/-- The settings in a file, from its text or from why it cannot be read. -/
def ofFile : Except String String → Except Error Settings
  | .ok text => ofDocument text
  | .error message => .error (.io message)

end Settings

end Polydialect
