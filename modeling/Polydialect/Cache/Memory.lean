import Polydialect.Cache.Directive
import Polydialect.Number.Binary64

/-! # A cache in memory

Texts under keys, each with the policy by which it expires. An expired entry is as good as missing:
it is dropped when its key is looked up or when the cache is purged. Instants are nanoseconds since
some start, and never run backwards.
-/

namespace Polydialect.Cache

/-- A stored text. -/
structure Entry where
  text : String
  createdAt : Nat
  lastRead : Nat
  policy : Policy
  deriving DecidableEq, Repr

/-- Whether a time has passed since an instant. -/
def hasPassed (now since : Nat) : Option Nat → Bool
  | none => false
  | some time => time ≤ now - since

/-- Whether an entry has expired. -/
def Entry.isExpired (now : Nat) (e : Entry) : Bool :=
  hasPassed now e.createdAt e.policy.absolute || hasPassed now e.lastRead e.policy.sliding

/-- The entries, each key once, the policy of entries that leave it open, and how many lookups found
something and how many did not. -/
structure Memory where
  entries : List (String × Entry)
  defaults : Policy
  hits : Nat
  misses : Nat
  deriving DecidableEq, Repr

namespace Memory

def empty (defaults : Policy) : Memory := ⟨[], defaults, 0, 0⟩

/-- Takes a key out. -/
def remove (m : Memory) (key : String) : Memory :=
  { m with entries := m.entries.filter (·.1 ≠ key) }

/-- Puts an entry under a key instead of an older one. -/
def put (m : Memory) (key : String) (e : Entry) : Memory :=
  { m with entries := (key, e) :: (m.remove key).entries }

/-- The policy of an entry that is stored with `p`. -/
def resolve (m : Memory) (p : Policy) : Policy := if p.isInherited then m.defaults else p

/-- Stores a text. -/
def store (m : Memory) (now : Nat) (key text : String) (p : Policy) : Memory :=
  m.put key ⟨text, now, now, m.resolve p⟩

/-- The entry of a key, unless it has expired. -/
def live? (m : Memory) (now : Nat) (key : String) : Option Entry :=
  (m.entries.lookup key).filter fun e => !e.isExpired now

/-- Whether a key has an entry that has not expired. -/
def contains (m : Memory) (now : Nat) (key : String) : Bool := (m.live? now key).isSome

/-- The text of a key; the entry counts as read now, and an expired one is dropped. -/
def lookup (m : Memory) (now : Nat) (key : String) : Option String × Memory :=
  match m.live? now key with
  | some e => (some e.text, { m.put key { e with lastRead := now } with hits := m.hits + 1 })
  | none => (none, { m.remove key with misses := m.misses + 1 })

/-- Drops every expired entry. -/
def purge (m : Memory) (now : Nat) : Memory :=
  { m with entries := m.entries.filter fun p => !p.2.isExpired now }

/-- Drops every entry. -/
def clear (m : Memory) : Memory := { m with entries := [] }

/-- The number of entries, with expired ones that have not been dropped. -/
def size (m : Memory) : Nat := m.entries.length

/-- The share of lookups that found something. -/
def hitRatio (m : Memory) : Binary64 :=
  let total := m.hits + m.misses
  if total = 0 then .zero else (Binary64.ofInt m.hits).div (Binary64.ofInt total)

end Memory

end Polydialect.Cache
