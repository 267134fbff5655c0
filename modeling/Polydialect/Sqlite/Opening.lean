import Polydialect.Text.Cut
import Polydialect.Text.Percent

/-! # Opening an SQLite database

A database is a file, or it is in memory and needs none. Its name is a path, or a URI with the
scheme `file`, whose parameters may restrict what the database is opened for, move it into memory
or choose the system of files below it. There are no files here, so `Opening.succeeds` says whether
a database needs none.
-/

namespace Polydialect.Sqlite

/-- What a database is opened for, each with what stands before it. -/
inductive Rights where
  | read
  | write
  | create
  deriving DecidableEq, Repr

/-- The place among the rights. -/
def Rights.rank : Rights → Nat
  | .read => 0
  | .write => 1
  | .create => 2

/-- How a database is opened. -/
structure Opening where
  inMemory : Bool
  rights : Rights
  /-- The system of files, if one is named. -/
  fileSystem : Option String
  deriving DecidableEq, Repr

namespace Opening

/-- Opens a file with other rights, which may not be more than there were; where the database was
in memory all are allowed. -/
def restrict? (o : Opening) (r : Rights) : Option Opening :=
  if o.inMemory ∨ r.rank ≤ o.rights.rank then some { o with inMemory := false, rights := r }
  else none

/-- One parameter of a URI; those that nobody knows are passed over. -/
def withParameter? (o : Opening) : String × String → Option Opening
  | ("vfs", v) => some { o with fileSystem := some v }
  | ("cache", v) => if v = "shared" ∨ v = "private" then some o else none
  | ("mode", "ro") => o.restrict? .read
  | ("mode", "rw") => o.restrict? .write
  | ("mode", "rwc") => o.restrict? .create
  | ("mode", "memory") => some { o with inMemory := true }
  | ("mode", _) => none
  | _ => some o

/-- The systems of files that there are; the last one keeps its files in memory. -/
def fileSystems : List String := ["unix", "unix-none", "unix-dotfile", "unix-excl", "memdb"]

/-- Whether the database at a path opens: its system of files is known, and it is in memory or a
temporary one, whose path is empty. -/
def succeeds (o : Opening) (path : String) : Bool :=
  o.fileSystem.all (fileSystems.contains ·) &&
    (o.inMemory || o.fileSystem == some "memdb" || path == ":memory:" || path.isEmpty)

end Opening

/-! ## File URIs -/

namespace Uri

/-- The text behind a part of a URI, which ends at a null character. -/
def part (s : List Char) : String :=
  .ofList ((Text.Percent.decodeLossy s).toList.takeWhile (· ≠ '\x00'))

/-- What follows the host, nothing when it is another one than this. -/
def dropHost? : List Char → Option (List Char)
  | '/' :: '/' :: r =>
    let (host, path) := r.span (· ≠ '/')
    if host = [] ∨ host = "localhost".toList then some path else none
  | r => some r

/-- The parameters in the part after the question mark; those without a name do not count. -/
def parameters (s : List Char) : List (String × String) :=
  ((Text.pieces '&' s).map fun p =>
    let (key, value) := (Text.cut? '=' p).getD (p, [])
    (part key, part value)).filter fun p => !p.1.isEmpty

/-- Whether the database of a URI opens, given what follows the scheme. -/
def succeeds (o : Opening) (s : List Char) : Bool :=
  match dropHost? s with
  | none => false
  | some r =>
    let r := Text.before '#' r
    let (path, query) := (Text.cut? '?' r).getD (r, [])
    match (parameters query).foldlM Opening.withParameter? o with
    | none => false
    | some o => o.succeeds (part path)

end Uri

/-- Whether the database of a name opens: a path, which holds no null character, or a URI. -/
def Opening.succeedsAt (o : Opening) (name : String) : Bool :=
  if name.toList.contains '\x00' then false
  else if "file:".toList.isPrefixOf name.toList then Uri.succeeds o (name.toList.drop 5)
  else o.succeeds name

end Polydialect.Sqlite
