import Polydialect.Dialect.Basic
import Polydialect.Members
import Polydialect.Sqlite.Opening
import Polydialect.Text.Ascii

/-! # Locations of SQLite databases

A connection string leads to a location: a path, or the word for a database in memory, sometimes
after a scheme and before parameters. Here there are no files, so only a database that needs none
can be opened.
-/

namespace Polydialect.Sqlite

/-- The keys of the location in a list of pairs. -/
def locationKeys : List String := ["data source", "datasource", "filename"]

/-- The location of a connection string: the first pair with one of the keys, or all of the text. -/
def location (connection : String) : String :=
  let s := Text.trimmed connection.toList
  if "sqlite:".toList.isPrefixOf s || !s.contains '=' then .ofList s
  else
    let pairs := (Text.pieces ';' s).filterMap (Text.cut? '=')
    let isKey := fun k => locationKeys.contains (.ofList ((Text.trimmed k).map Char.toLower))
    match pairs.find? fun p => isKey p.1 with
    | some (_, v) => .ofList (Text.trimmed v)
    | none => .ofList s

/-- The location without its scheme. -/
def withoutScheme (s : List Char) : List Char :=
  Text.dropWords "sqlite:".toList (Text.dropWords "sqlite://".toList s)

/-- The database that a location names: a path, empty for a temporary one. Nothing where the percent
codes of the path are no text. -/
def path? (location : String) : Option String :=
  Text.Percent.decode? (Text.before '?' (withoutScheme location.toList))

/-- The parameters after the path. -/
def parameters (location : String) : List (String × String) :=
  match Text.cut? '?' (withoutScheme location.toList) with
  | none => []
  | some (_, r) => ((Text.pieces '&' r).filter (!·.isEmpty)).map fun p =>
    let (key, value) := (Text.cut? '=' p).getD (p, [])
    (Text.Percent.decodeParameter key, Text.Percent.decodeParameter value)

/-- The values that a parameter takes, where they are limited; nothing for an unknown parameter. -/
def allowedValues? : String → Option (List String)
  | "mode" => some ["ro", "rw", "rwc", "memory"]
  | "cache" => some ["private", "shared"]
  | "immutable" => some ["true", "1", "false", "0"]
  | _ => none

/-- Whether a parameter is known and has one of its values. -/
def isKnown (p : String × String) : Bool :=
  p.1 == "vfs" || ((allowedValues? p.1).map (·.contains p.2)).getD false

/-- The last value of a parameter. -/
def lastValue? (name : String) (ps : List (String × String)) : Option String :=
  (Members.named name ps).getLast?

/-- How the database is opened under parameters: in memory or for reading alone once one of them
says so, else to be created, in the system of files named last. -/
def openingOf (ps : List (String × String)) : Opening where
  inMemory := ps.contains ("mode", "memory")
  rights := if ps.contains ("mode", "ro") then .read else .create
  fileSystem := (lastValue? "vfs" ps).map fun v => .ofList (v.toList.takeWhile (· ≠ '\x00'))

/-- Whether the parameters are passed on as those of a URI; the path is then no URI itself. -/
def wrapsPath (ps : List (String × String)) : Bool :=
  (lastValue? "vfs" ps).isSome || [some "true", some "1"].contains (lastValue? "immutable" ps)

/-- Whether the database at a path opens under parameters. -/
def opens (path : String) (ps : List (String × String)) : Bool :=
  if wrapsPath ps then (openingOf ps).succeeds (.ofList (path.toList.takeWhile (· ≠ '\x00')))
  else (openingOf ps).succeedsAt path

/-- Why a connection string cannot be opened. -/
inductive OpenFault where
  | misuse (cause : Misuse)
  /-- The location cannot be read. -/
  | unreadable
  /-- There is no database at the location. -/
  | unopened (location : String)
  deriving DecidableEq, Repr

/-- What was being done when a connection failed. -/
def OpenFault.context? : OpenFault → Option String
  | .misuse _ => none
  | .unreadable => some "parsing SQLite connection string"
  | .unopened location => some ("opening SQLite database " ++ location)

/-- Opens the database at a location. -/
def openLocation (location : String) : Except OpenFault Unit :=
  match path? location with
  | none => .error .unreadable
  | some path =>
    if !(parameters location).all isKnown then .error .unreadable
    else if opens path (parameters location) then .ok ()
    else .error (.unopened location)

/-- Opens the database of a connection string. -/
def openDatabase (d : Dialect) (connection : String) : Except OpenFault Unit :=
  if d = .sqlite then openLocation (location connection)
  else .error (.misuse (.notSqlite d.name))

end Polydialect.Sqlite
