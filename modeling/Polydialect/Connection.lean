import Polydialect.Text.Ascii
import Polydialect.Text.Blank
import Polydialect.Text.Cut

/-! # Connection strings

A connection string names a database and often its owner. It is a URL, a list of pairs `key=value`
between semicolons, or the path of a file.
-/

namespace Polydialect

/-- What a connection string tells about a database, empty where it tells nothing. -/
structure ConnectionInfo where
  owner : String
  databaseName : String
  deriving DecidableEq, Repr

namespace ConnectionInfo

/-- From a URL without its scheme: the user is what stands before the last `@` of the authority, up
to a colon, and the database is the path up to a question mark. -/
def ofUrl (rest : List Char) : ConnectionInfo :=
  let (authority, path) := (Text.cut? '/' rest).getD (rest, [])
  let owner := match Text.cutLast? '@' authority with
    | some (user, _) => Text.before ':' user
    | none => []
  ⟨.ofList owner, .ofList (Text.before '?' path)⟩

/-- The pairs of a list, the keys in small letters. -/
def pairs (s : List Char) : List (String × String) :=
  (Text.pieces ';' s).filterMap fun piece => (Text.cut? '=' piece).map fun (k, v) =>
    (.ofList ((Text.trimmed k).map Char.toLower), .ofList (Text.trimmed v))

/-- The value of the first key that is there, empty if none is. -/
def firstOf (ps : List (String × String)) (keys : List String) : String :=
  (keys.findSome? (List.lookup · ps)).getD ""

/-- The keys of the owner, the first ones going first. -/
def ownerKeys : List String := ["uid", "user id", "username", "user"]

/-- The keys of the database, the first ones going first. -/
def databaseKeys : List String := ["database", "initial catalog", "data source"]

/-- What a connection string tells. -/
def ofText (connection : String) : ConnectionInfo :=
  let s := Text.trimmed connection.toList
  match Text.cutWord? "://".toList s with
  | some (_, rest) => ofUrl rest
  | none =>
    if "sqlite:".toList.isPrefixOf s then ⟨"", .ofList (s.drop "sqlite:".length)⟩
    else if '=' ∈ s then ⟨firstOf (pairs s) ownerKeys, firstOf (pairs s) databaseKeys⟩
    else ⟨"", .ofList s⟩

end ConnectionInfo

end Polydialect
