import Polydialect.Dialect.Quoting
import Polydialect.Error

/-! # SELECT statements and their windows

A SELECT is put together from rendered clauses and a window: how many rows are skipped and how many
are taken at most. Every dialect has its own text for a window; SQL Server before 2012 has none and
numbers the rows instead. The numbers are words of 64 bits, and so are the sums that bound them.
-/

namespace Polydialect

/-- The clauses of a SELECT, each without its keyword, and its window. -/
structure Selection where
  table : String
  columns : String
  filter : Option String
  order : Option String
  offset : Option UInt64
  limit : Option UInt64
  /-- The server has no text for a window. -/
  isLegacy : Bool
  deriving DecidableEq

namespace Selection

/-- Whether a window is given. -/
def isPaged (s : Selection) : Bool := s.offset.isSome || s.limit.isSome

/-- A clause after its keyword, nothing where it is missing. -/
def clause (keyword : String) : Option String → String
  | none => ""
  | some text => keyword ++ text

/-- The statement after its select list, without a window. -/
def source (d : Dialect) (s : Selection) : String :=
  " FROM " ++ d.quote s.table ++ clause " WHERE " s.filter ++ clause " ORDER BY " s.order

/-- The statement without a window. -/
def base (d : Dialect) (s : Selection) : String := "SELECT " ++ s.columns ++ s.source d

/-- The number of skipped rows, if there are any. -/
def skipped? (s : Selection) : Option UInt64 := s.offset.filter (· > 0)

/-- A number in a statement. -/
def number (n : UInt64) : String := toString n.toNat

/-- The text of a window in a dialect that has one at the end of the statement. -/
def limitText (d : Dialect) (s : Selection) : String :=
  match d, s.limit, s.skipped? with
  | _, none, none => ""
  | .mysql, some l, none | .postgres, some l, none | .sqlite, some l, none =>
    " LIMIT " ++ number l
  | .mysql, some l, some o | .postgres, some l, some o | .sqlite, some l, some o =>
    " LIMIT " ++ number l ++ " OFFSET " ++ number o
  | .mysql, none, some o => " LIMIT 18446744073709551615 OFFSET " ++ number o
  | .postgres, none, some o => " OFFSET " ++ number o
  | .sqlite, none, some o => " LIMIT -1 OFFSET " ++ number o
  | .oracle, some l, none | .sqlServer, some l, none => " FETCH NEXT " ++ number l ++ " ROWS ONLY"
  | .oracle, some l, some o | .sqlServer, some l, some o =>
    " OFFSET " ++ number o ++ " ROWS FETCH NEXT " ++ number l ++ " ROWS ONLY"
  | .oracle, none, some o | .sqlServer, none, some o => " OFFSET " ++ number o ++ " ROWS"

/-- The ordering where one is needed and none is given. -/
def orderOrConstant (s : Selection) : String := s.order.getD "(SELECT 0)"

/-- The sum of two words, if it is one. -/
def sum (a b : UInt64) : Except Error UInt64 :=
  if a.toNat + b.toNat < UInt64.size then .ok (a + b) else .error .overflow

/-- The range of row numbers of a window. -/
def rowRange (offset : UInt64) (limit : Option UInt64) : Except Error String :=
  match limit with
  | some l => do
    let last ← sum offset l
    let first ← sum offset 1
    return "[row_num] BETWEEN " ++ number first ++ " AND " ++ number last
  | none => do
    let first ← sum offset 1
    return "[row_num] >= " ++ number first

/-- The statement that numbers the rows and keeps a range of the numbers. -/
def rowNumbered (d : Dialect) (s : Selection) (range : String) : String :=
  "SELECT * FROM (SELECT " ++ s.columns ++ ", ROW_NUMBER() OVER (ORDER BY " ++ s.orderOrConstant ++
    ") AS [row_num] FROM " ++ d.quote s.table ++ clause " WHERE " s.filter ++
    ") AS [results_wrapper] WHERE " ++ range

/-- The statement on SQL Server: a limit alone is written before the select list, and rows can be
skipped only in an ordering. -/
def sqlServerText (s : Selection) : Except Error String :=
  match s.skipped? with
  | none =>
    match s.limit with
    | some l => return "SELECT TOP (" ++ number l ++ ") " ++ s.columns ++ s.source .sqlServer
    | none => return s.base .sqlServer
  | some o =>
    if s.isLegacy then return s.rowNumbered .sqlServer (← rowRange o s.limit)
    else
      return { s with order := some s.orderOrConstant }.base .sqlServer ++ s.limitText .sqlServer

/-- The statement. Only the numbers of rows can keep it from being written. -/
def text (d : Dialect) (s : Selection) : Except Error String :=
  match d with
  | .sqlServer => s.sqlServerText
  | _ => return s.base d ++ s.limitText d

end Selection

end Polydialect
