import SqlSyntax.Keyword

/-!
# Names and small elements

The leaves of a syntax tree that hold no expression: table, function and column names,
aliases, `name=value` settings, cast targets, window frame bounds and `LIMIT` clauses.
-/

namespace SqlSyntax

/-- A table, optionally inside a schema. -/
structure TableName where
  schema : Option String := none
  table : String
  deriving DecidableEq, Repr

/-- A table outside any schema. -/
def TableName.ofTable (table : String) : TableName := { table }

/-- A table inside a schema. -/
def TableName.qualified (schema table : String) : TableName := { schema := some schema, table }

/-- A function, optionally inside a schema. -/
structure FunctionName where
  schema : Option String := none
  name : String
  deriving DecidableEq, Repr

/-- A column, optionally qualified by its table. -/
structure ColumnName where
  table : Option String := none
  column : String
  deriving DecidableEq, Repr

namespace ColumnName

/-- A column of no particular table. -/
def ofColumn (column : String) : ColumnName := { column }

/-- A column of a named table. -/
def qualified (table column : String) : ColumnName := { table := some table, column }

/-- The names that stand for a value rather than a stored column: the star and the current
date, time and timestamp, in exactly these spellings. -/
def pseudoColumns : List String := ["*", "CURRENT_DATE", "CURRENT_TIME", "CURRENT_TIMESTAMP"]

/-- A pseudo-column is written without quotes. -/
def isPseudo (c : ColumnName) : Bool := pseudoColumns.contains c.column

end ColumnName

/-- A single alias, `AS name`. -/
structure Alias where
  name : String
  deriving DecidableEq, Repr

/-- A list of aliases, `AS a, b`, as a table function's columns take. -/
structure MultiAlias where
  names : List String
  deriving DecidableEq, Repr

/-- A setting, `name=value`. -/
structure ConfigString where
  name : String
  value : String
  deriving DecidableEq, Repr

/-- The target of a cast: a data type, optionally `SIGNED` and with numeric parameters. -/
structure CastType where
  signed : Bool := false
  dataType : DataType
  params : Option (List Nat) := none
  deriving DecidableEq, Repr

/-- One end of a window frame. -/
inductive FrameBound where
  | unboundedPreceding
  | preceding (rows : Nat)
  | currentRow
  | following (rows : Nat)
  | unboundedFollowing
  deriving DecidableEq, Repr

/-- The side of the current row a bound lies on. -/
def FrameBound.direction : FrameBound → BoundDirection
  | .unboundedPreceding | .preceding _ => .preceding
  | .currentRow => .currentRow
  | .following _ | .unboundedFollowing => .following

/-- A window frame, `ROWS BETWEEN start AND finish`. -/
structure Frame where
  start : FrameBound
  finish : FrameBound
  deriving DecidableEq, Repr

/-- A row limit with an optional offset. -/
structure Limit where
  count : Nat
  offset : Option Nat := none
  deriving DecidableEq, Repr

/-- The same limit starting at another offset. -/
def Limit.withOffset (l : Limit) (offset : Nat) : Limit := { l with offset := some offset }

end SqlSyntax
