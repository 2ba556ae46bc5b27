import SqlSyntax.Dialect

/-!
# The keyword catalog

The fixed words and symbols that a tree names by choice rather than by text: insert modes, join
kinds, sort orders, set operators, comparison, arithmetic and logical operators, cast targets,
window bound directions and generated-column storage.  Each family is an enumeration with its
spelling and the dialects that have it; the class `Keyword` gathers the three facts.

Only one keyword is missing from a dialect: DB2 has no remainder operator `%`
(`supports_mod`).  Condition keywords and index kinds are written without a dialect check and
are not members of the class.
-/

namespace SqlSyntax

/-- A family of SQL keywords: all of its members in catalog order, how each is spelled, and
which dialects have it. -/
class Keyword (α : Type) where
  all : List α
  spelling : α → String
  supports : Dialect → α → Bool

/-- How `INSERT` treats the rows already in the table. -/
inductive InsertMode where
  | into
  | ignoreInto
  | overwrite
  | replaceInto
  deriving DecidableEq, Repr, Inhabited

instance : Keyword InsertMode where
  all := [.into, .ignoreInto, .overwrite, .replaceInto]
  spelling
    | .into => "INSERT INTO"
    | .ignoreInto => "INSERT IGNORE INTO"
    | .overwrite => "INSERT OVERWRITE"
    | .replaceInto => "REPLACE INTO"
  supports _ _ := true

/-- The kind of a join. -/
inductive JoinKind where
  | plain
  | inner
  | left
  | leftOuter
  | right
  | rightOuter
  | full
  | fullOuter
  | cross
  | leftSemi
  deriving DecidableEq, Repr

instance : Keyword JoinKind where
  all := [.plain, .inner, .left, .leftOuter, .right, .rightOuter, .full, .fullOuter, .cross,
    .leftSemi]
  spelling
    | .plain => "JOIN"
    | .inner => "INNER JOIN"
    | .left => "LEFT JOIN"
    | .leftOuter => "LEFT OUTER JOIN"
    | .right => "RIGHT JOIN"
    | .rightOuter => "RIGHT OUTER JOIN"
    | .full => "FULL JOIN"
    | .fullOuter => "FULL OUTER JOIN"
    | .cross => "CROSS JOIN"
    | .leftSemi => "LEFT SEMI JOIN"
  supports _ _ := true

/-- The direction of a sort key. -/
inductive SortOrder where
  | asc
  | desc
  deriving DecidableEq, Repr, Inhabited

instance : Keyword SortOrder where
  all := [.asc, .desc]
  spelling
    | .asc => "ASC"
    | .desc => "DESC"
  supports _ _ := true

/-- The operator joining the branches of a compound query. -/
inductive SetOperator where
  | union
  | unionAll
  | unionDistinct
  | except
  | intersect
  deriving DecidableEq, Repr

instance : Keyword SetOperator where
  all := [.union, .unionAll, .unionDistinct, .except, .intersect]
  spelling
    | .union => "UNION"
    | .unionAll => "UNION ALL"
    | .unionDistinct => "UNION DISTINCT"
    | .except => "EXCEPT"
    | .intersect => "INTERSECT"
  supports _ _ := true

/-- A comparison operator. -/
inductive CompareOp where
  | eq
  | nullSafeEq
  | ne
  | ltGt
  | lt
  | le
  | gt
  | ge
  deriving DecidableEq, Repr

instance : Keyword CompareOp where
  all := [.eq, .nullSafeEq, .ne, .ltGt, .lt, .le, .gt, .ge]
  spelling
    | .eq => "="
    | .nullSafeEq => "<=>"
    | .ne => "!="
    | .ltGt => "<>"
    | .lt => "<"
    | .le => "<="
    | .gt => ">"
    | .ge => ">="
  supports _ _ := true

/-- An arithmetic, bitwise or concatenation operator; the same words serve as prefix
operators. -/
inductive ComputeOp where
  | plus
  | minus
  | times
  | divide
  | mod
  | div
  | bitAnd
  | bitOr
  | bitXor
  | shiftLeft
  | shiftRight
  | bitNot
  | concat
  deriving DecidableEq, Repr

instance : Keyword ComputeOp where
  all := [.plus, .minus, .times, .divide, .mod, .div, .bitAnd, .bitOr, .bitXor, .shiftLeft,
    .shiftRight, .bitNot, .concat]
  spelling
    | .plus => "+"
    | .minus => "-"
    | .times => "*"
    | .divide => "/"
    | .mod => "%"
    | .div => "DIV"
    | .bitAnd => "&"
    | .bitOr => "|"
    | .bitXor => "^"
    | .shiftLeft => "<<"
    | .shiftRight => ">>"
    | .bitNot => "~"
    | .concat => "||"
  supports d
    | .mod => d.traits.remainder
    | _ => true

/-- A logical connective. -/
inductive LogicalOp where
  | and
  | or
  | not
  | xor
  deriving DecidableEq, Repr

instance : Keyword LogicalOp where
  all := [.and, .or, .not, .xor]
  spelling
    | .and => "AND"
    | .or => "OR"
    | .not => "NOT"
    | .xor => "XOR"
  supports _ _ := true

/-- The target type of a cast. -/
inductive DataType where
  | binary
  | char
  | date
  | datetime
  | decimal
  | double
  | float
  | json
  | nchar
  | real
  | signed
  | time
  | timestamp
  | unsigned
  | year
  | int
  | integer
  | bigint
  | boolean
  | string
  | varchar
  deriving DecidableEq, Repr

instance : Keyword DataType where
  all := [.binary, .char, .date, .datetime, .decimal, .double, .float, .json, .nchar, .real,
    .signed, .time, .timestamp, .unsigned, .year, .int, .integer, .bigint, .boolean, .string,
    .varchar]
  spelling
    | .binary => "BINARY"
    | .char => "CHAR"
    | .date => "DATE"
    | .datetime => "DATETIME"
    | .decimal => "DECIMAL"
    | .double => "DOUBLE"
    | .float => "FLOAT"
    | .json => "JSON"
    | .nchar => "NCHAR"
    | .real => "REAL"
    | .signed => "SIGNED"
    | .time => "TIME"
    | .timestamp => "TIMESTAMP"
    | .unsigned => "UNSIGNED"
    | .year => "YEAR"
    | .int => "INT"
    | .integer => "INTEGER"
    | .bigint => "BIGINT"
    | .boolean => "BOOLEAN"
    | .string => "STRING"
    | .varchar => "VARCHAR"
  supports _ _ := true

/-- Where a window frame bound lies relative to the current row. -/
inductive BoundDirection where
  | preceding
  | following
  | currentRow
  deriving DecidableEq, Repr

instance : Keyword BoundDirection where
  all := [.preceding, .following, .currentRow]
  spelling
    | .preceding => "PRECEDING"
    | .following => "FOLLOWING"
    | .currentRow => "CURRENT ROW"
  supports _ _ := true

/-- Whether a generated column is computed on read or stored. -/
inductive GeneratedStorage where
  | virtual
  | stored
  deriving DecidableEq, Repr

instance : Keyword GeneratedStorage where
  all := [.virtual, .stored]
  spelling
    | .virtual => "VIRTUAL"
    | .stored => "STORED"
  supports _ _ := true

/-- The keyword of a keyword condition such as `a IS NULL` or `a LIKE p`. -/
inductive ConditionKeyword where
  | is
  | inList
  | like
  | rlike
  | regexp
  deriving DecidableEq, Repr

/-- How a condition keyword is spelled. -/
def ConditionKeyword.spelling : ConditionKeyword → String
  | .is => "IS"
  | .inList => "IN"
  | .like => "LIKE"
  | .rlike => "RLIKE"
  | .regexp => "REGEXP"

/-- The kind of an index of a table. -/
inductive IndexKind where
  | primary
  | unique
  | normal
  | fulltext
  deriving DecidableEq, Repr

/-- How an index kind is spelled where the index is declared. -/
def IndexKind.spelling : IndexKind → String
  | .primary => "PRIMARY KEY"
  | .unique => "UNIQUE KEY"
  | .normal => "KEY"
  | .fulltext => "FULLTEXT KEY"

/-- The remainder operator is the one keyword a dialect may lack. -/
theorem supports_mod (d : Dialect) : Keyword.supports d ComputeOp.mod = (d != .db2) := by
  cases d <;> rfl

end SqlSyntax
