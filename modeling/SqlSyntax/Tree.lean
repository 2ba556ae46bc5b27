import SqlSyntax.Name
import SqlSyntax.Literal

/-!
# Expressions and queries

The recursive core of the syntax tree.  Expressions contain queries (as subqueries) and queries
contain expressions, so both live in one mutual block together with the parts they share: calls,
window specifications, `CASE` arms, sort keys, the clauses of a `SELECT`, and the branches of a
compound query.

A clause that is only a list or only a condition is that list or condition: a `FROM` clause is
the list of its tables, a `WHERE` clause its condition.  An optional clause that is present but
empty (`ORDER BY` with no keys) is `some []`, which renders differently from an absent one.
-/

namespace SqlSyntax

mutual

/-- An SQL expression. -/
inductive Expr where
  /-- A column reference. -/
  | column (c : ColumnName)
  /-- A literal, written as its text. -/
  | literal (l : Literal)
  /-- All columns, `*` or `t.*`. -/
  | wildcard (table : Option String)
  /-- A function call. -/
  | call (f : Call)
  /-- A window function, `f OVER (...)`. -/
  | window (w : WindowCall)
  /-- A searched case, `CASE WHEN c THEN r ... ELSE e END`. -/
  | searchedCase (arms : List CaseArm) (otherwise : Option Expr)
  /-- A simple case, `CASE v WHEN x THEN r ... ELSE e END`. -/
  | simpleCase (subject : Expr) (arms : List CaseArm) (otherwise : Option Expr)
  /-- A query in parentheses. -/
  | subquery (q : Query)
  /-- A parenthesised list of values. -/
  | tuple (items : List Expr)
  /-- An array element, `a[i]`. -/
  | subscript (array index : Expr)
  /-- A prefix operator applied to an operand. -/
  | unary (op : ComputeOp) (operand : Expr)
  /-- An arithmetic, bitwise or concatenation operator. -/
  | compute (lhs : Expr) (op : ComputeOp) (rhs : Expr)
  /-- A keyword condition such as `a IS b`, `a IN b` or `a LIKE b`, optionally negated. -/
  | condition (keyword : ConditionKeyword) (negated : Bool) (lhs rhs : Expr)
  /-- A range test `v BETWEEN low AND high`, optionally negated. -/
  | between (negated : Bool) (value low high : Expr)
  /-- An existence test `EXISTS v`, optionally negated. -/
  | exists (negated : Bool) (value : Expr)
  /-- A comparison. -/
  | compare (lhs : Expr) (op : CompareOp) (rhs : Expr)
  /-- Logical negation. -/
  | not (operand : Expr)
  /-- Logical conjunction. -/
  | and (lhs rhs : Expr)
  /-- Logical exclusive or. -/
  | xor (lhs rhs : Expr)
  /-- Logical disjunction. -/
  | or (lhs rhs : Expr)

/-- A function call. -/
inductive Call where
  /-- A plain call, `f(a, b)`. -/
  | normal (name : FunctionName) (args : List Expr)
  /-- An aggregate, `f(DISTINCT a, b)` when distinct. -/
  | aggregate (name : FunctionName) (args : List Expr) (distinct : Bool)
  /-- A conversion `CAST(e AS t)`. -/
  | cast (operand : Expr) (target : CastType)
  /-- A field extraction `EXTRACT(unit FROM e)`. -/
  | extract (unit operand : Expr)

/-- A window function: the function, its partitioning, ordering and frame. -/
structure WindowCall where
  function : Expr
  partitionBy : List Expr
  orderBy : List SortKey
  frame : Option Frame

/-- One `WHEN test THEN result` arm of a `CASE`. -/
structure CaseArm where
  test : Expr
  result : Expr

/-- A sort key, with its direction and where nulls go. -/
structure SortKey where
  key : Expr
  order : SortOrder := .asc
  nullsFirst : Bool := false
  nullsLast : Bool := false

/-- A query: a single `SELECT` or a compound of several. -/
inductive Query where
  | single (s : Select)
  | compound (c : Compound)

/-- A named query of a `WITH` clause, `name AS (query)`. -/
structure CommonTable where
  name : String
  query : Query

/-- An item of a `SELECT` list, `value AS label`. -/
structure SelectItem where
  value : Expr
  /-- The alias the value is written with, if any. -/
  label : Option Alias := none

/-- The `SELECT` list, optionally `DISTINCT`. -/
structure SelectClause where
  distinct : Bool := false
  items : List SelectItem

/-- What a `FROM` item reads: a table or a subquery. -/
inductive TableSource where
  | table (t : TableName)
  | subquery (q : Query)

/-- An item of a `FROM` clause, with an optional alias. -/
structure FromItem where
  source : TableSource
  /-- The alias the source is written with, if any. -/
  label : Option Alias := none

/-- A lateral view `LATERAL VIEW [OUTER] f name AS columns`. -/
structure LateralView where
  outer : Bool
  function : Call
  viewName : String
  /-- The names given to the generated columns. -/
  labels : MultiAlias

/-- How a join matches rows: a condition, or a `USING` call. -/
inductive JoinRule where
  | on (condition : Expr)
  | using (f : Call)

/-- A join: its kind, the joined table and the rule matching rows. -/
structure Join where
  kind : JoinKind
  table : FromItem
  rule : Option JoinRule

/-- A `GROUP BY` clause: grouping columns, grouping sets, and the `CUBE` and `ROLLUP` flags. -/
structure GroupBy where
  columns : List Expr
  groupingSets : Option (List (List Expr)) := none
  withCube : Bool := false
  withRollup : Bool := false

/-- A single `SELECT` with its clauses. -/
structure Select where
  withTables : Option (List CommonTable) := none
  selectClause : SelectClause
  fromTables : Option (List FromItem) := none
  lateralViews : List LateralView := []
  joins : List Join := []
  filter : Option Expr := none
  groupBy : Option GroupBy := none
  having : Option Expr := none
  orderBy : Option (List SortKey) := none
  sortBy : Option (List SortKey) := none
  distributeBy : Option (List Expr) := none
  clusterBy : Option (List Expr) := none
  limit : Option Limit := none

/-- One further branch of a compound query: the set operator and its `SELECT`. -/
structure Branch where
  op : SetOperator
  select : Select

/-- A compound query: a first `SELECT` and the branches after it. -/
structure Compound where
  withTables : Option (List CommonTable) := none
  head : Select
  tail : List Branch

end

namespace Expr

/-- An unqualified column. -/
def col (name : String) : Expr := .column (.ofColumn name)

/-- A literal with the given text. -/
def lit (text : String) : Expr := .literal ⟨text⟩

end Expr

/-- A `SELECT` list with no other clause. -/
def Select.ofClause (c : SelectClause) : Select := { selectClause := c }

end SqlSyntax
