import SqlSyntax.Json.Variant
import SqlSyntax.Tree

/-!
# Reading trees from JSON

The readers of names, literals and the other leaves of the tree, and the readers of
expressions and queries.  The tree readers form one block with a common fuel argument: each
takes one unit of fuel and calls the next reader only on a member or an item of the value it
was given, so `JsonValue.decode` (one unit more than the value's depth) never runs out on a
well-formed value.  A value of the wrong shape, a missing required member, an unknown variant
and a number out of range all read as `none`.

A record comes as an object, or as an array of all its field values in the order the fields are
declared (`JsonValue.fields?`); a tagged variant's content is read the same way when it is a
record.
-/

namespace SqlSyntax

open JsonValue

/-! ## Leaves -/

/-- Reads `{schema?, table}`. -/
def TableName.ofJson? (j : JsonValue) : Option TableName := do
  let fs ← j.fields? ["schema", "table"]
  return { schema := ← fs.opt "schema" str?, table := ← fs.req "table" str? }

/-- Reads `{schema?, name}`. -/
def FunctionName.ofJson? (j : JsonValue) : Option FunctionName := do
  let fs ← j.fields? ["schema", "name"]
  return { schema := ← fs.opt "schema" str?, name := ← fs.req "name" str? }

/-- Reads `{table?, column}`. -/
def ColumnName.ofJson? (j : JsonValue) : Option ColumnName := do
  let fs ← j.fields? ["table", "column"]
  return { table := ← fs.opt "table" str?, column := ← fs.req "column" str? }

/-- Reads `{name}`. -/
def Alias.ofJson? (j : JsonValue) : Option Alias := do
  let fs ← j.fields? ["name"]
  return { name := ← fs.req "name" str? }

/-- Reads `{names}`. -/
def MultiAlias.ofJson? (j : JsonValue) : Option MultiAlias := do
  let fs ← j.fields? ["names"]
  return { names := ← fs.req "names" (list? str?) }

/-- Reads `{name, value}`. -/
def ConfigString.ofJson? (j : JsonValue) : Option ConfigString := do
  let fs ← j.fields? ["name", "value"]
  return { name := ← fs.req "name" str?, value := ← fs.req "value" str? }

/-- Reads `{signed, data_type, params?}`; parameters are unsigned 32-bit. -/
def CastType.ofJson? (j : JsonValue) : Option CastType := do
  let fs ← j.fields? ["signed", "data_type", "params"]
  return { signed := ← fs.req "signed" bool?, dataType := ← fs.req "data_type" VariantNames.read?,
           params := ← fs.opt "params" (list? u32?) }

/-- Reads `{text}`. -/
def Literal.ofJson? (j : JsonValue) : Option Literal := do
  let fs ← j.fields? ["text"]
  return { text := ← fs.req "text" str? }

/-- Reads a frame bound: a bare name for the unbounded ends and the current row, a tagged row
count for the others. -/
def FrameBound.ofJson? (j : JsonValue) : Option FrameBound := do
  let (t, v) ← j.variant?
  match t with
  | "UnboundedPreceding" => do v.unit?; return .unboundedPreceding
  | "Preceding" => return .preceding (← u64? v)
  | "CurrentRow" => do v.unit?; return .currentRow
  | "Following" => return .following (← u64? v)
  | "UnboundedFollowing" => do v.unit?; return .unboundedFollowing
  | _ => none

/-- Reads `{from, to}`. -/
def Frame.ofJson? (j : JsonValue) : Option Frame := do
  let fs ← j.fields? ["from", "to"]
  return { start := ← fs.req "from" FrameBound.ofJson?, finish := ← fs.req "to" FrameBound.ofJson? }

/-- Reads `{limit, offset?}`. -/
def Limit.ofJson? (j : JsonValue) : Option Limit := do
  let fs ← j.fields? ["limit", "offset"]
  return { count := ← fs.req "limit" u64?, offset := ← fs.opt "offset" u64? }

/-- Reads a wildcard `{table?}` as an expression. -/
def Expr.wildcardOfJson? (j : JsonValue) : Option Expr := do
  let fs ← j.fields? ["table"]
  return .wildcard (← fs.opt "table" str?)

/-- Reads `{dialect, indent, max_depth}`, the dialect by its variant name. -/
def RenderOptions.ofJson? (j : JsonValue) : Option RenderOptions := do
  let fs ← j.fields? ["dialect", "indent", "max_depth"]
  return { dialect := ← fs.req "dialect" VariantNames.read?, indent := ← fs.req "indent" u64?,
           maxDepth := ← fs.req "max_depth" u64? }

/-! ## Expressions and queries -/

mutual

/-- Reads an expression, tagged with its variant. -/
def Expr.ofJson? : Nat → JsonValue → Option Expr
  | 0, _ => none
  | n + 1, j => do
    let (t, v) ← tagged? j
    match t with
    | "Column" => return .column (← ColumnName.ofJson? v)
    | "Literal" => return .literal (← Literal.ofJson? v)
    | "Wildcard" => Expr.wildcardOfJson? v
    | "Function" => return .call (← Call.ofJson? n v)
    | "Window" => return .window (← WindowCall.ofJson? n v)
    | "CaseCondition" => Expr.searchedCaseOfJson? n v
    | "CaseValue" => Expr.simpleCaseOfJson? n v
    | "SubQuery" => return .subquery (← Query.subqueryOfJson? n v)
    | "SubValue" => Expr.tupleOfJson? n v
    | "Index" => Expr.subscriptOfJson? n v
    | "Unary" => Expr.unaryOfJson? n v
    | "Compute" => Expr.computeOfJson? n v
    | "KeywordCondition" => Expr.conditionOfJson? n v
    | "Between" => Expr.betweenOfJson? n v
    | "Exists" => Expr.existsOfJson? n v
    | "Comparison" => Expr.compareOfJson? n v
    | "Not" => return .not (← Expr.ofJson? n v)
    | "And" => do let (l, r) ← Expr.operandsOfJson? n v; return .and l r
    | "Xor" => do let (l, r) ← Expr.operandsOfJson? n v; return .xor l r
    | "Or" => do let (l, r) ← Expr.operandsOfJson? n v; return .or l r
    | _ => none

/-- Reads `{cases, else_value?}` as a searched `CASE`. -/
def Expr.searchedCaseOfJson? : Nat → JsonValue → Option Expr
  | 0, _ => none
  | n + 1, j => do
    let fs ← j.fields? ["cases", "else_value"]
    return .searchedCase (← fs.req "cases" (list? (CaseArm.ofJson? n)))
      (← fs.opt "else_value" (Expr.ofJson? n))

/-- Reads `{value, cases, else_value?}` as a simple `CASE`. -/
def Expr.simpleCaseOfJson? : Nat → JsonValue → Option Expr
  | 0, _ => none
  | n + 1, j => do
    let fs ← j.fields? ["value", "cases", "else_value"]
    return .simpleCase (← fs.req "value" (Expr.ofJson? n)) (← fs.req "cases" (list? (CaseArm.ofJson? n)))
      (← fs.opt "else_value" (Expr.ofJson? n))

/-- Reads `{values}` as a parenthesised list. -/
def Expr.tupleOfJson? : Nat → JsonValue → Option Expr
  | 0, _ => none
  | n + 1, j => do
    let fs ← j.fields? ["values"]
    return .tuple (← fs.req "values" (list? (Expr.ofJson? n)))

/-- Reads `{array, index}`. -/
def Expr.subscriptOfJson? : Nat → JsonValue → Option Expr
  | 0, _ => none
  | n + 1, j => do
    let fs ← j.fields? ["array", "index"]
    return .subscript (← fs.req "array" (Expr.ofJson? n)) (← fs.req "index" (Expr.ofJson? n))

/-- Reads `{operator, expression}`. -/
def Expr.unaryOfJson? : Nat → JsonValue → Option Expr
  | 0, _ => none
  | n + 1, j => do
    let fs ← j.fields? ["operator", "expression"]
    return .unary (← fs.req "operator" VariantNames.read?) (← fs.req "expression" (Expr.ofJson? n))

/-- Reads `{left, operator, right}` with an arithmetic or bit operator. -/
def Expr.computeOfJson? : Nat → JsonValue → Option Expr
  | 0, _ => none
  | n + 1, j => do
    let fs ← j.fields? ["left", "operator", "right"]
    return .compute (← fs.req "left" (Expr.ofJson? n)) (← fs.req "operator" VariantNames.read?)
      (← fs.req "right" (Expr.ofJson? n))

/-- Reads `{keyword, negated, left, right}`. -/
def Expr.conditionOfJson? : Nat → JsonValue → Option Expr
  | 0, _ => none
  | n + 1, j => do
    let fs ← j.fields? ["keyword", "negated", "left", "right"]
    return .condition (← fs.req "keyword" VariantNames.read?) (← fs.req "negated" bool?)
      (← fs.req "left" (Expr.ofJson? n)) (← fs.req "right" (Expr.ofJson? n))

/-- Reads `{negated, value, from, to}`. -/
def Expr.betweenOfJson? : Nat → JsonValue → Option Expr
  | 0, _ => none
  | n + 1, j => do
    let fs ← j.fields? ["negated", "value", "from", "to"]
    return .between (← fs.req "negated" bool?) (← fs.req "value" (Expr.ofJson? n))
      (← fs.req "from" (Expr.ofJson? n)) (← fs.req "to" (Expr.ofJson? n))

/-- Reads `{negated, value}`. -/
def Expr.existsOfJson? : Nat → JsonValue → Option Expr
  | 0, _ => none
  | n + 1, j => do
    let fs ← j.fields? ["negated", "value"]
    return .exists (← fs.req "negated" bool?) (← fs.req "value" (Expr.ofJson? n))

/-- Reads `{left, operator, right}` with a comparison operator. -/
def Expr.compareOfJson? : Nat → JsonValue → Option Expr
  | 0, _ => none
  | n + 1, j => do
    let fs ← j.fields? ["left", "operator", "right"]
    return .compare (← fs.req "left" (Expr.ofJson? n)) (← fs.req "operator" VariantNames.read?)
      (← fs.req "right" (Expr.ofJson? n))

/-- Reads the operands `{left, right}` of a binary logical operator. -/
def Expr.operandsOfJson? : Nat → JsonValue → Option (Expr × Expr)
  | 0, _ => none
  | n + 1, j => do
    let fs ← j.fields? ["left", "right"]
    return (← fs.req "left" (Expr.ofJson? n), ← fs.req "right" (Expr.ofJson? n))

/-- Reads `{condition}`, the body of `WHERE` and `HAVING`. -/
def Expr.conditionClauseOfJson? : Nat → JsonValue → Option Expr
  | 0, _ => none
  | n + 1, j => do
    let fs ← j.fields? ["condition"]
    fs.req "condition" (Expr.ofJson? n)

/-- Reads `{columns}` with expressions, the body of `DISTRIBUTE BY` and `CLUSTER BY`. -/
def Expr.columnsOfJson? : Nat → JsonValue → Option (List Expr)
  | 0, _ => none
  | n + 1, j => do
    let fs ← j.fields? ["columns"]
    fs.req "columns" (list? (Expr.ofJson? n))

/-- Reads `{sets}`, grouping sets. -/
def Expr.setsOfJson? : Nat → JsonValue → Option (List (List Expr))
  | 0, _ => none
  | n + 1, j => do
    let fs ← j.fields? ["sets"]
    fs.req "sets" (list? (list? (Expr.ofJson? n)))

/-- Reads a call, tagged with its variant. -/
def Call.ofJson? : Nat → JsonValue → Option Call
  | 0, _ => none
  | n + 1, j => do
    let (t, v) ← tagged? j
    match t with
    | "Normal" => Call.normalOfJson? n v
    | "Aggregate" => Call.aggregateOfJson? n v
    | "Cast" => Call.castOfJson? n v
    | "Extract" => Call.extractOfJson? n v
    | _ => none

/-- Reads `{name, params}`. -/
def Call.normalOfJson? : Nat → JsonValue → Option Call
  | 0, _ => none
  | n + 1, j => do
    let fs ← j.fields? ["name", "params"]
    return .normal (← fs.req "name" FunctionName.ofJson?) (← fs.req "params" (list? (Expr.ofJson? n)))

/-- Reads `{name, params, distinct}`. -/
def Call.aggregateOfJson? : Nat → JsonValue → Option Call
  | 0, _ => none
  | n + 1, j => do
    let fs ← j.fields? ["name", "params", "distinct"]
    return .aggregate (← fs.req "name" FunctionName.ofJson?) (← fs.req "params" (list? (Expr.ofJson? n)))
      (← fs.req "distinct" bool?)

/-- Reads `{expression, cast_type}`. -/
def Call.castOfJson? : Nat → JsonValue → Option Call
  | 0, _ => none
  | n + 1, j => do
    let fs ← j.fields? ["expression", "cast_type"]
    return .cast (← fs.req "expression" (Expr.ofJson? n)) (← fs.req "cast_type" CastType.ofJson?)

/-- Reads `{unit, expression}`. -/
def Call.extractOfJson? : Nat → JsonValue → Option Call
  | 0, _ => none
  | n + 1, j => do
    let fs ← j.fields? ["unit", "expression"]
    return .extract (← fs.req "unit" (Expr.ofJson? n)) (← fs.req "expression" (Expr.ofJson? n))

/-- Reads `{function, partition_by, order_by, frame?}`. -/
def WindowCall.ofJson? : Nat → JsonValue → Option WindowCall
  | 0, _ => none
  | n + 1, j => do
    let fs ← j.fields? ["function", "partition_by", "order_by", "frame"]
    return { function := ← fs.req "function" (Expr.ofJson? n),
             partitionBy := ← fs.req "partition_by" (list? (Expr.ofJson? n)),
             orderBy := ← fs.req "order_by" (list? (SortKey.ofJson? n)),
             frame := ← fs.opt "frame" Frame.ofJson? }

/-- Reads `{when, then}`. -/
def CaseArm.ofJson? : Nat → JsonValue → Option CaseArm
  | 0, _ => none
  | n + 1, j => do
    let fs ← j.fields? ["when", "then"]
    return { test := ← fs.req "when" (Expr.ofJson? n), result := ← fs.req "then" (Expr.ofJson? n) }

/-- Reads `{column, order, nulls_first, nulls_last}`. -/
def SortKey.ofJson? : Nat → JsonValue → Option SortKey
  | 0, _ => none
  | n + 1, j => do
    let fs ← j.fields? ["column", "order", "nulls_first", "nulls_last"]
    return { key := ← fs.req "column" (Expr.ofJson? n), order := ← fs.req "order" VariantNames.read?,
             nullsFirst := ← fs.req "nulls_first" bool?, nullsLast := ← fs.req "nulls_last" bool? }

/-- Reads `{columns}` with sort keys, the body of `ORDER BY` and `SORT BY`. -/
def SortKey.clauseOfJson? : Nat → JsonValue → Option (List SortKey)
  | 0, _ => none
  | n + 1, j => do
    let fs ← j.fields? ["columns"]
    fs.req "columns" (list? (SortKey.ofJson? n))

/-- Reads a query, tagged `Single` or `Union`. -/
def Query.ofJson? : Nat → JsonValue → Option Query
  | 0, _ => none
  | n + 1, j => do
    let (t, v) ← tagged? j
    match t with
    | "Single" => return .single (← Select.ofJson? n v)
    | "Union" => return .compound (← Compound.ofJson? n v)
    | _ => none

/-- Reads `{statement}`, a subquery. -/
def Query.subqueryOfJson? : Nat → JsonValue → Option Query
  | 0, _ => none
  | n + 1, j => do
    let fs ← j.fields? ["statement"]
    fs.req "statement" (Query.ofJson? n)

/-- Reads `{name, statement}`. -/
def CommonTable.ofJson? : Nat → JsonValue → Option CommonTable
  | 0, _ => none
  | n + 1, j => do
    let fs ← j.fields? ["name", "statement"]
    return { name := ← fs.req "name" str?, query := ← fs.req "statement" (Query.ofJson? n) }

/-- Reads `{tables}`, a `WITH` clause. -/
def CommonTable.clauseOfJson? : Nat → JsonValue → Option (List CommonTable)
  | 0, _ => none
  | n + 1, j => do
    let fs ← j.fields? ["tables"]
    fs.req "tables" (list? (CommonTable.ofJson? n))

/-- Reads `{value, alias?}`. -/
def SelectItem.ofJson? : Nat → JsonValue → Option SelectItem
  | 0, _ => none
  | n + 1, j => do
    let fs ← j.fields? ["value", "alias"]
    return { value := ← fs.req "value" (Expr.ofJson? n), label := ← fs.opt "alias" Alias.ofJson? }

/-- Reads `{distinct, columns}`. -/
def SelectClause.ofJson? : Nat → JsonValue → Option SelectClause
  | 0, _ => none
  | n + 1, j => do
    let fs ← j.fields? ["distinct", "columns"]
    return { distinct := ← fs.req "distinct" bool?, items := ← fs.req "columns" (list? (SelectItem.ofJson? n)) }

/-- Reads a table source, tagged `Table` or `SubQuery`. -/
def TableSource.ofJson? : Nat → JsonValue → Option TableSource
  | 0, _ => none
  | n + 1, j => do
    let (t, v) ← tagged? j
    match t with
    | "Table" => return .table (← TableName.ofJson? v)
    | "SubQuery" => return .subquery (← Query.subqueryOfJson? n v)
    | _ => none

/-- Reads `{source, alias?}`. -/
def FromItem.ofJson? : Nat → JsonValue → Option FromItem
  | 0, _ => none
  | n + 1, j => do
    let fs ← j.fields? ["source", "alias"]
    return { source := ← fs.req "source" (TableSource.ofJson? n), label := ← fs.opt "alias" Alias.ofJson? }

/-- Reads `{tables}`, a `FROM` clause. -/
def FromItem.clauseOfJson? : Nat → JsonValue → Option (List FromItem)
  | 0, _ => none
  | n + 1, j => do
    let fs ← j.fields? ["tables"]
    fs.req "tables" (list? (FromItem.ofJson? n))

/-- Reads `{outer, function, view_name, alias}`. -/
def LateralView.ofJson? : Nat → JsonValue → Option LateralView
  | 0, _ => none
  | n + 1, j => do
    let fs ← j.fields? ["outer", "function", "view_name", "alias"]
    return { outer := ← fs.req "outer" bool?, function := ← fs.req "function" (Call.ofJson? n),
             viewName := ← fs.req "view_name" str?, labels := ← fs.req "alias" MultiAlias.ofJson? }

/-- Reads a join rule, tagged `On` or `Using`. -/
def JoinRule.ofJson? : Nat → JsonValue → Option JoinRule
  | 0, _ => none
  | n + 1, j => do
    let (t, v) ← tagged? j
    match t with
    | "On" => return .on (← Expr.ofJson? n v)
    | "Using" => return .using (← Call.ofJson? n v)
    | _ => none

/-- Reads `{join_type, table, rule?}`. -/
def Join.ofJson? : Nat → JsonValue → Option Join
  | 0, _ => none
  | n + 1, j => do
    let fs ← j.fields? ["join_type", "table", "rule"]
    return { kind := ← fs.req "join_type" VariantNames.read?, table := ← fs.req "table" (FromItem.ofJson? n),
             rule := ← fs.opt "rule" (JoinRule.ofJson? n) }

/-- Reads `{columns, grouping_sets?, with_cube, with_rollup}`. -/
def GroupBy.ofJson? : Nat → JsonValue → Option GroupBy
  | 0, _ => none
  | n + 1, j => do
    let fs ← j.fields? ["columns", "grouping_sets", "with_cube", "with_rollup"]
    return { columns := ← fs.req "columns" (list? (Expr.ofJson? n)),
             groupingSets := ← fs.opt "grouping_sets" (Expr.setsOfJson? n),
             withCube := ← fs.req "with_cube" bool?, withRollup := ← fs.req "with_rollup" bool? }

/-- Reads a single `SELECT` with all its clauses. -/
def Select.ofJson? : Nat → JsonValue → Option Select
  | 0, _ => none
  | n + 1, j => do
    let fs ← j.fields? ["with_clause", "select_clause", "from_clause", "lateral_view_clauses",
        "join_clauses", "where_clause", "group_by_clause", "having_clause", "order_by_clause",
        "sort_by_clause", "distribute_by_clause", "cluster_by_clause", "limit_clause"]
    return { withTables := ← fs.opt "with_clause" (CommonTable.clauseOfJson? n),
             selectClause := ← fs.req "select_clause" (SelectClause.ofJson? n),
             fromTables := ← fs.opt "from_clause" (FromItem.clauseOfJson? n),
             lateralViews := ← fs.req "lateral_view_clauses" (list? (LateralView.ofJson? n)),
             joins := ← fs.req "join_clauses" (list? (Join.ofJson? n)),
             filter := ← fs.opt "where_clause" (Expr.conditionClauseOfJson? n),
             groupBy := ← fs.opt "group_by_clause" (GroupBy.ofJson? n),
             having := ← fs.opt "having_clause" (Expr.conditionClauseOfJson? n),
             orderBy := ← fs.opt "order_by_clause" (SortKey.clauseOfJson? n),
             sortBy := ← fs.opt "sort_by_clause" (SortKey.clauseOfJson? n),
             distributeBy := ← fs.opt "distribute_by_clause" (Expr.columnsOfJson? n),
             clusterBy := ← fs.opt "cluster_by_clause" (Expr.columnsOfJson? n),
             limit := ← fs.opt "limit_clause" Limit.ofJson? }

/-- Reads `{union_type, select}`. -/
def Branch.ofJson? : Nat → JsonValue → Option Branch
  | 0, _ => none
  | n + 1, j => do
    let fs ← j.fields? ["union_type", "select"]
    return { op := ← fs.req "union_type" VariantNames.read?, select := ← fs.req "select" (Select.ofJson? n) }

/-- Reads `{with_clause?, head, tail}`. -/
def Compound.ofJson? : Nat → JsonValue → Option Compound
  | 0, _ => none
  | n + 1, j => do
    let fs ← j.fields? ["with_clause", "head", "tail"]
    return { withTables := ← fs.opt "with_clause" (CommonTable.clauseOfJson? n),
             head := ← fs.req "head" (Select.ofJson? n), tail := ← fs.req "tail" (list? (Branch.ofJson? n)) }

end

end SqlSyntax
