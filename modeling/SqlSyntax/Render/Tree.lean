import SqlSyntax.Tree.Info
import SqlSyntax.Render.Element

/-!
# Writing expressions and queries

Every function here takes the render options `o` and a budget `b`: how many more expressions
or queries may still be entered.  Entering one costs a level; with no level left the render
fails before writing anything, naming the configured limit.  A writer at depth `k` under a
limit `m` has the budget `m - k`.  Everything else is fixed by the node, so the same node with
the same options and budget always writes the same emission.

Operands are checked against their operator's tier before they are written: a looser operand
would read back as a different tree, so the render fails there instead.

Optional parts are handled by the `emitOpt` helpers, which give `none` for an absent part, and
lists by the `emitEach` helpers, which render each item; the clause layout then comes from
the combinators in `Clause`, which know nothing of the tree.
-/

namespace SqlSyntax

namespace Clause

/-- Writes `FROM a, b`. -/
def fromList (tables : List Emission) : Emission := "FROM " ++ Emission.sepBy ", " tables

/-- Writes `WHERE condition`. -/
def whereCond (condition : Emission) : Emission := "WHERE " ++ condition

/-- Writes `HAVING condition`. -/
def havingCond (condition : Emission) : Emission := "HAVING " ++ condition

/-- Writes `ORDER BY k, l`. -/
def orderBy (keys : List Emission) : Emission := "ORDER BY " ++ Emission.sepBy ", " keys

/-- Writes `SORT BY k, l`. -/
def sortBy (keys : List Emission) : Emission := "SORT BY " ++ Emission.sepBy ", " keys

/-- Writes `DISTRIBUTE BY a, b`. -/
def distributeBy (columns : List Emission) : Emission :=
  "DISTRIBUTE BY " ++ Emission.sepBy ", " columns

/-- Writes `CLUSTER BY a, b`. -/
def clusterBy (columns : List Emission) : Emission := "CLUSTER BY " ++ Emission.sepBy ", " columns

/-- Writes `WITH x AS (...), ` and the further named queries one per line; nothing at all for no
named queries. -/
def withList : List Emission → Emission
  | [] => Emission.empty
  | e :: es => "WITH " ++ Emission.sepBy ", \n" (e :: es)

/-- A `WITH` clause ahead of a statement, followed by the separator; nothing for no named
queries. -/
def withPrefix (sep : String) : List Emission → Emission
  | [] => Emission.empty
  | e :: es => withList (e :: es) ++ sep

/-- Writes `GROUPING SETS (s, t)`. -/
def groupingSets (sets : List Emission) : Emission :=
  "GROUPING SETS (" ++ Emission.sepBy ", " sets ++ ")"

/-- One grouping set: a single column bare, any other number in parentheses. -/
def groupingSet : List Emission → Emission
  | [e] => e
  | es => "(" ++ Emission.sepBy ", " es ++ ")"

end Clause

/-- The keyword of a keyword condition, with its negation: `IS NOT`, `NOT LIKE`, `IN`. -/
def ConditionKeyword.phrase (k : ConditionKeyword) (negated : Bool) : String :=
  if negated then (if k == .is then "IS NOT" else "NOT " ++ k.spelling) else k.spelling

/-- Writes `AS name` after a blank, if there is an alias. -/
def Alias.emitAfter (a : Option Alias) : Emission := Emission.after " " (a.map Alias.emit)

mutual

/-- Writes an expression, entering one nesting level. -/
def Expr.emit (o : RenderOptions) : Nat → Expr → Emission
  | 0, _ => .fail (.tooDeep o.maxDepth)
  | _ + 1, .column c => c.emit o.dialect
  | _ + 1, .literal l => l.text
  | _ + 1, .wildcard table => (match table with | some t => t ++ "." | none => "") ++ "*"
  | b + 1, .call f => f.emit o b
  | b + 1, .window w => w.emit o b
  | b + 1, .searchedCase arms otherwise =>
      "CASE" ++ Emission.prefixEach " " (CaseArm.emitEach o b arms) ++
        Emission.after " ELSE " (Expr.emitOpt o b otherwise) ++ " END"
  | b + 1, .simpleCase subject arms otherwise =>
      "CASE " ++ subject.emit o b ++ Emission.prefixEach "\n    " (CaseArm.emitEach o b arms) ++
        Emission.after "\n    ELSE " (Expr.emitOpt o b otherwise) ++ "\nEND"
  | b + 1, .subquery q => "(" ++ q.emit o b ++ ")"
  | b + 1, .tuple items => "(" ++ Emission.sepBy ", " (Expr.emitEach o b items) ++ ")"
  | b + 1, .subscript array index =>
      if o.dialect.traits.subscripts then array.emit o b ++ "[" ++ index.emit o b ++ "]"
      else .fail (.unsupportedFeature "array subscript" o.dialect)
  | b + 1, .unary op e =>
      Emission.keyword o.dialect op ++ Emission.operand .unary e.tier (e.emit o b)
  | b + 1, .compute l op r =>
      Emission.operand .compute l.tier (l.emit o b) ++ " " ++ Emission.keyword o.dialect op ++
        " " ++ Emission.operand .compute r.tier (r.emit o b)
  | b + 1, .condition k negated l r =>
      Emission.operand .condition l.tier (l.emit o b) ++ " " ++ k.phrase negated ++ " " ++
        Emission.operand .condition r.tier (r.emit o b)
  | b + 1, .between negated v low high =>
      Emission.operand .condition v.tier (v.emit o b) ++
        (if negated then " NOT BETWEEN " else " BETWEEN ") ++
        Emission.operand .condition low.tier (low.emit o b) ++ " AND " ++
        Emission.operand .condition high.tier (high.emit o b)
  | b + 1, .exists negated e =>
      (if negated then "NOT EXISTS " else "EXISTS ") ++
        Emission.operand .condition e.tier (e.emit o b)
  | b + 1, .compare l op r =>
      Emission.operand .comparison l.tier (l.emit o b) ++ " " ++ Emission.keyword o.dialect op ++
        " " ++ Emission.operand .comparison r.tier (r.emit o b)
  | b + 1, .not e =>
      Emission.keyword o.dialect LogicalOp.not ++ " " ++
        Emission.operand .logicalNot e.tier (e.emit o b)
  | b + 1, .and l r =>
      Emission.operand .logicalAnd l.tier (l.emit o b) ++ " " ++
        Emission.keyword o.dialect LogicalOp.and ++ " " ++
        Emission.operand .logicalAnd r.tier (r.emit o b)
  | b + 1, .xor l r =>
      Emission.operand .logicalXor l.tier (l.emit o b) ++ " " ++
        Emission.keyword o.dialect LogicalOp.xor ++ " " ++
        Emission.operand .logicalXor r.tier (r.emit o b)
  | b + 1, .or l r =>
      Emission.operand .logicalOr l.tier (l.emit o b) ++ " " ++
        Emission.keyword o.dialect LogicalOp.or ++ " " ++
        Emission.operand .logicalOr r.tier (r.emit o b)

/-- Writes each expression of a list. -/
def Expr.emitEach (o : RenderOptions) (b : Nat) : List Expr → List Emission
  | [] => []
  | e :: es => e.emit o b :: Expr.emitEach o b es

/-- Writes an optional expression. -/
def Expr.emitOpt (o : RenderOptions) (b : Nat) : Option Expr → Option Emission
  | none => none
  | some e => some (e.emit o b)

/-- Writes each expression of an optional list. -/
def Expr.emitOptEach (o : RenderOptions) (b : Nat) : Option (List Expr) → Option (List Emission)
  | none => none
  | some es => some (Expr.emitEach o b es)

/-- Writes each grouping set. -/
def Expr.emitSets (o : RenderOptions) (b : Nat) : List (List Expr) → List Emission
  | [] => []
  | s :: ss => Clause.groupingSet (Expr.emitEach o b s) :: Expr.emitSets o b ss

/-- Writes optional grouping sets. -/
def Expr.emitOptSets (o : RenderOptions) (b : Nat) : Option (List (List Expr)) → Option Emission
  | none => none
  | some ss => some (Clause.groupingSets (Expr.emitSets o b ss))

/-- Writes a function call. -/
def Call.emit (o : RenderOptions) (b : Nat) : Call → Emission
  | .normal name args => name.emit ++ "(" ++ Emission.sepBy ", " (Expr.emitEach o b args) ++ ")"
  | .aggregate name args distinct =>
      name.emit ++ "(" ++ Emission.when distinct "DISTINCT " ++
        Emission.sepBy ", " (Expr.emitEach o b args) ++ ")"
  | .cast e target => "CAST(" ++ e.emit o b ++ " AS " ++ target.emit o.dialect ++ ")"
  | .extract unit e => "EXTRACT(" ++ unit.emit o b ++ " FROM " ++ e.emit o b ++ ")"

/-- Writes `f OVER (PARTITION BY ... ORDER BY ... frame)`, the present parts apart by
blanks. -/
def WindowCall.emit (o : RenderOptions) (b : Nat) : WindowCall → Emission
  | { function, partitionBy, orderBy, frame } =>
      function.emit o b ++ " OVER (" ++
        Emission.sepBy " "
          ((if partitionBy.isEmpty then []
            else ["PARTITION BY " ++ Emission.sepBy ", " (Expr.emitEach o b partitionBy)]) ++
           (if orderBy.isEmpty then [] else [Clause.orderBy (SortKey.emitEach o b orderBy)]) ++
           (frame.map (Frame.emit o.dialect)).toList) ++ ")"

/-- Writes `WHEN test THEN result`. -/
def CaseArm.emit (o : RenderOptions) (b : Nat) : CaseArm → Emission
  | { test, result } => "WHEN " ++ test.emit o b ++ " THEN " ++ result.emit o b

/-- Writes each arm of a `CASE`. -/
def CaseArm.emitEach (o : RenderOptions) (b : Nat) : List CaseArm → List Emission
  | [] => []
  | a :: as => a.emit o b :: CaseArm.emitEach o b as

/-- Writes a sort key: `DESC` when descending, then the null placements asked for; `ASC` is
never written. -/
def SortKey.emit (o : RenderOptions) (b : Nat) : SortKey → Emission
  | { key, order, nullsFirst, nullsLast } =>
      key.emit o b ++ Emission.when (order == .desc) (" " ++ Emission.keyword o.dialect order) ++
        Emission.when nullsFirst " NULLS FIRST" ++ Emission.when nullsLast " NULLS LAST"

/-- Writes each sort key of a list. -/
def SortKey.emitEach (o : RenderOptions) (b : Nat) : List SortKey → List Emission
  | [] => []
  | k :: ks => k.emit o b :: SortKey.emitEach o b ks

/-- Writes each sort key of an optional list. -/
def SortKey.emitOptEach (o : RenderOptions) (b : Nat) :
    Option (List SortKey) → Option (List Emission)
  | none => none
  | some ks => some (SortKey.emitEach o b ks)

/-- Writes a query, entering one nesting level. -/
def Query.emit (o : RenderOptions) : Nat → Query → Emission
  | 0, _ => .fail (.tooDeep o.maxDepth)
  | b + 1, .single s => s.emit o b
  | b + 1, .compound c => c.emit o b

/-- Writes `name AS (query)`. -/
def CommonTable.emit (o : RenderOptions) (b : Nat) : CommonTable → Emission
  | { name, query } => name ++ " AS (" ++ query.emit o b ++ ")"

/-- Writes each named query of a list. -/
def CommonTable.emitEach (o : RenderOptions) (b : Nat) : List CommonTable → List Emission
  | [] => []
  | t :: ts => t.emit o b :: CommonTable.emitEach o b ts

/-- Writes each named query of an optional `WITH` clause; none for an absent clause. -/
def CommonTable.emitOptEach (o : RenderOptions) (b : Nat) : Option (List CommonTable) → List Emission
  | none => []
  | some ts => CommonTable.emitEach o b ts

/-- Writes `value [AS alias]`. -/
def SelectItem.emit (o : RenderOptions) (b : Nat) : SelectItem → Emission
  | { value, label } => value.emit o b ++ Alias.emitAfter label

/-- Writes each item of a `SELECT` list. -/
def SelectItem.emitEach (o : RenderOptions) (b : Nat) : List SelectItem → List Emission
  | [] => []
  | i :: is => i.emit o b :: SelectItem.emitEach o b is

/-- Writes `SELECT [DISTINCT ]a, b`. -/
def SelectClause.emit (o : RenderOptions) (b : Nat) : SelectClause → Emission
  | { distinct, items } =>
      (if distinct then "SELECT DISTINCT " else "SELECT ") ++
        Emission.sepBy ", " (SelectItem.emitEach o b items)

/-- Writes a table, or a subquery in parentheses. -/
def TableSource.emit (o : RenderOptions) (b : Nat) : TableSource → Emission
  | .table t => t.emit
  | .subquery q => "(" ++ q.emit o b ++ ")"

/-- Writes `source [AS alias]`. -/
def FromItem.emit (o : RenderOptions) (b : Nat) : FromItem → Emission
  | { source, label } => source.emit o b ++ Alias.emitAfter label

/-- Writes each item of a `FROM` list. -/
def FromItem.emitEach (o : RenderOptions) (b : Nat) : List FromItem → List Emission
  | [] => []
  | i :: is => i.emit o b :: FromItem.emitEach o b is

/-- Writes each item of an optional `FROM` list. -/
def FromItem.emitOptEach (o : RenderOptions) (b : Nat) :
    Option (List FromItem) → Option (List Emission)
  | none => none
  | some is => some (FromItem.emitEach o b is)

/-- Writes `LATERAL VIEW [OUTER ]f name AS a, b`. -/
def LateralView.emit (o : RenderOptions) (b : Nat) : LateralView → Emission
  | { outer, function, viewName, labels } =>
      (if outer then "LATERAL VIEW OUTER " else "LATERAL VIEW ") ++ function.emit o b ++ " " ++
        viewName ++ " " ++ labels.emit

/-- Writes each lateral view of a list. -/
def LateralView.emitEach (o : RenderOptions) (b : Nat) : List LateralView → List Emission
  | [] => []
  | v :: vs => v.emit o b :: LateralView.emitEach o b vs

/-- Writes `ON condition`, or the `USING` call. -/
def JoinRule.emit (o : RenderOptions) (b : Nat) : JoinRule → Emission
  | .on condition => "ON " ++ condition.emit o b
  | .using f => f.emit o b

/-- Writes an optional join rule. -/
def JoinRule.emitOpt (o : RenderOptions) (b : Nat) : Option JoinRule → Option Emission
  | none => none
  | some r => some (r.emit o b)

/-- Writes `KIND JOIN table [rule]`. -/
def Join.emit (o : RenderOptions) (b : Nat) : Join → Emission
  | { kind, table, rule } =>
      Emission.keyword o.dialect kind ++ " " ++ table.emit o b ++
        Emission.after " " (JoinRule.emitOpt o b rule)

/-- Writes each join of a list. -/
def Join.emitEach (o : RenderOptions) (b : Nat) : List Join → List Emission
  | [] => []
  | j :: js => j.emit o b :: Join.emitEach o b js

/-- Writes `GROUP BY a, b GROUPING SETS (...) WITH CUBE WITH ROLLUP`, each part only when
present. -/
def GroupBy.emit (o : RenderOptions) (b : Nat) : GroupBy → Emission
  | { columns, groupingSets, withCube, withRollup } =>
      "GROUP BY" ++
        Emission.when (!columns.isEmpty) (" " ++ Emission.sepBy ", " (Expr.emitEach o b columns)) ++
        Emission.after " " (Expr.emitOptSets o b groupingSets) ++
        Emission.when withCube " WITH CUBE" ++ Emission.when withRollup " WITH ROLLUP"

/-- Writes an optional `GROUP BY` clause. -/
def GroupBy.emitOpt (o : RenderOptions) (b : Nat) : Option GroupBy → Option Emission
  | none => none
  | some g => some (g.emit o b)

/-- Writes a single `SELECT`, one clause per line; the distribution clauses only in dialects
that have them. -/
def Select.emit (o : RenderOptions) (b : Nat) : Select → Emission
  | { withTables, selectClause, fromTables, lateralViews, joins, filter, groupBy, having,
      orderBy, sortBy, distributeBy, clusterBy, limit } =>
      Clause.withPrefix "\n" (CommonTable.emitOptEach o b withTables) ++
        selectClause.emit o b ++
        Emission.after "\n" ((FromItem.emitOptEach o b fromTables).map Clause.fromList) ++
        Emission.prefixEach "\n" (LateralView.emitEach o b lateralViews) ++
        Emission.prefixEach "\n" (Join.emitEach o b joins) ++
        Emission.after "\n" ((Expr.emitOpt o b filter).map Clause.whereCond) ++
        Emission.after "\n" (GroupBy.emitOpt o b groupBy) ++
        Emission.after "\n" ((Expr.emitOpt o b having).map Clause.havingCond) ++
        Emission.after "\n" ((SortKey.emitOptEach o b orderBy).map Clause.orderBy) ++
        Emission.when o.dialect.traits.distribution
          (Emission.after "\n" ((SortKey.emitOptEach o b sortBy).map Clause.sortBy) ++
            Emission.after "\n" ((Expr.emitOptEach o b distributeBy).map Clause.distributeBy) ++
            Emission.after "\n" ((Expr.emitOptEach o b clusterBy).map Clause.clusterBy)) ++
        Emission.after "\n" (limit.map Limit.emit)

/-- Writes a branch of a compound query: the set operator and the `SELECT`, each on a line of
its own. -/
def Branch.emit (o : RenderOptions) (b : Nat) : Branch → Emission
  | { op, select } => "\n" ++ Emission.keyword o.dialect op ++ "\n" ++ select.emit o b

/-- Writes each branch of a compound query. -/
def Branch.emitEach (o : RenderOptions) (b : Nat) : List Branch → List Emission
  | [] => []
  | r :: rs => r.emit o b :: Branch.emitEach o b rs

/-- Writes a compound query: its `WITH` clause, the first `SELECT` and every branch. -/
def Compound.emit (o : RenderOptions) (b : Nat) : Compound → Emission
  | { withTables, head, tail } =>
      Clause.withPrefix "\n" (CommonTable.emitOptEach o b withTables) ++ head.emit o b ++
        Emission.concat (Branch.emitEach o b tail)

end

/-- Writes an expression node standing on its own, such as a bare comparison or literal: its
text is that of the expression, but standing outside any expression it enters no level. -/
def Expr.emitBody (o : RenderOptions) (b : Nat) (e : Expr) : Emission := e.emit o (b + 1)

/-- Writes `(query)`, a subquery standing on its own; the query enters one level. -/
def Query.emitParens (o : RenderOptions) (b : Nat) (q : Query) : Emission :=
  "(" ++ q.emit o b ++ ")"

/-- An expression's text with the full budget of the options, or the first fault. -/
def Expr.render (o : RenderOptions) (e : Expr) : Except SqlError String :=
  (e.emit o o.maxDepth).result

theorem Expr.emitBody_eq (o : RenderOptions) (b : Nat) (e : Expr) :
    e.emitBody o b = e.emit o (b + 1) := rfl

end SqlSyntax
