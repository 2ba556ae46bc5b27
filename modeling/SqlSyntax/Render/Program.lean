import SqlSyntax.Render.Node
import SqlSyntax.Writer

/-!
# Renderers as writer calls

Every renderer written as the calls it makes on a writer, in the order it makes them: the text
it appends, the keywords it writes, the child nodes it renders (alone, as the items of a
separated list, or as an operand once its tier is checked), the faults it stops at, and, for
an expression or a query, the level it enters before anything else.  The steps are built for a
dialect, which fixes the layouts and the parts that depend on it; a keyword step still asks the
writer's own dialect, and an indent step reads the writer's own width.

An expression's steps come in two layers, as its renderer does: `Expr.body` is what runs inside
the level, and the expression as a child is the body run one level deeper, `[.nested body]`.
The same holds for queries.  A node that stands on its own as an expression form (`Node.bare`)
runs the body alone.

Rendering a node into a writer runs its steps there (`Writer.renderNode`).  That every node's
steps write the node's emission, wherever they run, is proved in `SqlSyntax.Proofs.Program`.
-/

namespace SqlSyntax

namespace Step

/-- An operand under an operator of tier `operator`: rendered as a child node when its tier
`operand` binds tightly enough, else the precedence fault, before anything is written. -/
def operand (operator operand : Tier) (body : List Step) : List Step :=
  if operand ≤ operator then [.node body] else [.fail (.looseOperand operand operator)]

/-- A child node after the prefix, when there is one. -/
def after (pre : String) : Option (List Step) → List Step
  | none => []
  | some p => [.pushStr pre, .node p]

/-- Each child node after the prefix, in order. -/
def prefixEach (pre : String) : List (List Step) → List Step
  | [] => []
  | p :: ps => .pushStr pre :: .node p :: prefixEach pre ps

/-- A text after the prefix, when there is one. -/
def afterText (pre : String) : Option String → List Step
  | none => []
  | some s => [.pushStr pre, .pushStr s]

/-- The steps when the flag is set, else none. -/
def when (b : Bool) (p : List Step) : List Step := if b then p else []

end Step

namespace Clause

/-- `FROM a, b`. -/
def fromListSteps (tables : List (List Step)) : List Step := [.pushStr "FROM ", .list tables ", "]

/-- `WHERE condition`. -/
def whereSteps (condition : List Step) : List Step := [.pushStr "WHERE ", .node condition]

/-- `HAVING condition`. -/
def havingSteps (condition : List Step) : List Step := [.pushStr "HAVING ", .node condition]

/-- `ORDER BY k, l`. -/
def orderBySteps (keys : List (List Step)) : List Step := [.pushStr "ORDER BY ", .list keys ", "]

/-- `SORT BY k, l`. -/
def sortBySteps (keys : List (List Step)) : List Step := [.pushStr "SORT BY ", .list keys ", "]

/-- `DISTRIBUTE BY a, b`. -/
def distributeBySteps (columns : List (List Step)) : List Step :=
  [.pushStr "DISTRIBUTE BY ", .list columns ", "]

/-- `CLUSTER BY a, b`. -/
def clusterBySteps (columns : List (List Step)) : List Step :=
  [.pushStr "CLUSTER BY ", .list columns ", "]

/-- `WITH x AS (...), ` and the further named queries one per line; nothing for no named
queries. -/
def withListSteps : List (List Step) → List Step
  | [] => []
  | t :: ts => [.pushStr "WITH ", .list (t :: ts) ", \n"]

/-- A `WITH` clause rendered as a child node and followed by the separator; nothing for no
named queries. -/
def withPrefixSteps (sep : String) : List (List Step) → List Step
  | [] => []
  | t :: ts => [.node (withListSteps (t :: ts)), .pushStr sep]

/-- `GROUPING SETS (s, t)`. -/
def groupingSetsSteps (sets : List (List Step)) : List Step :=
  [.pushStr "GROUPING SETS (", .list sets ", ", .pushStr ")"]

/-- One grouping set: a single column as a list of one, any other number in parentheses. -/
def groupingSetSteps : List (List Step) → List Step
  | [p] => [.list [p] ", "]
  | ps => [.pushStr "(", .list ps ", ", .pushStr ")"]

/-- `PARTITION (a, b)`. -/
def partitionSteps (items : List (List Step)) : List Step :=
  [.pushStr "PARTITION (", .list items ", ", .pushStr ")"]

/-- `(a, b)`. -/
def rowSteps (items : List (List Step)) : List Step := [.pushStr "(", .list items ", ", .pushStr ")"]

end Clause

/-! ## Names and small elements -/

/-- Writes `` `schema.table` ``. -/
def TableName.program (t : TableName) : List Step :=
  [.pushStr (quoted ((match t.schema with | some s => s ++ "." | none => "") ++ t.table))]

/-- Writes ``[`schema`.]name``. -/
def FunctionName.program (f : FunctionName) : List Step :=
  (match f.schema with | some s => [.pushStr (quoted s), .pushStr "."] | none => []) ++
    [.pushStr f.name]

/-- Writes ``[`table`.]`column` ``, or the pseudo-column as the dialect spells it. -/
def ColumnName.program (d : Dialect) (c : ColumnName) : List Step :=
  (match c.table with | some t => [.pushStr (quoted t), .pushStr "."] | none => []) ++
    [.pushStr (if c.isPseudo then ColumnName.pseudoSpelling d c.column else quoted c.column)]

/-- Writes `AS name`. -/
def Alias.program (a : Alias) : List Step := [.pushStr "AS ", .pushStr a.name]

/-- Writes `AS a, b, c`. -/
def MultiAlias.program (a : MultiAlias) : List Step :=
  [.pushStr "AS ", .pushStr (", ".intercalate a.names)]

/-- Writes `name=value`. -/
def ConfigString.program (c : ConfigString) : List Step :=
  [.pushStr c.name, .pushStr "=", .pushStr c.value]

/-- Writes `[SIGNED ]TYPE[ (p, q)]`, the type a keyword of the writer's dialect. -/
def CastType.program (t : CastType) : List Step :=
  Step.when t.signed [.pushStr "SIGNED "] ++ [.keywordOf t.dataType] ++
    Step.after " "
      (t.params.map fun ps => [.pushStr "(", .pushStr (", ".intercalate (ps.map toString)),
        .pushStr ")"])

/-- Writes the distance of a frame bound, then its direction keyword. -/
def FrameBound.program (b : FrameBound) : List Step :=
  let distance : String :=
    match b with
    | .unboundedPreceding | .unboundedFollowing => "UNBOUNDED "
    | .preceding n | .following n => toString n ++ " "
    | .currentRow => ""
  [.pushStr distance, .keywordOf b.direction]

/-- Writes `ROWS BETWEEN start AND finish`. -/
def Frame.program (f : Frame) : List Step :=
  [.pushStr "ROWS BETWEEN ", .node f.start.program, .pushStr " AND ", .node f.finish.program]

/-- Writes `LIMIT offset, count`. -/
def Limit.program (l : Limit) : List Step :=
  [.pushStr "LIMIT ", .pushStr (toString (l.offset.getD 0)), .pushStr ", ",
    .pushStr (toString l.count)]

/-! ## Expressions and queries -/

mutual

/-- What an expression writes inside the level it enters: the form's own node for most forms,
the operator and its operands directly for `NOT`, `AND`, `XOR` and `OR`. -/
def Expr.body (d : Dialect) : Expr → List Step
  | .column c => [.node (c.program d)]
  | .literal l => [.node [.pushStr l.text]]
  | .wildcard table =>
      [.node ((match table with | some t => [.pushStr (t ++ ".")] | none => []) ++ [.pushStr "*"])]
  | .call f => [.node (f.program d)]
  | .window w => [.node (w.program d)]
  | .searchedCase arms otherwise =>
      [.node ([.pushStr "CASE"] ++ Step.prefixEach " " (CaseArm.programEach d arms) ++
        Step.after " ELSE " (Expr.programOpt d otherwise) ++ [.pushStr " END"])]
  | .simpleCase subject arms otherwise =>
      [.node ([.pushStr "CASE ", .node [.nested (subject.body d)]] ++
        Step.prefixEach "\n    " (CaseArm.programEach d arms) ++
        Step.after "\n    ELSE " (Expr.programOpt d otherwise) ++ [.pushStr "\nEND"])]
  | .subquery q => [.node [.pushStr "(", .node [.nested (q.body d)], .pushStr ")"]]
  | .tuple items => [.node (Clause.rowSteps (Expr.programEach d items))]
  | .subscript array index =>
      -- the dialect is asked before anything of the subscript is written
      [.node (if d.traits.subscripts then
          [.node [.nested (array.body d)], .pushStr "[", .node [.nested (index.body d)], .pushStr "]"]
        else [.fail (.unsupportedFeature "array subscript" d)])]
  | .unary op e => [.node (Step.keywordOf op :: Step.operand .unary e.tier [.nested (e.body d)])]
  | .compute l op r =>
      [.node (Step.operand .compute l.tier [.nested (l.body d)] ++
        [.pushStr " ", .keywordOf op, .pushStr " "] ++
        Step.operand .compute r.tier [.nested (r.body d)])]
  | .condition k negated l r =>
      [.node (Step.operand .condition l.tier [.nested (l.body d)] ++
        [.pushStr " ", .pushStr (k.phrase negated), .pushStr " "] ++
        Step.operand .condition r.tier [.nested (r.body d)])]
  | .between negated v low high =>
      [.node (Step.operand .condition v.tier [.nested (v.body d)] ++
        [.pushStr (if negated then " NOT BETWEEN " else " BETWEEN ")] ++
        Step.operand .condition low.tier [.nested (low.body d)] ++ [.pushStr " AND "] ++
        Step.operand .condition high.tier [.nested (high.body d)])]
  | .exists negated e =>
      [.node (.pushStr (if negated then "NOT EXISTS " else "EXISTS ") ::
        Step.operand .condition e.tier [.nested (e.body d)])]
  | .compare l op r =>
      [.node (Step.operand .comparison l.tier [.nested (l.body d)] ++
        [.pushStr " ", .keywordOf op, .pushStr " "] ++
        Step.operand .comparison r.tier [.nested (r.body d)])]
  | .not e =>
      [.keywordOf LogicalOp.not, .pushStr " "] ++ Step.operand .logicalNot e.tier [.nested (e.body d)]
  | .and l r =>
      Step.operand .logicalAnd l.tier [.nested (l.body d)] ++
        [.pushStr " ", .keywordOf LogicalOp.and, .pushStr " "] ++
        Step.operand .logicalAnd r.tier [.nested (r.body d)]
  | .xor l r =>
      Step.operand .logicalXor l.tier [.nested (l.body d)] ++
        [.pushStr " ", .keywordOf LogicalOp.xor, .pushStr " "] ++
        Step.operand .logicalXor r.tier [.nested (r.body d)]
  | .or l r =>
      Step.operand .logicalOr l.tier [.nested (l.body d)] ++
        [.pushStr " ", .keywordOf LogicalOp.or, .pushStr " "] ++
        Step.operand .logicalOr r.tier [.nested (r.body d)]

/-- Each expression of a list, entering its level. -/
def Expr.programEach (d : Dialect) : List Expr → List (List Step)
  | [] => []
  | e :: es => [.nested (e.body d)] :: Expr.programEach d es

/-- An optional expression, entering its level. -/
def Expr.programOpt (d : Dialect) : Option Expr → Option (List Step)
  | none => none
  | some e => some [.nested (e.body d)]

/-- Each expression of an optional list. -/
def Expr.programOptEach (d : Dialect) : Option (List Expr) → Option (List (List Step))
  | none => none
  | some es => some (Expr.programEach d es)

/-- Each grouping set. -/
def Expr.programSets (d : Dialect) : List (List Expr) → List (List Step)
  | [] => []
  | s :: ss => Clause.groupingSetSteps (Expr.programEach d s) :: Expr.programSets d ss

/-- Optional grouping sets. -/
def Expr.programOptSets (d : Dialect) : Option (List (List Expr)) → Option (List Step)
  | none => none
  | some ss => some (Clause.groupingSetsSteps (Expr.programSets d ss))

/-- A function call: the name, then the arguments as a list. -/
def Call.program (d : Dialect) : Call → List Step
  | .normal name args =>
      [.node name.program, .pushStr "(", .list (Expr.programEach d args) ", ", .pushStr ")"]
  | .aggregate name args distinct =>
      [.node name.program, .pushStr "("] ++ Step.when distinct [.pushStr "DISTINCT "] ++
        [.list (Expr.programEach d args) ", ", .pushStr ")"]
  | .cast e target =>
      [.pushStr "CAST(", .node [.nested (e.body d)], .pushStr " AS ", .node target.program,
        .pushStr ")"]
  | .extract unit e =>
      [.pushStr "EXTRACT(", .node [.nested (unit.body d)], .pushStr " FROM ",
        .node [.nested (e.body d)], .pushStr ")"]

/-- `f OVER (...)`: the present parts of the window, a blank between each two. -/
def WindowCall.program (d : Dialect) : WindowCall → List Step
  | { function, partitionBy, orderBy, frame } =>
      [.node [.nested (function.body d)], .pushStr " OVER (",
        .list ((if partitionBy.isEmpty then []
            else [[.pushStr "PARTITION BY ", .list (Expr.programEach d partitionBy) ", "]]) ++
          (if orderBy.isEmpty then [] else [Clause.orderBySteps (SortKey.programEach d orderBy)]) ++
          (frame.map fun f => [.node f.program]).toList) " ",
        .pushStr ")"]

/-- `WHEN test THEN result`. -/
def CaseArm.program (d : Dialect) : CaseArm → List Step
  | { test, result } =>
      [.pushStr "WHEN ", .node [.nested (test.body d)], .pushStr " THEN ",
        .node [.nested (result.body d)]]

/-- Each arm of a `CASE`. -/
def CaseArm.programEach (d : Dialect) : List CaseArm → List (List Step)
  | [] => []
  | a :: as => a.program d :: CaseArm.programEach d as

/-- A sort key, `DESC` and the null placements after it. -/
def SortKey.program (d : Dialect) : SortKey → List Step
  | { key, order, nullsFirst, nullsLast } =>
      [.node [.nested (key.body d)]] ++ Step.when (order == .desc) [.pushStr " ", .keywordOf order] ++
        Step.when nullsFirst [.pushStr " NULLS FIRST"] ++ Step.when nullsLast [.pushStr " NULLS LAST"]

/-- Each sort key of a list. -/
def SortKey.programEach (d : Dialect) : List SortKey → List (List Step)
  | [] => []
  | k :: ks => k.program d :: SortKey.programEach d ks

/-- Each sort key of an optional list. -/
def SortKey.programOptEach (d : Dialect) : Option (List SortKey) → Option (List (List Step))
  | none => none
  | some ks => some (SortKey.programEach d ks)

/-- What a query writes inside the level it enters: its single or compound form as a node. -/
def Query.body (d : Dialect) : Query → List Step
  | .single s => [.node (s.program d)]
  | .compound c => [.node (c.program d)]

/-- `name AS (query)`. -/
def CommonTable.program (d : Dialect) : CommonTable → List Step
  | { name, query } => [.pushStr name, .pushStr " AS (", .node [.nested (query.body d)], .pushStr ")"]

/-- Each named query of a list. -/
def CommonTable.programEach (d : Dialect) : List CommonTable → List (List Step)
  | [] => []
  | t :: ts => t.program d :: CommonTable.programEach d ts

/-- Each named query of an optional `WITH` clause; none for an absent clause. -/
def CommonTable.programOptEach (d : Dialect) : Option (List CommonTable) → List (List Step)
  | none => []
  | some ts => CommonTable.programEach d ts

/-- `value [AS alias]`. -/
def SelectItem.program (d : Dialect) : SelectItem → List Step
  | { value, label } => [.node [.nested (value.body d)]] ++ Step.after " " (label.map Alias.program)

/-- Each item of a `SELECT` list. -/
def SelectItem.programEach (d : Dialect) : List SelectItem → List (List Step)
  | [] => []
  | i :: is => i.program d :: SelectItem.programEach d is

/-- `SELECT [DISTINCT ]a, b`. -/
def SelectClause.program (d : Dialect) : SelectClause → List Step
  | { distinct, items } =>
      [.pushStr (if distinct then "SELECT DISTINCT " else "SELECT "),
        .list (SelectItem.programEach d items) ", "]

/-- A table, or a subquery in parentheses. -/
def TableSource.program (d : Dialect) : TableSource → List Step
  | .table t => [.node t.program]
  | .subquery q => [.node [.pushStr "(", .node [.nested (q.body d)], .pushStr ")"]]

/-- `source [AS alias]`. -/
def FromItem.program (d : Dialect) : FromItem → List Step
  | { source, label } => [.node (source.program d)] ++ Step.after " " (label.map Alias.program)

/-- Each item of a `FROM` list. -/
def FromItem.programEach (d : Dialect) : List FromItem → List (List Step)
  | [] => []
  | i :: is => i.program d :: FromItem.programEach d is

/-- Each item of an optional `FROM` list. -/
def FromItem.programOptEach (d : Dialect) : Option (List FromItem) → Option (List (List Step))
  | none => none
  | some is => some (FromItem.programEach d is)

/-- `LATERAL VIEW [OUTER ]f name AS a, b`. -/
def LateralView.program (d : Dialect) : LateralView → List Step
  | { outer, function, viewName, labels } =>
      [.pushStr (if outer then "LATERAL VIEW OUTER " else "LATERAL VIEW "),
        .node (function.program d), .pushStr " ", .pushStr viewName, .pushStr " ",
        .node labels.program]

/-- Each lateral view of a list. -/
def LateralView.programEach (d : Dialect) : List LateralView → List (List Step)
  | [] => []
  | v :: vs => v.program d :: LateralView.programEach d vs

/-- `ON condition`, or the `USING` call. -/
def JoinRule.program (d : Dialect) : JoinRule → List Step
  | .on condition => [.pushStr "ON ", .node [.nested (condition.body d)]]
  | .using f => [.node (f.program d)]

/-- An optional join rule. -/
def JoinRule.programOpt (d : Dialect) : Option JoinRule → Option (List Step)
  | none => none
  | some r => some (r.program d)

/-- `KIND JOIN table [rule]`. -/
def Join.program (d : Dialect) : Join → List Step
  | { kind, table, rule } =>
      [.keywordOf kind, .pushStr " ", .node (table.program d)] ++
        Step.after " " (JoinRule.programOpt d rule)

/-- Each join of a list. -/
def Join.programEach (d : Dialect) : List Join → List (List Step)
  | [] => []
  | j :: js => j.program d :: Join.programEach d js

/-- `GROUP BY a, b GROUPING SETS (...) WITH CUBE WITH ROLLUP`, each part only when present. -/
def GroupBy.program (d : Dialect) : GroupBy → List Step
  | { columns, groupingSets, withCube, withRollup } =>
      [.pushStr "GROUP BY"] ++
        Step.when (!columns.isEmpty) [.pushStr " ", .list (Expr.programEach d columns) ", "] ++
        Step.after " " (Expr.programOptSets d groupingSets) ++
        Step.when withCube [.pushStr " WITH CUBE"] ++ Step.when withRollup [.pushStr " WITH ROLLUP"]

/-- An optional `GROUP BY` clause. -/
def GroupBy.programOpt (d : Dialect) : Option GroupBy → Option (List Step)
  | none => none
  | some g => some (g.program d)

/-- A single `SELECT`, each present clause on a line of its own; the distribution clauses only
in dialects that have them. -/
def Select.program (d : Dialect) : Select → List Step
  | { withTables, selectClause, fromTables, lateralViews, joins, filter, groupBy, having,
      orderBy, sortBy, distributeBy, clusterBy, limit } =>
      Clause.withPrefixSteps "\n" (CommonTable.programOptEach d withTables) ++
        [.node (selectClause.program d)] ++
        Step.after "\n" ((FromItem.programOptEach d fromTables).map Clause.fromListSteps) ++
        Step.prefixEach "\n" (LateralView.programEach d lateralViews) ++
        Step.prefixEach "\n" (Join.programEach d joins) ++
        Step.after "\n" ((Expr.programOpt d filter).map Clause.whereSteps) ++
        Step.after "\n" (GroupBy.programOpt d groupBy) ++
        Step.after "\n" ((Expr.programOpt d having).map Clause.havingSteps) ++
        Step.after "\n" ((SortKey.programOptEach d orderBy).map Clause.orderBySteps) ++
        Step.when d.traits.distribution
          (Step.after "\n" ((SortKey.programOptEach d sortBy).map Clause.sortBySteps) ++
            Step.after "\n" ((Expr.programOptEach d distributeBy).map Clause.distributeBySteps) ++
            Step.after "\n" ((Expr.programOptEach d clusterBy).map Clause.clusterBySteps)) ++
        Step.after "\n" (limit.map Limit.program)

/-- The steps of a branch of a compound query: the set operator and the `SELECT`, each on a
line of its own, written in the compound query's own node. -/
def Branch.program (d : Dialect) : Branch → List Step
  | { op, select } => [.pushStr "\n", .keywordOf op, .pushStr "\n", .node (select.program d)]

/-- Each branch of a compound query. -/
def Branch.programEach (d : Dialect) : List Branch → List (List Step)
  | [] => []
  | r :: rs => r.program d :: Branch.programEach d rs

/-- A compound query: its `WITH` clause, the first `SELECT`, then every branch. -/
def Compound.program (d : Dialect) : Compound → List Step
  | { withTables, head, tail } =>
      Clause.withPrefixSteps "\n" (CommonTable.programOptEach d withTables) ++
        [.node (head.program d)] ++ (Branch.programEach d tail).flatten

end

/-- An expression as a child: its body, one level deeper. -/
def Expr.program (d : Dialect) (e : Expr) : List Step := [.nested (e.body d)]

/-- A query as a child: its body, one level deeper. -/
def Query.program (d : Dialect) (q : Query) : List Step := [.nested (q.body d)]

/-! ## Statements and table definitions -/

/-- A column type, its parameters left out where the dialect drops them. -/
def ColumnType.program (d : Dialect) (t : ColumnType) : List Step :=
  [.pushStr t.name] ++
    match t.params with
    | none => []
    | some ps =>
      if d.traits.narrowTypeParams && !t.keepsParams then []
      else [.pushStr "(", .list (Expr.programEach d ps) ",", .pushStr ")"]

/-- `GENERATED ALWAYS AS (expr) STORAGE`. -/
def GeneratedColumn.program (d : Dialect) (g : GeneratedColumn) : List Step :=
  [.pushStr "GENERATED ALWAYS AS (", .node (g.expr.program d), .pushStr ") ",
    .keywordOf g.storage]

/-- A column definition: name and type, the attributes of dialects that have them, and the
comment. -/
def ColumnDef.program (d : Dialect) (c : ColumnDef) : List Step :=
  [.pushStr (quoted c.name), .pushStr " ", .node (c.columnType.program d)] ++
    Step.when d.traits.columnAttributes
      (Step.when c.unsigned [.pushStr " UNSIGNED"] ++ Step.when c.zerofill [.pushStr " ZEROFILL"] ++
        Step.afterText " CHARACTER SET " c.charset ++ Step.afterText " COLLATE " c.collate ++
        Step.after " " (c.generated.map (GeneratedColumn.program d)) ++
        Step.when c.nullable [.pushStr " NULL"] ++ Step.when c.notNull [.pushStr " NOT NULL"] ++
        Step.when c.autoIncrement [.pushStr " AUTO_INCREMENT"] ++
        Step.after " DEFAULT " (c.defaultValue.map (Expr.program d)) ++
        Step.after " ON UPDATE " (c.onUpdate.map (Expr.program d))) ++
    Step.afterText " COMMENT " c.comment

/-- Writes ``` `name`(length) ```. -/
def IndexColumn.program (c : IndexColumn) : List Step :=
  [.pushStr (quoted c.name)] ++ Step.afterText "" (c.maxLength.map fun n => "(" ++ toString n ++ ")")

/-- Writes `KIND [name] (a,b) [USING m] [COMMENT c] [KEY_BLOCK_SIZE=n]`. -/
def IndexDecl.program (i : IndexDecl) : List Step :=
  [.pushStr i.kind.spelling] ++ Step.afterText " " i.name ++
    [.pushStr " (", .list (i.columns.map IndexColumn.program) ",", .pushStr ")"] ++
    Step.afterText " USING " i.method ++ Step.afterText " COMMENT " i.comment ++
    Step.afterText " KEY_BLOCK_SIZE=" (i.keyBlockSize.map toString)

/-- Writes a foreign key and its actions. -/
def ForeignKey.program (k : ForeignKey) : List Step :=
  [.pushStr "CONSTRAINT ", .pushStr k.constraint, .pushStr " FOREIGN KEY (",
    .pushStr (", ".intercalate k.columns), .pushStr ") REFERENCES ", .pushStr k.refTable,
    .pushStr " (", .pushStr (", ".intercalate k.refColumns), .pushStr ")"] ++
    Step.afterText " ON DELETE " k.onDelete ++
    Step.afterText " ON UPDATE " (k.onUpdate.map fun u => k.onDelete.getD u)

/-- A column, index or foreign key of an `ALTER TABLE`. -/
def AlterTarget.program (d : Dialect) : AlterTarget → List Step
  | .column c => [.node (c.program d)]
  | .index i => [.node i.program]
  | .foreignKey k => [.node k.program]

/-- One `ALTER TABLE` action; adding a partition is written with `DROP`. -/
def AlterAction.program (d : Dialect) : AlterAction → List Step
  | .addPartition ifNotExists p =>
      [.pushStr (if ifNotExists then "DROP IF NOT EXISTS " else "DROP "),
        .node (Clause.partitionSteps (Expr.programEach d p))]
  | .add t => [.pushStr "ADD ", .node (t.program d)]
  | .modify t => [.pushStr "MODIFY ", .node (t.program d)]
  | .change fromColumn t => [.pushStr "CHANGE ", .pushStr fromColumn, .pushStr " ", .node (t.program d)]
  | .renameColumn fromColumn toColumn =>
      [.pushStr "RENAME COLUMN ", .pushStr fromColumn, .pushStr " TO ", .pushStr toColumn]
  | .dropColumn column => [.pushStr "DROP COLUMN ", .pushStr column]
  | .dropPartition ifExists p =>
      [.pushStr (if ifExists then "DROP IF EXISTS " else "DROP "),
        .node (Clause.partitionSteps (Expr.programEach d p))]

/-- `ALTER TABLE t` and the actions, one per line. -/
def AlterTable.program (d : Dialect) (s : AlterTable) : List Step :=
  [.pushStr "ALTER TABLE ", .node s.table.program, .pushStr "\n",
    .list (s.actions.map (AlterAction.program d)) ",\n"]

namespace CreateTable

/-- `CREATE TABLE [IF NOT EXISTS ]t`. -/
def titleSteps (s : CreateTable) : List Step :=
  [.pushStr (if s.ifNotExists then "CREATE TABLE IF NOT EXISTS " else "CREATE TABLE "),
    .node s.table.program]

/-- The entries of the body, each rendered after the indent, separated by a comma and a line
break. -/
def bodySteps (entries : List (List Step)) : List Step :=
  [.list (entries.map fun p => [.indent, .node p]) ",\n"]

/-- The entries of a keyed layout: columns, primary key, unique keys, keys, full-text keys and
foreign keys. -/
def keyedEntrySteps (d : Dialect) (s : CreateTable) : List (List Step) :=
  s.columns.map (ColumnDef.program d) ++ s.primaryKey.toList.map IndexDecl.program ++
    s.uniqueKeys.map IndexDecl.program ++ s.keys.map IndexDecl.program ++
    s.fulltextKeys.map IndexDecl.program ++ s.foreignKeys.map ForeignKey.program

/-- The keyed layout: the entries in the body, then the table options. -/
def keyedSteps (d : Dialect) (s : CreateTable) : List Step :=
  s.titleSteps ++ [.pushStr " (\n"] ++ bodySteps (keyedEntrySteps d s) ++ [.pushStr "\n)"] ++
    Step.afterText " ENGINE=" s.engine ++
    Step.afterText " AUTO_INCREMENT=" (s.autoIncrement.map toString) ++
    Step.afterText " DEFAULT CHARSET=" s.defaultCharset ++ Step.afterText " COLLATE=" s.collate ++
    Step.afterText " ROW_FORMAT=" s.rowFormat ++
    Step.afterText " STATS_PERSISTENT=" s.statsPersistent ++ Step.afterText " COMMENT=" s.comment

/-- The partitioned layout: columns only in the body, then the storage clauses. -/
def partitionedSteps (d : Dialect) (s : CreateTable) : List Step :=
  s.titleSteps ++ [.pushStr "(\n"] ++ bodySteps (s.columns.map (ColumnDef.program d)) ++
    [.pushStr "\n)"] ++ Step.afterText " COMMENT " s.comment ++
    Step.when (!s.partitionedBy.isEmpty)
      [.pushStr " PARTITIONED BY (", .list (s.partitionedBy.map (ColumnDef.program d)) ", ",
        .pushStr ")"] ++
    Step.afterText " ROW FORMAT SERDE " s.rowFormatSerde ++
    Step.afterText " ROW FORMAT DELIMITED FIELDS TERMINATED BY " s.fieldsTerminatedBy ++
    Step.afterText " STORED AS INPUTFORMAT " s.inputFormat ++
    Step.when s.storedAsTextfile [.pushStr " STORED AS TEXTFILE"] ++
    Step.afterText " OUTPUTFORMAT " s.outputFormat ++ Step.afterText " LOCATION " s.location ++
    Step.when (!s.properties.isEmpty)
      [.pushStr " TBLPROPERTIES (", .list (s.properties.map ConfigString.program) ", ", .pushStr ")"]

/-- `CREATE TABLE` in the dialect's layout, or the fault of a dialect without one. -/
def program (d : Dialect) (s : CreateTable) : List Step :=
  match d.traits.tableLayout with
  | some .keyed => keyedSteps d s
  | some .partitioned => partitionedSteps d s
  | none => [.fail (.unrenderable "CREATE TABLE" d)]

end CreateTable

/-- `CREATE TABLE t AS query`. -/
def CreateTableAs.program (d : Dialect) (s : CreateTableAs) : List Step :=
  [.pushStr "CREATE TABLE ", .node s.table.program, .pushStr " AS ", .node (s.query.program d)]

/-- The rows of an `INSERT`, or its query. -/
def InsertSource.program (d : Dialect) : InsertSource → List Step
  | .values rows =>
      [.pushStr "VALUES ", .list (rows.map fun r => Clause.rowSteps (Expr.programEach d r)) ", "]
  | .query q => [.node (q.program d)]

/-- `INSERT`: the mode, `TABLE` where the dialect wants it, the table, the partition and the
column list when present, then the rows. -/
def Insert.program (d : Dialect) (s : Insert) : List Step :=
  Clause.withPrefixSteps "\n" (CommonTable.programOptEach d s.withTables) ++
    [.keywordOf s.mode, .pushStr " "] ++ Step.when d.traits.insertTable [.pushStr "TABLE "] ++
    [.node s.table.program, .pushStr " "] ++
    (match s.partition with
      | none => []
      | some p => [.node (Clause.partitionSteps (Expr.programEach d p)), .pushStr " "]) ++
    (match s.columns with
      | none => []
      | some cs => [.pushStr "(", .list (cs.map (ColumnName.program d)) ", ", .pushStr ") "]) ++
    s.source.program d

/-- `DROP TABLE [IF EXISTS ]t`. -/
def DropTable.program (s : DropTable) : List Step :=
  [.pushStr (if s.ifExists then "DROP TABLE IF EXISTS " else "DROP TABLE "), .node s.table.program]

/-- `ANALYZE TABLE` in the dialect's form, or the fault of a dialect without one. -/
def Analyze.program (d : Dialect) (s : Analyze) : List Step :=
  match d.traits.analyze with
  | .statistics =>
      [.pushStr "ANALYZE TABLE ", .node s.table.program] ++
        Step.after " " (s.partition.map fun p => Clause.partitionSteps (Expr.programEach d p)) ++
        [.pushStr " COMPUTE STATISTICS"] ++ Step.when s.forColumns [.pushStr " FOR COLUMNS"] ++
        Step.when s.cacheMetadata [.pushStr " CACHE METADATA"] ++
        Step.when s.noscan [.pushStr " NOSCAN"]
  | .bare => [.pushStr "ANALYZE TABLE ", .node s.table.program]
  | .absent => [.fail (.unsupportedFeature "ANALYZE TABLE" d)]

/-- `column = value`. -/
def Assignment.program (d : Dialect) (a : Assignment) : List Step :=
  [.pushStr a.column, .pushStr " = ", .node (a.value.program d)]

/-- `SET a = 1, b = 2`. -/
def Assignment.setSteps (d : Dialect) (as : List Assignment) : List Step :=
  [.pushStr "SET ", .list (as.map (Assignment.program d)) ", "]

/-- The `WHERE`, `ORDER BY` and `LIMIT` parts of `UPDATE` and `DELETE`, each after a blank when
present. -/
def Clause.tailSteps (d : Dialect) (filter : Option Expr) (orderBy : Option (List SortKey))
    (limit : Option Limit) : List Step :=
  Step.after " " (filter.map fun c => Clause.whereSteps (c.program d)) ++
    Step.after " " (orderBy.map fun ks => Clause.orderBySteps (SortKey.programEach d ks)) ++
    Step.after " " (limit.map Limit.program)

/-- `UPDATE t SET ...`, after its `WITH` clause and a blank line. -/
def Update.program (d : Dialect) (s : Update) : List Step :=
  Clause.withPrefixSteps "\n\n" (CommonTable.programOptEach d s.withTables) ++
    [.pushStr "UPDATE ", .node s.table.program, .pushStr " ",
      .node (Assignment.setSteps d s.assignments)] ++
    Clause.tailSteps d s.filter s.orderBy s.limit

/-- `DELETE FROM t ...`. -/
def Delete.program (d : Dialect) (s : Delete) : List Step :=
  [.pushStr "DELETE FROM ", .node s.table.program] ++ Clause.tailSteps d s.filter s.orderBy s.limit

/-- `SHOW COLUMNS FROM t [WHERE c]`. -/
def ShowColumns.program (d : Dialect) (s : ShowColumns) : List Step :=
  [.pushStr "SHOW COLUMNS ", .node (Clause.fromListSteps (FromItem.programEach d s.fromTables))] ++
    Step.after " " (s.filter.map fun c => Clause.whereSteps (c.program d))

/-- Any statement, as the node of its form. -/
def Statement.program (d : Dialect) : Statement → List Step
  | .select q => [.node (q.program d)]
  | .insert s => [.node (s.program d)]
  | .createTable s => [.node (s.program d)]
  | .createTableAs s => [.node (s.program d)]
  | .dropTable s => [.node s.program]
  | .alterTable s => [.node (s.program d)]
  | .set c => [.node [.pushStr "SET ", .node c.program]]
  | .analyze s => [.node (s.program d)]
  | .repair t => [.node [.pushStr "MSCK REPAIR TABLE ", .node t.program]]
  | .use schema => [.node [.pushStr "USE ", .pushStr schema]]
  | .truncate t => [.node [.pushStr "TRUNCATE TABLE ", .node t.program]]
  | .update s => [.node (s.program d)]
  | .delete s => [.node (s.program d)]
  | .showDatabases => [.node [.pushStr "SHOW DATABASES"]]
  | .showTables => [.node [.pushStr "SHOW TABLES"]]
  | .showColumns s => [.node (s.program d)]

/-! ## Nodes -/

/-- The writer calls that render a node of any kind. -/
def Node.program (d : Dialect) : Node → List Step
  | .statement s => s.program d
  | .query q => q.program d
  | .select s => s.program d
  | .compound c => c.program d
  | .insert s => s.program d
  | .dropTable s => s.program
  | .analyze s => s.program d
  | .update s => s.program d
  | .assignments as => Assignment.setSteps d as
  | .assignment a => a.program d
  | .delete s => s.program d
  | .showColumns s => s.program d
  | .createTable s => s.program d
  | .createTableAs s => s.program d
  | .alterTable s => s.program d
  | .alterAction a => a.program d
  | .alterTarget t => t.program d
  | .columnDef c => c.program d
  | .generatedColumn g => g.program d
  | .indexColumn c => c.program
  | .indexDecl i => i.program
  | .foreignKey k => k.program
  | .selectItem i => i.program d
  | .selectClause c => c.program d
  | .tableSource s => s.program d
  | .fromItem i => i.program d
  | .fromClause is => Clause.fromListSteps (FromItem.programEach d is)
  | .lateralView v => v.program d
  | .joinRule r => r.program d
  | .join j => j.program d
  | .whereClause c => Clause.whereSteps (c.program d)
  | .havingClause c => Clause.havingSteps (c.program d)
  | .groupingSets ss => Clause.groupingSetsSteps (Expr.programSets d ss)
  | .groupBy g => g.program d
  | .sortKey k => k.program d
  | .orderByClause ks => Clause.orderBySteps (SortKey.programEach d ks)
  | .sortByClause ks => Clause.sortBySteps (SortKey.programEach d ks)
  | .distributeByClause es => Clause.distributeBySteps (Expr.programEach d es)
  | .clusterByClause es => Clause.clusterBySteps (Expr.programEach d es)
  | .limit l => l.program
  | .commonTable t => t.program d
  | .withClause ts => Clause.withListSteps (CommonTable.programEach d ts)
  | .tableName t => t.program
  | .functionName f => f.program
  | .label a => a.program
  | .labels a => a.program
  | .castType t => t.program
  | .configString c => c.program
  | .partition p => Clause.partitionSteps (Expr.programEach d p)
  | .columnType t => t.program d
  | .expression e => e.program d
  | .columnName c => c.program d
  | .bare e => e.body d
  | .call f => f.program d
  | .frameBound fb => fb.program
  | .frame f => f.program
  | .window w => w.program d
  | .caseArm a => a.program d
  | .subquery q => [.pushStr "(", .node (q.program d), .pushStr ")"]

namespace Writer

/-- Renders a node into the writer: runs the node's writer calls for the writer's dialect. -/
def renderNode (w : Writer) (n : Node) : Writer × Option SqlError :=
  w.performAll (n.program w.options.dialect)

/-- Renders a node apart from the buffer: the text it writes if it succeeds, else its fault.
The buffer is put back either way. -/
def captureNode (w : Writer) (n : Node) : Writer × Except SqlError String :=
  w.captureAll (n.program w.options.dialect)

end Writer

end SqlSyntax
