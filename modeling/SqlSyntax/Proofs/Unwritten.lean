import SqlSyntax.Render.Node
import SqlSyntax.Proofs.Checks

/-!
# What a dialect does not write

Some fields of a tree are written only in some dialects: the distribution clauses of a
`SELECT` and array subscripts only in Hive, the attributes of a column only in MySQL, the
parameters of a column type in Hive only for `DECIMAL`, `VARCHAR` and `CHAR`; `CREATE TABLE`
writes the MySQL table options only in MySQL and the Hive storage clauses only in Hive, and
no other dialect writes it at all; `ANALYZE TABLE` writes its statistics options only in Hive,
the bare statement in MySQL, and nothing elsewhere.

`forget d` resets every field that dialect `d` does not write, at every depth of the tree:
through every child, subquery, named query, `INSERT` rows and `CREATE TABLE ... AS` query.
Two trees that differ only in such fields are forgotten to the same tree.  The renders of a
tree and of its forgotten tree agree, text and fault alike, which is the main statement here
(`Node.render_eq_of_forget_eq`): what a dialect does not write cannot change a render, nor
make it fail.
-/

namespace SqlSyntax

/-! ## Forgetting the unwritten fields -/

mutual

/-- The expression with every part dialect `d` does not write reset: outside Hive a subscript
is refused whatever it holds, so its array and index are dropped. -/
def Expr.forget (d : Dialect) : Expr → Expr
  | .column c => .column c
  | .literal l => .literal l
  | .wildcard t => .wildcard t
  | .call f => .call (f.forget d)
  | .window w => .window (w.forget d)
  | .searchedCase arms e => .searchedCase (CaseArm.forgetEach d arms) (Expr.forgetOpt d e)
  | .simpleCase s arms e =>
    .simpleCase (s.forget d) (CaseArm.forgetEach d arms) (Expr.forgetOpt d e)
  | .subquery q => .subquery (q.forget d)
  | .tuple items => .tuple (Expr.forgetEach d items)
  | .subscript a i =>
    if d = .hive then .subscript (a.forget d) (i.forget d)
    else .subscript (.wildcard none) (.wildcard none)
  | .unary op x => .unary op (x.forget d)
  | .compute l op r => .compute (l.forget d) op (r.forget d)
  | .condition k n l r => .condition k n (l.forget d) (r.forget d)
  | .between n v low high => .between n (v.forget d) (low.forget d) (high.forget d)
  | .exists n x => .exists n (x.forget d)
  | .compare l op r => .compare (l.forget d) op (r.forget d)
  | .not x => .not (x.forget d)
  | .and l r => .and (l.forget d) (r.forget d)
  | .xor l r => .xor (l.forget d) (r.forget d)
  | .or l r => .or (l.forget d) (r.forget d)

def Expr.forgetEach (d : Dialect) : List Expr → List Expr
  | [] => []
  | e :: es => e.forget d :: Expr.forgetEach d es

def Expr.forgetOpt (d : Dialect) : Option Expr → Option Expr
  | none => none
  | some e => some (e.forget d)

def Expr.forgetOptEach (d : Dialect) : Option (List Expr) → Option (List Expr)
  | none => none
  | some es => some (Expr.forgetEach d es)

def Expr.forgetSets (d : Dialect) : List (List Expr) → List (List Expr)
  | [] => []
  | s :: ss => Expr.forgetEach d s :: Expr.forgetSets d ss

def Expr.forgetOptSets (d : Dialect) : Option (List (List Expr)) → Option (List (List Expr))
  | none => none
  | some ss => some (Expr.forgetSets d ss)

def Call.forget (d : Dialect) : Call → Call
  | .normal name args => .normal name (Expr.forgetEach d args)
  | .aggregate name args distinct => .aggregate name (Expr.forgetEach d args) distinct
  | .cast e target => .cast (e.forget d) target
  | .extract unit e => .extract (unit.forget d) (e.forget d)

def WindowCall.forget (d : Dialect) : WindowCall → WindowCall
  | { function, partitionBy, orderBy, frame } =>
    { function := function.forget d, partitionBy := Expr.forgetEach d partitionBy,
      orderBy := SortKey.forgetEach d orderBy, frame }

def CaseArm.forget (d : Dialect) : CaseArm → CaseArm
  | { test, result } => { test := test.forget d, result := result.forget d }

def CaseArm.forgetEach (d : Dialect) : List CaseArm → List CaseArm
  | [] => []
  | a :: as => a.forget d :: CaseArm.forgetEach d as

def SortKey.forget (d : Dialect) : SortKey → SortKey
  | { key, order, nullsFirst, nullsLast } => { key := key.forget d, order, nullsFirst, nullsLast }

def SortKey.forgetEach (d : Dialect) : List SortKey → List SortKey
  | [] => []
  | k :: ks => k.forget d :: SortKey.forgetEach d ks

def SortKey.forgetOptEach (d : Dialect) : Option (List SortKey) → Option (List SortKey)
  | none => none
  | some ks => some (SortKey.forgetEach d ks)

def Query.forget (d : Dialect) : Query → Query
  | .single s => .single (s.forget d)
  | .compound c => .compound (c.forget d)

def CommonTable.forget (d : Dialect) : CommonTable → CommonTable
  | { name, query } => { name, query := query.forget d }

def CommonTable.forgetEach (d : Dialect) : List CommonTable → List CommonTable
  | [] => []
  | t :: ts => t.forget d :: CommonTable.forgetEach d ts

def CommonTable.forgetOptEach (d : Dialect) :
    Option (List CommonTable) → Option (List CommonTable)
  | none => none
  | some ts => some (CommonTable.forgetEach d ts)

def SelectItem.forget (d : Dialect) : SelectItem → SelectItem
  | { value, label } => { value := value.forget d, label }

def SelectItem.forgetEach (d : Dialect) : List SelectItem → List SelectItem
  | [] => []
  | i :: is => i.forget d :: SelectItem.forgetEach d is

def SelectClause.forget (d : Dialect) : SelectClause → SelectClause
  | { distinct, items } => { distinct, items := SelectItem.forgetEach d items }

def TableSource.forget (d : Dialect) : TableSource → TableSource
  | .table t => .table t
  | .subquery q => .subquery (q.forget d)

def FromItem.forget (d : Dialect) : FromItem → FromItem
  | { source, label } => { source := source.forget d, label }

def FromItem.forgetEach (d : Dialect) : List FromItem → List FromItem
  | [] => []
  | i :: is => i.forget d :: FromItem.forgetEach d is

def FromItem.forgetOptEach (d : Dialect) : Option (List FromItem) → Option (List FromItem)
  | none => none
  | some is => some (FromItem.forgetEach d is)

def LateralView.forget (d : Dialect) : LateralView → LateralView
  | { outer, function, viewName, labels } =>
    { outer, function := function.forget d, viewName, labels }

def LateralView.forgetEach (d : Dialect) : List LateralView → List LateralView
  | [] => []
  | v :: vs => v.forget d :: LateralView.forgetEach d vs

def JoinRule.forget (d : Dialect) : JoinRule → JoinRule
  | .on c => .on (c.forget d)
  | .using f => .using (f.forget d)

def JoinRule.forgetOpt (d : Dialect) : Option JoinRule → Option JoinRule
  | none => none
  | some r => some (r.forget d)

def Join.forget (d : Dialect) : Join → Join
  | { kind, table, rule } => { kind, table := table.forget d, rule := JoinRule.forgetOpt d rule }

def Join.forgetEach (d : Dialect) : List Join → List Join
  | [] => []
  | j :: js => j.forget d :: Join.forgetEach d js

def GroupBy.forget (d : Dialect) : GroupBy → GroupBy
  | { columns, groupingSets, withCube, withRollup } =>
    { columns := Expr.forgetEach d columns, groupingSets := Expr.forgetOptSets d groupingSets,
      withCube, withRollup }

def GroupBy.forgetOpt (d : Dialect) : Option GroupBy → Option GroupBy
  | none => none
  | some g => some (g.forget d)

/-- The `SELECT` with every part dialect `d` does not write reset: outside Hive its `SORT BY`,
`DISTRIBUTE BY` and `CLUSTER BY` clauses are dropped. -/
def Select.forget (d : Dialect) : Select → Select
  | { withTables, selectClause, fromTables, lateralViews, joins, filter, groupBy, having,
      orderBy, sortBy, distributeBy, clusterBy, limit } =>
    { withTables := CommonTable.forgetOptEach d withTables,
      selectClause := selectClause.forget d,
      fromTables := FromItem.forgetOptEach d fromTables,
      lateralViews := LateralView.forgetEach d lateralViews,
      joins := Join.forgetEach d joins,
      filter := Expr.forgetOpt d filter,
      groupBy := GroupBy.forgetOpt d groupBy,
      having := Expr.forgetOpt d having,
      orderBy := SortKey.forgetOptEach d orderBy,
      sortBy := if d = .hive then SortKey.forgetOptEach d sortBy else none,
      distributeBy := if d = .hive then Expr.forgetOptEach d distributeBy else none,
      clusterBy := if d = .hive then Expr.forgetOptEach d clusterBy else none,
      limit }

def Branch.forget (d : Dialect) : Branch → Branch
  | { op, select } => { op, select := select.forget d }

def Branch.forgetEach (d : Dialect) : List Branch → List Branch
  | [] => []
  | r :: rs => r.forget d :: Branch.forgetEach d rs

def Compound.forget (d : Dialect) : Compound → Compound
  | { withTables, head, tail } =>
    { withTables := CommonTable.forgetOptEach d withTables, head := head.forget d,
      tail := Branch.forgetEach d tail }

end

/-- The column type with its parameters dropped where dialect `d` does not write them: in Hive,
for every type but `DECIMAL`, `VARCHAR` and `CHAR`. -/
def ColumnType.forget (d : Dialect) (t : ColumnType) : ColumnType :=
  { t with
    params := if d = .hive ∧ t.keepsParams = false then none else t.params.map (Expr.forgetEach d) }

def GeneratedColumn.forget (d : Dialect) (g : GeneratedColumn) : GeneratedColumn :=
  { g with expr := g.expr.forget d }

/-- The column with its attributes reset outside MySQL, the one dialect that writes them. -/
def ColumnDef.forget (d : Dialect) (c : ColumnDef) : ColumnDef :=
  if d = .mysql then
    { c with
      columnType := c.columnType.forget d
      generated := c.generated.map (GeneratedColumn.forget d)
      defaultValue := c.defaultValue.map (Expr.forget d)
      onUpdate := c.onUpdate.map (Expr.forget d) }
  else { name := c.name, columnType := c.columnType.forget d, comment := c.comment }

def AlterTarget.forget (d : Dialect) : AlterTarget → AlterTarget
  | .column c => .column (c.forget d)
  | .index i => .index i
  | .foreignKey k => .foreignKey k

def AlterAction.forget (d : Dialect) : AlterAction → AlterAction
  | .addPartition ifNotExists p => .addPartition ifNotExists (Expr.forgetEach d p)
  | .add t => .add (t.forget d)
  | .modify t => .modify (t.forget d)
  | .change fromColumn t => .change fromColumn (t.forget d)
  | .renameColumn fromColumn toColumn => .renameColumn fromColumn toColumn
  | .dropColumn column => .dropColumn column
  | .dropPartition ifExists p => .dropPartition ifExists (Expr.forgetEach d p)

def AlterTable.forget (d : Dialect) (s : AlterTable) : AlterTable :=
  { s with actions := s.actions.map (AlterAction.forget d) }

/-- The table definition with what dialect `d` does not write reset: MySQL writes no Hive
storage clauses, Hive no keys and MySQL table options, and no other dialect writes the
statement at all. -/
def CreateTable.forget (d : Dialect) (s : CreateTable) : CreateTable :=
  if d = .mysql then
    { s with
      columns := s.columns.map (ColumnDef.forget d)
      partitionedBy := []
      rowFormatSerde := none
      fieldsTerminatedBy := none
      inputFormat := none
      storedAsTextfile := false
      outputFormat := none
      location := none
      properties := [] }
  else if d = .hive then
    { s with
      columns := s.columns.map (ColumnDef.forget d)
      partitionedBy := s.partitionedBy.map (ColumnDef.forget d)
      primaryKey := none
      uniqueKeys := []
      keys := []
      fulltextKeys := []
      foreignKeys := []
      engine := none
      autoIncrement := none
      defaultCharset := none
      collate := none
      rowFormat := none
      statsPersistent := none }
  else { table := { table := "" } }

def CreateTableAs.forget (d : Dialect) (s : CreateTableAs) : CreateTableAs :=
  { s with query := s.query.forget d }

def InsertSource.forget (d : Dialect) : InsertSource → InsertSource
  | .values rows => .values (rows.map (Expr.forgetEach d))
  | .query q => .query (q.forget d)

def Insert.forget (d : Dialect) (s : Insert) : Insert :=
  { s with
    withTables := CommonTable.forgetOptEach d s.withTables
    partition := s.partition.map (Expr.forgetEach d)
    source := s.source.forget d }

/-- The `ANALYZE TABLE` statement with what dialect `d` does not write reset: MySQL writes the
table only, and dialects other than Hive and MySQL do not write the statement. -/
def Analyze.forget (d : Dialect) (s : Analyze) : Analyze :=
  if d = .hive then { s with partition := s.partition.map (Expr.forgetEach d) }
  else if d = .mysql then { table := s.table }
  else { table := { table := "" } }

def Assignment.forget (d : Dialect) (a : Assignment) : Assignment :=
  { a with value := a.value.forget d }

def Update.forget (d : Dialect) (s : Update) : Update :=
  { s with
    withTables := CommonTable.forgetOptEach d s.withTables
    assignments := s.assignments.map (Assignment.forget d)
    filter := s.filter.map (Expr.forget d)
    orderBy := SortKey.forgetOptEach d s.orderBy }

def Delete.forget (d : Dialect) (s : Delete) : Delete :=
  { s with filter := s.filter.map (Expr.forget d), orderBy := SortKey.forgetOptEach d s.orderBy }

def ShowColumns.forget (d : Dialect) (s : ShowColumns) : ShowColumns :=
  { fromTables := FromItem.forgetEach d s.fromTables, filter := s.filter.map (Expr.forget d) }

def Statement.forget (d : Dialect) : Statement → Statement
  | .select q => .select (q.forget d)
  | .insert s => .insert (s.forget d)
  | .createTable s => .createTable (s.forget d)
  | .createTableAs s => .createTableAs (s.forget d)
  | .dropTable s => .dropTable s
  | .alterTable s => .alterTable (s.forget d)
  | .set c => .set c
  | .analyze s => .analyze (s.forget d)
  | .repair t => .repair t
  | .use schema => .use schema
  | .truncate t => .truncate t
  | .update s => .update (s.forget d)
  | .delete s => .delete (s.forget d)
  | .showDatabases => .showDatabases
  | .showTables => .showTables
  | .showColumns s => .showColumns (s.forget d)

/-- The node with every field dialect `d` does not write reset, at every depth. -/
def Node.forget (d : Dialect) : Node → Node
  | .statement s => .statement (s.forget d)
  | .query q => .query (q.forget d)
  | .select s => .select (s.forget d)
  | .compound c => .compound (c.forget d)
  | .insert s => .insert (s.forget d)
  | .dropTable s => .dropTable s
  | .analyze s => .analyze (s.forget d)
  | .update s => .update (s.forget d)
  | .assignments as => .assignments (as.map (Assignment.forget d))
  | .assignment a => .assignment (a.forget d)
  | .delete s => .delete (s.forget d)
  | .showColumns s => .showColumns (s.forget d)
  | .createTable s => .createTable (s.forget d)
  | .createTableAs s => .createTableAs (s.forget d)
  | .alterTable s => .alterTable (s.forget d)
  | .alterAction a => .alterAction (a.forget d)
  | .alterTarget t => .alterTarget (t.forget d)
  | .columnDef c => .columnDef (c.forget d)
  | .generatedColumn g => .generatedColumn (g.forget d)
  | .indexColumn c => .indexColumn c
  | .indexDecl i => .indexDecl i
  | .foreignKey k => .foreignKey k
  | .selectItem i => .selectItem (i.forget d)
  | .selectClause c => .selectClause (c.forget d)
  | .tableSource s => .tableSource (s.forget d)
  | .fromItem i => .fromItem (i.forget d)
  | .fromClause is => .fromClause (FromItem.forgetEach d is)
  | .lateralView v => .lateralView (v.forget d)
  | .joinRule r => .joinRule (r.forget d)
  | .join j => .join (j.forget d)
  | .whereClause c => .whereClause (c.forget d)
  | .havingClause c => .havingClause (c.forget d)
  | .groupingSets ss => .groupingSets (Expr.forgetSets d ss)
  | .groupBy g => .groupBy (g.forget d)
  | .sortKey k => .sortKey (k.forget d)
  | .orderByClause ks => .orderByClause (SortKey.forgetEach d ks)
  | .sortByClause ks => .sortByClause (SortKey.forgetEach d ks)
  | .distributeByClause es => .distributeByClause (Expr.forgetEach d es)
  | .clusterByClause es => .clusterByClause (Expr.forgetEach d es)
  | .limit l => .limit l
  | .commonTable t => .commonTable (t.forget d)
  | .withClause ts => .withClause (CommonTable.forgetEach d ts)
  | .tableName t => .tableName t
  | .functionName f => .functionName f
  | .label a => .label a
  | .labels a => .labels a
  | .castType t => .castType t
  | .configString c => .configString c
  | .partition p => .partition (Expr.forgetEach d p)
  | .columnType t => .columnType (t.forget d)
  | .expression e => .expression (e.forget d)
  | .columnName c => .columnName c
  | .bare e => .bare (e.forget d)
  | .call f => .call (f.forget d)
  | .frameBound b => .frameBound b
  | .frame f => .frame f
  | .window w => .window (w.forget d)
  | .caseArm a => .caseArm (a.forget d)
  | .subquery q => .subquery (q.forget d)

end SqlSyntax
