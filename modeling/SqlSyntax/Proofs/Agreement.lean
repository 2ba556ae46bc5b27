import SqlSyntax.Render.Node
import SqlSyntax.Proofs.DepthLimit

/-!
# Options that render alike

A renderer reads its options in few places: the depth limit when the budget runs out, the
indent in the body of `CREATE TABLE`, and the dialect through its traits, its keywords and the
spelling of pseudo-columns.  Of the traits, two decide how single words are written: whether
the remainder operator `%` exists and how `CURRENT_DATE`, `CURRENT_TIME` and
`CURRENT_TIMESTAMP` are spelled.  The others decide the layout of whole clauses and statements.

`RenderOptions.Agree g o o'` says that the dialects of `o` and `o'` share every layout trait,
and that the renaming of faults `g` carries the depth fault and the dialect faults of `o` to
those of `o'` and keeps the operand fault.  `Node.words` collects the words of a tree whose
spelling is the dialect's, and `DialectWord.SpelledAlike g o o' w` says that a word is written
under `o'` as under `o`, up to `g`.  Under agreeing options every tree whose words are spelled
alike renders alike, up to `g` (`Node.emit_agree`, in the next module).
-/

namespace SqlSyntax

/-- A word of a tree that a dialect may spell its own way or lack: the operator of a unary or
arithmetic node, or a column name. -/
inductive DialectWord where
  | operator (op : ComputeOp)
  | column (c : ColumnName)
  deriving DecidableEq, Repr

namespace DialectWord

/-- How a dialect writes the word. -/
def emit (d : Dialect) : DialectWord → Emission
  | operator op => Emission.keyword d op
  | column c => c.emit d

/-- The word is written under the options `o'` as under `o`, its fault renamed by `g`. -/
def SpelledAlike (g : SqlError → SqlError) (o o' : RenderOptions) (w : DialectWord) : Prop :=
  w.emit o'.dialect = (w.emit o.dialect).mapFault g

end DialectWord

/-! ## The words of a tree -/

mutual

/-- The dialect words of an expression, in the order they are written. -/
def Expr.words : Expr → List DialectWord
  | .column c => [.column c]
  | .literal _ | .wildcard _ => []
  | .call f => f.words
  | .window w => w.words
  | .searchedCase arms e => CaseArm.wordsEach arms ++ Expr.wordsOpt e
  | .simpleCase s arms e => s.words ++ CaseArm.wordsEach arms ++ Expr.wordsOpt e
  | .subquery q => q.words
  | .tuple items => Expr.wordsEach items
  | .subscript a i => a.words ++ i.words
  | .unary op x => .operator op :: x.words
  | .compute l op r => l.words ++ .operator op :: r.words
  | .condition _ _ l r | .compare l _ r | .and l r | .xor l r | .or l r => l.words ++ r.words
  | .between _ v low high => v.words ++ low.words ++ high.words
  | .exists _ x | .not x => x.words

def Expr.wordsEach : List Expr → List DialectWord
  | [] => []
  | e :: es => e.words ++ Expr.wordsEach es

def Expr.wordsOpt : Option Expr → List DialectWord
  | none => []
  | some e => e.words

def Expr.wordsOptEach : Option (List Expr) → List DialectWord
  | none => []
  | some es => Expr.wordsEach es

def Expr.wordsSets : List (List Expr) → List DialectWord
  | [] => []
  | s :: ss => Expr.wordsEach s ++ Expr.wordsSets ss

def Expr.wordsOptSets : Option (List (List Expr)) → List DialectWord
  | none => []
  | some ss => Expr.wordsSets ss

def Call.words : Call → List DialectWord
  | .normal _ args | .aggregate _ args _ => Expr.wordsEach args
  | .cast e _ => e.words
  | .extract unit e => unit.words ++ e.words

def WindowCall.words : WindowCall → List DialectWord
  | { function, partitionBy, orderBy, .. } =>
    function.words ++ Expr.wordsEach partitionBy ++ SortKey.wordsEach orderBy

def CaseArm.words : CaseArm → List DialectWord
  | { test, result } => test.words ++ result.words

def CaseArm.wordsEach : List CaseArm → List DialectWord
  | [] => []
  | a :: as => a.words ++ CaseArm.wordsEach as

def SortKey.words : SortKey → List DialectWord
  | { key, .. } => key.words

def SortKey.wordsEach : List SortKey → List DialectWord
  | [] => []
  | k :: ks => k.words ++ SortKey.wordsEach ks

def SortKey.wordsOptEach : Option (List SortKey) → List DialectWord
  | none => []
  | some ks => SortKey.wordsEach ks

def Query.words : Query → List DialectWord
  | .single s => s.words
  | .compound c => c.words

def CommonTable.words : CommonTable → List DialectWord
  | { query, .. } => query.words

def CommonTable.wordsEach : List CommonTable → List DialectWord
  | [] => []
  | t :: ts => t.words ++ CommonTable.wordsEach ts

def CommonTable.wordsOptEach : Option (List CommonTable) → List DialectWord
  | none => []
  | some ts => CommonTable.wordsEach ts

def SelectItem.words : SelectItem → List DialectWord
  | { value, .. } => value.words

def SelectItem.wordsEach : List SelectItem → List DialectWord
  | [] => []
  | i :: is => i.words ++ SelectItem.wordsEach is

def SelectClause.words : SelectClause → List DialectWord
  | { items, .. } => SelectItem.wordsEach items

def TableSource.words : TableSource → List DialectWord
  | .table _ => []
  | .subquery q => q.words

def FromItem.words : FromItem → List DialectWord
  | { source, .. } => source.words

def FromItem.wordsEach : List FromItem → List DialectWord
  | [] => []
  | i :: is => i.words ++ FromItem.wordsEach is

def FromItem.wordsOptEach : Option (List FromItem) → List DialectWord
  | none => []
  | some is => FromItem.wordsEach is

def LateralView.words : LateralView → List DialectWord
  | { function, .. } => function.words

def LateralView.wordsEach : List LateralView → List DialectWord
  | [] => []
  | v :: vs => v.words ++ LateralView.wordsEach vs

def JoinRule.words : JoinRule → List DialectWord
  | .on c => c.words
  | .using f => f.words

def JoinRule.wordsOpt : Option JoinRule → List DialectWord
  | none => []
  | some r => r.words

def Join.words : Join → List DialectWord
  | { table, rule, .. } => table.words ++ JoinRule.wordsOpt rule

def Join.wordsEach : List Join → List DialectWord
  | [] => []
  | j :: js => j.words ++ Join.wordsEach js

def GroupBy.words : GroupBy → List DialectWord
  | { columns, groupingSets, .. } => Expr.wordsEach columns ++ Expr.wordsOptSets groupingSets

def GroupBy.wordsOpt : Option GroupBy → List DialectWord
  | none => []
  | some g => g.words

/-- The dialect words of a `SELECT`, those of the distribution clauses included, whether or
not the dialect writes them. -/
def Select.words : Select → List DialectWord
  | { withTables, selectClause, fromTables, lateralViews, joins, filter, groupBy, having,
      orderBy, sortBy, distributeBy, clusterBy, .. } =>
    CommonTable.wordsOptEach withTables ++ selectClause.words ++ FromItem.wordsOptEach fromTables ++
      LateralView.wordsEach lateralViews ++ Join.wordsEach joins ++ Expr.wordsOpt filter ++
      GroupBy.wordsOpt groupBy ++ Expr.wordsOpt having ++ SortKey.wordsOptEach orderBy ++
      SortKey.wordsOptEach sortBy ++ Expr.wordsOptEach distributeBy ++
      Expr.wordsOptEach clusterBy

def Branch.words : Branch → List DialectWord
  | { select, .. } => select.words

def Branch.wordsEach : List Branch → List DialectWord
  | [] => []
  | r :: rs => r.words ++ Branch.wordsEach rs

def Compound.words : Compound → List DialectWord
  | { withTables, head, tail } =>
    CommonTable.wordsOptEach withTables ++ head.words ++ Branch.wordsEach tail

end

def ColumnType.words (t : ColumnType) : List DialectWord := Expr.wordsOptEach t.params

def GeneratedColumn.words (g : GeneratedColumn) : List DialectWord := g.expr.words

def ColumnDef.words (c : ColumnDef) : List DialectWord :=
  c.columnType.words ++ (c.generated.map GeneratedColumn.words).getD [] ++
    Expr.wordsOpt c.defaultValue ++ Expr.wordsOpt c.onUpdate

def AlterTarget.words : AlterTarget → List DialectWord
  | .column c => c.words
  | .index _ | .foreignKey _ => []

def AlterAction.words : AlterAction → List DialectWord
  | .addPartition _ p | .dropPartition _ p => Expr.wordsEach p
  | .add t | .modify t | .change _ t => t.words
  | .renameColumn _ _ | .dropColumn _ => []

def AlterTable.words (s : AlterTable) : List DialectWord := s.actions.flatMap AlterAction.words

def CreateTable.words (s : CreateTable) : List DialectWord :=
  s.columns.flatMap ColumnDef.words ++ s.partitionedBy.flatMap ColumnDef.words

def CreateTableAs.words (s : CreateTableAs) : List DialectWord := s.query.words

def InsertSource.words : InsertSource → List DialectWord
  | .values rows => rows.flatMap Expr.wordsEach
  | .query q => q.words

/-- The dialect words of an `INSERT`: those of its parts and the names of its columns. -/
def Insert.words (s : Insert) : List DialectWord :=
  CommonTable.wordsOptEach s.withTables ++ (s.partition.map Expr.wordsEach).getD [] ++
    (s.columns.map (List.map .column)).getD [] ++ s.source.words

def Analyze.words (s : Analyze) : List DialectWord := (s.partition.map Expr.wordsEach).getD []

def Assignment.words (a : Assignment) : List DialectWord := a.value.words

/-- The dialect words of the `WHERE` and `ORDER BY` parts of `UPDATE` and `DELETE`. -/
def Clause.tailWords (filter : Option Expr) (orderBy : Option (List SortKey)) : List DialectWord :=
  Expr.wordsOpt filter ++ SortKey.wordsOptEach orderBy

def Update.words (s : Update) : List DialectWord :=
  CommonTable.wordsOptEach s.withTables ++ s.assignments.flatMap Assignment.words ++
    Clause.tailWords s.filter s.orderBy

def Delete.words (s : Delete) : List DialectWord := Clause.tailWords s.filter s.orderBy

def ShowColumns.words (s : ShowColumns) : List DialectWord :=
  FromItem.wordsEach s.fromTables ++ Expr.wordsOpt s.filter

def Statement.words : Statement → List DialectWord
  | .select q => q.words
  | .insert s => s.words
  | .createTable s => s.words
  | .createTableAs s => s.words
  | .alterTable s => s.words
  | .analyze s => s.words
  | .update s => s.words
  | .delete s => s.words
  | .showColumns s => s.words
  | .dropTable _ | .set _ | .repair _ | .use _ | .truncate _ | .showDatabases | .showTables => []

/-- The dialect words of a node, at every depth. -/
def Node.words : Node → List DialectWord
  | .statement s => s.words
  | .query q | .subquery q => q.words
  | .select s => s.words
  | .compound c => c.words
  | .insert s => s.words
  | .analyze s => s.words
  | .update s => s.words
  | .assignments as => as.flatMap Assignment.words
  | .assignment a => a.words
  | .delete s => s.words
  | .showColumns s => s.words
  | .createTable s => s.words
  | .createTableAs s => s.words
  | .alterTable s => s.words
  | .alterAction a => a.words
  | .alterTarget t => t.words
  | .columnDef c => c.words
  | .generatedColumn g => g.words
  | .selectItem i => i.words
  | .selectClause c => c.words
  | .tableSource s => s.words
  | .fromItem i => i.words
  | .fromClause is => FromItem.wordsEach is
  | .lateralView v => v.words
  | .joinRule r => r.words
  | .join j => j.words
  | .whereClause c | .havingClause c | .expression c | .bare c => c.words
  | .groupingSets ss => Expr.wordsSets ss
  | .groupBy g => g.words
  | .sortKey k => k.words
  | .orderByClause ks | .sortByClause ks => SortKey.wordsEach ks
  | .distributeByClause es | .clusterByClause es | .partition es => Expr.wordsEach es
  | .commonTable t => t.words
  | .withClause ts => CommonTable.wordsEach ts
  | .columnType t => t.words
  | .columnName c => [.column c]
  | .call f => f.words
  | .window w => w.words
  | .caseArm a => a.words
  | .dropTable _ | .indexColumn _ | .indexDecl _ | .foreignKey _ | .limit _ | .tableName _
  | .functionName _ | .label _ | .labels _ | .castType _ | .configString _ | .frameBound _
  | .frame _ => []

/-- Whether a node is a table definition, `CREATE TABLE` on its own or as a statement: the one
node whose text depends on the indent. -/
def Node.isCreateTable : Node → Bool
  | .createTable _ | .statement (.createTable _) => true
  | _ => false

/-! ## Agreeing options -/

/-- The fault, with the dialect it names replaced by `d` if it names one. -/
def SqlError.redialect (d : Dialect) : SqlError → SqlError
  | .unsupportedFeature s _ => .unsupportedFeature s d
  | .unrenderable s _ => .unrenderable s d
  | f => f

/-- Renders under `o'` take the path they take under `o`, their faults renamed by `g`: the
dialects share every trait that lays out clauses and statements, and `g` carries the depth
fault and the dialect faults of `o` to those of `o'` and keeps the operand fault. -/
structure RenderOptions.Agree (g : SqlError → SqlError) (o o' : RenderOptions) : Prop where
  subscripts : o'.dialect.traits.subscripts = o.dialect.traits.subscripts
  distribution : o'.dialect.traits.distribution = o.dialect.traits.distribution
  insertTable : o'.dialect.traits.insertTable = o.dialect.traits.insertTable
  narrowTypeParams : o'.dialect.traits.narrowTypeParams = o.dialect.traits.narrowTypeParams
  columnAttributes : o'.dialect.traits.columnAttributes = o.dialect.traits.columnAttributes
  analyze : o'.dialect.traits.analyze = o.dialect.traits.analyze
  tableLayout : o'.dialect.traits.tableLayout = o.dialect.traits.tableLayout
  tooDeep : g (.tooDeep o.maxDepth) = .tooDeep o'.maxDepth
  looseOperand (t p : Tier) : g (.looseOperand t p) = .looseOperand t p
  unsupportedFeature (s : String) :
    g (.unsupportedFeature s o.dialect) = .unsupportedFeature s o'.dialect
  unrenderable (s : String) : g (.unrenderable s o.dialect) = .unrenderable s o'.dialect

end SqlSyntax
