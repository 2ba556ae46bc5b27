import SqlSyntax.Render.Statement

/-!
# Renderable nodes

Every kind of node that renders on its own, with its renderer.  Kinds that share a renderer
share a constructor: every statement form goes through `Statement.emit`; the expression forms
that render as their own node (a literal, a comparison, a `CASE`, ...) are written as the
expression without entering a level (`Expr.emitBody`); every kind of function call goes through
`Call.emit`.  An `Expression` node itself enters a level, as every nested expression does.

A free render starts with the whole depth budget of the options: `Node.render`.
-/

namespace SqlSyntax

/-- A node of any renderable kind. -/
inductive Node where
  | statement (s : Statement)
  | query (q : Query)
  | select (s : Select)
  | compound (c : Compound)
  | insert (s : Insert)
  | dropTable (s : DropTable)
  | analyze (s : Analyze)
  | update (s : Update)
  | assignments (as : List Assignment)
  | assignment (a : Assignment)
  | delete (s : Delete)
  | showColumns (s : ShowColumns)
  | createTable (s : CreateTable)
  | createTableAs (s : CreateTableAs)
  | alterTable (s : AlterTable)
  | alterAction (a : AlterAction)
  | alterTarget (t : AlterTarget)
  | columnDef (c : ColumnDef)
  | generatedColumn (g : GeneratedColumn)
  | indexColumn (c : IndexColumn)
  | indexDecl (i : IndexDecl)
  | foreignKey (k : ForeignKey)
  | selectItem (i : SelectItem)
  | selectClause (c : SelectClause)
  | tableSource (s : TableSource)
  | fromItem (i : FromItem)
  | fromClause (is : List FromItem)
  | lateralView (v : LateralView)
  | joinRule (r : JoinRule)
  | join (j : Join)
  | whereClause (condition : Expr)
  | havingClause (condition : Expr)
  | groupingSets (sets : List (List Expr))
  | groupBy (g : GroupBy)
  | sortKey (k : SortKey)
  | orderByClause (keys : List SortKey)
  | sortByClause (keys : List SortKey)
  | distributeByClause (columns : List Expr)
  | clusterByClause (columns : List Expr)
  | limit (l : Limit)
  | commonTable (t : CommonTable)
  | withClause (ts : List CommonTable)
  | tableName (t : TableName)
  | functionName (f : FunctionName)
  | label (a : Alias)
  | labels (a : MultiAlias)
  | castType (t : CastType)
  | configString (c : ConfigString)
  | partition (p : List Expr)
  | columnType (t : ColumnType)
  | expression (e : Expr)
  | columnName (c : ColumnName)
  | bare (e : Expr)
  | call (f : Call)
  | frameBound (b : FrameBound)
  | frame (f : Frame)
  | window (w : WindowCall)
  | caseArm (a : CaseArm)
  | subquery (q : Query)

namespace Node

/-- Renders a node with the options and the levels left. -/
def emit : Node → RenderOptions → Nat → Emission
  | statement s, o, b => s.emit o b
  | query q, o, b => q.emit o b
  | select s, o, b => s.emit o b
  | compound c, o, b => c.emit o b
  | insert s, o, b => s.emit o b
  | dropTable s, _, _ => s.emit
  | analyze s, o, b => s.emit o b
  | update s, o, b => s.emit o b
  | assignments as, o, b => Assignment.emitSet o b as
  | assignment a, o, b => a.emit o b
  | delete s, o, b => s.emit o b
  | showColumns s, o, b => s.emit o b
  | createTable s, o, b => s.emit o b
  | createTableAs s, o, b => s.emit o b
  | alterTable s, o, b => s.emit o b
  | alterAction a, o, b => a.emit o b
  | alterTarget t, o, b => t.emit o b
  | columnDef c, o, b => c.emit o b
  | generatedColumn g, o, b => g.emit o b
  | indexColumn c, _, _ => c.emit
  | indexDecl i, _, _ => i.emit
  | foreignKey k, _, _ => k.emit
  | selectItem i, o, b => i.emit o b
  | selectClause c, o, b => c.emit o b
  | tableSource s, o, b => s.emit o b
  | fromItem i, o, b => i.emit o b
  | fromClause is, o, b => Clause.fromList (FromItem.emitEach o b is)
  | lateralView v, o, b => v.emit o b
  | joinRule r, o, b => r.emit o b
  | join j, o, b => j.emit o b
  | whereClause c, o, b => Clause.whereCond (c.emit o b)
  | havingClause c, o, b => Clause.havingCond (c.emit o b)
  | groupingSets ss, o, b => Clause.groupingSets (Expr.emitSets o b ss)
  | groupBy g, o, b => g.emit o b
  | sortKey k, o, b => k.emit o b
  | orderByClause ks, o, b => Clause.orderBy (SortKey.emitEach o b ks)
  | sortByClause ks, o, b => Clause.sortBy (SortKey.emitEach o b ks)
  | distributeByClause es, o, b => Clause.distributeBy (Expr.emitEach o b es)
  | clusterByClause es, o, b => Clause.clusterBy (Expr.emitEach o b es)
  | limit l, _, _ => l.emit
  | commonTable t, o, b => t.emit o b
  | withClause ts, o, b => Clause.withList (CommonTable.emitEach o b ts)
  | tableName t, _, _ => t.emit
  | functionName f, _, _ => f.emit
  | label a, _, _ => a.emit
  | labels a, _, _ => a.emit
  | castType t, o, _ => t.emit o.dialect
  | configString c, _, _ => c.emit
  | partition p, o, b => Clause.partition (Expr.emitEach o b p)
  | columnType t, o, b => t.emit o b
  | expression e, o, b => e.emit o b
  | columnName c, o, _ => c.emit o.dialect
  | bare e, o, b => e.emitBody o b
  | call f, o, b => f.emit o b
  | frameBound fb, o, _ => fb.emit o.dialect
  | frame f, o, _ => f.emit o.dialect
  | window w, o, b => w.emit o b
  | caseArm a, o, b => a.emit o b
  | subquery q, o, b => q.emitParens o b

/-- Renders a node on its own: the text, or the first fault. -/
def render (o : RenderOptions) (n : Node) : Except SqlError String :=
  (n.emit o o.maxDepth).result

end Node

end SqlSyntax
