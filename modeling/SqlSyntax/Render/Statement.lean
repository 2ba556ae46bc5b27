import SqlSyntax.Statement
import SqlSyntax.Render.Tree

/-!
# Writing statements and table definitions

Statements are written on one line, except that a `WITH` clause stands on lines of its own
ahead of the statement (with a blank line before `UPDATE`) and that `CREATE TABLE` puts each
column, key and foreign key on an indented line of its own.  `CREATE TABLE` is the one
statement whose whole layout depends on the dialect; a dialect without a layout cannot write
it.

Like the expression renderers, every function takes the options `o` and the nesting budget
`b`; statements themselves do not enter a level.
-/

namespace SqlSyntax

/-- A present text after the prefix; nothing for an absent one. -/
def Emission.afterText (pre : String) (s : Option String) : Emission :=
  Emission.after pre (s.map Emission.ofString)

/-- Writes `PARTITION (a, b)`. -/
def Clause.partition (items : List Emission) : Emission :=
  "PARTITION (" ++ Emission.sepBy ", " items ++ ")"

/-- Writes `(a, b)`: a list of values in parentheses. -/
def Clause.row (items : List Emission) : Emission := "(" ++ Emission.sepBy ", " items ++ ")"

/-- Writes a column type; its parameters are left out in dialects that keep them only for
`DECIMAL`, `VARCHAR` and `CHAR`, unless the type is one of those. -/
def ColumnType.emit (o : RenderOptions) (b : Nat) (t : ColumnType) : Emission :=
  t.name ++
    match t.params with
    | none => Emission.empty
    | some ps =>
      if o.dialect.traits.narrowTypeParams && !t.keepsParams then Emission.empty
      else "(" ++ Emission.sepBy "," (Expr.emitEach o b ps) ++ ")"

/-- Writes `GENERATED ALWAYS AS (expr) STORAGE`. -/
def GeneratedColumn.emit (o : RenderOptions) (b : Nat) (g : GeneratedColumn) : Emission :=
  "GENERATED ALWAYS AS (" ++ g.expr.emit o b ++ ") " ++ Emission.keyword o.dialect g.storage

/-- Writes a column definition: name and type, the attributes of dialects that have them, and
the comment. -/
def ColumnDef.emit (o : RenderOptions) (b : Nat) (c : ColumnDef) : Emission :=
  quoted c.name ++ " " ++ c.columnType.emit o b ++
    Emission.when o.dialect.traits.columnAttributes
      (Emission.when c.unsigned " UNSIGNED" ++ Emission.when c.zerofill " ZEROFILL" ++
        Emission.afterText " CHARACTER SET " c.charset ++
        Emission.afterText " COLLATE " c.collate ++
        Emission.after " " (c.generated.map (GeneratedColumn.emit o b)) ++
        Emission.when c.nullable " NULL" ++ Emission.when c.notNull " NOT NULL" ++
        Emission.when c.autoIncrement " AUTO_INCREMENT" ++
        Emission.after " DEFAULT " (c.defaultValue.map (Expr.emit o b)) ++
        Emission.after " ON UPDATE " (c.onUpdate.map (Expr.emit o b))) ++
    Emission.afterText " COMMENT " c.comment

/-- Writes ``` `name`(length) ```. -/
def IndexColumn.emit (c : IndexColumn) : Emission :=
  quoted c.name ++ Emission.afterText "" (c.maxLength.map fun n => "(" ++ toString n ++ ")")

/-- Writes `KIND [name] (a,b) [USING m] [COMMENT c] [KEY_BLOCK_SIZE=n]`. -/
def IndexDecl.emit (i : IndexDecl) : Emission :=
  i.kind.spelling ++ Emission.afterText " " i.name ++ " (" ++
    Emission.sepBy "," (i.columns.map IndexColumn.emit) ++ ")" ++
    Emission.afterText " USING " i.method ++ Emission.afterText " COMMENT " i.comment ++
    Emission.afterText " KEY_BLOCK_SIZE=" (i.keyBlockSize.map toString)

/-- Writes `CONSTRAINT n FOREIGN KEY (a, b) REFERENCES t (c, d)` with its actions; the update action,
when present, repeats the delete action if there is one. -/
def ForeignKey.emit (k : ForeignKey) : Emission :=
  "CONSTRAINT " ++ k.constraint ++ " FOREIGN KEY (" ++ ", ".intercalate k.columns ++
    ") REFERENCES " ++ k.refTable ++ " (" ++ ", ".intercalate k.refColumns ++ ")" ++
    Emission.afterText " ON DELETE " k.onDelete ++
    Emission.afterText " ON UPDATE " (k.onUpdate.map fun u => k.onDelete.getD u)

/-- Writes a column, index or foreign key of an `ALTER TABLE`. -/
def AlterTarget.emit (o : RenderOptions) (b : Nat) : AlterTarget → Emission
  | .column c => c.emit o b
  | .index i => i.emit
  | .foreignKey k => k.emit

/-- Writes one `ALTER TABLE` action; adding a partition is written with `DROP`. -/
def AlterAction.emit (o : RenderOptions) (b : Nat) : AlterAction → Emission
  | .addPartition ifNotExists p =>
      (if ifNotExists then "DROP IF NOT EXISTS " else "DROP ") ++
        Clause.partition (Expr.emitEach o b p)
  | .add t => "ADD " ++ t.emit o b
  | .modify t => "MODIFY " ++ t.emit o b
  | .change fromColumn t => "CHANGE " ++ fromColumn ++ " " ++ t.emit o b
  | .renameColumn fromColumn toColumn => "RENAME COLUMN " ++ fromColumn ++ " TO " ++ toColumn
  | .dropColumn column => "DROP COLUMN " ++ column
  | .dropPartition ifExists p =>
      (if ifExists then "DROP IF EXISTS " else "DROP ") ++ Clause.partition (Expr.emitEach o b p)

/-- Writes `ALTER TABLE t` and the actions, one per line. -/
def AlterTable.emit (o : RenderOptions) (b : Nat) (s : AlterTable) : Emission :=
  "ALTER TABLE " ++ s.table.emit ++ "\n" ++ Emission.sepBy ",\n" (s.actions.map (·.emit o b))

namespace CreateTable

/-- Writes `CREATE TABLE [IF NOT EXISTS ]t`. -/
def title (s : CreateTable) : Emission :=
  (if s.ifNotExists then "CREATE TABLE IF NOT EXISTS " else "CREATE TABLE ") ++ s.table.emit

/-- The entries of the body, each on a line of its own after `indent` blanks, separated by
commas. -/
def body (indent : Nat) (entries : List Emission) : Emission :=
  Emission.sepBy ",\n" (entries.map (Emission.ofString (String.ofList (List.replicate indent ' ')) ++ ·))

/-- The body entries of a keyed layout: columns, primary key, unique keys, keys, full-text
keys and foreign keys, in this order. -/
def keyedEntries (o : RenderOptions) (b : Nat) (s : CreateTable) : List Emission :=
  s.columns.map (·.emit o b) ++ s.primaryKey.toList.map IndexDecl.emit ++
    s.uniqueKeys.map IndexDecl.emit ++ s.keys.map IndexDecl.emit ++
    s.fulltextKeys.map IndexDecl.emit ++ s.foreignKeys.map ForeignKey.emit

/-- Columns, keys and foreign keys in the body, then `ENGINE=`, `AUTO_INCREMENT=`,
`DEFAULT CHARSET=`, `COLLATE=`, `ROW_FORMAT=`, `STATS_PERSISTENT=` and `COMMENT=`. -/
def emitKeyed (o : RenderOptions) (b : Nat) (s : CreateTable) : Emission :=
  s.title ++ " (\n" ++ body o.indent (keyedEntries o b s) ++ "\n)" ++
    Emission.afterText " ENGINE=" s.engine ++
    Emission.afterText " AUTO_INCREMENT=" (s.autoIncrement.map toString) ++
    Emission.afterText " DEFAULT CHARSET=" s.defaultCharset ++
    Emission.afterText " COLLATE=" s.collate ++
    Emission.afterText " ROW_FORMAT=" s.rowFormat ++
    Emission.afterText " STATS_PERSISTENT=" s.statsPersistent ++
    Emission.afterText " COMMENT=" s.comment

/-- Columns only in the body, then comment, partition columns, row format, storage, location
and table properties. -/
def emitPartitioned (o : RenderOptions) (b : Nat) (s : CreateTable) : Emission :=
  s.title ++ "(\n" ++ body o.indent (s.columns.map (·.emit o b)) ++ "\n)" ++
    Emission.afterText " COMMENT " s.comment ++
    Emission.when (!s.partitionedBy.isEmpty)
      (" PARTITIONED BY (" ++ Emission.sepBy ", " (s.partitionedBy.map (·.emit o b)) ++ ")") ++
    Emission.afterText " ROW FORMAT SERDE " s.rowFormatSerde ++
    Emission.afterText " ROW FORMAT DELIMITED FIELDS TERMINATED BY " s.fieldsTerminatedBy ++
    Emission.afterText " STORED AS INPUTFORMAT " s.inputFormat ++
    Emission.when s.storedAsTextfile " STORED AS TEXTFILE" ++
    Emission.afterText " OUTPUTFORMAT " s.outputFormat ++
    Emission.afterText " LOCATION " s.location ++
    Emission.when (!s.properties.isEmpty)
      (" TBLPROPERTIES (" ++ Emission.sepBy ", " (s.properties.map ConfigString.emit) ++ ")")

/-- Writes `CREATE TABLE` in the dialect's layout, or fails when the dialect has none. -/
def emit (o : RenderOptions) (b : Nat) (s : CreateTable) : Emission :=
  match o.dialect.traits.tableLayout with
  | some .keyed => emitKeyed o b s
  | some .partitioned => emitPartitioned o b s
  | none => .fail (.unrenderable "CREATE TABLE" o.dialect)

end CreateTable

/-- Writes `CREATE TABLE t AS query`. -/
def CreateTableAs.emit (o : RenderOptions) (b : Nat) (s : CreateTableAs) : Emission :=
  "CREATE TABLE " ++ s.table.emit ++ " AS " ++ s.query.emit o b

/-- Writes the rows of an `INSERT`: `VALUES (..), (..)`, or the query. -/
def InsertSource.emit (o : RenderOptions) (b : Nat) : InsertSource → Emission
  | .values rows => "VALUES " ++ Emission.sepBy ", " (rows.map fun r => Clause.row (Expr.emitEach o b r))
  | .query q => q.emit o b

/-- Writes `INSERT`: the mode, `TABLE` in dialects that want it, the table, then the partition and the
column list when present, then the rows. -/
def Insert.emit (o : RenderOptions) (b : Nat) (s : Insert) : Emission :=
  Clause.withPrefix "\n" (CommonTable.emitOptEach o b s.withTables) ++
    Emission.keyword o.dialect s.mode ++ " " ++ Emission.when o.dialect.traits.insertTable "TABLE " ++
    s.table.emit ++ " " ++
    Emission.after "" (s.partition.map fun p => Clause.partition (Expr.emitEach o b p) ++ " ") ++
    Emission.after "" (s.columns.map fun cs =>
      "(" ++ Emission.sepBy ", " (cs.map (ColumnName.emit o.dialect)) ++ ") ") ++
    s.source.emit o b

/-- Writes `DROP TABLE [IF EXISTS ]t`. -/
def DropTable.emit (s : DropTable) : Emission :=
  (if s.ifExists then "DROP TABLE IF EXISTS " else "DROP TABLE ") ++ s.table.emit

/-- Writes `ANALYZE TABLE` in the dialect's form, or a failure where the dialect has none. -/
def Analyze.emit (o : RenderOptions) (b : Nat) (s : Analyze) : Emission :=
  match o.dialect.traits.analyze with
  | .statistics =>
      "ANALYZE TABLE " ++ s.table.emit ++
        Emission.after " " (s.partition.map fun p => Clause.partition (Expr.emitEach o b p)) ++
        " COMPUTE STATISTICS" ++ Emission.when s.forColumns " FOR COLUMNS" ++
        Emission.when s.cacheMetadata " CACHE METADATA" ++ Emission.when s.noscan " NOSCAN"
  | .bare => "ANALYZE TABLE " ++ s.table.emit
  | .absent => .fail (.unsupportedFeature "ANALYZE TABLE" o.dialect)

/-- Writes `column = value`. -/
def Assignment.emit (o : RenderOptions) (b : Nat) (a : Assignment) : Emission :=
  a.column ++ " = " ++ a.value.emit o b

/-- Writes `SET a = 1, b = 2`. -/
def Assignment.emitSet (o : RenderOptions) (b : Nat) (as : List Assignment) : Emission :=
  "SET " ++ Emission.sepBy ", " (as.map (·.emit o b))

/-- The `WHERE`, `ORDER BY` and `LIMIT` parts of `UPDATE` and `DELETE`, each after a blank
when present. -/
def Clause.tail (o : RenderOptions) (b : Nat) (filter : Option Expr)
    (orderBy : Option (List SortKey)) (limit : Option Limit) : Emission :=
  Emission.after " " (filter.map fun c => Clause.whereCond (c.emit o b)) ++
    Emission.after " " (orderBy.map fun ks => Clause.orderBy (SortKey.emitEach o b ks)) ++
    Emission.after " " (limit.map Limit.emit)

/-- Writes `UPDATE t SET ...`, after its `WITH` clause and a blank line. -/
def Update.emit (o : RenderOptions) (b : Nat) (s : Update) : Emission :=
  Clause.withPrefix "\n\n" (CommonTable.emitOptEach o b s.withTables) ++
    "UPDATE " ++ s.table.emit ++ " " ++ Assignment.emitSet o b s.assignments ++
    Clause.tail o b s.filter s.orderBy s.limit

/-- Writes `DELETE FROM t ...`. -/
def Delete.emit (o : RenderOptions) (b : Nat) (s : Delete) : Emission :=
  "DELETE FROM " ++ s.table.emit ++ Clause.tail o b s.filter s.orderBy s.limit

/-- Writes `SHOW COLUMNS FROM t [WHERE c]`. -/
def ShowColumns.emit (o : RenderOptions) (b : Nat) (s : ShowColumns) : Emission :=
  "SHOW COLUMNS " ++ Clause.fromList (FromItem.emitEach o b s.fromTables) ++
    Emission.after " " (s.filter.map fun c => Clause.whereCond (c.emit o b))

/-- Writes any statement. -/
def Statement.emit (o : RenderOptions) (b : Nat) : Statement → Emission
  | .select q => q.emit o b
  | .insert s => s.emit o b
  | .createTable s => s.emit o b
  | .createTableAs s => s.emit o b
  | .dropTable s => s.emit
  | .alterTable s => s.emit o b
  | .set c => "SET " ++ c.emit
  | .analyze s => s.emit o b
  | .repair t => "MSCK REPAIR TABLE " ++ t.emit
  | .use schema => "USE " ++ schema
  | .truncate t => "TRUNCATE TABLE " ++ t.emit
  | .update s => s.emit o b
  | .delete s => s.emit o b
  | .showDatabases => "SHOW DATABASES"
  | .showTables => "SHOW TABLES"
  | .showColumns s => s.emit o b

/-- Renders a statement with the given options: the text, or the first fault. -/
def Statement.render (o : RenderOptions) (s : Statement) : Except SqlError String :=
  (s.emit o o.maxDepth).result

end SqlSyntax
