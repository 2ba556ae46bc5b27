import SqlSyntax.Tree.Equality

/-!
# Statements and table definitions

The statements built on expressions and queries: `INSERT`, `UPDATE`, `DELETE`, the table
statements (`CREATE TABLE`, `ALTER TABLE`, `DROP TABLE`, `TRUNCATE TABLE`, `ANALYZE TABLE`,
`MSCK REPAIR TABLE`), `SET`, `USE` and the `SHOW` statements, with the column, index and
foreign key definitions that `CREATE TABLE` and `ALTER TABLE` carry.
-/

namespace SqlSyntax

/-- A column type as written, with optional parameters such as `VARCHAR(32)`. -/
structure ColumnType where
  name : String
  params : Option (List Expr) := none
  deriving BEq

/-- The types whose parameters survive in dialects that keep parameters only where they
matter. -/
def ColumnType.parameterised : List String := ["DECIMAL", "VARCHAR", "CHAR"]

/-- A type keeps its parameters in such dialects when its name is one of `parameterised`,
ASCII letters in either case. -/
def ColumnType.keepsParams (t : ColumnType) : Bool :=
  ColumnType.parameterised.any (fun n => t.name.map Char.toUpper == n)

/-- A generated column, `GENERATED ALWAYS AS (expr) VIRTUAL` or `STORED`. -/
structure GeneratedColumn where
  expr : Expr
  storage : GeneratedStorage
  deriving BEq

/-- A column of a table definition with its attributes. -/
structure ColumnDef where
  name : String
  columnType : ColumnType
  unsigned : Bool := false
  zerofill : Bool := false
  charset : Option String := none
  collate : Option String := none
  generated : Option GeneratedColumn := none
  nullable : Bool := false
  notNull : Bool := false
  autoIncrement : Bool := false
  defaultValue : Option Expr := none
  onUpdate : Option Expr := none
  comment : Option String := none
  deriving BEq

/-- A column of an index, with an optional prefix length. -/
structure IndexColumn where
  name : String
  maxLength : Option Nat := none
  deriving BEq

/-- An index of a table: its kind, optional name, columns and options. -/
structure IndexDecl where
  kind : IndexKind
  name : Option String := none
  columns : List IndexColumn
  method : Option String := none
  comment : Option String := none
  keyBlockSize : Option Nat := none
  deriving BEq

/-- A foreign key constraint. -/
structure ForeignKey where
  constraint : String
  columns : List String
  refTable : String
  refColumns : List String
  onDelete : Option String := none
  onUpdate : Option String := none
  deriving BEq

/-- What an `ALTER TABLE` action adds, modifies or changes to. -/
inductive AlterTarget where
  | column (c : ColumnDef)
  | index (i : IndexDecl)
  | foreignKey (k : ForeignKey)
  deriving BEq

/-- One action of an `ALTER TABLE`. -/
inductive AlterAction where
  | addPartition (ifNotExists : Bool) (partition : List Expr)
  | add (target : AlterTarget)
  | modify (target : AlterTarget)
  | change (fromColumn : String) (target : AlterTarget)
  | renameColumn (fromColumn toColumn : String)
  | dropColumn (column : String)
  | dropPartition (ifExists : Bool) (partition : List Expr)
  deriving BEq

/-- The statement `ALTER TABLE t` with its actions. -/
structure AlterTable where
  table : TableName
  actions : List AlterAction
  deriving BEq

/-- The statement `CREATE TABLE`: columns, keys and foreign keys, partitioning, and the table options of
every dialect that writes one. -/
structure CreateTable where
  table : TableName
  ifNotExists : Bool := false
  columns : List ColumnDef := []
  primaryKey : Option IndexDecl := none
  uniqueKeys : List IndexDecl := []
  keys : List IndexDecl := []
  fulltextKeys : List IndexDecl := []
  foreignKeys : List ForeignKey := []
  partitionedBy : List ColumnDef := []
  comment : Option String := none
  engine : Option String := none
  autoIncrement : Option Nat := none
  defaultCharset : Option String := none
  collate : Option String := none
  rowFormat : Option String := none
  statsPersistent : Option String := none
  rowFormatSerde : Option String := none
  fieldsTerminatedBy : Option String := none
  inputFormat : Option String := none
  storedAsTextfile : Bool := false
  outputFormat : Option String := none
  location : Option String := none
  properties : List ConfigString := []
  deriving BEq

/-- The statement `CREATE TABLE t AS query`. -/
structure CreateTableAs where
  table : TableName
  query : Query
  deriving BEq

/-- The rows an `INSERT` adds: listed values, or a query's result. -/
inductive InsertSource where
  | values (rows : List (List Expr))
  | query (q : Query)
  deriving BEq

/-- The statement `INSERT` into a table. -/
structure Insert where
  withTables : Option (List CommonTable) := none
  mode : InsertMode := .into
  table : TableName
  partition : Option (List Expr) := none
  columns : Option (List ColumnName) := none
  source : InsertSource
  deriving BEq

/-- The statement `DROP TABLE`. -/
structure DropTable where
  ifExists : Bool
  table : TableName
  deriving BEq

/-- The statement `ANALYZE TABLE` with its statistics options. -/
structure Analyze where
  table : TableName
  partition : Option (List Expr) := none
  forColumns : Bool := false
  cacheMetadata : Bool := false
  noscan : Bool := false
  deriving BEq

/-- One assignment of an `UPDATE`, `column = value`. -/
structure Assignment where
  column : String
  value : Expr
  deriving BEq

/-- The statement `UPDATE`. -/
structure Update where
  withTables : Option (List CommonTable) := none
  table : TableName
  assignments : List Assignment
  filter : Option Expr := none
  orderBy : Option (List SortKey) := none
  limit : Option Limit := none
  deriving BEq

/-- The statement `DELETE`. -/
structure Delete where
  table : TableName
  filter : Option Expr := none
  orderBy : Option (List SortKey) := none
  limit : Option Limit := none
  deriving BEq

/-- The statement `SHOW COLUMNS FROM t`, with an optional condition. -/
structure ShowColumns where
  fromTables : List FromItem
  filter : Option Expr := none
  deriving BEq

/-- Any statement. -/
inductive Statement where
  | select (q : Query)
  | insert (s : Insert)
  | createTable (s : CreateTable)
  | createTableAs (s : CreateTableAs)
  | dropTable (s : DropTable)
  | alterTable (s : AlterTable)
  | set (c : ConfigString)
  | analyze (s : Analyze)
  | repair (table : TableName)
  | use (schema : String)
  | truncate (table : TableName)
  | update (s : Update)
  | delete (s : Delete)
  | showDatabases
  | showTables
  | showColumns (s : ShowColumns)
  deriving BEq

end SqlSyntax
