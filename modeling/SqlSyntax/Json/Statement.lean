import SqlSyntax.Json.Decode
import SqlSyntax.Json.Encode
import SqlSyntax.Statement

/-!
# Statements as JSON

Readers and writers of statements and of the column, index and foreign key definitions, in the
same layout as the tree.  None of these is recursive by itself; the fuel they take is passed on
to the tree readers of their members.  `Statement.ofJson?` reads a statement tagged with its
kind; `SHOW DATABASES` and `SHOW TABLES` carry the content `null`.
-/

namespace SqlSyntax

open JsonValue

/-! ## Reading -/

/-- Reads `{partitions}`. -/
def Partition.ofJson? (n : Nat) (j : JsonValue) : Option (List Expr) := do
  (← j.fields? ["partitions"]).req "partitions" (list? (Expr.ofJson? n))

/-- Reads `{name, params?}`. -/
def ColumnType.ofJson? (n : Nat) (j : JsonValue) : Option ColumnType := do
  let fs ← j.fields? ["name", "params"]
  return { name := ← fs.req "name" str?, params := ← fs.opt "params" (list? (Expr.ofJson? n)) }

/-- Reads `{expression, save_mode}`. -/
def GeneratedColumn.ofJson? (n : Nat) (j : JsonValue) : Option GeneratedColumn := do
  let fs ← j.fields? ["expression", "save_mode"]
  return { expr := ← fs.req "expression" (Expr.ofJson? n), storage := ← fs.req "save_mode" VariantNames.read? }

/-- Reads a column definition. -/
def ColumnDef.ofJson? (n : Nat) (j : JsonValue) : Option ColumnDef := do
  let fs ← j.fields? ["column_name", "column_type", "unsigned", "zerofill", "character_set",
      "collate", "generated", "nullable", "not_null", "auto_increment", "default", "on_update",
      "comment"]
  return { name := ← fs.req "column_name" str?, columnType := ← fs.req "column_type" (ColumnType.ofJson? n),
           unsigned := ← fs.req "unsigned" bool?, zerofill := ← fs.req "zerofill" bool?,
           charset := ← fs.opt "character_set" str?, collate := ← fs.opt "collate" str?,
           generated := ← fs.opt "generated" (GeneratedColumn.ofJson? n),
           nullable := ← fs.req "nullable" bool?, notNull := ← fs.req "not_null" bool?,
           autoIncrement := ← fs.req "auto_increment" bool?,
           defaultValue := ← fs.opt "default" (Expr.ofJson? n), onUpdate := ← fs.opt "on_update" (Expr.ofJson? n),
           comment := ← fs.opt "comment" str? }

/-- Reads `{name, max_length?}`. -/
def IndexColumn.ofJson? (j : JsonValue) : Option IndexColumn := do
  let fs ← j.fields? ["name", "max_length"]
  return { name := ← fs.req "name" str?, maxLength := ← fs.opt "max_length" u32? }

/-- Reads an index declaration. -/
def IndexDecl.ofJson? (j : JsonValue) : Option IndexDecl := do
  let fs ← j.fields? ["kind", "name", "columns", "using", "comment", "key_block_size"]
  return { kind := ← fs.req "kind" VariantNames.read?, name := ← fs.opt "name" str?,
           columns := ← fs.req "columns" (list? IndexColumn.ofJson?), method := ← fs.opt "using" str?,
           comment := ← fs.opt "comment" str?, keyBlockSize := ← fs.opt "key_block_size" u64? }

/-- Reads a foreign key. -/
def ForeignKey.ofJson? (j : JsonValue) : Option ForeignKey := do
  let fs ← j.fields? ["constraint_name", "columns", "referenced_table", "referenced_columns",
      "on_delete", "on_update"]
  return { constraint := ← fs.req "constraint_name" str?, columns := ← fs.req "columns" (list? str?),
           refTable := ← fs.req "referenced_table" str?,
           refColumns := ← fs.req "referenced_columns" (list? str?),
           onDelete := ← fs.opt "on_delete" str?, onUpdate := ← fs.opt "on_update" str? }

/-- Reads what an `ALTER TABLE` action adds or changes to, tagged with its kind. -/
def AlterTarget.ofJson? (n : Nat) (j : JsonValue) : Option AlterTarget := do
  let (t, v) ← tagged? j
  match t with
  | "Column" => return .column (← ColumnDef.ofJson? n v)
  | "Index" => return .index (← IndexDecl.ofJson? v)
  | "ForeignKey" => return .foreignKey (← ForeignKey.ofJson? v)
  | _ => none

/-- Reads an `ALTER TABLE` action, tagged with its kind.  The actions with named fields take
their content as an object only: unlike a record, such a variant has no array form. -/
def AlterAction.ofJson? (n : Nat) (j : JsonValue) : Option AlterAction := do
  let (t, v) ← tagged? j
  match t with
  | "AddPartition" => do
    let fs ← v.members?
    return .addPartition (← fs.req "if_not_exists" bool?) (← fs.req "partition" (Partition.ofJson? n))
  | "Add" => return .add (← AlterTarget.ofJson? n v)
  | "Modify" => return .modify (← AlterTarget.ofJson? n v)
  | "Change" => do
    let fs ← v.members?
    return .change (← fs.req "from_column" str?) (← fs.req "to" (AlterTarget.ofJson? n))
  | "RenameColumn" => do
    let fs ← v.members?
    return .renameColumn (← fs.req "from_column" str?) (← fs.req "to_column" str?)
  | "DropColumn" => do
    let fs ← v.members?
    return .dropColumn (← fs.req "column" str?)
  | "DropPartition" => do
    let fs ← v.members?
    return .dropPartition (← fs.req "if_exists" bool?) (← fs.req "partition" (Partition.ofJson? n))
  | _ => none

/-- Reads `{table_name, actions}`. -/
def AlterTable.ofJson? (n : Nat) (j : JsonValue) : Option AlterTable := do
  let fs ← j.fields? ["table_name", "actions"]
  return { table := ← fs.req "table_name" TableName.ofJson?, actions := ← fs.req "actions" (list? (AlterAction.ofJson? n)) }

/-- Reads a table definition. -/
def CreateTable.ofJson? (n : Nat) (j : JsonValue) : Option CreateTable := do
  let fs ← j.fields? ["table_name", "if_not_exists", "columns", "primary_key", "unique_keys",
      "keys", "fulltext_keys", "foreign_keys", "partitioned_by", "comment", "engine",
      "auto_increment", "default_charset", "collate", "row_format", "stats_persistent",
      "row_format_serde", "row_format_delimited_fields_terminated_by", "stored_as_inputformat",
      "stored_as_textfile", "outputformat", "location", "tblproperties"]
  return { table := ← fs.req "table_name" TableName.ofJson?, ifNotExists := ← fs.req "if_not_exists" bool?,
           columns := ← fs.req "columns" (list? (ColumnDef.ofJson? n)),
           primaryKey := ← fs.opt "primary_key" IndexDecl.ofJson?,
           uniqueKeys := ← fs.req "unique_keys" (list? IndexDecl.ofJson?),
           keys := ← fs.req "keys" (list? IndexDecl.ofJson?),
           fulltextKeys := ← fs.req "fulltext_keys" (list? IndexDecl.ofJson?),
           foreignKeys := ← fs.req "foreign_keys" (list? ForeignKey.ofJson?),
           partitionedBy := ← fs.req "partitioned_by" (list? (ColumnDef.ofJson? n)),
           comment := ← fs.opt "comment" str?, engine := ← fs.opt "engine" str?,
           autoIncrement := ← fs.opt "auto_increment" u64?,
           defaultCharset := ← fs.opt "default_charset" str?, collate := ← fs.opt "collate" str?,
           rowFormat := ← fs.opt "row_format" str?, statsPersistent := ← fs.opt "stats_persistent" str?,
           rowFormatSerde := ← fs.opt "row_format_serde" str?,
           fieldsTerminatedBy := ← fs.opt "row_format_delimited_fields_terminated_by" str?,
           inputFormat := ← fs.opt "stored_as_inputformat" str?,
           storedAsTextfile := ← fs.req "stored_as_textfile" bool?,
           outputFormat := ← fs.opt "outputformat" str?, location := ← fs.opt "location" str?,
           properties := ← fs.req "tblproperties" (list? ConfigString.ofJson?) }

/-- Reads `{table_name, select_statement}`. -/
def CreateTableAs.ofJson? (n : Nat) (j : JsonValue) : Option CreateTableAs := do
  let fs ← j.fields? ["table_name", "select_statement"]
  return { table := ← fs.req "table_name" TableName.ofJson?, query := ← fs.req "select_statement" (Query.ofJson? n) }

/-- Reads the rows of an `INSERT`: tagged `Values` with a list of `{values}`, or `Select`. -/
def InsertSource.ofJson? (n : Nat) (j : JsonValue) : Option InsertSource := do
  let (t, v) ← tagged? j
  match t with
  | "Values" =>
    return .values (← list? (fun r => do (← r.fields? ["values"]).req "values" (list? (Expr.ofJson? n))) v)
  | "Select" => return .query (← Query.ofJson? n v)
  | _ => none

/-- Reads an `INSERT`. -/
def Insert.ofJson? (n : Nat) (j : JsonValue) : Option Insert := do
  let fs ← j.fields? ["with_clause", "insert_type", "table_name", "partition", "columns", "source"]
  return { withTables := ← fs.opt "with_clause" (CommonTable.clauseOfJson? n),
           mode := ← fs.req "insert_type" VariantNames.read?, table := ← fs.req "table_name" TableName.ofJson?,
           partition := ← fs.opt "partition" (Partition.ofJson? n),
           columns := ← fs.opt "columns" (list? ColumnName.ofJson?),
           source := ← fs.req "source" (InsertSource.ofJson? n) }

/-- Reads `{if_exists, table_name}`. -/
def DropTable.ofJson? (j : JsonValue) : Option DropTable := do
  let fs ← j.fields? ["if_exists", "table_name"]
  return { ifExists := ← fs.req "if_exists" bool?, table := ← fs.req "table_name" TableName.ofJson? }

/-- Reads an `ANALYZE TABLE`. -/
def Analyze.ofJson? (n : Nat) (j : JsonValue) : Option Analyze := do
  let fs ← j.fields? ["table_name", "partition", "for_columns", "cache_metadata", "noscan"]
  return { table := ← fs.req "table_name" TableName.ofJson?, partition := ← fs.opt "partition" (Partition.ofJson? n),
           forColumns := ← fs.req "for_columns" bool?, cacheMetadata := ← fs.req "cache_metadata" bool?,
           noscan := ← fs.req "noscan" bool? }

/-- Reads `{table_name}`, the content of the statements made of a table name alone. -/
def TableName.statementOfJson? (j : JsonValue) : Option TableName := do
  (← j.fields? ["table_name"]).req "table_name" TableName.ofJson?

/-- Reads `{config}`, the content of `SET`. -/
def ConfigString.statementOfJson? (j : JsonValue) : Option ConfigString := do
  (← j.fields? ["config"]).req "config" ConfigString.ofJson?

/-- Reads `{schema_name}`, the content of `USE`. -/
def Statement.schemaOfJson? (j : JsonValue) : Option String := do
  (← j.fields? ["schema_name"]).req "schema_name" str?

/-- Reads `{column_name, value}`. -/
def Assignment.ofJson? (n : Nat) (j : JsonValue) : Option Assignment := do
  let fs ← j.fields? ["column_name", "value"]
  return { column := ← fs.req "column_name" str?, value := ← fs.req "value" (Expr.ofJson? n) }

/-- Reads `{columns}`, the assignments of an `UPDATE`. -/
def Assignment.clauseOfJson? (n : Nat) (j : JsonValue) : Option (List Assignment) := do
  (← j.fields? ["columns"]).req "columns" (list? (Assignment.ofJson? n))

/-- Reads an `UPDATE`. -/
def Update.ofJson? (n : Nat) (j : JsonValue) : Option Update := do
  let fs ← j.fields? ["with_clause", "table_name", "set_clause", "where_clause", "order_by_clause",
      "limit_clause"]
  return { withTables := ← fs.opt "with_clause" (CommonTable.clauseOfJson? n),
           table := ← fs.req "table_name" TableName.ofJson?,
           assignments := ← fs.req "set_clause" (Assignment.clauseOfJson? n),
           filter := ← fs.opt "where_clause" (Expr.conditionClauseOfJson? n),
           orderBy := ← fs.opt "order_by_clause" (SortKey.clauseOfJson? n),
           limit := ← fs.opt "limit_clause" Limit.ofJson? }

/-- Reads a `DELETE`. -/
def Delete.ofJson? (n : Nat) (j : JsonValue) : Option Delete := do
  let fs ← j.fields? ["table_name", "where_clause", "order_by_clause", "limit_clause"]
  return { table := ← fs.req "table_name" TableName.ofJson?,
           filter := ← fs.opt "where_clause" (Expr.conditionClauseOfJson? n),
           orderBy := ← fs.opt "order_by_clause" (SortKey.clauseOfJson? n),
           limit := ← fs.opt "limit_clause" Limit.ofJson? }

/-- Reads `{from_clause, where_clause?}`. -/
def ShowColumns.ofJson? (n : Nat) (j : JsonValue) : Option ShowColumns := do
  let fs ← j.fields? ["from_clause", "where_clause"]
  return { fromTables := ← fs.req "from_clause" (FromItem.clauseOfJson? n),
           filter := ← fs.opt "where_clause" (Expr.conditionClauseOfJson? n) }

/-- Reads a statement of a given kind from its content. -/
def Statement.ofTagged? (n : Nat) (kind : String) (v : JsonValue) : Option Statement :=
  match kind with
  | "Select" => return .select (← Query.ofJson? n v)
  | "Insert" => return .insert (← Insert.ofJson? n v)
  | "CreateTable" => return .createTable (← CreateTable.ofJson? n v)
  | "CreateTableAs" => return .createTableAs (← CreateTableAs.ofJson? n v)
  | "DropTable" => return .dropTable (← DropTable.ofJson? v)
  | "AlterTable" => return .alterTable (← AlterTable.ofJson? n v)
  | "Set" => return .set (← ConfigString.statementOfJson? v)
  | "AnalyzeTable" => return .analyze (← Analyze.ofJson? n v)
  | "MsckRepairTable" => return .repair (← TableName.statementOfJson? v)
  | "Use" => return .use (← Statement.schemaOfJson? v)
  | "TruncateTable" => return .truncate (← TableName.statementOfJson? v)
  | "Update" => return .update (← Update.ofJson? n v)
  | "Delete" => return .delete (← Delete.ofJson? n v)
  | "ShowDatabases" => do v.unit?; return .showDatabases
  | "ShowTables" => do v.unit?; return .showTables
  | "ShowColumns" => return .showColumns (← ShowColumns.ofJson? n v)
  | _ => none

/-- Reads a statement tagged with its kind. -/
def Statement.ofJson? (n : Nat) (j : JsonValue) : Option Statement := do
  let (t, v) ← tagged? j
  Statement.ofTagged? n t v

/-! ## Writing -/

/-- Writes `{partitions}`. -/
def Partition.toJson (p : List Expr) : JsonValue := .object [("partitions", .array (Expr.toJsonList p))]

/-- Writes `{name, params}`. -/
def ColumnType.toJson (t : ColumnType) : JsonValue :=
  .object [("name", .string t.name), ("params", option (fun ps => .array (Expr.toJsonList ps)) t.params)]

/-- Writes `{expression, save_mode}`. -/
def GeneratedColumn.toJson (g : GeneratedColumn) : JsonValue :=
  .object [("expression", g.expr.toJson), ("save_mode", VariantNames.write g.storage)]

/-- Writes a column definition. -/
def ColumnDef.toJson (c : ColumnDef) : JsonValue :=
  .object [("column_name", .string c.name), ("column_type", c.columnType.toJson),
    ("unsigned", .bool c.unsigned), ("zerofill", .bool c.zerofill),
    ("character_set", option .string c.charset), ("collate", option .string c.collate),
    ("generated", option GeneratedColumn.toJson c.generated), ("nullable", .bool c.nullable),
    ("not_null", .bool c.notNull), ("auto_increment", .bool c.autoIncrement),
    ("default", option Expr.toJson c.defaultValue), ("on_update", option Expr.toJson c.onUpdate),
    ("comment", option .string c.comment)]

/-- Writes `{name, max_length}`. -/
def IndexColumn.toJson (c : IndexColumn) : JsonValue :=
  .object [("name", .string c.name), ("max_length", option nat c.maxLength)]

/-- Writes an index declaration. -/
def IndexDecl.toJson (i : IndexDecl) : JsonValue :=
  .object [("kind", VariantNames.write i.kind), ("name", option .string i.name),
    ("columns", list IndexColumn.toJson i.columns), ("using", option .string i.method),
    ("comment", option .string i.comment), ("key_block_size", option nat i.keyBlockSize)]

/-- Writes a foreign key. -/
def ForeignKey.toJson (k : ForeignKey) : JsonValue :=
  .object [("constraint_name", .string k.constraint), ("columns", list .string k.columns),
    ("referenced_table", .string k.refTable), ("referenced_columns", list .string k.refColumns),
    ("on_delete", option .string k.onDelete), ("on_update", option .string k.onUpdate)]

/-- Writes what an `ALTER TABLE` action adds or changes to. -/
def AlterTarget.toJson : AlterTarget → JsonValue
  | .column c => tag "Column" c.toJson
  | .index i => tag "Index" i.toJson
  | .foreignKey k => tag "ForeignKey" k.toJson

/-- Writes an `ALTER TABLE` action. -/
def AlterAction.toJson : AlterAction → JsonValue
  | .addPartition b p =>
    tag "AddPartition" (.object [("if_not_exists", .bool b), ("partition", Partition.toJson p)])
  | .add t => tag "Add" t.toJson
  | .modify t => tag "Modify" t.toJson
  | .change f t => tag "Change" (.object [("from_column", .string f), ("to", t.toJson)])
  | .renameColumn f t => tag "RenameColumn" (.object [("from_column", .string f), ("to_column", .string t)])
  | .dropColumn c => tag "DropColumn" (.object [("column", .string c)])
  | .dropPartition b p =>
    tag "DropPartition" (.object [("if_exists", .bool b), ("partition", Partition.toJson p)])

/-- Writes `{table_name, actions}`. -/
def AlterTable.toJson (s : AlterTable) : JsonValue :=
  .object [("table_name", s.table.toJson), ("actions", list AlterAction.toJson s.actions)]

/-- Writes a table definition. -/
def CreateTable.toJson (s : CreateTable) : JsonValue :=
  .object [("table_name", s.table.toJson), ("if_not_exists", .bool s.ifNotExists),
    ("columns", list ColumnDef.toJson s.columns), ("primary_key", option IndexDecl.toJson s.primaryKey),
    ("unique_keys", list IndexDecl.toJson s.uniqueKeys), ("keys", list IndexDecl.toJson s.keys),
    ("fulltext_keys", list IndexDecl.toJson s.fulltextKeys),
    ("foreign_keys", list ForeignKey.toJson s.foreignKeys),
    ("partitioned_by", list ColumnDef.toJson s.partitionedBy), ("comment", option .string s.comment),
    ("engine", option .string s.engine), ("auto_increment", option nat s.autoIncrement),
    ("default_charset", option .string s.defaultCharset), ("collate", option .string s.collate),
    ("row_format", option .string s.rowFormat), ("stats_persistent", option .string s.statsPersistent),
    ("row_format_serde", option .string s.rowFormatSerde),
    ("row_format_delimited_fields_terminated_by", option .string s.fieldsTerminatedBy),
    ("stored_as_inputformat", option .string s.inputFormat),
    ("stored_as_textfile", .bool s.storedAsTextfile), ("outputformat", option .string s.outputFormat),
    ("location", option .string s.location), ("tblproperties", list ConfigString.toJson s.properties)]

/-- Writes `{table_name, select_statement}`. -/
def CreateTableAs.toJson (s : CreateTableAs) : JsonValue :=
  .object [("table_name", s.table.toJson), ("select_statement", s.query.toJson)]

/-- Writes the rows of an `INSERT`. -/
def InsertSource.toJson : InsertSource → JsonValue
  | .values rows => tag "Values" (list (fun r => .object [("values", .array (Expr.toJsonList r))]) rows)
  | .query q => tag "Select" q.toJson

/-- Writes an `INSERT`. -/
def Insert.toJson (s : Insert) : JsonValue :=
  .object [("with_clause", CommonTable.clauseToJsonOpt s.withTables), ("insert_type", VariantNames.write s.mode),
    ("table_name", s.table.toJson), ("partition", option Partition.toJson s.partition),
    ("columns", option (list ColumnName.toJson) s.columns), ("source", s.source.toJson)]

/-- Writes `{if_exists, table_name}`. -/
def DropTable.toJson (s : DropTable) : JsonValue :=
  .object [("if_exists", .bool s.ifExists), ("table_name", s.table.toJson)]

/-- Writes an `ANALYZE TABLE`. -/
def Analyze.toJson (s : Analyze) : JsonValue :=
  .object [("table_name", s.table.toJson), ("partition", option Partition.toJson s.partition),
    ("for_columns", .bool s.forColumns), ("cache_metadata", .bool s.cacheMetadata), ("noscan", .bool s.noscan)]

/-- Writes `{table_name}`. -/
def TableName.statementToJson (t : TableName) : JsonValue := .object [("table_name", t.toJson)]

/-- Writes `{column_name, value}`. -/
def Assignment.toJson (a : Assignment) : JsonValue :=
  .object [("column_name", .string a.column), ("value", a.value.toJson)]

/-- Writes `{columns}`, the assignments of an `UPDATE`. -/
def Assignment.clauseToJson (as : List Assignment) : JsonValue := .object [("columns", list Assignment.toJson as)]

/-- Writes an `UPDATE`. -/
def Update.toJson (s : Update) : JsonValue :=
  .object [("with_clause", CommonTable.clauseToJsonOpt s.withTables), ("table_name", s.table.toJson),
    ("set_clause", Assignment.clauseToJson s.assignments), ("where_clause", Expr.conditionToJsonOpt s.filter),
    ("order_by_clause", SortKey.clauseToJsonOpt s.orderBy), ("limit_clause", option Limit.toJson s.limit)]

/-- Writes a `DELETE`. -/
def Delete.toJson (s : Delete) : JsonValue :=
  .object [("table_name", s.table.toJson), ("where_clause", Expr.conditionToJsonOpt s.filter),
    ("order_by_clause", SortKey.clauseToJsonOpt s.orderBy), ("limit_clause", option Limit.toJson s.limit)]

/-- Writes `{from_clause, where_clause}`. -/
def ShowColumns.toJson (s : ShowColumns) : JsonValue :=
  .object [("from_clause", FromItem.clauseToJson s.fromTables), ("where_clause", Expr.conditionToJsonOpt s.filter)]

/-- Writes a statement tagged with its kind. -/
def Statement.toJson : Statement → JsonValue
  | .select q => tag "Select" q.toJson
  | .insert s => tag "Insert" s.toJson
  | .createTable s => tag "CreateTable" s.toJson
  | .createTableAs s => tag "CreateTableAs" s.toJson
  | .dropTable s => tag "DropTable" s.toJson
  | .alterTable s => tag "AlterTable" s.toJson
  | .set c => tag "Set" (.object [("config", c.toJson)])
  | .analyze s => tag "AnalyzeTable" s.toJson
  | .repair t => tag "MsckRepairTable" t.statementToJson
  | .use s => tag "Use" (.object [("schema_name", .string s)])
  | .truncate t => tag "TruncateTable" t.statementToJson
  | .update s => tag "Update" s.toJson
  | .delete s => tag "Delete" s.toJson
  | .showDatabases => tag "ShowDatabases" .null
  | .showTables => tag "ShowTables" .null
  | .showColumns s => tag "ShowColumns" s.toJson

end SqlSyntax
