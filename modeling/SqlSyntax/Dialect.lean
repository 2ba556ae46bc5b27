import SqlSyntax.Text.Blank

/-!
# Dialects and render options

The five SQL dialects a tree can be written in, their display names, the names a user may
type for them, and the options of one render: dialect, indent width of `CREATE TABLE` bodies
and the deepest nesting allowed.

Everything that sets one dialect's output apart from another's is one record, `Traits`, so a
renderer asks what a dialect does rather than which dialect it is.  Two dialects with equal
traits render every tree alike, up to the dialect named in an error; `traits_sqlServer` says
this of the default dialect and SQL Server.
-/

namespace SqlSyntax

/-- A target SQL dialect. -/
inductive Dialect where
  | default
  | mysql
  | hive
  | db2
  | sqlServer
  deriving DecidableEq, Repr, Inhabited

namespace Dialect

/-- Every dialect, in the order the catalog lists them. -/
def all : List Dialect := [.default, .mysql, .hive, .db2, .sqlServer]

/-- The name a dialect is shown by, also inside error messages. -/
def name : Dialect → String
  | .default => "DEFAULT"
  | .mysql => "MySQL"
  | .hive => "Hive"
  | .db2 => "DB2"
  | .sqlServer => "SQL Server"

/-- The spellings a dialect name may be typed in, in lower case. -/
def spellings : List (String × Dialect) :=
  [("default", .default), ("mysql", .mysql), ("hive", .hive), ("db2", .db2),
    ("sqlserver", .sqlServer), ("sql_server", .sqlServer), ("sql server", .sqlServer)]

/-- Reads a dialect name: blanks around it are dropped and ASCII letters match in either case;
any other character must match exactly. -/
def ofName? (s : String) : Option Dialect :=
  let key := (Text.trimBlank s).map Char.toLower
  (spellings.find? (·.1 == key)).map (·.2)

/-- How a dialect writes `ANALYZE TABLE`. -/
inductive AnalyzeForm where
  /-- The dialect has no such statement. -/
  | absent
  /-- Only the table is named. -/
  | bare
  /-- Partition, `COMPUTE STATISTICS` and its options follow the table. -/
  | statistics
  deriving DecidableEq, Repr

/-- How a dialect lays out `CREATE TABLE`. -/
inductive TableLayout where
  /-- Columns, keys and foreign keys in the body, then `KEY=value` table options. -/
  | keyed
  /-- Columns only in the body, then partitioning, row format, storage and properties. -/
  | partitioned
  deriving DecidableEq, Repr

/-- What sets one dialect's output apart. -/
structure Traits where
  /-- The remainder operator `%` exists. -/
  remainder : Bool
  /-- The date and time pseudo-columns are spelled with a blank, `CURRENT DATE`. -/
  spacedCurrent : Bool
  /-- Array subscripts `a[i]` exist. -/
  subscripts : Bool
  /-- Whether `SORT BY`, `DISTRIBUTE BY` and `CLUSTER BY` are written after `ORDER BY`. -/
  distribution : Bool
  /-- Whether `INSERT` names its target as `TABLE t`. -/
  insertTable : Bool
  /-- Column types keep their parameters only when named `DECIMAL`, `VARCHAR` or `CHAR`. -/
  narrowTypeParams : Bool
  /-- Column definitions carry sign, fill, character set, collation, generation, nullability,
  auto increment, default and update attributes. -/
  columnAttributes : Bool
  /-- How `ANALYZE TABLE` is written. -/
  analyze : AnalyzeForm
  /-- How `CREATE TABLE` is laid out, if the dialect writes it at all. -/
  tableLayout : Option TableLayout
  deriving DecidableEq, Repr

/-- The dialect-neutral traits: every operator, no extension. -/
def Traits.plain : Traits where
  remainder := true
  spacedCurrent := false
  subscripts := false
  distribution := false
  insertTable := false
  narrowTypeParams := false
  columnAttributes := false
  analyze := .absent
  tableLayout := none

/-- What each dialect does. -/
def traits : Dialect → Traits
  | .default => .plain
  | .mysql => { Traits.plain with
      columnAttributes := true, analyze := .bare, tableLayout := some .keyed }
  | .hive => { Traits.plain with
      subscripts := true, distribution := true, insertTable := true, narrowTypeParams := true,
      analyze := .statistics, tableLayout := some .partitioned }
  | .db2 => { Traits.plain with remainder := false, spacedCurrent := true }
  | .sqlServer => .plain

theorem traits_sqlServer : sqlServer.traits = default.traits := rfl

theorem ofName?_name (d : Dialect) : ofName? d.name = some d := by
  cases d <;> decide +kernel

end Dialect

/-- The options of one render: the dialect, the indent width of `CREATE TABLE` bodies, and how
many levels of expressions and queries may nest. -/
structure RenderOptions where
  dialect : Dialect := .default
  indent : Nat := 2
  maxDepth : Nat := 256
  deriving DecidableEq, Repr

namespace RenderOptions

/-- The default indent and depth for a dialect. -/
def ofDialect (d : Dialect) : RenderOptions := { dialect := d }

/-- The same options with another indent width. -/
def withIndent (o : RenderOptions) (n : Nat) : RenderOptions := { o with indent := n }

/-- The same options with another depth limit. -/
def withMaxDepth (o : RenderOptions) (n : Nat) : RenderOptions := { o with maxDepth := n }

end RenderOptions

end SqlSyntax
