import SqlSyntax.Statement
import SqlSyntax.Text.Upper

/-!
# Changing statements

Statements that name a table can be given another table; queries, `INSERT` and `UPDATE` can be
given another `WITH` clause, or none; a table definition can have its column types renamed
through a mapping and can gain columns.

Column types are matched in upper case, with full Unicode upper-casing.  Renaming goes column
by column and stops at the first column whose type the mapping lacks, naming that type; the
partition columns are left alone.

Each setter is read back by its getter: the classes carry that law as a field, so every
instance proves it where it is declared.  Main statement: `typeNames_nodup` (the type names are
listed once each).
-/

namespace SqlSyntax

/-- A statement that names one table. -/
class TableOwner (α : Type) where
  /-- The table the statement names. -/
  table : α → TableName
  /-- The same statement naming another table. -/
  setTable : α → TableName → α
  table_setTable : ∀ (s : α) (t : TableName), table (setTable s t) = t

/-- A statement that may start with a `WITH` clause. -/
class WithOwner (α : Type) where
  /-- The statement's `WITH` clause, if any. -/
  withTables : α → Option (List CommonTable)
  /-- The same statement with another `WITH` clause, or none. -/
  setWithTables : α → Option (List CommonTable) → α
  withTables_setWithTables : ∀ (s : α) (w : Option (List CommonTable)),
    withTables (setWithTables s w) = w

instance : TableOwner CreateTable := ⟨(·.table), fun s t => { s with table := t }, fun _ _ => rfl⟩
instance : TableOwner CreateTableAs :=
  ⟨(·.table), fun s t => { s with table := t }, fun _ _ => rfl⟩
instance : TableOwner DropTable := ⟨(·.table), fun s t => { s with table := t }, fun _ _ => rfl⟩
instance : TableOwner AlterTable := ⟨(·.table), fun s t => { s with table := t }, fun _ _ => rfl⟩
instance : TableOwner Analyze := ⟨(·.table), fun s t => { s with table := t }, fun _ _ => rfl⟩
instance : TableOwner Insert := ⟨(·.table), fun s t => { s with table := t }, fun _ _ => rfl⟩
instance : TableOwner Update := ⟨(·.table), fun s t => { s with table := t }, fun _ _ => rfl⟩
instance : TableOwner Delete := ⟨(·.table), fun s t => { s with table := t }, fun _ _ => rfl⟩

/-- A statement made of a table name alone, such as `TRUNCATE TABLE t`, is that name. -/
instance : TableOwner TableName := ⟨id, fun _ t => t, fun _ _ => rfl⟩

instance : WithOwner Select :=
  ⟨(·.withTables), fun s w => { s with withTables := w }, fun _ _ => rfl⟩
instance : WithOwner Compound :=
  ⟨(·.withTables), fun s w => { s with withTables := w }, fun _ _ => rfl⟩
instance : WithOwner Insert :=
  ⟨(·.withTables), fun s w => { s with withTables := w }, fun _ _ => rfl⟩
instance : WithOwner Update :=
  ⟨(·.withTables), fun s w => { s with withTables := w }, fun _ _ => rfl⟩

/-- A query's `WITH` clause is that of its single `SELECT` or of its compound. -/
instance : WithOwner Query where
  withTables
    | .single s => s.withTables
    | .compound c => c.withTables
  setWithTables
    | .single s, w => .single { s with withTables := w }
    | .compound c, w => .compound { c with withTables := w }
  withTables_setWithTables q _ := by cases q <;> rfl

/-- The items of a list at their first occurrence, in order. -/
def firstOccurrences {α : Type} [BEq α] : List α → List α
  | [] => []
  | a :: as => a :: (firstOccurrences as).filter (· != a)

/-- A mapping of column type names, looked up by upper-case name. -/
abbrev TypeMapping := String → Option String

/-- A mapping given as pairs; of two pairs with one key, the later wins. -/
def TypeMapping.ofPairs (pairs : List (String × String)) : TypeMapping :=
  fun k => (pairs.reverse.find? (·.1 == k)).map (·.2)

namespace CreateTable

/-- The upper-case type names of the columns, each at its first occurrence. -/
def typeNames (s : CreateTable) : List String :=
  firstOccurrences (s.columns.map fun c => Text.toUpper c.columnType.name)

/-- A column with its type renamed through the mapping, its parameters dropped if asked, or
the error naming the upper-case type the mapping lacks. -/
def renameColumnType (mapping : TypeMapping) (dropParams : Bool) (c : ColumnDef) :
    Except SqlError ColumnDef :=
  let key := Text.toUpper c.columnType.name
  match mapping key with
  | some name =>
    .ok { c with columnType := { name, params := if dropParams then none else c.columnType.params } }
  | none => .error (.unmappedType key)

/-- The definition with every column's type renamed through the mapping; the partition columns
are kept as they are. -/
def changeTypes (s : CreateTable) (mapping : TypeMapping) (dropParams : Bool) :
    Except SqlError CreateTable := do
  let columns ← s.columns.mapM (renameColumnType mapping dropParams)
  return { s with columns }

/-- The definition with one more column at the end. -/
def appendColumn (s : CreateTable) (c : ColumnDef) : CreateTable :=
  { s with columns := s.columns ++ [c] }

/-- The definition with one more partition column at the end. -/
def appendPartitionColumn (s : CreateTable) (c : ColumnDef) : CreateTable :=
  { s with partitionedBy := s.partitionedBy ++ [c] }

end CreateTable

theorem firstOccurrences_nodup {α : Type} [BEq α] [LawfulBEq α] (l : List α) :
    (firstOccurrences l).Nodup := by
  induction l with
  | nil => simp [firstOccurrences]
  | cons a as ih =>
    simp only [firstOccurrences, List.nodup_cons, List.mem_filter, bne_self_eq_false,
      Bool.false_eq_true, and_false, not_false_eq_true, true_and]
    exact ih.filter _

theorem CreateTable.typeNames_nodup (s : CreateTable) : s.typeNames.Nodup :=
  firstOccurrences_nodup _

end SqlSyntax
