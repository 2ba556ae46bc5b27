import SqlSyntax.Name
import SqlSyntax.Emission

/-!
# Writing names and small elements

How the leaves of a tree are written.  Table names take one pair of back-quotes around schema
and table together; a column takes its own pair, and so does the table qualifying it; function
names are bare.  The pseudo-columns are written without quotes, and dialects that spell the
current date and time with a blank replace the underscore.
-/

namespace SqlSyntax

/-- Back-quotes around a name. -/
def quoted (s : String) : String := "`" ++ s ++ "`"

/-- Writes `` `schema.table` ``: schema and table inside one pair of back-quotes. -/
def TableName.emit (t : TableName) : Emission :=
  quoted ((match t.schema with | some s => s ++ "." | none => "") ++ t.table)

/-- Writes ``[`schema`.]name``: the function name itself is bare. -/
def FunctionName.emit (f : FunctionName) : Emission :=
  (match f.schema with | some s => quoted s ++ "." | none => "") ++ f.name

/-- How a pseudo-column is spelled in a dialect: with a blank for the underscore where the
dialect writes `CURRENT DATE`. -/
def ColumnName.pseudoSpelling (d : Dialect) (column : String) : String :=
  if d.traits.spacedCurrent then column.map (fun c => if c == '_' then ' ' else c) else column

/-- Writes ``[`table`.]`column` ``, or the bare pseudo-column. -/
def ColumnName.emit (d : Dialect) (c : ColumnName) : Emission :=
  (match c.table with | some t => quoted t ++ "." | none => "") ++
    (if c.isPseudo then ColumnName.pseudoSpelling d c.column else quoted c.column)

/-- Writes `AS name`. -/
def Alias.emit (a : Alias) : Emission := "AS " ++ a.name

/-- Writes `AS a, b, c`. -/
def MultiAlias.emit (a : MultiAlias) : Emission := "AS " ++ ", ".intercalate a.names

/-- Writes `name=value`. -/
def ConfigString.emit (c : ConfigString) : Emission := c.name ++ "=" ++ c.value

/-- Writes `[SIGNED ]TYPE[ (p, q)]`. -/
def CastType.emit (d : Dialect) (t : CastType) : Emission :=
  Emission.when t.signed "SIGNED " ++ Emission.keyword d t.dataType ++
    Emission.after " " (t.params.map fun ps => "(" ++ ", ".intercalate (ps.map toString) ++ ")")

/-- Writes `UNBOUNDED PRECEDING`, `3 FOLLOWING`, `CURRENT ROW` and so on. -/
def FrameBound.emit (d : Dialect) (b : FrameBound) : Emission :=
  let distance : String :=
    match b with
    | .unboundedPreceding | .unboundedFollowing => "UNBOUNDED "
    | .preceding n | .following n => toString n ++ " "
    | .currentRow => ""
  distance ++ Emission.keyword d b.direction

/-- Writes `ROWS BETWEEN start AND finish`. -/
def Frame.emit (d : Dialect) (f : Frame) : Emission :=
  "ROWS BETWEEN " ++ f.start.emit d ++ " AND " ++ f.finish.emit d

/-- Writes `LIMIT offset, count`, the offset 0 when absent. -/
def Limit.emit (l : Limit) : Emission :=
  "LIMIT " ++ toString (l.offset.getD 0) ++ ", " ++ toString l.count

end SqlSyntax
