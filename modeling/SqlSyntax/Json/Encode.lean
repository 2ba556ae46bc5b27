import SqlSyntax.Json.Variant
import SqlSyntax.Tree

/-!
# Writing trees as JSON

The writers that match the readers of `SqlSyntax.Json.Decode`: every field is written, an
absent optional one as `null`, in the order of the structure's fields.  The writers of
expressions and queries recurse structurally, with a list helper beside each type that
occurs in lists.
-/

namespace SqlSyntax

open JsonValue

/-! ## Leaves -/

/-- Writes `{schema, table}`. -/
def TableName.toJson (t : TableName) : JsonValue :=
  .object [("schema", option .string t.schema), ("table", .string t.table)]

/-- Writes `{schema, name}`. -/
def FunctionName.toJson (f : FunctionName) : JsonValue :=
  .object [("schema", option .string f.schema), ("name", .string f.name)]

/-- Writes `{table, column}`. -/
def ColumnName.toJson (c : ColumnName) : JsonValue :=
  .object [("table", option .string c.table), ("column", .string c.column)]

/-- Writes `{name}`. -/
def Alias.toJson (a : Alias) : JsonValue := .object [("name", .string a.name)]

/-- Writes `{names}`. -/
def MultiAlias.toJson (a : MultiAlias) : JsonValue := .object [("names", list .string a.names)]

/-- Writes `{name, value}`. -/
def ConfigString.toJson (c : ConfigString) : JsonValue :=
  .object [("name", .string c.name), ("value", .string c.value)]

/-- Writes `{signed, data_type, params}`. -/
def CastType.toJson (t : CastType) : JsonValue :=
  .object [("signed", .bool t.signed), ("data_type", VariantNames.write t.dataType),
    ("params", option (list nat) t.params)]

/-- Writes `{text}`. -/
def Literal.toJson (l : Literal) : JsonValue := .object [("text", .string l.text)]

/-- Writes a frame bound. -/
def FrameBound.toJson : FrameBound → JsonValue
  | .unboundedPreceding => .string "UnboundedPreceding"
  | .preceding n => tag "Preceding" (nat n)
  | .currentRow => .string "CurrentRow"
  | .following n => tag "Following" (nat n)
  | .unboundedFollowing => .string "UnboundedFollowing"

/-- Writes `{from, to}`. -/
def Frame.toJson (f : Frame) : JsonValue :=
  .object [("from", f.start.toJson), ("to", f.finish.toJson)]

/-- Writes `{limit, offset}`. -/
def Limit.toJson (l : Limit) : JsonValue :=
  .object [("limit", nat l.count), ("offset", option nat l.offset)]

/-- Writes `{dialect, indent, max_depth}`, the dialect by its variant name. -/
def RenderOptions.toJson (o : RenderOptions) : JsonValue :=
  .object [("dialect", VariantNames.write o.dialect), ("indent", nat o.indent),
    ("max_depth", nat o.maxDepth)]

/-! ## Expressions and queries -/

mutual

/-- Writes an expression, tagged with its variant. -/
def Expr.toJson : Expr → JsonValue
  | .column c => tag "Column" c.toJson
  | .literal l => tag "Literal" l.toJson
  | .wildcard t => tag "Wildcard" (.object [("table", option .string t)])
  | .call f => tag "Function" f.toJson
  | .window w => tag "Window" w.toJson
  | .searchedCase arms otherwise =>
      tag "CaseCondition" (.object [("cases", .array (CaseArm.toJsonList arms)),
        ("else_value", Expr.toJsonOpt otherwise)])
  | .simpleCase subject arms otherwise =>
      tag "CaseValue" (.object [("value", subject.toJson), ("cases", .array (CaseArm.toJsonList arms)),
        ("else_value", Expr.toJsonOpt otherwise)])
  | .subquery q => tag "SubQuery" (.object [("statement", q.toJson)])
  | .tuple items => tag "SubValue" (.object [("values", .array (Expr.toJsonList items))])
  | .subscript a i => tag "Index" (.object [("array", a.toJson), ("index", i.toJson)])
  | .unary op e =>
      tag "Unary" (.object [("operator", VariantNames.write op), ("expression", e.toJson)])
  | .compute l op r =>
      tag "Compute" (.object [("left", l.toJson), ("operator", VariantNames.write op),
        ("right", r.toJson)])
  | .condition k negated l r =>
      tag "KeywordCondition" (.object [("keyword", VariantNames.write k), ("negated", .bool negated),
        ("left", l.toJson), ("right", r.toJson)])
  | .between negated v low high =>
      tag "Between" (.object [("negated", .bool negated), ("value", v.toJson), ("from", low.toJson),
        ("to", high.toJson)])
  | .exists negated v => tag "Exists" (.object [("negated", .bool negated), ("value", v.toJson)])
  | .compare l op r =>
      tag "Comparison" (.object [("left", l.toJson), ("operator", VariantNames.write op),
        ("right", r.toJson)])
  | .not e => tag "Not" e.toJson
  | .and l r => tag "And" (.object [("left", l.toJson), ("right", r.toJson)])
  | .xor l r => tag "Xor" (.object [("left", l.toJson), ("right", r.toJson)])
  | .or l r => tag "Or" (.object [("left", l.toJson), ("right", r.toJson)])

/-- Writes each expression of a list. -/
def Expr.toJsonList : List Expr → List JsonValue
  | [] => []
  | e :: es => e.toJson :: Expr.toJsonList es

/-- Writes an optional expression. -/
def Expr.toJsonOpt : Option Expr → JsonValue
  | none => .null
  | some e => e.toJson

/-- Writes optional `{columns}` with expressions. -/
def Expr.columnsToJsonOpt : Option (List Expr) → JsonValue
  | none => .null
  | some es => .object [("columns", .array (Expr.toJsonList es))]

/-- Writes optional `{condition}`. -/
def Expr.conditionToJsonOpt : Option Expr → JsonValue
  | none => .null
  | some e => .object [("condition", e.toJson)]

/-- Writes each grouping set of a list. -/
def Expr.setsToJsonList : List (List Expr) → List JsonValue
  | [] => []
  | s :: ss => .array (Expr.toJsonList s) :: Expr.setsToJsonList ss

/-- Writes optional `{sets}`. -/
def Expr.setsToJsonOpt : Option (List (List Expr)) → JsonValue
  | none => .null
  | some ss => .object [("sets", .array (Expr.setsToJsonList ss))]

/-- Writes a call, tagged with its variant. -/
def Call.toJson : Call → JsonValue
  | .normal name args =>
      tag "Normal" (.object [("name", name.toJson), ("params", .array (Expr.toJsonList args))])
  | .aggregate name args distinct =>
      tag "Aggregate" (.object [("name", name.toJson), ("params", .array (Expr.toJsonList args)),
        ("distinct", .bool distinct)])
  | .cast e t => tag "Cast" (.object [("expression", e.toJson), ("cast_type", t.toJson)])
  | .extract unit e => tag "Extract" (.object [("unit", unit.toJson), ("expression", e.toJson)])

/-- Writes `{function, partition_by, order_by, frame}`. -/
def WindowCall.toJson : WindowCall → JsonValue
  | ⟨f, ps, os, fr⟩ =>
      .object [("function", f.toJson), ("partition_by", .array (Expr.toJsonList ps)),
        ("order_by", .array (SortKey.toJsonList os)), ("frame", option Frame.toJson fr)]

/-- Writes `{when, then}`. -/
def CaseArm.toJson : CaseArm → JsonValue
  | ⟨t, r⟩ => .object [("when", t.toJson), ("then", r.toJson)]

/-- Writes each arm of a list. -/
def CaseArm.toJsonList : List CaseArm → List JsonValue
  | [] => []
  | a :: as => a.toJson :: CaseArm.toJsonList as

/-- Writes `{column, order, nulls_first, nulls_last}`. -/
def SortKey.toJson : SortKey → JsonValue
  | ⟨k, o, f, l⟩ =>
      .object [("column", k.toJson), ("order", VariantNames.write o), ("nulls_first", .bool f),
        ("nulls_last", .bool l)]

/-- Writes each sort key of a list. -/
def SortKey.toJsonList : List SortKey → List JsonValue
  | [] => []
  | k :: ks => k.toJson :: SortKey.toJsonList ks

/-- Writes optional `{columns}` with sort keys. -/
def SortKey.clauseToJsonOpt : Option (List SortKey) → JsonValue
  | none => .null
  | some ks => .object [("columns", .array (SortKey.toJsonList ks))]

/-- Writes a query, tagged `Single` or `Union`. -/
def Query.toJson : Query → JsonValue
  | .single s => tag "Single" s.toJson
  | .compound c => tag "Union" c.toJson

/-- Writes `{name, statement}`. -/
def CommonTable.toJson : CommonTable → JsonValue
  | ⟨n, q⟩ => .object [("name", .string n), ("statement", q.toJson)]

/-- Writes each named query of a list. -/
def CommonTable.toJsonList : List CommonTable → List JsonValue
  | [] => []
  | t :: ts => t.toJson :: CommonTable.toJsonList ts

/-- Writes an optional `WITH` clause `{tables}`. -/
def CommonTable.clauseToJsonOpt : Option (List CommonTable) → JsonValue
  | none => .null
  | some ts => .object [("tables", .array (CommonTable.toJsonList ts))]

/-- Writes `{value, alias}`. -/
def SelectItem.toJson : SelectItem → JsonValue
  | ⟨v, a⟩ => .object [("value", v.toJson), ("alias", option Alias.toJson a)]

/-- Writes each item of a list. -/
def SelectItem.toJsonList : List SelectItem → List JsonValue
  | [] => []
  | i :: is => i.toJson :: SelectItem.toJsonList is

/-- Writes `{distinct, columns}`. -/
def SelectClause.toJson : SelectClause → JsonValue
  | ⟨d, is⟩ => .object [("distinct", .bool d), ("columns", .array (SelectItem.toJsonList is))]

/-- Writes a table source, tagged `Table` or `SubQuery`. -/
def TableSource.toJson : TableSource → JsonValue
  | .table t => tag "Table" t.toJson
  | .subquery q => tag "SubQuery" (.object [("statement", q.toJson)])

/-- Writes `{source, alias}`. -/
def FromItem.toJson : FromItem → JsonValue
  | ⟨s, a⟩ => .object [("source", s.toJson), ("alias", option Alias.toJson a)]

/-- Writes each item of a list. -/
def FromItem.toJsonList : List FromItem → List JsonValue
  | [] => []
  | i :: is => i.toJson :: FromItem.toJsonList is

/-- Writes an optional `FROM` clause `{tables}`. -/
def FromItem.clauseToJsonOpt : Option (List FromItem) → JsonValue
  | none => .null
  | some is => .object [("tables", .array (FromItem.toJsonList is))]

/-- Writes `{outer, function, view_name, alias}`. -/
def LateralView.toJson : LateralView → JsonValue
  | ⟨o, f, n, a⟩ =>
      .object [("outer", .bool o), ("function", f.toJson), ("view_name", .string n), ("alias", a.toJson)]

/-- Writes each lateral view of a list. -/
def LateralView.toJsonList : List LateralView → List JsonValue
  | [] => []
  | v :: vs => v.toJson :: LateralView.toJsonList vs

/-- Writes a join rule, tagged `On` or `Using`. -/
def JoinRule.toJson : JoinRule → JsonValue
  | .on c => tag "On" c.toJson
  | .using f => tag "Using" f.toJson

/-- Writes an optional join rule. -/
def JoinRule.toJsonOpt : Option JoinRule → JsonValue
  | none => .null
  | some r => r.toJson

/-- Writes `{join_type, table, rule}`. -/
def Join.toJson : Join → JsonValue
  | ⟨k, t, r⟩ =>
      .object [("join_type", VariantNames.write k), ("table", t.toJson), ("rule", JoinRule.toJsonOpt r)]

/-- Writes each join of a list. -/
def Join.toJsonList : List Join → List JsonValue
  | [] => []
  | j :: js => j.toJson :: Join.toJsonList js

/-- Writes `{columns, grouping_sets, with_cube, with_rollup}`. -/
def GroupBy.toJson : GroupBy → JsonValue
  | ⟨cs, ss, c, r⟩ =>
      .object [("columns", .array (Expr.toJsonList cs)), ("grouping_sets", Expr.setsToJsonOpt ss),
        ("with_cube", .bool c), ("with_rollup", .bool r)]

/-- Writes an optional `GROUP BY` clause. -/
def GroupBy.toJsonOpt : Option GroupBy → JsonValue
  | none => .null
  | some g => g.toJson

/-- Writes a single `SELECT` with all its clauses. -/
def Select.toJson : Select → JsonValue
  | ⟨w, s, f, lv, j, wh, g, h, o, so, d, c, l⟩ =>
      .object [("with_clause", CommonTable.clauseToJsonOpt w), ("select_clause", s.toJson),
        ("from_clause", FromItem.clauseToJsonOpt f),
        ("lateral_view_clauses", .array (LateralView.toJsonList lv)),
        ("join_clauses", .array (Join.toJsonList j)), ("where_clause", Expr.conditionToJsonOpt wh),
        ("group_by_clause", GroupBy.toJsonOpt g), ("having_clause", Expr.conditionToJsonOpt h),
        ("order_by_clause", SortKey.clauseToJsonOpt o), ("sort_by_clause", SortKey.clauseToJsonOpt so),
        ("distribute_by_clause", Expr.columnsToJsonOpt d), ("cluster_by_clause", Expr.columnsToJsonOpt c),
        ("limit_clause", option Limit.toJson l)]

/-- Writes `{union_type, select}`. -/
def Branch.toJson : Branch → JsonValue
  | ⟨o, s⟩ => .object [("union_type", VariantNames.write o), ("select", s.toJson)]

/-- Writes each branch of a list. -/
def Branch.toJsonList : List Branch → List JsonValue
  | [] => []
  | b :: bs => b.toJson :: Branch.toJsonList bs

/-- Writes `{with_clause, head, tail}`. -/
def Compound.toJson : Compound → JsonValue
  | ⟨w, h, t⟩ =>
      .object [("with_clause", CommonTable.clauseToJsonOpt w), ("head", h.toJson),
        ("tail", .array (Branch.toJsonList t))]

end

/-! ## Parts written on their own -/

/-- Writes `{name, params}`, an ordinary call without its tag. -/
def Call.normalToJson (name : FunctionName) (args : List Expr) : JsonValue :=
  .object [("name", name.toJson), ("params", .array (Expr.toJsonList args))]

/-- Writes `{left, right}`, the operands of a binary logical operator. -/
def Expr.operandsToJson (l r : Expr) : JsonValue := .object [("left", l.toJson), ("right", r.toJson)]

/-- Writes `{statement}`, a subquery. -/
def Query.subqueryToJson (q : Query) : JsonValue := .object [("statement", q.toJson)]

/-- Writes a `WITH` clause `{tables}`. -/
def CommonTable.clauseToJson (ts : List CommonTable) : JsonValue :=
  CommonTable.clauseToJsonOpt (some ts)

/-- Writes a `FROM` clause `{tables}`. -/
def FromItem.clauseToJson (is : List FromItem) : JsonValue := FromItem.clauseToJsonOpt (some is)

/-- Writes `{condition}`. -/
def Expr.conditionToJson (e : Expr) : JsonValue := Expr.conditionToJsonOpt (some e)

/-- Writes `{columns}` with sort keys. -/
def SortKey.clauseToJson (ks : List SortKey) : JsonValue := SortKey.clauseToJsonOpt (some ks)

/-- Writes `{columns}` with expressions. -/
def Expr.columnsToJson (es : List Expr) : JsonValue := Expr.columnsToJsonOpt (some es)

/-- Writes `{sets}`. -/
def Expr.setsToJson (ss : List (List Expr)) : JsonValue := Expr.setsToJsonOpt (some ss)

end SqlSyntax
