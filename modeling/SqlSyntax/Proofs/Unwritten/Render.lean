import SqlSyntax.Proofs.Unwritten

/-!
# Unwritten fields do not change a render

Every renderer gives the same emission for a tree and for the tree with the fields its
dialect does not write forgotten (`Expr.emit_forget`, ..., `Node.emit_forget`).  The proof is
one induction over the renderers of expressions and queries and one lemma per statement
renderer; the cases that read a dialect split on whether the dialect writes the field, and
forgetting keeps everything else a renderer looks at: tiers of operands and the emptiness of
lists.

Main statement: `Node.render_eq_of_forget_eq`, two nodes that differ only in fields the
dialect does not write render alike, text and fault.
-/

namespace SqlSyntax

/-! ## Which dialect writes what -/

namespace Dialect

lemma distribution_eq_true_iff (d : Dialect) : d.traits.distribution = true ↔ d = .hive := by
  cases d <;> decide

lemma narrowTypeParams_eq_true_iff (d : Dialect) :
    d.traits.narrowTypeParams = true ↔ d = .hive := by
  cases d <;> decide

lemma columnAttributes_eq_true_iff (d : Dialect) :
    d.traits.columnAttributes = true ↔ d = .mysql := by
  cases d <;> decide

lemma tableLayout_eq (d : Dialect) :
    d.traits.tableLayout =
      if d = .mysql then some .keyed else if d = .hive then some .partitioned else none := by
  cases d <;> rfl

lemma analyze_eq (d : Dialect) :
    d.traits.analyze = if d = .hive then .statistics else if d = .mysql then .bare else .absent := by
  cases d <;> rfl

end Dialect

/-! ## Forgetting keeps what renderers look at -/

@[simp] lemma Expr.tier_forget (d : Dialect) (e : Expr) : (e.forget d).tier = e.tier := by
  cases e with
  | subscript a i =>
    simp only [Expr.forget]
    split <;> rfl
  | _ => rfl

@[simp] lemma Expr.isEmpty_forgetEach (d : Dialect) (es : List Expr) :
    (Expr.forgetEach d es).isEmpty = es.isEmpty := by
  cases es <;> rfl

lemma SortKey.forgetOptEach_eq_map (d : Dialect) (ks : Option (List SortKey)) :
    SortKey.forgetOptEach d ks = ks.map (SortKey.forgetEach d) := by
  cases ks <;> rfl

@[simp] lemma SortKey.isEmpty_forgetEach (d : Dialect) (ks : List SortKey) :
    (SortKey.forgetEach d ks).isEmpty = ks.isEmpty := by
  cases ks <;> rfl

section Forget

open Emission

variable (o : RenderOptions)

attribute [local simp] List.map_map Option.map_map Function.comp_def

mutual

/-- An expression renders as the expression with the parts its dialect does not write
forgotten. -/
theorem Expr.emit_forget : ∀ (b : Nat) (e : Expr), (e.forget o.dialect).emit o b = e.emit o b
  | 0, _ => by simp [Expr.emit]
  | _ + 1, .column _ | _ + 1, .literal _ | _ + 1, .wildcard _ => rfl
  | b + 1, .call f => by simp [Expr.forget, Expr.emit, Call.emit_forget b f]
  | b + 1, .window w => by simp [Expr.forget, Expr.emit, WindowCall.emit_forget b w]
  | b + 1, .searchedCase arms e => by
    simp [Expr.forget, Expr.emit, CaseArm.emitEach_forget b arms, Expr.emitOpt_forget b e]
  | b + 1, .simpleCase s arms e => by
    simp [Expr.forget, Expr.emit, Expr.emit_forget b s, CaseArm.emitEach_forget b arms,
      Expr.emitOpt_forget b e]
  | b + 1, .subquery q => by simp [Expr.forget, Expr.emit, Query.emit_forget b q]
  | b + 1, .tuple items => by simp [Expr.forget, Expr.emit, Expr.emitEach_forget b items]
  | b + 1, .subscript a i => by
    -- outside Hive both subscripts are refused before their parts are written
    by_cases h : o.dialect = .hive
    · have hs : o.dialect.traits.subscripts = true := (Dialect.subscripts_eq_true_iff _).mpr h
      simp [Expr.forget, if_pos h, Expr.emit, hs, Expr.emit_forget b a, Expr.emit_forget b i]
    · have hs : o.dialect.traits.subscripts = false :=
        Bool.eq_false_iff.mpr (mt (Dialect.subscripts_eq_true_iff _).mp h)
      simp [Expr.forget, if_neg h, Expr.emit, hs]
  | b + 1, .unary _ x | b + 1, .exists _ x | b + 1, .not x => by
    simp [Expr.forget, Expr.emit, Expr.emit_forget b x]
  | b + 1, .compute l _ r | b + 1, .condition _ _ l r | b + 1, .compare l _ r
  | b + 1, .and l r | b + 1, .xor l r | b + 1, .or l r => by
    simp [Expr.forget, Expr.emit, Expr.emit_forget b l, Expr.emit_forget b r]
  | b + 1, .between _ v low high => by
    simp [Expr.forget, Expr.emit, Expr.emit_forget b v, Expr.emit_forget b low,
      Expr.emit_forget b high]

theorem Expr.emitEach_forget (b : Nat) : ∀ (es : List Expr),
    Expr.emitEach o b (Expr.forgetEach o.dialect es) = Expr.emitEach o b es
  | [] => rfl
  | e :: es => by
    simp [Expr.forgetEach, Expr.emitEach, Expr.emit_forget b e, Expr.emitEach_forget b es]

theorem Expr.emitOpt_forget (b : Nat) : ∀ (e : Option Expr),
    Expr.emitOpt o b (Expr.forgetOpt o.dialect e) = Expr.emitOpt o b e
  | none => rfl
  | some e => by simp [Expr.forgetOpt, Expr.emitOpt, Expr.emit_forget b e]

theorem Expr.emitOptEach_forget (b : Nat) : ∀ (es : Option (List Expr)),
    Expr.emitOptEach o b (Expr.forgetOptEach o.dialect es) = Expr.emitOptEach o b es
  | none => rfl
  | some es => by simp [Expr.forgetOptEach, Expr.emitOptEach, Expr.emitEach_forget b es]

theorem Expr.emitSets_forget (b : Nat) : ∀ (ss : List (List Expr)),
    Expr.emitSets o b (Expr.forgetSets o.dialect ss) = Expr.emitSets o b ss
  | [] => rfl
  | s :: ss => by
    simp [Expr.forgetSets, Expr.emitSets, Expr.emitEach_forget b s, Expr.emitSets_forget b ss]

theorem Expr.emitOptSets_forget (b : Nat) : ∀ (ss : Option (List (List Expr))),
    Expr.emitOptSets o b (Expr.forgetOptSets o.dialect ss) = Expr.emitOptSets o b ss
  | none => rfl
  | some ss => by simp [Expr.forgetOptSets, Expr.emitOptSets, Expr.emitSets_forget b ss]

theorem Call.emit_forget (b : Nat) : ∀ (c : Call), (c.forget o.dialect).emit o b = c.emit o b
  | .normal _ args | .aggregate _ args _ => by
    simp [Call.forget, Call.emit, Expr.emitEach_forget b args]
  | .cast e _ => by simp [Call.forget, Call.emit, Expr.emit_forget b e]
  | .extract unit e => by
    simp [Call.forget, Call.emit, Expr.emit_forget b unit, Expr.emit_forget b e]

theorem WindowCall.emit_forget (b : Nat) : ∀ (w : WindowCall),
    (w.forget o.dialect).emit o b = w.emit o b
  | { function, partitionBy, orderBy, frame } => by
    simp [WindowCall.forget, WindowCall.emit, Expr.emit_forget b function,
      Expr.emitEach_forget b partitionBy, SortKey.emitEach_forget b orderBy]

theorem CaseArm.emit_forget (b : Nat) : ∀ (a : CaseArm), (a.forget o.dialect).emit o b = a.emit o b
  | { test, result } => by
    simp [CaseArm.forget, CaseArm.emit, Expr.emit_forget b test, Expr.emit_forget b result]

theorem CaseArm.emitEach_forget (b : Nat) : ∀ (arms : List CaseArm),
    CaseArm.emitEach o b (CaseArm.forgetEach o.dialect arms) = CaseArm.emitEach o b arms
  | [] => rfl
  | a :: arms => by
    simp [CaseArm.forgetEach, CaseArm.emitEach, CaseArm.emit_forget b a,
      CaseArm.emitEach_forget b arms]

theorem SortKey.emit_forget (b : Nat) : ∀ (k : SortKey), (k.forget o.dialect).emit o b = k.emit o b
  | { key, order, nullsFirst, nullsLast } => by
    simp [SortKey.forget, SortKey.emit, Expr.emit_forget b key]

theorem SortKey.emitEach_forget (b : Nat) : ∀ (keys : List SortKey),
    SortKey.emitEach o b (SortKey.forgetEach o.dialect keys) = SortKey.emitEach o b keys
  | [] => rfl
  | k :: keys => by
    simp [SortKey.forgetEach, SortKey.emitEach, SortKey.emit_forget b k,
      SortKey.emitEach_forget b keys]

theorem SortKey.emitOptEach_forget (b : Nat) : ∀ (keys : Option (List SortKey)),
    SortKey.emitOptEach o b (SortKey.forgetOptEach o.dialect keys) = SortKey.emitOptEach o b keys
  | none => rfl
  | some keys => by
    simp [SortKey.forgetOptEach, SortKey.emitOptEach, SortKey.emitEach_forget b keys]

/-- A query renders as the query with the parts its dialect does not write forgotten. -/
theorem Query.emit_forget : ∀ (b : Nat) (q : Query), (q.forget o.dialect).emit o b = q.emit o b
  | 0, _ => by simp [Query.emit]
  | b + 1, .single s => by simp [Query.forget, Query.emit, Select.emit_forget b s]
  | b + 1, .compound c => by simp [Query.forget, Query.emit, Compound.emit_forget b c]

theorem CommonTable.emit_forget (b : Nat) : ∀ (t : CommonTable),
    (t.forget o.dialect).emit o b = t.emit o b
  | { name, query } => by
    simp [CommonTable.forget, CommonTable.emit, Query.emit_forget b query]

theorem CommonTable.emitEach_forget (b : Nat) : ∀ (ts : List CommonTable),
    CommonTable.emitEach o b (CommonTable.forgetEach o.dialect ts) = CommonTable.emitEach o b ts
  | [] => rfl
  | t :: ts => by
    simp [CommonTable.forgetEach, CommonTable.emitEach, CommonTable.emit_forget b t,
      CommonTable.emitEach_forget b ts]

theorem CommonTable.emitOptEach_forget (b : Nat) : ∀ (ts : Option (List CommonTable)),
    CommonTable.emitOptEach o b (CommonTable.forgetOptEach o.dialect ts) =
      CommonTable.emitOptEach o b ts
  | none => rfl
  | some ts => by
    simp [CommonTable.forgetOptEach, CommonTable.emitOptEach, CommonTable.emitEach_forget b ts]

theorem SelectItem.emit_forget (b : Nat) : ∀ (i : SelectItem),
    (i.forget o.dialect).emit o b = i.emit o b
  | { value, label } => by simp [SelectItem.forget, SelectItem.emit, Expr.emit_forget b value]

theorem SelectItem.emitEach_forget (b : Nat) : ∀ (is : List SelectItem),
    SelectItem.emitEach o b (SelectItem.forgetEach o.dialect is) = SelectItem.emitEach o b is
  | [] => rfl
  | i :: is => by
    simp [SelectItem.forgetEach, SelectItem.emitEach, SelectItem.emit_forget b i,
      SelectItem.emitEach_forget b is]

theorem SelectClause.emit_forget (b : Nat) : ∀ (c : SelectClause),
    (c.forget o.dialect).emit o b = c.emit o b
  | { distinct, items } => by
    simp [SelectClause.forget, SelectClause.emit, SelectItem.emitEach_forget b items]

theorem TableSource.emit_forget (b : Nat) : ∀ (s : TableSource),
    (s.forget o.dialect).emit o b = s.emit o b
  | .table _ => rfl
  | .subquery q => by simp [TableSource.forget, TableSource.emit, Query.emit_forget b q]

theorem FromItem.emit_forget (b : Nat) : ∀ (i : FromItem), (i.forget o.dialect).emit o b = i.emit o b
  | { source, label } => by
    simp [FromItem.forget, FromItem.emit, TableSource.emit_forget b source]

theorem FromItem.emitEach_forget (b : Nat) : ∀ (is : List FromItem),
    FromItem.emitEach o b (FromItem.forgetEach o.dialect is) = FromItem.emitEach o b is
  | [] => rfl
  | i :: is => by
    simp [FromItem.forgetEach, FromItem.emitEach, FromItem.emit_forget b i,
      FromItem.emitEach_forget b is]

theorem FromItem.emitOptEach_forget (b : Nat) : ∀ (is : Option (List FromItem)),
    FromItem.emitOptEach o b (FromItem.forgetOptEach o.dialect is) = FromItem.emitOptEach o b is
  | none => rfl
  | some is => by
    simp [FromItem.forgetOptEach, FromItem.emitOptEach, FromItem.emitEach_forget b is]

theorem LateralView.emit_forget (b : Nat) : ∀ (v : LateralView),
    (v.forget o.dialect).emit o b = v.emit o b
  | { outer, function, viewName, labels } => by
    simp [LateralView.forget, LateralView.emit, Call.emit_forget b function]

theorem LateralView.emitEach_forget (b : Nat) : ∀ (vs : List LateralView),
    LateralView.emitEach o b (LateralView.forgetEach o.dialect vs) = LateralView.emitEach o b vs
  | [] => rfl
  | v :: vs => by
    simp [LateralView.forgetEach, LateralView.emitEach, LateralView.emit_forget b v,
      LateralView.emitEach_forget b vs]

theorem JoinRule.emit_forget (b : Nat) : ∀ (r : JoinRule), (r.forget o.dialect).emit o b = r.emit o b
  | .on c => by simp [JoinRule.forget, JoinRule.emit, Expr.emit_forget b c]
  | .using f => by simp [JoinRule.forget, JoinRule.emit, Call.emit_forget b f]

theorem JoinRule.emitOpt_forget (b : Nat) : ∀ (r : Option JoinRule),
    JoinRule.emitOpt o b (JoinRule.forgetOpt o.dialect r) = JoinRule.emitOpt o b r
  | none => rfl
  | some r => by simp [JoinRule.forgetOpt, JoinRule.emitOpt, JoinRule.emit_forget b r]

theorem Join.emit_forget (b : Nat) : ∀ (j : Join), (j.forget o.dialect).emit o b = j.emit o b
  | { kind, table, rule } => by
    simp [Join.forget, Join.emit, FromItem.emit_forget b table, JoinRule.emitOpt_forget b rule]

theorem Join.emitEach_forget (b : Nat) : ∀ (js : List Join),
    Join.emitEach o b (Join.forgetEach o.dialect js) = Join.emitEach o b js
  | [] => rfl
  | j :: js => by
    simp [Join.forgetEach, Join.emitEach, Join.emit_forget b j, Join.emitEach_forget b js]

theorem GroupBy.emit_forget (b : Nat) : ∀ (g : GroupBy), (g.forget o.dialect).emit o b = g.emit o b
  | { columns, groupingSets, withCube, withRollup } => by
    simp [GroupBy.forget, GroupBy.emit, Expr.emitEach_forget b columns,
      Expr.emitOptSets_forget b groupingSets]

theorem GroupBy.emitOpt_forget (b : Nat) : ∀ (g : Option GroupBy),
    GroupBy.emitOpt o b (GroupBy.forgetOpt o.dialect g) = GroupBy.emitOpt o b g
  | none => rfl
  | some g => by simp [GroupBy.forgetOpt, GroupBy.emitOpt, GroupBy.emit_forget b g]

/-- A `SELECT` renders as the `SELECT` with the parts its dialect does not write forgotten:
outside Hive the distribution clauses are not written at all. -/
theorem Select.emit_forget (b : Nat) : ∀ (s : Select), (s.forget o.dialect).emit o b = s.emit o b
  | { withTables, selectClause, fromTables, lateralViews, joins, filter, groupBy, having,
      orderBy, sortBy, distributeBy, clusterBy, limit } => by
    simp only [Select.forget, Select.emit, CommonTable.emitOptEach_forget b withTables,
      SelectClause.emit_forget b selectClause, FromItem.emitOptEach_forget b fromTables,
      LateralView.emitEach_forget b lateralViews, Join.emitEach_forget b joins,
      Expr.emitOpt_forget b filter, GroupBy.emitOpt_forget b groupBy,
      Expr.emitOpt_forget b having, SortKey.emitOptEach_forget b orderBy]
    by_cases h : o.dialect = .hive
    · simp only [if_pos h, SortKey.emitOptEach_forget b sortBy,
        Expr.emitOptEach_forget b distributeBy, Expr.emitOptEach_forget b clusterBy]
    · have hd : o.dialect.traits.distribution = false :=
        Bool.eq_false_iff.mpr (mt (Dialect.distribution_eq_true_iff _).mp h)
      simp [hd, Emission.when]

theorem Branch.emit_forget (b : Nat) : ∀ (r : Branch), (r.forget o.dialect).emit o b = r.emit o b
  | { op, select } => by simp [Branch.forget, Branch.emit, Select.emit_forget b select]

theorem Branch.emitEach_forget (b : Nat) : ∀ (rs : List Branch),
    Branch.emitEach o b (Branch.forgetEach o.dialect rs) = Branch.emitEach o b rs
  | [] => rfl
  | r :: rs => by
    simp [Branch.forgetEach, Branch.emitEach, Branch.emit_forget b r, Branch.emitEach_forget b rs]

theorem Compound.emit_forget (b : Nat) : ∀ (c : Compound),
    (c.forget o.dialect).emit o b = c.emit o b
  | { withTables, head, tail } => by
    simp [Compound.forget, Compound.emit, CommonTable.emitOptEach_forget b withTables,
      Select.emit_forget b head, Branch.emitEach_forget b tail]

end

/-! ## Statements and table definitions -/

attribute [local simp] Expr.emit_forget Expr.emitEach_forget Expr.emitSets_forget
  SortKey.emitOptEach_forget SortKey.emitEach_forget SortKey.emit_forget Call.emit_forget
  WindowCall.emit_forget CaseArm.emit_forget Query.emit_forget CommonTable.emit_forget
  CommonTable.emitEach_forget CommonTable.emitOptEach_forget SelectItem.emit_forget
  SelectClause.emit_forget TableSource.emit_forget FromItem.emit_forget FromItem.emitEach_forget
  LateralView.emit_forget JoinRule.emit_forget Join.emit_forget GroupBy.emit_forget
  Select.emit_forget Compound.emit_forget

variable (b : Nat)

/-- A column type renders as the type with the parameters its dialect does not write
forgotten. -/
theorem ColumnType.emit_forget (t : ColumnType) : (t.forget o.dialect).emit o b = t.emit o b := by
  rcases t with ⟨name, _ | ps⟩
  · simp [ColumnType.forget, ColumnType.emit]
  · -- the parameters are forgotten exactly where the dialect's layout leaves them out
    have hiff := Dialect.narrowTypeParams_eq_true_iff o.dialect
    cases hn : o.dialect.traits.narrowTypeParams <;>
      cases hk : ColumnType.parameterised.any (fun n => name.map Char.toUpper == n) <;>
      rw [hn] at hiff <;>
      simp [ColumnType.forget, ColumnType.emit, ColumnType.keepsParams, hn, hk, ← hiff]

theorem GeneratedColumn.emit_forget (g : GeneratedColumn) :
    (g.forget o.dialect).emit o b = g.emit o b := by
  simp [GeneratedColumn.forget, GeneratedColumn.emit]

/-- A column renders as the column with the attributes its dialect does not write
forgotten. -/
theorem ColumnDef.emit_forget (c : ColumnDef) : (c.forget o.dialect).emit o b = c.emit o b := by
  by_cases h : o.dialect = .mysql
  · have ha : o.dialect.traits.columnAttributes = true :=
      (Dialect.columnAttributes_eq_true_iff _).mpr h
    simp [ColumnDef.forget, if_pos h, ColumnDef.emit, ha, ColumnType.emit_forget,
      GeneratedColumn.emit_forget]
  · have ha : o.dialect.traits.columnAttributes = false :=
      Bool.eq_false_iff.mpr (mt (Dialect.columnAttributes_eq_true_iff _).mp h)
    simp [ColumnDef.forget, if_neg h, ColumnDef.emit, ha, ColumnType.emit_forget, Emission.when]

theorem AlterTarget.emit_forget (t : AlterTarget) : (t.forget o.dialect).emit o b = t.emit o b := by
  cases t <;> simp [AlterTarget.forget, AlterTarget.emit, ColumnDef.emit_forget]

theorem AlterAction.emit_forget (a : AlterAction) : (a.forget o.dialect).emit o b = a.emit o b := by
  cases a <;> simp [AlterAction.forget, AlterAction.emit, AlterTarget.emit_forget]

theorem AlterTable.emit_forget (s : AlterTable) : (s.forget o.dialect).emit o b = s.emit o b := by
  simp [AlterTable.forget, AlterTable.emit, AlterAction.emit_forget]

/-- A table definition renders as the definition with what its dialect does not write
forgotten: the layout of the dialect reads only the fields it writes. -/
theorem CreateTable.emit_forget (s : CreateTable) : (s.forget o.dialect).emit o b = s.emit o b := by
  by_cases hm : o.dialect = .mysql
  · simp [CreateTable.forget, if_pos hm, CreateTable.emit, Dialect.tableLayout_eq,
      CreateTable.emitKeyed, CreateTable.keyedEntries, CreateTable.title, ColumnDef.emit_forget]
  · by_cases hh : o.dialect = .hive
    · simp [CreateTable.forget, if_neg hm, if_pos hh, CreateTable.emit, Dialect.tableLayout_eq,
        CreateTable.emitPartitioned, CreateTable.title, ColumnDef.emit_forget]
    · simp [if_neg hm, if_neg hh, CreateTable.emit, Dialect.tableLayout_eq]

theorem CreateTableAs.emit_forget (s : CreateTableAs) :
    (s.forget o.dialect).emit o b = s.emit o b := by
  simp [CreateTableAs.forget, CreateTableAs.emit]

theorem InsertSource.emit_forget (s : InsertSource) : (s.forget o.dialect).emit o b = s.emit o b := by
  cases s <;> simp [InsertSource.forget, InsertSource.emit]

theorem Insert.emit_forget (s : Insert) : (s.forget o.dialect).emit o b = s.emit o b := by
  simp [Insert.forget, Insert.emit, InsertSource.emit_forget]

/-- An `ANALYZE TABLE` renders as the statement with what its dialect does not write
forgotten. -/
theorem Analyze.emit_forget (s : Analyze) : (s.forget o.dialect).emit o b = s.emit o b := by
  by_cases hh : o.dialect = .hive
  · simp [Analyze.forget, if_pos hh, Analyze.emit, Dialect.analyze_eq]
  · by_cases hm : o.dialect = .mysql
    · simp [Analyze.forget, if_neg hh, if_pos hm, Analyze.emit, Dialect.analyze_eq]
    · simp [if_neg hh, if_neg hm, Analyze.emit, Dialect.analyze_eq]

theorem Assignment.emit_forget (a : Assignment) : (a.forget o.dialect).emit o b = a.emit o b := by
  simp [Assignment.forget, Assignment.emit]

theorem Assignment.emitSet_forget (as : List Assignment) :
    Assignment.emitSet o b (as.map (Assignment.forget o.dialect)) = Assignment.emitSet o b as := by
  simp [Assignment.emitSet, Assignment.emit_forget]

theorem Update.emit_forget (s : Update) : (s.forget o.dialect).emit o b = s.emit o b := by
  simp [Update.forget, Update.emit, Clause.tail, Assignment.emitSet_forget,
    SortKey.forgetOptEach_eq_map]

theorem Delete.emit_forget (s : Delete) : (s.forget o.dialect).emit o b = s.emit o b := by
  simp [Delete.forget, Delete.emit, Clause.tail, SortKey.forgetOptEach_eq_map]

theorem ShowColumns.emit_forget (s : ShowColumns) : (s.forget o.dialect).emit o b = s.emit o b := by
  simp [ShowColumns.forget, ShowColumns.emit]

/-- A statement renders as the statement with every field its dialect does not write
forgotten. -/
theorem Statement.emit_forget (s : Statement) : (s.forget o.dialect).emit o b = s.emit o b := by
  cases s <;>
    simp [Statement.forget, Statement.emit, Insert.emit_forget, CreateTable.emit_forget,
      CreateTableAs.emit_forget, AlterTable.emit_forget, Analyze.emit_forget, Update.emit_forget,
      Delete.emit_forget, ShowColumns.emit_forget]

/-- Any node renders as the node with every field its dialect does not write forgotten. -/
theorem Node.emit_forget (n : Node) : (n.forget o.dialect).emit o b = n.emit o b := by
  cases n <;>
    simp [Node.forget, Node.emit, Expr.emitBody, Query.emitParens, Statement.emit_forget,
      Insert.emit_forget, CreateTable.emit_forget, CreateTableAs.emit_forget,
      AlterTable.emit_forget, AlterAction.emit_forget, AlterTarget.emit_forget,
      ColumnDef.emit_forget, GeneratedColumn.emit_forget, ColumnType.emit_forget,
      Analyze.emit_forget, Update.emit_forget, Assignment.emitSet_forget, Assignment.emit_forget,
      Delete.emit_forget, ShowColumns.emit_forget]

end Forget

/-! ## Renders -/

/-- Two nodes that differ only in fields the dialect of the options does not write, at any
depth, render alike: the same text, or the same fault. -/
theorem Node.render_eq_of_forget_eq (o : RenderOptions) {n n' : Node}
    (h : n.forget o.dialect = n'.forget o.dialect) : n.render o = n'.render o := by
  rw [Node.render, Node.render, ← Node.emit_forget o o.maxDepth n, h, Node.emit_forget]

/-- In Hive a column's default value is not written, so a column with an ill-tiered default
renders as the same column without one. -/
theorem render_column_ignores_default :
    (Node.columnDef
        { name := "a"
          columnType := { name := "INT" }
          defaultValue := some (Expr.compute (Expr.or (Expr.column ⟨none, "x"⟩)
            (Expr.column ⟨none, "y"⟩)) ComputeOp.plus (Expr.literal ⟨"1"⟩)) }).render
        { dialect := .hive } =
      (Node.columnDef { name := "a", columnType := { name := "INT" } }).render
        { dialect := .hive } :=
  Node.render_eq_of_forget_eq { dialect := .hive } rfl

end SqlSyntax
