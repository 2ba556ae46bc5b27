import SqlSyntax.Render.Node
import SqlSyntax.Proofs.Checks

/-!
# The depth limit only names the depth fault

Every renderer takes the options and the budget of levels left.  Of the options, the depth
limit is read in one place only: the fault a render stops at when the budget runs out names the
limit.  The text, every other fault, and the point where a render stops depend on the budget
alone.  So rendering with another limit and the same budget renames the depth fault and
changes nothing else (`Node.emit_withMaxDepth`, for every renderable node).

This is what makes a render independent of where it happens: a writer `k` levels deep under
the limit `m` renders a node with the budget `m - k`, exactly as a fresh writer under the limit
`m - k` does, up to the limit its depth fault names.

The proof is one induction over all renderers of expressions and queries, and one lemma per
statement renderer above them.  Each case pushes the renaming through the emission
combinators (`Emission.mapFault_append` and its siblings) and the clause layouts
(`Clause.mapFault_fromList`, ...), and meets the other side at the renamed children.
-/

namespace SqlSyntax

/-- The fault, with the limit it names replaced by `m` if it is the depth fault. -/
def SqlError.relimit (m : Nat) : SqlError → SqlError
  | .tooDeep _ => .tooDeep m
  | f => f

namespace SqlError

@[simp] lemma relimit_tooDeep (m l : Nat) : relimit m (.tooDeep l) = .tooDeep m := rfl

@[simp] lemma relimit_unsupportedFeature (m : Nat) (s : String) (d : Dialect) :
    relimit m (.unsupportedFeature s d) = .unsupportedFeature s d := rfl

@[simp] lemma relimit_unrenderable (m : Nat) (s : String) (d : Dialect) :
    relimit m (.unrenderable s d) = .unrenderable s d := rfl

@[simp] lemma relimit_looseOperand (m : Nat) (t p : Tier) :
    relimit m (.looseOperand t p) = .looseOperand t p := rfl

@[simp] lemma relimit_relimit (m m' : Nat) (f : SqlError) :
    relimit m (relimit m' f) = relimit m f := by
  cases f <;> rfl

end SqlError

namespace Emission

/-- A keyword's fault is no depth fault. -/
@[simp] lemma mapFault_relimit_keyword {α : Type} [Keyword α] (m : Nat) (d : Dialect) (k : α) :
    (keyword d k).mapFault (SqlError.relimit m) = keyword d k :=
  mapFault_keyword _ d k rfl

/-- An operand's own fault is no depth fault. -/
@[simp] lemma mapFault_relimit_operand (m : Nat) (p t : Tier) (body : Emission) :
    (operand p t body).mapFault (SqlError.relimit m) =
      operand p t (body.mapFault (SqlError.relimit m)) :=
  mapFault_operand _ p t body rfl

end Emission

namespace RenderOptions

@[simp] lemma dialect_withMaxDepth (o : RenderOptions) (m : Nat) :
    (o.withMaxDepth m).dialect = o.dialect := rfl

@[simp] lemma indent_withMaxDepth (o : RenderOptions) (m : Nat) :
    (o.withMaxDepth m).indent = o.indent := rfl

@[simp] lemma maxDepth_withMaxDepth (o : RenderOptions) (m : Nat) :
    (o.withMaxDepth m).maxDepth = m := rfl

@[simp] lemma withMaxDepth_maxDepth (o : RenderOptions) : o.withMaxDepth o.maxDepth = o := rfl

end RenderOptions

/-! ## Renaming faults through the clause layouts -/

namespace Clause

variable (g : SqlError → SqlError)

@[simp] lemma mapFault_fromList (es : List Emission) :
    (fromList es).mapFault g = fromList (es.map (Emission.mapFault g)) := by
  simp [fromList]

@[simp] lemma mapFault_whereCond (e : Emission) :
    (whereCond e).mapFault g = whereCond (e.mapFault g) := by
  simp [whereCond]

@[simp] lemma mapFault_havingCond (e : Emission) :
    (havingCond e).mapFault g = havingCond (e.mapFault g) := by
  simp [havingCond]

@[simp] lemma mapFault_orderBy (es : List Emission) :
    (orderBy es).mapFault g = orderBy (es.map (Emission.mapFault g)) := by
  simp [orderBy]

@[simp] lemma mapFault_sortBy (es : List Emission) :
    (sortBy es).mapFault g = sortBy (es.map (Emission.mapFault g)) := by
  simp [sortBy]

@[simp] lemma mapFault_distributeBy (es : List Emission) :
    (distributeBy es).mapFault g = distributeBy (es.map (Emission.mapFault g)) := by
  simp [distributeBy]

@[simp] lemma mapFault_clusterBy (es : List Emission) :
    (clusterBy es).mapFault g = clusterBy (es.map (Emission.mapFault g)) := by
  simp [clusterBy]

@[simp] lemma mapFault_withList (es : List Emission) :
    (withList es).mapFault g = withList (es.map (Emission.mapFault g)) := by
  cases es <;> simp [withList, List.map_cons]

@[simp] lemma mapFault_withPrefix (sep : String) (es : List Emission) :
    (withPrefix sep es).mapFault g = withPrefix sep (es.map (Emission.mapFault g)) := by
  cases es with
  | nil => rfl
  | cons e es => simp [withPrefix]

@[simp] lemma mapFault_groupingSets (es : List Emission) :
    (groupingSets es).mapFault g = groupingSets (es.map (Emission.mapFault g)) := by
  simp [groupingSets]

@[simp] lemma mapFault_groupingSet (es : List Emission) :
    (groupingSet es).mapFault g = groupingSet (es.map (Emission.mapFault g)) := by
  match es with
  | [] => simp [groupingSet]
  | [e] => rfl
  | e :: e' :: es => simp [groupingSet]

@[simp] lemma mapFault_partition (es : List Emission) :
    (partition es).mapFault g = partition (es.map (Emission.mapFault g)) := by
  simp [partition]

@[simp] lemma mapFault_row (es : List Emission) :
    (row es).mapFault g = row (es.map (Emission.mapFault g)) := by
  simp [row]

end Clause

/-! ## Leaves never fail

Names, aliases, frames and the other leaves write text only, so a renaming of faults leaves
them as they are. -/

section Leaves

open Emission

variable (g : SqlError → SqlError)

@[simp] lemma TableName.mapFault_emit (t : TableName) : t.emit.mapFault g = t.emit :=
  mapFault_of_ok g rfl

@[simp] lemma FunctionName.mapFault_emit (f : FunctionName) : f.emit.mapFault g = f.emit :=
  mapFault_of_ok g (FunctionName.ok_emit f)

@[simp] lemma ColumnName.mapFault_emit (d : Dialect) (c : ColumnName) :
    (c.emit d).mapFault g = c.emit d :=
  mapFault_of_ok g (ColumnName.ok_emit d c)

@[simp] lemma CastType.mapFault_emit (d : Dialect) (t : CastType) :
    (t.emit d).mapFault g = t.emit d :=
  mapFault_of_ok g (CastType.ok_emit d t)

@[simp] lemma FrameBound.mapFault_emit (d : Dialect) (fb : FrameBound) :
    (fb.emit d).mapFault g = fb.emit d :=
  mapFault_of_ok g (by cases fb <;> rfl)

@[simp] lemma Frame.mapFault_emit (d : Dialect) (f : Frame) : (f.emit d).mapFault g = f.emit d :=
  mapFault_of_ok g (Frame.ok_emit d f)

@[simp] lemma Alias.mapFault_emit (a : Alias) : a.emit.mapFault g = a.emit := mapFault_of_ok g rfl

@[simp] lemma MultiAlias.mapFault_emit (a : MultiAlias) : a.emit.mapFault g = a.emit :=
  mapFault_of_ok g rfl

@[simp] lemma ConfigString.mapFault_emit (c : ConfigString) : c.emit.mapFault g = c.emit :=
  mapFault_of_ok g rfl

@[simp] lemma Limit.mapFault_emit (l : Limit) : l.emit.mapFault g = l.emit := mapFault_of_ok g rfl

@[simp] lemma Alias.mapFault_emitAfter (a : Option Alias) :
    (Alias.emitAfter a).mapFault g = Alias.emitAfter a :=
  mapFault_of_ok g (by cases a <;> rfl)

@[simp] lemma IndexColumn.mapFault_emit (c : IndexColumn) : c.emit.mapFault g = c.emit :=
  mapFault_of_ok g (by rcases c with ⟨_, _ | _⟩ <;> rfl)

@[simp] lemma IndexDecl.mapFault_emit (i : IndexDecl) : i.emit.mapFault g = i.emit :=
  mapFault_of_ok g (by
    simp [IndexDecl.emit, IndexColumn.emit, Emission.afterText, Option.all_eq_true])

@[simp] lemma ForeignKey.mapFault_emit (k : ForeignKey) : k.emit.mapFault g = k.emit :=
  mapFault_of_ok g (by simp [ForeignKey.emit, Emission.afterText, Option.all_eq_true])

end Leaves

section Relimit

open Emission

variable (o : RenderOptions) (m : Nat)

attribute [local simp] List.map_map Option.map_map Function.comp_def

mutual

/-- An expression rendered under another depth limit: the same emission, its depth fault
naming the other limit. -/
theorem Expr.emit_withMaxDepth : ∀ (b : Nat) (e : Expr),
    e.emit (o.withMaxDepth m) b = (e.emit o b).mapFault (SqlError.relimit m)
  | 0, _ => by simp [Expr.emit]
  | _ + 1, .column _ | _ + 1, .literal _ => by simp [Expr.emit]
  | _ + 1, .wildcard t => by cases t <;> simp [Expr.emit]
  | b + 1, .call f => by simp [Expr.emit, Call.emit_withMaxDepth b f]
  | b + 1, .window w => by simp [Expr.emit, WindowCall.emit_withMaxDepth b w]
  | b + 1, .searchedCase arms e => by
    simp [Expr.emit, CaseArm.emitEach_withMaxDepth b arms, Expr.emitOpt_withMaxDepth b e]
  | b + 1, .simpleCase s arms e => by
    simp [Expr.emit, Expr.emit_withMaxDepth b s, CaseArm.emitEach_withMaxDepth b arms,
      Expr.emitOpt_withMaxDepth b e]
  | b + 1, .subquery q => by simp [Expr.emit, Query.emit_withMaxDepth b q]
  | b + 1, .tuple items => by simp [Expr.emit, Expr.emitEach_withMaxDepth b items]
  | b + 1, .subscript a i => by
    simp [Expr.emit, Expr.emit_withMaxDepth b a, Expr.emit_withMaxDepth b i]
  | b + 1, .unary _ x | b + 1, .exists _ x | b + 1, .not x => by
    simp [Expr.emit, Expr.emit_withMaxDepth b x]
  | b + 1, .compute l _ r | b + 1, .condition _ _ l r | b + 1, .compare l _ r
  | b + 1, .and l r | b + 1, .xor l r | b + 1, .or l r => by
    simp [Expr.emit, Expr.emit_withMaxDepth b l, Expr.emit_withMaxDepth b r]
  | b + 1, .between _ v low high => by
    simp [Expr.emit, Expr.emit_withMaxDepth b v, Expr.emit_withMaxDepth b low,
      Expr.emit_withMaxDepth b high]

theorem Expr.emitEach_withMaxDepth (b : Nat) : ∀ (es : List Expr),
    Expr.emitEach (o.withMaxDepth m) b es = (Expr.emitEach o b es).map (mapFault (SqlError.relimit m))
  | [] => rfl
  | e :: es => by
    simp [Expr.emitEach, Expr.emit_withMaxDepth b e, Expr.emitEach_withMaxDepth b es]

theorem Expr.emitOpt_withMaxDepth (b : Nat) : ∀ (e : Option Expr),
    Expr.emitOpt (o.withMaxDepth m) b e = (Expr.emitOpt o b e).map (mapFault (SqlError.relimit m))
  | none => rfl
  | some e => by simp [Expr.emitOpt, Expr.emit_withMaxDepth b e]

theorem Expr.emitOptEach_withMaxDepth (b : Nat) : ∀ (es : Option (List Expr)),
    Expr.emitOptEach (o.withMaxDepth m) b es =
      (Expr.emitOptEach o b es).map (List.map (mapFault (SqlError.relimit m)))
  | none => rfl
  | some es => by simp [Expr.emitOptEach, Expr.emitEach_withMaxDepth b es]

theorem Expr.emitSets_withMaxDepth (b : Nat) : ∀ (ss : List (List Expr)),
    Expr.emitSets (o.withMaxDepth m) b ss = (Expr.emitSets o b ss).map (mapFault (SqlError.relimit m))
  | [] => rfl
  | s :: ss => by
    simp [Expr.emitSets, Expr.emitEach_withMaxDepth b s, Expr.emitSets_withMaxDepth b ss]

theorem Expr.emitOptSets_withMaxDepth (b : Nat) : ∀ (ss : Option (List (List Expr))),
    Expr.emitOptSets (o.withMaxDepth m) b ss =
      (Expr.emitOptSets o b ss).map (mapFault (SqlError.relimit m))
  | none => rfl
  | some ss => by simp [Expr.emitOptSets, Expr.emitSets_withMaxDepth b ss]

theorem Call.emit_withMaxDepth (b : Nat) : ∀ (c : Call),
    c.emit (o.withMaxDepth m) b = (c.emit o b).mapFault (SqlError.relimit m)
  | .normal _ args | .aggregate _ args _ => by
    simp [Call.emit, Expr.emitEach_withMaxDepth b args]
  | .cast e _ => by simp [Call.emit, Expr.emit_withMaxDepth b e]
  | .extract unit e => by
    simp [Call.emit, Expr.emit_withMaxDepth b unit, Expr.emit_withMaxDepth b e]

theorem WindowCall.emit_withMaxDepth (b : Nat) : ∀ (w : WindowCall),
    w.emit (o.withMaxDepth m) b = (w.emit o b).mapFault (SqlError.relimit m)
  | { function, partitionBy, orderBy, frame } => by
    have hf := Expr.emit_withMaxDepth b function
    have hp := Expr.emitEach_withMaxDepth b partitionBy
    have hk := SortKey.emitEach_withMaxDepth b orderBy
    -- the clauses inside `OVER (...)` are present or not by the shape of the lists
    cases partitionBy <;> cases orderBy <;> cases frame <;> simp_all [WindowCall.emit]

theorem CaseArm.emit_withMaxDepth (b : Nat) : ∀ (a : CaseArm),
    a.emit (o.withMaxDepth m) b = (a.emit o b).mapFault (SqlError.relimit m)
  | { test, result } => by
    simp [CaseArm.emit, Expr.emit_withMaxDepth b test, Expr.emit_withMaxDepth b result]

theorem CaseArm.emitEach_withMaxDepth (b : Nat) : ∀ (arms : List CaseArm),
    CaseArm.emitEach (o.withMaxDepth m) b arms =
      (CaseArm.emitEach o b arms).map (mapFault (SqlError.relimit m))
  | [] => rfl
  | a :: arms => by
    simp [CaseArm.emitEach, CaseArm.emit_withMaxDepth b a, CaseArm.emitEach_withMaxDepth b arms]

theorem SortKey.emit_withMaxDepth (b : Nat) : ∀ (k : SortKey),
    k.emit (o.withMaxDepth m) b = (k.emit o b).mapFault (SqlError.relimit m)
  | { key, order, nullsFirst, nullsLast } => by
    simp [SortKey.emit, Expr.emit_withMaxDepth b key]

theorem SortKey.emitEach_withMaxDepth (b : Nat) : ∀ (keys : List SortKey),
    SortKey.emitEach (o.withMaxDepth m) b keys =
      (SortKey.emitEach o b keys).map (mapFault (SqlError.relimit m))
  | [] => rfl
  | k :: keys => by
    simp [SortKey.emitEach, SortKey.emit_withMaxDepth b k, SortKey.emitEach_withMaxDepth b keys]

theorem SortKey.emitOptEach_withMaxDepth (b : Nat) : ∀ (keys : Option (List SortKey)),
    SortKey.emitOptEach (o.withMaxDepth m) b keys =
      (SortKey.emitOptEach o b keys).map (List.map (mapFault (SqlError.relimit m)))
  | none => rfl
  | some keys => by simp [SortKey.emitOptEach, SortKey.emitEach_withMaxDepth b keys]

/-- A query rendered under another depth limit: the same emission, its depth fault naming the
other limit. -/
theorem Query.emit_withMaxDepth : ∀ (b : Nat) (q : Query),
    q.emit (o.withMaxDepth m) b = (q.emit o b).mapFault (SqlError.relimit m)
  | 0, _ => by simp [Query.emit]
  | b + 1, .single s => by simp [Query.emit, Select.emit_withMaxDepth b s]
  | b + 1, .compound c => by simp [Query.emit, Compound.emit_withMaxDepth b c]

theorem CommonTable.emit_withMaxDepth (b : Nat) : ∀ (t : CommonTable),
    t.emit (o.withMaxDepth m) b = (t.emit o b).mapFault (SqlError.relimit m)
  | { name, query } => by simp [CommonTable.emit, Query.emit_withMaxDepth b query]

theorem CommonTable.emitEach_withMaxDepth (b : Nat) : ∀ (ts : List CommonTable),
    CommonTable.emitEach (o.withMaxDepth m) b ts =
      (CommonTable.emitEach o b ts).map (mapFault (SqlError.relimit m))
  | [] => rfl
  | t :: ts => by
    simp [CommonTable.emitEach, CommonTable.emit_withMaxDepth b t,
      CommonTable.emitEach_withMaxDepth b ts]

theorem CommonTable.emitOptEach_withMaxDepth (b : Nat) : ∀ (ts : Option (List CommonTable)),
    CommonTable.emitOptEach (o.withMaxDepth m) b ts =
      (CommonTable.emitOptEach o b ts).map (mapFault (SqlError.relimit m))
  | none => rfl
  | some ts => by simp [CommonTable.emitOptEach, CommonTable.emitEach_withMaxDepth b ts]

theorem SelectItem.emit_withMaxDepth (b : Nat) : ∀ (i : SelectItem),
    i.emit (o.withMaxDepth m) b = (i.emit o b).mapFault (SqlError.relimit m)
  | { value, label } => by simp [SelectItem.emit, Expr.emit_withMaxDepth b value]

theorem SelectItem.emitEach_withMaxDepth (b : Nat) : ∀ (is : List SelectItem),
    SelectItem.emitEach (o.withMaxDepth m) b is =
      (SelectItem.emitEach o b is).map (mapFault (SqlError.relimit m))
  | [] => rfl
  | i :: is => by
    simp [SelectItem.emitEach, SelectItem.emit_withMaxDepth b i,
      SelectItem.emitEach_withMaxDepth b is]

theorem SelectClause.emit_withMaxDepth (b : Nat) : ∀ (c : SelectClause),
    c.emit (o.withMaxDepth m) b = (c.emit o b).mapFault (SqlError.relimit m)
  | { distinct, items } => by
    simp [SelectClause.emit, SelectItem.emitEach_withMaxDepth b items]

theorem TableSource.emit_withMaxDepth (b : Nat) : ∀ (s : TableSource),
    s.emit (o.withMaxDepth m) b = (s.emit o b).mapFault (SqlError.relimit m)
  | .table _ => by simp [TableSource.emit]
  | .subquery q => by simp [TableSource.emit, Query.emit_withMaxDepth b q]

theorem FromItem.emit_withMaxDepth (b : Nat) : ∀ (i : FromItem),
    i.emit (o.withMaxDepth m) b = (i.emit o b).mapFault (SqlError.relimit m)
  | { source, label } => by simp [FromItem.emit, TableSource.emit_withMaxDepth b source]

theorem FromItem.emitEach_withMaxDepth (b : Nat) : ∀ (is : List FromItem),
    FromItem.emitEach (o.withMaxDepth m) b is =
      (FromItem.emitEach o b is).map (mapFault (SqlError.relimit m))
  | [] => rfl
  | i :: is => by
    simp [FromItem.emitEach, FromItem.emit_withMaxDepth b i, FromItem.emitEach_withMaxDepth b is]

theorem FromItem.emitOptEach_withMaxDepth (b : Nat) : ∀ (is : Option (List FromItem)),
    FromItem.emitOptEach (o.withMaxDepth m) b is =
      (FromItem.emitOptEach o b is).map (List.map (mapFault (SqlError.relimit m)))
  | none => rfl
  | some is => by simp [FromItem.emitOptEach, FromItem.emitEach_withMaxDepth b is]

theorem LateralView.emit_withMaxDepth (b : Nat) : ∀ (v : LateralView),
    v.emit (o.withMaxDepth m) b = (v.emit o b).mapFault (SqlError.relimit m)
  | { outer, function, viewName, labels } => by
    simp [LateralView.emit, Call.emit_withMaxDepth b function]

theorem LateralView.emitEach_withMaxDepth (b : Nat) : ∀ (vs : List LateralView),
    LateralView.emitEach (o.withMaxDepth m) b vs =
      (LateralView.emitEach o b vs).map (mapFault (SqlError.relimit m))
  | [] => rfl
  | v :: vs => by
    simp [LateralView.emitEach, LateralView.emit_withMaxDepth b v,
      LateralView.emitEach_withMaxDepth b vs]

theorem JoinRule.emit_withMaxDepth (b : Nat) : ∀ (r : JoinRule),
    r.emit (o.withMaxDepth m) b = (r.emit o b).mapFault (SqlError.relimit m)
  | .on c => by simp [JoinRule.emit, Expr.emit_withMaxDepth b c]
  | .using f => by simp [JoinRule.emit, Call.emit_withMaxDepth b f]

theorem JoinRule.emitOpt_withMaxDepth (b : Nat) : ∀ (r : Option JoinRule),
    JoinRule.emitOpt (o.withMaxDepth m) b r =
      (JoinRule.emitOpt o b r).map (mapFault (SqlError.relimit m))
  | none => rfl
  | some r => by simp [JoinRule.emitOpt, JoinRule.emit_withMaxDepth b r]

theorem Join.emit_withMaxDepth (b : Nat) : ∀ (j : Join),
    j.emit (o.withMaxDepth m) b = (j.emit o b).mapFault (SqlError.relimit m)
  | { kind, table, rule } => by
    simp [Join.emit, FromItem.emit_withMaxDepth b table, JoinRule.emitOpt_withMaxDepth b rule]

theorem Join.emitEach_withMaxDepth (b : Nat) : ∀ (js : List Join),
    Join.emitEach (o.withMaxDepth m) b js = (Join.emitEach o b js).map (mapFault (SqlError.relimit m))
  | [] => rfl
  | j :: js => by
    simp [Join.emitEach, Join.emit_withMaxDepth b j, Join.emitEach_withMaxDepth b js]

theorem GroupBy.emit_withMaxDepth (b : Nat) : ∀ (g : GroupBy),
    g.emit (o.withMaxDepth m) b = (g.emit o b).mapFault (SqlError.relimit m)
  | { columns, groupingSets, withCube, withRollup } => by
    simp [GroupBy.emit, Expr.emitEach_withMaxDepth b columns,
      Expr.emitOptSets_withMaxDepth b groupingSets]

theorem GroupBy.emitOpt_withMaxDepth (b : Nat) : ∀ (g : Option GroupBy),
    GroupBy.emitOpt (o.withMaxDepth m) b g =
      (GroupBy.emitOpt o b g).map (mapFault (SqlError.relimit m))
  | none => rfl
  | some g => by simp [GroupBy.emitOpt, GroupBy.emit_withMaxDepth b g]

theorem Select.emit_withMaxDepth (b : Nat) : ∀ (s : Select),
    s.emit (o.withMaxDepth m) b = (s.emit o b).mapFault (SqlError.relimit m)
  | { withTables, selectClause, fromTables, lateralViews, joins, filter, groupBy, having,
      orderBy, sortBy, distributeBy, clusterBy, limit } => by
    simp [Select.emit, CommonTable.emitOptEach_withMaxDepth b withTables,
      SelectClause.emit_withMaxDepth b selectClause, FromItem.emitOptEach_withMaxDepth b fromTables,
      LateralView.emitEach_withMaxDepth b lateralViews, Join.emitEach_withMaxDepth b joins,
      Expr.emitOpt_withMaxDepth b filter, GroupBy.emitOpt_withMaxDepth b groupBy,
      Expr.emitOpt_withMaxDepth b having, SortKey.emitOptEach_withMaxDepth b orderBy,
      SortKey.emitOptEach_withMaxDepth b sortBy, Expr.emitOptEach_withMaxDepth b distributeBy,
      Expr.emitOptEach_withMaxDepth b clusterBy]

theorem Branch.emit_withMaxDepth (b : Nat) : ∀ (r : Branch),
    r.emit (o.withMaxDepth m) b = (r.emit o b).mapFault (SqlError.relimit m)
  | { op, select } => by simp [Branch.emit, Select.emit_withMaxDepth b select]

theorem Branch.emitEach_withMaxDepth (b : Nat) : ∀ (rs : List Branch),
    Branch.emitEach (o.withMaxDepth m) b rs =
      (Branch.emitEach o b rs).map (mapFault (SqlError.relimit m))
  | [] => rfl
  | r :: rs => by
    simp [Branch.emitEach, Branch.emit_withMaxDepth b r, Branch.emitEach_withMaxDepth b rs]

theorem Compound.emit_withMaxDepth (b : Nat) : ∀ (c : Compound),
    c.emit (o.withMaxDepth m) b = (c.emit o b).mapFault (SqlError.relimit m)
  | { withTables, head, tail } => by
    simp [Compound.emit, CommonTable.emitOptEach_withMaxDepth b withTables,
      Select.emit_withMaxDepth b head, Branch.emitEach_withMaxDepth b tail]

end

/-! ## Statements and table definitions -/

attribute [local simp] Expr.emit_withMaxDepth Expr.emitEach_withMaxDepth Expr.emitSets_withMaxDepth
  SortKey.emit_withMaxDepth SortKey.emitEach_withMaxDepth Call.emit_withMaxDepth
  WindowCall.emit_withMaxDepth CaseArm.emit_withMaxDepth Query.emit_withMaxDepth
  CommonTable.emit_withMaxDepth CommonTable.emitEach_withMaxDepth
  CommonTable.emitOptEach_withMaxDepth SelectItem.emit_withMaxDepth SelectClause.emit_withMaxDepth
  TableSource.emit_withMaxDepth FromItem.emit_withMaxDepth FromItem.emitEach_withMaxDepth
  LateralView.emit_withMaxDepth JoinRule.emit_withMaxDepth Join.emit_withMaxDepth
  GroupBy.emit_withMaxDepth Select.emit_withMaxDepth Compound.emit_withMaxDepth
  Emission.afterText

variable (b : Nat)

theorem ColumnType.emit_withMaxDepth (t : ColumnType) :
    t.emit (o.withMaxDepth m) b = (t.emit o b).mapFault (SqlError.relimit m) := by
  rcases t with ⟨name, _ | ps⟩ <;> simp [ColumnType.emit]

theorem GeneratedColumn.emit_withMaxDepth (g : GeneratedColumn) :
    g.emit (o.withMaxDepth m) b = (g.emit o b).mapFault (SqlError.relimit m) := by
  simp [GeneratedColumn.emit]

theorem ColumnDef.emit_withMaxDepth (c : ColumnDef) :
    c.emit (o.withMaxDepth m) b = (c.emit o b).mapFault (SqlError.relimit m) := by
  -- the optional parts are rendered through partial applications; split them to apply them
  rcases c with ⟨name, type, unsigned, zerofill, charset, collate, _ | gen, nullable, notNull,
    autoIncrement, _ | dv, _ | ou, comment⟩ <;>
    simp [ColumnDef.emit, ColumnType.emit_withMaxDepth, GeneratedColumn.emit_withMaxDepth]

theorem AlterTarget.emit_withMaxDepth (t : AlterTarget) :
    t.emit (o.withMaxDepth m) b = (t.emit o b).mapFault (SqlError.relimit m) := by
  cases t <;> simp [AlterTarget.emit, ColumnDef.emit_withMaxDepth]

theorem AlterAction.emit_withMaxDepth (a : AlterAction) :
    a.emit (o.withMaxDepth m) b = (a.emit o b).mapFault (SqlError.relimit m) := by
  cases a <;> simp [AlterAction.emit, AlterTarget.emit_withMaxDepth]

theorem AlterTable.emit_withMaxDepth (s : AlterTable) :
    s.emit (o.withMaxDepth m) b = (s.emit o b).mapFault (SqlError.relimit m) := by
  simp [AlterTable.emit, AlterAction.emit_withMaxDepth]

theorem CreateTable.emit_withMaxDepth (s : CreateTable) :
    s.emit (o.withMaxDepth m) b = (s.emit o b).mapFault (SqlError.relimit m) := by
  cases h : o.dialect.traits.tableLayout with
  | none => simp [CreateTable.emit, h]
  | some l =>
    cases l <;>
      simp [CreateTable.emit, h, CreateTable.emitKeyed, CreateTable.emitPartitioned,
        CreateTable.keyedEntries, CreateTable.body, CreateTable.title, ColumnDef.emit_withMaxDepth]

theorem CreateTableAs.emit_withMaxDepth (s : CreateTableAs) :
    s.emit (o.withMaxDepth m) b = (s.emit o b).mapFault (SqlError.relimit m) := by
  simp [CreateTableAs.emit]

theorem InsertSource.emit_withMaxDepth (s : InsertSource) :
    s.emit (o.withMaxDepth m) b = (s.emit o b).mapFault (SqlError.relimit m) := by
  cases s <;> simp [InsertSource.emit]

theorem Insert.emit_withMaxDepth (s : Insert) :
    s.emit (o.withMaxDepth m) b = (s.emit o b).mapFault (SqlError.relimit m) := by
  simp [Insert.emit, InsertSource.emit_withMaxDepth]

theorem Analyze.emit_withMaxDepth (s : Analyze) :
    s.emit (o.withMaxDepth m) b = (s.emit o b).mapFault (SqlError.relimit m) := by
  cases h : o.dialect.traits.analyze <;> simp [Analyze.emit, h]

theorem Assignment.emit_withMaxDepth (a : Assignment) :
    a.emit (o.withMaxDepth m) b = (a.emit o b).mapFault (SqlError.relimit m) := by
  simp [Assignment.emit]

theorem Assignment.emitSet_withMaxDepth (as : List Assignment) :
    Assignment.emitSet (o.withMaxDepth m) b as =
      (Assignment.emitSet o b as).mapFault (SqlError.relimit m) := by
  simp [Assignment.emitSet, Assignment.emit_withMaxDepth]

theorem Clause.tail_withMaxDepth (filter : Option Expr) (orderBy : Option (List SortKey))
    (limit : Option Limit) :
    Clause.tail (o.withMaxDepth m) b filter orderBy limit =
      (Clause.tail o b filter orderBy limit).mapFault (SqlError.relimit m) := by
  simp [Clause.tail]

theorem Update.emit_withMaxDepth (s : Update) :
    s.emit (o.withMaxDepth m) b = (s.emit o b).mapFault (SqlError.relimit m) := by
  simp [Update.emit, Assignment.emitSet_withMaxDepth, Clause.tail_withMaxDepth]

theorem Delete.emit_withMaxDepth (s : Delete) :
    s.emit (o.withMaxDepth m) b = (s.emit o b).mapFault (SqlError.relimit m) := by
  simp [Delete.emit, Clause.tail_withMaxDepth]

theorem ShowColumns.emit_withMaxDepth (s : ShowColumns) :
    s.emit (o.withMaxDepth m) b = (s.emit o b).mapFault (SqlError.relimit m) := by
  simp [ShowColumns.emit]

lemma DropTable.mapFault_emit (g : SqlError → SqlError) (s : DropTable) :
    s.emit.mapFault g = s.emit := by
  simp [DropTable.emit]

/-- A statement rendered under another depth limit: the same emission, its depth fault naming
the other limit. -/
theorem Statement.emit_withMaxDepth (s : Statement) :
    s.emit (o.withMaxDepth m) b = (s.emit o b).mapFault (SqlError.relimit m) := by
  cases s <;>
    simp [Statement.emit, Insert.emit_withMaxDepth, CreateTable.emit_withMaxDepth,
      CreateTableAs.emit_withMaxDepth, DropTable.mapFault_emit, AlterTable.emit_withMaxDepth,
      Analyze.emit_withMaxDepth, Update.emit_withMaxDepth, Delete.emit_withMaxDepth,
      ShowColumns.emit_withMaxDepth]

/-- Any node rendered under another depth limit, with the same budget: the same text, the same
faults, except that a depth fault names the other limit. -/
theorem Node.emit_withMaxDepth (n : Node) :
    n.emit (o.withMaxDepth m) b = (n.emit o b).mapFault (SqlError.relimit m) := by
  cases n <;>
    simp [Node.emit, Expr.emitBody, Query.emitParens, Statement.emit_withMaxDepth,
      Insert.emit_withMaxDepth, CreateTable.emit_withMaxDepth, CreateTableAs.emit_withMaxDepth,
      DropTable.mapFault_emit, AlterTable.emit_withMaxDepth, AlterAction.emit_withMaxDepth,
      AlterTarget.emit_withMaxDepth, ColumnDef.emit_withMaxDepth, GeneratedColumn.emit_withMaxDepth,
      ColumnType.emit_withMaxDepth, Analyze.emit_withMaxDepth, Update.emit_withMaxDepth,
      Assignment.emitSet_withMaxDepth, Assignment.emit_withMaxDepth, Delete.emit_withMaxDepth,
      ShowColumns.emit_withMaxDepth]

/-- Every depth fault a render stops at names the limit of its options. -/
theorem Node.relimit_fault (n : Node) :
    (n.emit o b).fault.map (SqlError.relimit o.maxDepth) = (n.emit o b).fault := by
  have h := congrArg Emission.fault (Node.emit_withMaxDepth o o.maxDepth b n)
  simpa using h.symm

end Relimit

end SqlSyntax
