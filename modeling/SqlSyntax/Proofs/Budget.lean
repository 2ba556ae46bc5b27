import SqlSyntax.Render.Node
import SqlSyntax.Proofs.Emission

/-!
# More levels never change a finished render

A render spends one level of its budget on every expression and query it enters, and stops at
the depth fault when none is left.  With a larger budget it takes the same path: every check
other than the depth check gives the same answer, so the two renders write the same text and
stop at the same fault, unless the smaller budget runs out first (`Emission.Cut`).

The proof is one induction over the renderers of expressions and queries and one lemma per
statement renderer.  Each case is closed by `gcongr` through the combinator rules of `Cut`,
down to the children, which are the induction hypotheses; the clause layouts get rules of their
own here.

Main statement: `Node.emit_cut`.
-/

namespace SqlSyntax

open Emission

/-! ## Clause layouts keep the relation -/

namespace Clause

variable {m : Nat} {e e' : Emission} {es es' : List Emission}

@[gcongr] lemma fromList_cut (h : List.Forall₂ (Cut m) es es') :
    Cut m (fromList es) (fromList es') := by
  unfold fromList; gcongr

@[gcongr] lemma whereCond_cut (h : Cut m e e') : Cut m (whereCond e) (whereCond e') := by
  unfold whereCond; gcongr

@[gcongr] lemma havingCond_cut (h : Cut m e e') : Cut m (havingCond e) (havingCond e') := by
  unfold havingCond; gcongr

@[gcongr] lemma orderBy_cut (h : List.Forall₂ (Cut m) es es') :
    Cut m (orderBy es) (orderBy es') := by
  unfold orderBy; gcongr

@[gcongr] lemma sortBy_cut (h : List.Forall₂ (Cut m) es es') : Cut m (sortBy es) (sortBy es') := by
  unfold sortBy; gcongr

@[gcongr] lemma distributeBy_cut (h : List.Forall₂ (Cut m) es es') :
    Cut m (distributeBy es) (distributeBy es') := by
  unfold distributeBy; gcongr

@[gcongr] lemma clusterBy_cut (h : List.Forall₂ (Cut m) es es') :
    Cut m (clusterBy es) (clusterBy es') := by
  unfold clusterBy; gcongr

@[gcongr] lemma withList_cut (h : List.Forall₂ (Cut m) es es') :
    Cut m (withList es) (withList es') := by
  cases h with
  | nil => rfl
  | cons hd htl =>
    simp only [withList]
    gcongr

@[gcongr] lemma withPrefix_cut (sep : String) (h : List.Forall₂ (Cut m) es es') :
    Cut m (withPrefix sep es) (withPrefix sep es') := by
  cases h with
  | nil => rfl
  | cons hd htl =>
    simp only [withPrefix]
    gcongr

@[gcongr] lemma groupingSets_cut (h : List.Forall₂ (Cut m) es es') :
    Cut m (groupingSets es) (groupingSets es') := by
  unfold groupingSets; gcongr

@[gcongr] lemma groupingSet_cut (h : List.Forall₂ (Cut m) es es') :
    Cut m (groupingSet es) (groupingSet es') := by
  -- a single column stands bare, any other number of them in parentheses
  rcases h with _ | ⟨hd, _ | ⟨hd', htl⟩⟩
  · rfl
  · exact hd
  · simp only [groupingSet]
    gcongr

@[gcongr] lemma partition_cut (h : List.Forall₂ (Cut m) es es') :
    Cut m (partition es) (partition es') := by
  unfold partition; gcongr

@[gcongr] lemma row_cut (h : List.Forall₂ (Cut m) es es') : Cut m (row es) (row es') := by
  unfold row; gcongr

end Clause

/-! ## Expressions and queries -/

section Budget

variable (o : RenderOptions)

mutual

/-- An expression rendered with a larger budget: the same emission, unless the smaller budget
ran out. -/
theorem Expr.emit_cut : ∀ (b b' : Nat), b ≤ b' → ∀ e : Expr,
    Cut o.maxDepth (e.emit o b) (e.emit o b')
  | 0, _, _, _ => by
    simp only [Expr.emit]
    exact Cut.tooDeep _
  | _ + 1, 0, h, _ => absurd h (Nat.not_succ_le_zero _)
  | _ + 1, _ + 1, _, .column _ | _ + 1, _ + 1, _, .literal _ | _ + 1, _ + 1, _, .wildcard _ => by
    simp only [Expr.emit]
    rfl
  | b + 1, b' + 1, h, .call f => by
    simp only [Expr.emit]
    exact Call.emit_cut b b' (Nat.le_of_succ_le_succ h) f
  | b + 1, b' + 1, h, .window w => by
    simp only [Expr.emit]
    exact WindowCall.emit_cut b b' (Nat.le_of_succ_le_succ h) w
  | b + 1, b' + 1, h, .searchedCase arms e => by
    have hb := Nat.le_of_succ_le_succ h
    simp only [Expr.emit]
    gcongr
    exacts [CaseArm.emitEach_cut b b' hb arms, Expr.emitOpt_cut b b' hb e]
  | b + 1, b' + 1, h, .simpleCase s arms e => by
    have hb := Nat.le_of_succ_le_succ h
    simp only [Expr.emit]
    gcongr
    exacts [Expr.emit_cut b b' hb s, CaseArm.emitEach_cut b b' hb arms, Expr.emitOpt_cut b b' hb e]
  | b + 1, b' + 1, h, .subquery q => by
    simp only [Expr.emit]
    gcongr
    exact Query.emit_cut b b' (Nat.le_of_succ_le_succ h) q
  | b + 1, b' + 1, h, .tuple items => by
    simp only [Expr.emit]
    gcongr
    exact Expr.emitEach_cut b b' (Nat.le_of_succ_le_succ h) items
  | b + 1, b' + 1, h, .subscript a i => by
    have hb := Nat.le_of_succ_le_succ h
    simp only [Expr.emit]
    -- both renders ask the same dialect whether it has subscripts
    gcongr
    exacts [Expr.emit_cut b b' hb a, Expr.emit_cut b b' hb i]
  | b + 1, b' + 1, h, .unary _ x | b + 1, b' + 1, h, .exists _ x | b + 1, b' + 1, h, .not x => by
    simp only [Expr.emit]
    gcongr
    exact Expr.emit_cut b b' (Nat.le_of_succ_le_succ h) x
  | b + 1, b' + 1, h, .compute l _ r | b + 1, b' + 1, h, .condition _ _ l r
  | b + 1, b' + 1, h, .compare l _ r | b + 1, b' + 1, h, .and l r | b + 1, b' + 1, h, .xor l r
  | b + 1, b' + 1, h, .or l r => by
    have hb := Nat.le_of_succ_le_succ h
    simp only [Expr.emit]
    gcongr
    exacts [Expr.emit_cut b b' hb l, Expr.emit_cut b b' hb r]
  | b + 1, b' + 1, h, .between _ v low high => by
    have hb := Nat.le_of_succ_le_succ h
    simp only [Expr.emit]
    gcongr
    exacts [Expr.emit_cut b b' hb v, Expr.emit_cut b b' hb low, Expr.emit_cut b b' hb high]

theorem Expr.emitEach_cut (b b' : Nat) (h : b ≤ b') : ∀ es : List Expr,
    List.Forall₂ (Cut o.maxDepth) (Expr.emitEach o b es) (Expr.emitEach o b' es)
  | [] => .nil
  | e :: es => .cons (Expr.emit_cut b b' h e) (Expr.emitEach_cut b b' h es)

theorem Expr.emitOpt_cut (b b' : Nat) (h : b ≤ b') : ∀ e : Option Expr,
    Option.Rel (Cut o.maxDepth) (Expr.emitOpt o b e) (Expr.emitOpt o b' e)
  | none => .none
  | some e => .some (Expr.emit_cut b b' h e)

theorem Expr.emitOptEach_cut (b b' : Nat) (h : b ≤ b') : ∀ es : Option (List Expr),
    Option.Rel (List.Forall₂ (Cut o.maxDepth)) (Expr.emitOptEach o b es) (Expr.emitOptEach o b' es)
  | none => .none
  | some es => .some (Expr.emitEach_cut b b' h es)

theorem Expr.emitSets_cut (b b' : Nat) (h : b ≤ b') : ∀ ss : List (List Expr),
    List.Forall₂ (Cut o.maxDepth) (Expr.emitSets o b ss) (Expr.emitSets o b' ss)
  | [] => .nil
  | s :: ss => .cons (Clause.groupingSet_cut (Expr.emitEach_cut b b' h s)) (Expr.emitSets_cut b b' h ss)

theorem Expr.emitOptSets_cut (b b' : Nat) (h : b ≤ b') : ∀ ss : Option (List (List Expr)),
    Option.Rel (Cut o.maxDepth) (Expr.emitOptSets o b ss) (Expr.emitOptSets o b' ss)
  | none => .none
  | some ss => .some (Clause.groupingSets_cut (Expr.emitSets_cut b b' h ss))

theorem Call.emit_cut (b b' : Nat) (h : b ≤ b') : ∀ c : Call,
    Cut o.maxDepth (c.emit o b) (c.emit o b')
  | .normal _ args | .aggregate _ args _ => by
    simp only [Call.emit]
    gcongr
    exact Expr.emitEach_cut b b' h args
  | .cast e _ => by
    simp only [Call.emit]
    gcongr
    exact Expr.emit_cut b b' h e
  | .extract unit e => by
    simp only [Call.emit]
    gcongr
    exacts [Expr.emit_cut b b' h unit, Expr.emit_cut b b' h e]

theorem WindowCall.emit_cut (b b' : Nat) (h : b ≤ b') : ∀ w : WindowCall,
    Cut o.maxDepth (w.emit o b) (w.emit o b')
  | { function, partitionBy, orderBy, frame } => by
    simp only [WindowCall.emit]
    gcongr
    exacts [Expr.emit_cut b b' h function, Expr.emitEach_cut b b' h partitionBy,
      SortKey.emitEach_cut b b' h orderBy]

theorem CaseArm.emit_cut (b b' : Nat) (h : b ≤ b') : ∀ a : CaseArm,
    Cut o.maxDepth (a.emit o b) (a.emit o b')
  | { test, result } => by
    simp only [CaseArm.emit]
    gcongr
    exacts [Expr.emit_cut b b' h test, Expr.emit_cut b b' h result]

theorem CaseArm.emitEach_cut (b b' : Nat) (h : b ≤ b') : ∀ arms : List CaseArm,
    List.Forall₂ (Cut o.maxDepth) (CaseArm.emitEach o b arms) (CaseArm.emitEach o b' arms)
  | [] => .nil
  | a :: arms => .cons (CaseArm.emit_cut b b' h a) (CaseArm.emitEach_cut b b' h arms)

theorem SortKey.emit_cut (b b' : Nat) (h : b ≤ b') : ∀ k : SortKey,
    Cut o.maxDepth (k.emit o b) (k.emit o b')
  | { key, order, nullsFirst, nullsLast } => by
    simp only [SortKey.emit]
    gcongr
    exact Expr.emit_cut b b' h key

theorem SortKey.emitEach_cut (b b' : Nat) (h : b ≤ b') : ∀ keys : List SortKey,
    List.Forall₂ (Cut o.maxDepth) (SortKey.emitEach o b keys) (SortKey.emitEach o b' keys)
  | [] => .nil
  | k :: keys => .cons (SortKey.emit_cut b b' h k) (SortKey.emitEach_cut b b' h keys)

theorem SortKey.emitOptEach_cut (b b' : Nat) (h : b ≤ b') : ∀ keys : Option (List SortKey),
    Option.Rel (List.Forall₂ (Cut o.maxDepth)) (SortKey.emitOptEach o b keys)
      (SortKey.emitOptEach o b' keys)
  | none => .none
  | some keys => .some (SortKey.emitEach_cut b b' h keys)

/-- A query rendered with a larger budget: the same emission, unless the smaller budget ran
out. -/
theorem Query.emit_cut : ∀ (b b' : Nat), b ≤ b' → ∀ q : Query,
    Cut o.maxDepth (q.emit o b) (q.emit o b')
  | 0, _, _, _ => by
    simp only [Query.emit]
    exact Cut.tooDeep _
  | _ + 1, 0, h, _ => absurd h (Nat.not_succ_le_zero _)
  | b + 1, b' + 1, h, .single s => by
    simp only [Query.emit]
    exact Select.emit_cut b b' (Nat.le_of_succ_le_succ h) s
  | b + 1, b' + 1, h, .compound c => by
    simp only [Query.emit]
    exact Compound.emit_cut b b' (Nat.le_of_succ_le_succ h) c

theorem CommonTable.emit_cut (b b' : Nat) (h : b ≤ b') : ∀ t : CommonTable,
    Cut o.maxDepth (t.emit o b) (t.emit o b')
  | { name, query } => by
    simp only [CommonTable.emit]
    gcongr
    exact Query.emit_cut b b' h query

theorem CommonTable.emitEach_cut (b b' : Nat) (h : b ≤ b') : ∀ ts : List CommonTable,
    List.Forall₂ (Cut o.maxDepth) (CommonTable.emitEach o b ts) (CommonTable.emitEach o b' ts)
  | [] => .nil
  | t :: ts => .cons (CommonTable.emit_cut b b' h t) (CommonTable.emitEach_cut b b' h ts)

theorem CommonTable.emitOptEach_cut (b b' : Nat) (h : b ≤ b') : ∀ ts : Option (List CommonTable),
    List.Forall₂ (Cut o.maxDepth) (CommonTable.emitOptEach o b ts) (CommonTable.emitOptEach o b' ts)
  | none => .nil
  | some ts => CommonTable.emitEach_cut b b' h ts

theorem SelectItem.emit_cut (b b' : Nat) (h : b ≤ b') : ∀ i : SelectItem,
    Cut o.maxDepth (i.emit o b) (i.emit o b')
  | { value, label } => by
    simp only [SelectItem.emit]
    gcongr
    exact Expr.emit_cut b b' h value

theorem SelectItem.emitEach_cut (b b' : Nat) (h : b ≤ b') : ∀ is : List SelectItem,
    List.Forall₂ (Cut o.maxDepth) (SelectItem.emitEach o b is) (SelectItem.emitEach o b' is)
  | [] => .nil
  | i :: is => .cons (SelectItem.emit_cut b b' h i) (SelectItem.emitEach_cut b b' h is)

theorem SelectClause.emit_cut (b b' : Nat) (h : b ≤ b') : ∀ c : SelectClause,
    Cut o.maxDepth (c.emit o b) (c.emit o b')
  | { distinct, items } => by
    simp only [SelectClause.emit]
    gcongr
    exact SelectItem.emitEach_cut b b' h items

theorem TableSource.emit_cut (b b' : Nat) (h : b ≤ b') : ∀ s : TableSource,
    Cut o.maxDepth (s.emit o b) (s.emit o b')
  | .table _ => .refl _
  | .subquery q => by
    simp only [TableSource.emit]
    gcongr
    exact Query.emit_cut b b' h q

theorem FromItem.emit_cut (b b' : Nat) (h : b ≤ b') : ∀ i : FromItem,
    Cut o.maxDepth (i.emit o b) (i.emit o b')
  | { source, label } => by
    simp only [FromItem.emit]
    gcongr
    exact TableSource.emit_cut b b' h source

theorem FromItem.emitEach_cut (b b' : Nat) (h : b ≤ b') : ∀ is : List FromItem,
    List.Forall₂ (Cut o.maxDepth) (FromItem.emitEach o b is) (FromItem.emitEach o b' is)
  | [] => .nil
  | i :: is => .cons (FromItem.emit_cut b b' h i) (FromItem.emitEach_cut b b' h is)

theorem FromItem.emitOptEach_cut (b b' : Nat) (h : b ≤ b') : ∀ is : Option (List FromItem),
    Option.Rel (List.Forall₂ (Cut o.maxDepth)) (FromItem.emitOptEach o b is)
      (FromItem.emitOptEach o b' is)
  | none => .none
  | some is => .some (FromItem.emitEach_cut b b' h is)

theorem LateralView.emit_cut (b b' : Nat) (h : b ≤ b') : ∀ v : LateralView,
    Cut o.maxDepth (v.emit o b) (v.emit o b')
  | { outer, function, viewName, labels } => by
    simp only [LateralView.emit]
    gcongr
    exact Call.emit_cut b b' h function

theorem LateralView.emitEach_cut (b b' : Nat) (h : b ≤ b') : ∀ vs : List LateralView,
    List.Forall₂ (Cut o.maxDepth) (LateralView.emitEach o b vs) (LateralView.emitEach o b' vs)
  | [] => .nil
  | v :: vs => .cons (LateralView.emit_cut b b' h v) (LateralView.emitEach_cut b b' h vs)

theorem JoinRule.emit_cut (b b' : Nat) (h : b ≤ b') : ∀ r : JoinRule,
    Cut o.maxDepth (r.emit o b) (r.emit o b')
  | .on c => by
    simp only [JoinRule.emit]
    gcongr
    exact Expr.emit_cut b b' h c
  | .using f => by
    simp only [JoinRule.emit]
    exact Call.emit_cut b b' h f

theorem JoinRule.emitOpt_cut (b b' : Nat) (h : b ≤ b') : ∀ r : Option JoinRule,
    Option.Rel (Cut o.maxDepth) (JoinRule.emitOpt o b r) (JoinRule.emitOpt o b' r)
  | none => .none
  | some r => .some (JoinRule.emit_cut b b' h r)

theorem Join.emit_cut (b b' : Nat) (h : b ≤ b') : ∀ j : Join,
    Cut o.maxDepth (j.emit o b) (j.emit o b')
  | { kind, table, rule } => by
    simp only [Join.emit]
    gcongr
    exacts [FromItem.emit_cut b b' h table, JoinRule.emitOpt_cut b b' h rule]

theorem Join.emitEach_cut (b b' : Nat) (h : b ≤ b') : ∀ js : List Join,
    List.Forall₂ (Cut o.maxDepth) (Join.emitEach o b js) (Join.emitEach o b' js)
  | [] => .nil
  | j :: js => .cons (Join.emit_cut b b' h j) (Join.emitEach_cut b b' h js)

theorem GroupBy.emit_cut (b b' : Nat) (h : b ≤ b') : ∀ g : GroupBy,
    Cut o.maxDepth (g.emit o b) (g.emit o b')
  | { columns, groupingSets, withCube, withRollup } => by
    simp only [GroupBy.emit]
    gcongr
    exacts [Expr.emitEach_cut b b' h columns, Expr.emitOptSets_cut b b' h groupingSets]

theorem GroupBy.emitOpt_cut (b b' : Nat) (h : b ≤ b') : ∀ g : Option GroupBy,
    Option.Rel (Cut o.maxDepth) (GroupBy.emitOpt o b g) (GroupBy.emitOpt o b' g)
  | none => .none
  | some g => .some (GroupBy.emit_cut b b' h g)

theorem Select.emit_cut (b b' : Nat) (h : b ≤ b') : ∀ s : Select,
    Cut o.maxDepth (s.emit o b) (s.emit o b')
  | { withTables, selectClause, fromTables, lateralViews, joins, filter, groupBy, having,
      orderBy, sortBy, distributeBy, clusterBy, limit } => by
    simp only [Select.emit]
    gcongr
    -- the optional clauses are laid out by maps; each keeps the relation
    exacts [CommonTable.emitOptEach_cut b b' h withTables, SelectClause.emit_cut b b' h selectClause,
      Cut.rel_map (fun h => Clause.fromList_cut h) (FromItem.emitOptEach_cut b b' h fromTables),
      LateralView.emitEach_cut b b' h lateralViews, Join.emitEach_cut b b' h joins,
      Cut.rel_map (fun h => Clause.whereCond_cut h) (Expr.emitOpt_cut b b' h filter),
      GroupBy.emitOpt_cut b b' h groupBy,
      Cut.rel_map (fun h => Clause.havingCond_cut h) (Expr.emitOpt_cut b b' h having),
      Cut.rel_map (fun h => Clause.orderBy_cut h) (SortKey.emitOptEach_cut b b' h orderBy),
      Cut.rel_map (fun h => Clause.sortBy_cut h) (SortKey.emitOptEach_cut b b' h sortBy),
      Cut.rel_map (fun h => Clause.distributeBy_cut h) (Expr.emitOptEach_cut b b' h distributeBy),
      Cut.rel_map (fun h => Clause.clusterBy_cut h) (Expr.emitOptEach_cut b b' h clusterBy)]

theorem Branch.emit_cut (b b' : Nat) (h : b ≤ b') : ∀ r : Branch,
    Cut o.maxDepth (r.emit o b) (r.emit o b')
  | { op, select } => by
    simp only [Branch.emit]
    gcongr
    exact Select.emit_cut b b' h select

theorem Branch.emitEach_cut (b b' : Nat) (h : b ≤ b') : ∀ rs : List Branch,
    List.Forall₂ (Cut o.maxDepth) (Branch.emitEach o b rs) (Branch.emitEach o b' rs)
  | [] => .nil
  | r :: rs => .cons (Branch.emit_cut b b' h r) (Branch.emitEach_cut b b' h rs)

theorem Compound.emit_cut (b b' : Nat) (h : b ≤ b') : ∀ c : Compound,
    Cut o.maxDepth (c.emit o b) (c.emit o b')
  | { withTables, head, tail } => by
    simp only [Compound.emit]
    gcongr
    exacts [CommonTable.emitOptEach_cut b b' h withTables, Select.emit_cut b b' h head,
      Branch.emitEach_cut b b' h tail]

end

/-! ## Statements and table definitions -/

variable {b b' : Nat}

@[gcongr] lemma CreateTable.body_cut {m : Nat} (indent : Nat) {es es' : List Emission}
    (h : List.Forall₂ (Cut m) es es') :
    Cut m (CreateTable.body indent es) (CreateTable.body indent es') := by
  unfold CreateTable.body
  gcongr
  -- every entry keeps the relation behind its indent
  exact List.forall₂_map_left_iff.mpr (List.forall₂_map_right_iff.mpr
    (h.imp fun _ _ hc => Cut.append (.refl _) hc))

theorem ColumnType.emit_cut (h : b ≤ b') (t : ColumnType) :
    Cut o.maxDepth (t.emit o b) (t.emit o b') := by
  rcases t with ⟨name, _ | ps⟩
  · rfl
  · simp only [ColumnType.emit]
    gcongr
    exact Expr.emitEach_cut o b b' h ps

theorem GeneratedColumn.emit_cut (h : b ≤ b') (g : GeneratedColumn) :
    Cut o.maxDepth (g.emit o b) (g.emit o b') := by
  simp only [GeneratedColumn.emit]
  gcongr
  exact Expr.emit_cut o b b' h g.expr

theorem ColumnDef.emit_cut (h : b ≤ b') (c : ColumnDef) :
    Cut o.maxDepth (c.emit o b) (c.emit o b') := by
  simp only [ColumnDef.emit]
  gcongr with g e e
  exacts [ColumnType.emit_cut o h _, GeneratedColumn.emit_cut o h g, Expr.emit_cut o b b' h e,
    Expr.emit_cut o b b' h e]

theorem AlterTarget.emit_cut (h : b ≤ b') : ∀ t : AlterTarget,
    Cut o.maxDepth (t.emit o b) (t.emit o b')
  | .column c => ColumnDef.emit_cut o h c
  | .index _ | .foreignKey _ => .refl _

theorem AlterAction.emit_cut (h : b ≤ b') (a : AlterAction) :
    Cut o.maxDepth (a.emit o b) (a.emit o b') := by
  cases a with
  | addPartition _ p | dropPartition _ p =>
    simp only [AlterAction.emit]
    gcongr
    exact Expr.emitEach_cut o b b' h p
  | add t | modify t | change _ t =>
    simp only [AlterAction.emit]
    gcongr
    exact AlterTarget.emit_cut o h t
  | renameColumn _ _ | dropColumn _ => rfl

theorem AlterTable.emit_cut (h : b ≤ b') (s : AlterTable) :
    Cut o.maxDepth (s.emit o b) (s.emit o b') := by
  simp only [AlterTable.emit]
  gcongr with a
  exact AlterAction.emit_cut o h a

theorem CreateTable.emit_cut (h : b ≤ b') (s : CreateTable) :
    Cut o.maxDepth (s.emit o b) (s.emit o b') := by
  simp only [CreateTable.emit]
  split
  · simp only [CreateTable.emitKeyed, CreateTable.keyedEntries]
    gcongr with c
    exact ColumnDef.emit_cut o h c
  · simp only [CreateTable.emitPartitioned]
    gcongr with c c
    exacts [ColumnDef.emit_cut o h c, ColumnDef.emit_cut o h c]
  · rfl

theorem CreateTableAs.emit_cut (h : b ≤ b') (s : CreateTableAs) :
    Cut o.maxDepth (s.emit o b) (s.emit o b') := by
  simp only [CreateTableAs.emit]
  gcongr
  exact Query.emit_cut o b b' h s.query

theorem InsertSource.emit_cut (h : b ≤ b') : ∀ s : InsertSource,
    Cut o.maxDepth (s.emit o b) (s.emit o b')
  | .values rows => by
    simp only [InsertSource.emit]
    gcongr with r
    exact Expr.emitEach_cut o b b' h r
  | .query q => Query.emit_cut o b b' h q

theorem Insert.emit_cut (h : b ≤ b') (s : Insert) :
    Cut o.maxDepth (s.emit o b) (s.emit o b') := by
  simp only [Insert.emit]
  gcongr with p
  exacts [CommonTable.emitOptEach_cut o b b' h _, Expr.emitEach_cut o b b' h p,
    InsertSource.emit_cut o h _]

theorem Analyze.emit_cut (h : b ≤ b') (s : Analyze) :
    Cut o.maxDepth (s.emit o b) (s.emit o b') := by
  simp only [Analyze.emit]
  split
  · gcongr with p
    exact Expr.emitEach_cut o b b' h p
  · rfl
  · rfl

theorem Assignment.emit_cut (h : b ≤ b') (a : Assignment) :
    Cut o.maxDepth (a.emit o b) (a.emit o b') := by
  simp only [Assignment.emit]
  gcongr
  exact Expr.emit_cut o b b' h a.value

theorem Assignment.emitSet_cut (h : b ≤ b') (as : List Assignment) :
    Cut o.maxDepth (Assignment.emitSet o b as) (Assignment.emitSet o b' as) := by
  simp only [Assignment.emitSet]
  gcongr with a
  exact Assignment.emit_cut o h a

theorem Clause.tail_cut (h : b ≤ b') (filter : Option Expr) (orderBy : Option (List SortKey))
    (limit : Option Limit) :
    Cut o.maxDepth (Clause.tail o b filter orderBy limit) (Clause.tail o b' filter orderBy limit) := by
  simp only [Clause.tail]
  gcongr with c ks
  exacts [Expr.emit_cut o b b' h c, SortKey.emitEach_cut o b b' h ks]

theorem Update.emit_cut (h : b ≤ b') (s : Update) :
    Cut o.maxDepth (s.emit o b) (s.emit o b') := by
  simp only [Update.emit]
  gcongr
  exacts [CommonTable.emitOptEach_cut o b b' h _, Assignment.emitSet_cut o h _,
    Clause.tail_cut o h _ _ _]

theorem Delete.emit_cut (h : b ≤ b') (s : Delete) :
    Cut o.maxDepth (s.emit o b) (s.emit o b') := by
  simp only [Delete.emit]
  gcongr
  exact Clause.tail_cut o h _ _ _

theorem ShowColumns.emit_cut (h : b ≤ b') (s : ShowColumns) :
    Cut o.maxDepth (s.emit o b) (s.emit o b') := by
  simp only [ShowColumns.emit]
  gcongr with c
  exacts [FromItem.emitEach_cut o b b' h _, Expr.emit_cut o b b' h c]

theorem Statement.emit_cut (h : b ≤ b') : ∀ s : Statement,
    Cut o.maxDepth (s.emit o b) (s.emit o b')
  | .select q => Query.emit_cut o b b' h q
  | .insert s => Insert.emit_cut o h s
  | .createTable s => CreateTable.emit_cut o h s
  | .createTableAs s => CreateTableAs.emit_cut o h s
  | .alterTable s => AlterTable.emit_cut o h s
  | .analyze s => Analyze.emit_cut o h s
  | .update s => Update.emit_cut o h s
  | .delete s => Delete.emit_cut o h s
  | .showColumns s => ShowColumns.emit_cut o h s
  | .dropTable _ | .set _ | .repair _ | .use _ | .truncate _ | .showDatabases | .showTables =>
    .refl _

/-- Any node rendered with a larger budget: the same emission, unless the smaller budget ran
out. -/
theorem Node.emit_cut (h : b ≤ b') : ∀ n : Node, Cut o.maxDepth (n.emit o b) (n.emit o b')
  | .statement s => Statement.emit_cut o h s
  | .query q => Query.emit_cut o b b' h q
  | .select s => Select.emit_cut o b b' h s
  | .compound c => Compound.emit_cut o b b' h c
  | .insert s => Insert.emit_cut o h s
  | .analyze s => Analyze.emit_cut o h s
  | .update s => Update.emit_cut o h s
  | .assignments as => Assignment.emitSet_cut o h as
  | .assignment a => Assignment.emit_cut o h a
  | .delete s => Delete.emit_cut o h s
  | .showColumns s => ShowColumns.emit_cut o h s
  | .createTable s => CreateTable.emit_cut o h s
  | .createTableAs s => CreateTableAs.emit_cut o h s
  | .alterTable s => AlterTable.emit_cut o h s
  | .alterAction a => AlterAction.emit_cut o h a
  | .alterTarget t => AlterTarget.emit_cut o h t
  | .columnDef c => ColumnDef.emit_cut o h c
  | .generatedColumn g => GeneratedColumn.emit_cut o h g
  | .selectItem i => SelectItem.emit_cut o b b' h i
  | .selectClause c => SelectClause.emit_cut o b b' h c
  | .tableSource s => TableSource.emit_cut o b b' h s
  | .fromItem i => FromItem.emit_cut o b b' h i
  | .fromClause is => Clause.fromList_cut (FromItem.emitEach_cut o b b' h is)
  | .lateralView v => LateralView.emit_cut o b b' h v
  | .joinRule r => JoinRule.emit_cut o b b' h r
  | .join j => Join.emit_cut o b b' h j
  | .whereClause c => Clause.whereCond_cut (Expr.emit_cut o b b' h c)
  | .havingClause c => Clause.havingCond_cut (Expr.emit_cut o b b' h c)
  | .groupingSets ss => Clause.groupingSets_cut (Expr.emitSets_cut o b b' h ss)
  | .groupBy g => GroupBy.emit_cut o b b' h g
  | .sortKey k => SortKey.emit_cut o b b' h k
  | .orderByClause ks => Clause.orderBy_cut (SortKey.emitEach_cut o b b' h ks)
  | .sortByClause ks => Clause.sortBy_cut (SortKey.emitEach_cut o b b' h ks)
  | .distributeByClause es => Clause.distributeBy_cut (Expr.emitEach_cut o b b' h es)
  | .clusterByClause es => Clause.clusterBy_cut (Expr.emitEach_cut o b b' h es)
  | .commonTable t => CommonTable.emit_cut o b b' h t
  | .withClause ts => Clause.withList_cut (CommonTable.emitEach_cut o b b' h ts)
  | .partition p => Clause.partition_cut (Expr.emitEach_cut o b b' h p)
  | .columnType t => ColumnType.emit_cut o h t
  | .expression e => Expr.emit_cut o b b' h e
  -- a node standing for an expression spends no level of its own
  | .bare e => Expr.emit_cut o (b + 1) (b' + 1) (Nat.succ_le_succ h) e
  | .call f => Call.emit_cut o b b' h f
  | .window w => WindowCall.emit_cut o b b' h w
  | .caseArm a => CaseArm.emit_cut o b b' h a
  | .subquery q => Cut.append (Cut.append (.refl _) (Query.emit_cut o b b' h q)) (.refl _)
  | .dropTable _ | .indexColumn _ | .indexDecl _ | .foreignKey _ | .limit _ | .tableName _
  | .functionName _ | .label _ | .labels _ | .castType _ | .configString _ | .columnName _
  | .frameBound _ | .frame _ => .refl _

end Budget

end SqlSyntax
