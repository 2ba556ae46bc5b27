import SqlSyntax.Proofs.Writer
import SqlSyntax.Proofs.DepthLimit
import SqlSyntax.Render.Program

/-!
# Renderers run through the writer

Every renderer's writer calls (`SqlSyntax.Render.Program`) write exactly the renderer's
emission: `Node.emissionAll_program`, proved by one induction over the renderers of
expressions and queries, mirroring their recursion, and one lemma per statement renderer above
them.  Each case pushes the meaning of steps (`Step.emissionAll`) through the step combinators
and meets the emission of the renderer at its children.

Together with the meaning of steps on a writer (`Writer.performAll_eq_append`) this says what
rendering a node into a writer does (`Writer.renderNode_eq_node`), and so that rendering is
context-free: a node rendered into a writer `k` levels deep under the limit `m` appends the text
it writes into a fresh writer under the limit `m - k`, reports the same fault up to the limit
a depth fault names, and leaves the depth where it was (`Writer.node_context_free`).

Main statements: `Node.emissionAll_program` and `Writer.node_context_free`.
-/

namespace SqlSyntax

namespace Emission

/-- Two texts in a row are their concatenation, also in front of more: with this and
`append_assoc`, emissions built from the same texts in the same order meet one normal form. -/
@[simp] lemma ofString_append_ofString_append (s t : String) (e : Emission) :
    ofString s ++ (ofString t ++ e) = ofString (s ++ t) ++ e := by
  rw [← append_assoc, ofString_append_ofString]

@[simp] lemma ofString_empty : ofString "" = empty := rfl

end Emission

namespace Step

variable (o : RenderOptions) (b : Nat)

@[simp] lemma emissionAll_nil : emissionAll o b [] = .empty := by simp [emissionAll]

@[simp] lemma emissionAll_cons (s : Step) (ss : List Step) :
    emissionAll o b (s :: ss) = emission o b s ++ emissionAll o b ss := by
  simp [emissionAll]

@[simp] lemma emissionAll_append (p q : List Step) :
    emissionAll o b (p ++ q) = emissionAll o b p ++ emissionAll o b q := by
  induction p with
  | nil => simp
  | cons s p ih => simp [ih, Emission.append_assoc]

@[simp] lemma emissionEach_nil : emissionEach o b [] = [] := by simp [emissionEach]

@[simp] lemma emissionEach_cons (p : List Step) (ps : List (List Step)) :
    emissionEach o b (p :: ps) = emissionAll o b p :: emissionEach o b ps := by
  simp [emissionEach]

@[simp] lemma emissionEach_map {α : Type} (f : α → List Step) (l : List α) :
    emissionEach o b (l.map f) = l.map fun a => emissionAll o b (f a) := by
  induction l with
  | nil => simp
  | cons a l ih => simp [ih]

@[simp] lemma emissionEach_append (ps qs : List (List Step)) :
    emissionEach o b (ps ++ qs) = emissionEach o b ps ++ emissionEach o b qs := by
  induction ps with
  | nil => simp
  | cons p ps ih => simp [ih]

@[simp] lemma emission_pushStr (s : String) : emission o b (.pushStr s) = .ofString s := by
  simp [emission]

@[simp] lemma emission_indent :
    emission o b .indent = .ofString (String.ofList (List.replicate o.indent ' ')) := by
  simp [emission]

@[simp] lemma emission_keywordOf {α : Type} [Keyword α] (k : α) :
    emission o b (keywordOf k) = Emission.keyword o.dialect k := by
  simp [emission, keywordOf, Emission.keyword]

@[simp] lemma emission_fail (e : SqlError) : emission o b (.fail e) = .fail e := by
  simp [emission]

@[simp] lemma emission_node (body : List Step) : emission o b (.node body) = emissionAll o b body := by
  simp [emission]

@[simp] lemma emission_list (items : List (List Step)) (sep : String) :
    emission o b (.list items sep) = Emission.sepBy sep (emissionEach o b items) := by
  simp [emission]

@[simp] lemma emission_nested_zero (body : List Step) :
    emission o 0 (.nested body) = .fail (.tooDeep o.maxDepth) := by
  simp [emission]

@[simp] lemma emission_nested_succ (body : List Step) :
    emission o (b + 1) (.nested body) = emissionAll o b body := by
  simp [emission]

lemma emissionEach_eq_map (ps : List (List Step)) : emissionEach o b ps = ps.map (emissionAll o b) := by
  induction ps with
  | nil => simp
  | cons p ps ih => simp [ih]

/-! ## The step combinators -/

lemma emissionAll_flatten (ps : List (List Step)) :
    emissionAll o b ps.flatten = Emission.concat (emissionEach o b ps) := by
  induction ps with
  | nil => simp [Emission.concat, Emission.prefixEach]
  | cons p ps ih =>
    simp only [List.flatten_cons, emissionAll_append, ih, emissionEach_cons, Emission.concat,
      Emission.prefixEach, Emission.ofString_empty, Emission.empty_append]

@[simp] lemma emissionAll_operand (operator tier : Tier) (body : List Step) :
    emissionAll o b (operand operator tier body) =
      Emission.operand operator tier (emissionAll o b body) := by
  by_cases h : tier ≤ operator <;> simp [operand, Emission.operand, h]

@[simp] lemma emissionAll_after (pre : String) (p : Option (List Step)) :
    emissionAll o b (after pre p) = Emission.after pre (p.map (emissionAll o b)) := by
  cases p <;> simp [after, Emission.after]

@[simp] lemma emissionAll_prefixEach (pre : String) (ps : List (List Step)) :
    emissionAll o b (prefixEach pre ps) = Emission.prefixEach pre (emissionEach o b ps) := by
  induction ps with
  | nil => simp [prefixEach, Emission.prefixEach]
  | cons p ps ih => simp [prefixEach, Emission.prefixEach, ih, Emission.append_assoc]

@[simp] lemma emissionAll_afterText (pre : String) (s : Option String) :
    emissionAll o b (afterText pre s) = Emission.afterText pre s := by
  cases s <;> simp [afterText, Emission.afterText, Emission.after]

@[simp] lemma emissionAll_when (c : Bool) (p : List Step) :
    emissionAll o b (when c p) = Emission.when c (emissionAll o b p) := by
  cases c <;> simp [when, Emission.when]

end Step

/-! ## Clause layouts -/

namespace Clause

variable (o : RenderOptions) (b : Nat)

@[simp] lemma emissionAll_fromListSteps (ps : List (List Step)) :
    Step.emissionAll o b (fromListSteps ps) = fromList (Step.emissionEach o b ps) := by
  simp [fromListSteps, fromList]

@[simp] lemma emissionAll_whereSteps (p : List Step) :
    Step.emissionAll o b (whereSteps p) = whereCond (Step.emissionAll o b p) := by
  simp [whereSteps, whereCond]

@[simp] lemma emissionAll_havingSteps (p : List Step) :
    Step.emissionAll o b (havingSteps p) = havingCond (Step.emissionAll o b p) := by
  simp [havingSteps, havingCond]

@[simp] lemma emissionAll_orderBySteps (ps : List (List Step)) :
    Step.emissionAll o b (orderBySteps ps) = orderBy (Step.emissionEach o b ps) := by
  simp [orderBySteps, orderBy]

@[simp] lemma emissionAll_sortBySteps (ps : List (List Step)) :
    Step.emissionAll o b (sortBySteps ps) = sortBy (Step.emissionEach o b ps) := by
  simp [sortBySteps, sortBy]

@[simp] lemma emissionAll_distributeBySteps (ps : List (List Step)) :
    Step.emissionAll o b (distributeBySteps ps) = distributeBy (Step.emissionEach o b ps) := by
  simp [distributeBySteps, distributeBy]

@[simp] lemma emissionAll_clusterBySteps (ps : List (List Step)) :
    Step.emissionAll o b (clusterBySteps ps) = clusterBy (Step.emissionEach o b ps) := by
  simp [clusterBySteps, clusterBy]

@[simp] lemma emissionAll_withListSteps (ps : List (List Step)) :
    Step.emissionAll o b (withListSteps ps) = withList (Step.emissionEach o b ps) := by
  cases ps <;> simp [withListSteps, withList]

@[simp] lemma emissionAll_withPrefixSteps (sep : String) (ps : List (List Step)) :
    Step.emissionAll o b (withPrefixSteps sep ps) = withPrefix sep (Step.emissionEach o b ps) := by
  cases ps <;> simp [withPrefixSteps, withPrefix]

@[simp] lemma emissionAll_groupingSetsSteps (ps : List (List Step)) :
    Step.emissionAll o b (groupingSetsSteps ps) = groupingSets (Step.emissionEach o b ps) := by
  simp [groupingSetsSteps, groupingSets, Emission.append_assoc]

@[simp] lemma emissionAll_groupingSetSteps (ps : List (List Step)) :
    Step.emissionAll o b (groupingSetSteps ps) = groupingSet (Step.emissionEach o b ps) := by
  match ps with
  | [] => simp [groupingSetSteps, groupingSet, Emission.append_assoc]
  | [p] => simp [groupingSetSteps, groupingSet, Emission.sepBy]
  | p :: q :: ps => simp [groupingSetSteps, groupingSet, Emission.append_assoc]

@[simp] lemma emissionAll_partitionSteps (ps : List (List Step)) :
    Step.emissionAll o b (partitionSteps ps) = partition (Step.emissionEach o b ps) := by
  simp [partitionSteps, partition, Emission.append_assoc]

@[simp] lemma emissionAll_rowSteps (ps : List (List Step)) :
    Step.emissionAll o b (rowSteps ps) = row (Step.emissionEach o b ps) := by
  simp [rowSteps, row, Emission.append_assoc]

end Clause

/-! ## Names and small elements -/

section Leaves

variable (o : RenderOptions) (b : Nat)

@[simp] lemma TableName.emissionAll_program (t : TableName) :
    Step.emissionAll o b t.program = t.emit := by
  rcases t with ⟨_ | s, table⟩ <;> simp [TableName.program, TableName.emit]

@[simp] lemma FunctionName.emissionAll_program (f : FunctionName) :
    Step.emissionAll o b f.program = f.emit := by
  rcases f with ⟨_ | s, name⟩ <;> simp [FunctionName.program, FunctionName.emit, String.append_assoc]

@[simp] lemma ColumnName.emissionAll_program (c : ColumnName) :
    Step.emissionAll o b (c.program o.dialect) = c.emit o.dialect := by
  rcases c with ⟨_ | t, column⟩ <;> simp [ColumnName.program, ColumnName.emit, String.append_assoc]

@[simp] lemma Alias.emissionAll_program (a : Alias) : Step.emissionAll o b a.program = a.emit := by
  simp [Alias.program, Alias.emit]

@[simp] lemma MultiAlias.emissionAll_program (a : MultiAlias) :
    Step.emissionAll o b a.program = a.emit := by
  simp [MultiAlias.program, MultiAlias.emit]

@[simp] lemma ConfigString.emissionAll_program (c : ConfigString) :
    Step.emissionAll o b c.program = c.emit := by
  simp [ConfigString.program, ConfigString.emit, String.append_assoc]

@[simp] lemma CastType.emissionAll_program (t : CastType) :
    Step.emissionAll o b t.program = t.emit o.dialect := by
  rcases t with ⟨signed, dataType, _ | ps⟩ <;>
    simp [CastType.program, CastType.emit, Emission.append_assoc, String.append_assoc]

@[simp] lemma FrameBound.emissionAll_program (fb : FrameBound) :
    Step.emissionAll o b fb.program = fb.emit o.dialect := by
  cases fb <;> simp [FrameBound.program, FrameBound.emit]

@[simp] lemma Frame.emissionAll_program (f : Frame) :
    Step.emissionAll o b f.program = f.emit o.dialect := by
  simp [Frame.program, Frame.emit, Emission.append_assoc]

@[simp] lemma Limit.emissionAll_program (l : Limit) : Step.emissionAll o b l.program = l.emit := by
  simp [Limit.program, Limit.emit, String.append_assoc]

end Leaves

/-! ## Expressions and queries -/

section Trees

variable (o : RenderOptions)

mutual

/-- An expression run one level deeper writes its emission. -/
theorem Expr.emission_program : ∀ (b : Nat) (e : Expr),
    Step.emission o b (.nested (e.body o.dialect)) = e.emit o b
  | 0, _ => by simp [Expr.emit]
  | _ + 1, .column c => by simp [Expr.body, Expr.emit]
  | _ + 1, .literal l => by simp [Expr.body, Expr.emit]
  | _ + 1, .wildcard t => by cases t <;> simp [Expr.body, Expr.emit]
  | b + 1, .call f => by simp [Expr.body, Expr.emit, Call.emissionAll_program b f]
  | b + 1, .window w => by simp [Expr.body, Expr.emit, WindowCall.emissionAll_program b w]
  | b + 1, .searchedCase arms e => by
    simp [Expr.body, Expr.emit, Emission.append_assoc, ← CaseArm.emissionEach_programEach b arms,
      ← Expr.map_programOpt b e]
  | b + 1, .simpleCase x arms e => by
    simp [Expr.body, Expr.emit, Emission.append_assoc, ← Expr.emission_program b x,
      ← CaseArm.emissionEach_programEach b arms, ← Expr.map_programOpt b e]
  | b + 1, .subquery q => by
    simp [Expr.body, Expr.emit, Emission.append_assoc, ← Query.emission_program b q]
  | b + 1, .tuple items => by
    simp [Expr.body, Expr.emit, Clause.row, Emission.append_assoc,
      ← Expr.emissionEach_programEach b items]
  | b + 1, .subscript a i => by
    by_cases h : o.dialect.traits.subscripts <;>
      simp [Expr.body, Expr.emit, h, Emission.append_assoc, ← Expr.emission_program b a,
        ← Expr.emission_program b i]
  | b + 1, .unary _ x | b + 1, .exists _ x | b + 1, .not x => by
    simp [Expr.body, Expr.emit, Emission.append_assoc, ← Expr.emission_program b x]
  | b + 1, .compute l _ r | b + 1, .condition _ _ l r | b + 1, .compare l _ r
  | b + 1, .and l r | b + 1, .xor l r | b + 1, .or l r => by
    simp [Expr.body, Expr.emit, Emission.append_assoc, String.append_assoc,
      ← Expr.emission_program b l, ← Expr.emission_program b r]
  | b + 1, .between _ v low high => by
    simp [Expr.body, Expr.emit, Emission.append_assoc, ← Expr.emission_program b v,
      ← Expr.emission_program b low, ← Expr.emission_program b high]

theorem Expr.emissionEach_programEach (b : Nat) : ∀ es : List Expr,
    Step.emissionEach o b (Expr.programEach o.dialect es) = Expr.emitEach o b es
  | [] => rfl
  | e :: es => by
    simp [Expr.programEach, Expr.emitEach, Expr.emission_program b e,
      Expr.emissionEach_programEach b es]

theorem Expr.map_programOpt (b : Nat) : ∀ e : Option Expr,
    (Expr.programOpt o.dialect e).map (Step.emissionAll o b) = Expr.emitOpt o b e
  | none => rfl
  | some e => by simp [Expr.programOpt, Expr.emitOpt, Expr.emission_program b e]

theorem Expr.map_programOptEach (b : Nat) : ∀ es : Option (List Expr),
    (Expr.programOptEach o.dialect es).map (Step.emissionEach o b) = Expr.emitOptEach o b es
  | none => rfl
  | some es => by simp [Expr.programOptEach, Expr.emitOptEach, Expr.emissionEach_programEach b es]

theorem Expr.emissionEach_programSets (b : Nat) : ∀ ss : List (List Expr),
    Step.emissionEach o b (Expr.programSets o.dialect ss) = Expr.emitSets o b ss
  | [] => rfl
  | s :: ss => by
    simp [Expr.programSets, Expr.emitSets, Expr.emissionEach_programEach b s,
      Expr.emissionEach_programSets b ss]

theorem Expr.map_programOptSets (b : Nat) : ∀ ss : Option (List (List Expr)),
    (Expr.programOptSets o.dialect ss).map (Step.emissionAll o b) = Expr.emitOptSets o b ss
  | none => rfl
  | some ss => by
    simp [Expr.programOptSets, Expr.emitOptSets, Expr.emissionEach_programSets b ss]

theorem Call.emissionAll_program (b : Nat) : ∀ c : Call,
    Step.emissionAll o b (c.program o.dialect) = c.emit o b
  | .normal _ args | .aggregate _ args _ => by
    simp [Call.program, Call.emit, Emission.append_assoc, ← Expr.emissionEach_programEach b args]
  | .cast e _ => by
    simp [Call.program, Call.emit, Emission.append_assoc, ← Expr.emission_program b e]
  | .extract unit e => by
    simp [Call.program, Call.emit, Emission.append_assoc, ← Expr.emission_program b unit,
      ← Expr.emission_program b e]

theorem WindowCall.emissionAll_program (b : Nat) : ∀ w : WindowCall,
    Step.emissionAll o b (w.program o.dialect) = w.emit o b
  | { function, partitionBy, orderBy, frame } => by
    -- the present parts are the items of a list separated by blanks; which parts are present
    -- is decided by the same tests on both sides
    cases partitionBy <;> cases orderBy <;> cases frame <;>
      simp [WindowCall.program, WindowCall.emit, Emission.append_assoc,
        ← Expr.emission_program b function, ← Expr.emissionEach_programEach b,
        ← SortKey.emissionEach_programEach b]

theorem CaseArm.emissionAll_program (b : Nat) : ∀ a : CaseArm,
    Step.emissionAll o b (a.program o.dialect) = a.emit o b
  | { test, result } => by
    simp [CaseArm.program, CaseArm.emit, Emission.append_assoc, ← Expr.emission_program b test,
      ← Expr.emission_program b result]

theorem CaseArm.emissionEach_programEach (b : Nat) : ∀ arms : List CaseArm,
    Step.emissionEach o b (CaseArm.programEach o.dialect arms) = CaseArm.emitEach o b arms
  | [] => rfl
  | a :: arms => by
    simp [CaseArm.programEach, CaseArm.emitEach, CaseArm.emissionAll_program b a,
      CaseArm.emissionEach_programEach b arms]

theorem SortKey.emissionAll_program (b : Nat) : ∀ k : SortKey,
    Step.emissionAll o b (k.program o.dialect) = k.emit o b
  | { key, order, nullsFirst, nullsLast } => by
    simp [SortKey.program, SortKey.emit, Emission.append_assoc, ← Expr.emission_program b key]

theorem SortKey.emissionEach_programEach (b : Nat) : ∀ keys : List SortKey,
    Step.emissionEach o b (SortKey.programEach o.dialect keys) = SortKey.emitEach o b keys
  | [] => rfl
  | k :: keys => by
    simp [SortKey.programEach, SortKey.emitEach, SortKey.emissionAll_program b k,
      SortKey.emissionEach_programEach b keys]

theorem SortKey.map_programOptEach (b : Nat) : ∀ keys : Option (List SortKey),
    (SortKey.programOptEach o.dialect keys).map (Step.emissionEach o b) =
      SortKey.emitOptEach o b keys
  | none => rfl
  | some keys => by
    simp [SortKey.programOptEach, SortKey.emitOptEach, SortKey.emissionEach_programEach b keys]

/-- A query run one level deeper writes its emission. -/
theorem Query.emission_program : ∀ (b : Nat) (q : Query),
    Step.emission o b (.nested (q.body o.dialect)) = q.emit o b
  | 0, _ => by simp [Query.emit]
  | b + 1, .single s => by simp [Query.body, Query.emit, Select.emissionAll_program b s]
  | b + 1, .compound c => by simp [Query.body, Query.emit, Compound.emissionAll_program b c]

theorem CommonTable.emissionAll_program (b : Nat) : ∀ t : CommonTable,
    Step.emissionAll o b (t.program o.dialect) = t.emit o b
  | { name, query } => by
    simp [CommonTable.program, CommonTable.emit, Emission.append_assoc,
      ← Query.emission_program b query]

theorem CommonTable.emissionEach_programEach (b : Nat) : ∀ ts : List CommonTable,
    Step.emissionEach o b (CommonTable.programEach o.dialect ts) = CommonTable.emitEach o b ts
  | [] => rfl
  | t :: ts => by
    simp [CommonTable.programEach, CommonTable.emitEach, CommonTable.emissionAll_program b t,
      CommonTable.emissionEach_programEach b ts]

theorem CommonTable.emissionEach_programOptEach (b : Nat) : ∀ ts : Option (List CommonTable),
    Step.emissionEach o b (CommonTable.programOptEach o.dialect ts) = CommonTable.emitOptEach o b ts
  | none => rfl
  | some ts => by
    simp [CommonTable.programOptEach, CommonTable.emitOptEach,
      CommonTable.emissionEach_programEach b ts]

theorem SelectItem.emissionAll_program (b : Nat) : ∀ i : SelectItem,
    Step.emissionAll o b (i.program o.dialect) = i.emit o b
  | { value, label } => by
    cases label <;>
      simp [SelectItem.program, SelectItem.emit, Alias.emitAfter, ← Expr.emission_program b value]

theorem SelectItem.emissionEach_programEach (b : Nat) : ∀ is : List SelectItem,
    Step.emissionEach o b (SelectItem.programEach o.dialect is) = SelectItem.emitEach o b is
  | [] => rfl
  | i :: is => by
    simp [SelectItem.programEach, SelectItem.emitEach, SelectItem.emissionAll_program b i,
      SelectItem.emissionEach_programEach b is]

theorem SelectClause.emissionAll_program (b : Nat) : ∀ c : SelectClause,
    Step.emissionAll o b (c.program o.dialect) = c.emit o b
  | { distinct, items } => by
    simp [SelectClause.program, SelectClause.emit, ← SelectItem.emissionEach_programEach b items]

theorem TableSource.emissionAll_program (b : Nat) : ∀ s : TableSource,
    Step.emissionAll o b (s.program o.dialect) = s.emit o b
  | .table t => by simp [TableSource.program, TableSource.emit]
  | .subquery q => by
    simp [TableSource.program, TableSource.emit, Emission.append_assoc,
      ← Query.emission_program b q]

theorem FromItem.emissionAll_program (b : Nat) : ∀ i : FromItem,
    Step.emissionAll o b (i.program o.dialect) = i.emit o b
  | { source, label } => by
    cases label <;>
      simp [FromItem.program, FromItem.emit, Alias.emitAfter, TableSource.emissionAll_program b source]

theorem FromItem.emissionEach_programEach (b : Nat) : ∀ is : List FromItem,
    Step.emissionEach o b (FromItem.programEach o.dialect is) = FromItem.emitEach o b is
  | [] => rfl
  | i :: is => by
    simp [FromItem.programEach, FromItem.emitEach, FromItem.emissionAll_program b i,
      FromItem.emissionEach_programEach b is]

theorem FromItem.map_programOptEach (b : Nat) : ∀ is : Option (List FromItem),
    (FromItem.programOptEach o.dialect is).map (Step.emissionEach o b) = FromItem.emitOptEach o b is
  | none => rfl
  | some is => by
    simp [FromItem.programOptEach, FromItem.emitOptEach, FromItem.emissionEach_programEach b is]

theorem LateralView.emissionAll_program (b : Nat) : ∀ v : LateralView,
    Step.emissionAll o b (v.program o.dialect) = v.emit o b
  | { outer, function, viewName, labels } => by
    simp [LateralView.program, LateralView.emit, Emission.append_assoc, String.append_assoc,
      Call.emissionAll_program b function]

theorem LateralView.emissionEach_programEach (b : Nat) : ∀ vs : List LateralView,
    Step.emissionEach o b (LateralView.programEach o.dialect vs) = LateralView.emitEach o b vs
  | [] => rfl
  | v :: vs => by
    simp [LateralView.programEach, LateralView.emitEach, LateralView.emissionAll_program b v,
      LateralView.emissionEach_programEach b vs]

theorem JoinRule.emissionAll_program (b : Nat) : ∀ r : JoinRule,
    Step.emissionAll o b (r.program o.dialect) = r.emit o b
  | .on c => by simp [JoinRule.program, JoinRule.emit, ← Expr.emission_program b c]
  | .using f => by simp [JoinRule.program, JoinRule.emit, Call.emissionAll_program b f]

theorem JoinRule.map_programOpt (b : Nat) : ∀ r : Option JoinRule,
    (JoinRule.programOpt o.dialect r).map (Step.emissionAll o b) = JoinRule.emitOpt o b r
  | none => rfl
  | some r => by simp [JoinRule.programOpt, JoinRule.emitOpt, JoinRule.emissionAll_program b r]

theorem Join.emissionAll_program (b : Nat) : ∀ j : Join,
    Step.emissionAll o b (j.program o.dialect) = j.emit o b
  | { kind, table, rule } => by
    simp [Join.program, Join.emit, Emission.append_assoc, FromItem.emissionAll_program b table,
      ← JoinRule.map_programOpt b rule]

theorem Join.emissionEach_programEach (b : Nat) : ∀ js : List Join,
    Step.emissionEach o b (Join.programEach o.dialect js) = Join.emitEach o b js
  | [] => rfl
  | j :: js => by
    simp [Join.programEach, Join.emitEach, Join.emissionAll_program b j,
      Join.emissionEach_programEach b js]

theorem GroupBy.emissionAll_program (b : Nat) : ∀ g : GroupBy,
    Step.emissionAll o b (g.program o.dialect) = g.emit o b
  | { columns, groupingSets, withCube, withRollup } => by
    simp [GroupBy.program, GroupBy.emit, Emission.append_assoc,
      ← Expr.emissionEach_programEach b columns, ← Expr.map_programOptSets b groupingSets]

theorem GroupBy.map_programOpt (b : Nat) : ∀ g : Option GroupBy,
    (GroupBy.programOpt o.dialect g).map (Step.emissionAll o b) = GroupBy.emitOpt o b g
  | none => rfl
  | some g => by simp [GroupBy.programOpt, GroupBy.emitOpt, GroupBy.emissionAll_program b g]

theorem Select.emissionAll_program (b : Nat) : ∀ s : Select,
    Step.emissionAll o b (s.program o.dialect) = s.emit o b
  | { withTables, selectClause, fromTables, lateralViews, joins, filter, groupBy, having,
      orderBy, sortBy, distributeBy, clusterBy, limit } => by
    simp [Select.program, Select.emit, Emission.append_assoc, Function.comp_def,
      ← CommonTable.emissionEach_programOptEach b withTables,
      SelectClause.emissionAll_program b selectClause,
      ← FromItem.map_programOptEach b fromTables,
      ← LateralView.emissionEach_programEach b lateralViews,
      ← Join.emissionEach_programEach b joins, ← Expr.map_programOpt b filter,
      ← GroupBy.map_programOpt b groupBy, ← Expr.map_programOpt b having,
      ← SortKey.map_programOptEach b orderBy, ← SortKey.map_programOptEach b sortBy,
      ← Expr.map_programOptEach b distributeBy, ← Expr.map_programOptEach b clusterBy]

theorem Branch.emissionAll_program (b : Nat) : ∀ r : Branch,
    Step.emissionAll o b (r.program o.dialect) = r.emit o b
  | { op, select } => by
    simp [Branch.program, Branch.emit, Emission.append_assoc, Select.emissionAll_program b select]

theorem Branch.emissionEach_programEach (b : Nat) : ∀ rs : List Branch,
    Step.emissionEach o b (Branch.programEach o.dialect rs) = Branch.emitEach o b rs
  | [] => rfl
  | r :: rs => by
    simp [Branch.programEach, Branch.emitEach, Branch.emissionAll_program b r,
      Branch.emissionEach_programEach b rs]

theorem Compound.emissionAll_program (b : Nat) : ∀ c : Compound,
    Step.emissionAll o b (c.program o.dialect) = c.emit o b
  | { withTables, head, tail } => by
    simp [Compound.program, Compound.emit, Emission.append_assoc, Step.emissionAll_flatten,
      ← CommonTable.emissionEach_programOptEach b withTables, Select.emissionAll_program b head,
      Branch.emissionEach_programEach b tail]

end

end Trees

/-- An expression as a child writes its emission. -/
@[simp] lemma Expr.emissionAll_program (o : RenderOptions) (b : Nat) (e : Expr) :
    Step.emissionAll o b (e.program o.dialect) = e.emit o b := by
  simp [Expr.program, Expr.emission_program]

/-- A query as a child writes its emission. -/
@[simp] lemma Query.emissionAll_program (o : RenderOptions) (b : Nat) (q : Query) :
    Step.emissionAll o b (q.program o.dialect) = q.emit o b := by
  simp [Query.program, Query.emission_program]

/-- A bare expression, run at the level it stands at, writes its emission as a node. -/
lemma Expr.emissionAll_body (o : RenderOptions) (b : Nat) (e : Expr) :
    Step.emissionAll o b (e.body o.dialect) = e.emitBody o b := by
  rw [Expr.emitBody, ← Expr.emission_program o (b + 1) e, Step.emission_nested_succ]

/-! ## Statements and table definitions -/

section Statements

variable (o : RenderOptions) (b : Nat)

@[simp] lemma ColumnType.emissionAll_program (t : ColumnType) :
    Step.emissionAll o b (t.program o.dialect) = t.emit o b := by
  rcases t with ⟨name, _ | ps⟩
  · simp [ColumnType.program, ColumnType.emit]
  · by_cases h : (o.dialect.traits.narrowTypeParams && !ColumnType.keepsParams ⟨name, some ps⟩) = true
    · simp only [ColumnType.program, ColumnType.emit, h, if_true]
      simp
    · simp only [ColumnType.program, ColumnType.emit, h]
      simp [Emission.append_assoc, Expr.emissionEach_programEach]

@[simp] lemma GeneratedColumn.emissionAll_program (g : GeneratedColumn) :
    Step.emissionAll o b (g.program o.dialect) = g.emit o b := by
  simp [GeneratedColumn.program, GeneratedColumn.emit, Emission.append_assoc]

@[simp] lemma ColumnDef.emissionAll_program (c : ColumnDef) :
    Step.emissionAll o b (c.program o.dialect) = c.emit o b := by
  simp [ColumnDef.program, ColumnDef.emit, Emission.append_assoc, Function.comp_def]

@[simp] lemma IndexColumn.emissionAll_program (c : IndexColumn) :
    Step.emissionAll o b c.program = c.emit := by
  simp [IndexColumn.program, IndexColumn.emit]

@[simp] lemma IndexDecl.emissionAll_program (i : IndexDecl) :
    Step.emissionAll o b i.program = i.emit := by
  simp [IndexDecl.program, IndexDecl.emit, Emission.append_assoc]

@[simp] lemma ForeignKey.emissionAll_program (k : ForeignKey) :
    Step.emissionAll o b k.program = k.emit := by
  simp [ForeignKey.program, ForeignKey.emit, Emission.append_assoc, String.append_assoc]

@[simp] lemma AlterTarget.emissionAll_program (t : AlterTarget) :
    Step.emissionAll o b (t.program o.dialect) = t.emit o b := by
  cases t <;> simp [AlterTarget.program, AlterTarget.emit]

@[simp] lemma AlterAction.emissionAll_program (a : AlterAction) :
    Step.emissionAll o b (a.program o.dialect) = a.emit o b := by
  cases a <;>
    simp [AlterAction.program, AlterAction.emit, String.append_assoc, Expr.emissionEach_programEach]

@[simp] lemma AlterTable.emissionAll_program (s : AlterTable) :
    Step.emissionAll o b (s.program o.dialect) = s.emit o b := by
  simp [AlterTable.program, AlterTable.emit, Emission.append_assoc]

@[simp] lemma CreateTable.emissionAll_titleSteps (s : CreateTable) :
    Step.emissionAll o b s.titleSteps = s.title := by
  simp [CreateTable.titleSteps, CreateTable.title]

/-- The body entries, each after the indent, are the body of the layout. -/
@[simp] lemma CreateTable.emissionAll_bodySteps (entries : List (List Step)) :
    Step.emissionAll o b (CreateTable.bodySteps entries) =
      CreateTable.body o.indent (Step.emissionEach o b entries) := by
  simp [CreateTable.bodySteps, CreateTable.body, Step.emissionEach_eq_map, Function.comp_def]

@[simp] lemma CreateTable.emissionAll_program (s : CreateTable) :
    Step.emissionAll o b (s.program o.dialect) = s.emit o b := by
  rcases h : o.dialect.traits.tableLayout with _ | _ | _
  · simp [CreateTable.program, CreateTable.emit, h]
  · simp [CreateTable.program, CreateTable.emit, h, CreateTable.keyedSteps, CreateTable.emitKeyed,
      CreateTable.keyedEntrySteps, CreateTable.keyedEntries, Emission.append_assoc]
  · simp [CreateTable.program, CreateTable.emit, h, CreateTable.partitionedSteps,
      CreateTable.emitPartitioned, Emission.append_assoc]

@[simp] lemma CreateTableAs.emissionAll_program (s : CreateTableAs) :
    Step.emissionAll o b (s.program o.dialect) = s.emit o b := by
  simp [CreateTableAs.program, CreateTableAs.emit, Emission.append_assoc]

@[simp] lemma InsertSource.emissionAll_program (s : InsertSource) :
    Step.emissionAll o b (s.program o.dialect) = s.emit o b := by
  cases s <;>
    simp [InsertSource.program, InsertSource.emit, Expr.emissionEach_programEach]

@[simp] lemma Insert.emissionAll_program (s : Insert) :
    Step.emissionAll o b (s.program o.dialect) = s.emit o b := by
  rcases s with ⟨withTables, mode, table, _ | p, _ | cs, source⟩ <;>
    simp [Insert.program, Insert.emit, Emission.after, Emission.append_assoc,
      Expr.emissionEach_programEach, CommonTable.emissionEach_programOptEach]

@[simp] lemma DropTable.emissionAll_program (s : DropTable) :
    Step.emissionAll o b s.program = s.emit := by
  simp [DropTable.program, DropTable.emit]

@[simp] lemma Analyze.emissionAll_program (s : Analyze) :
    Step.emissionAll o b (s.program o.dialect) = s.emit o b := by
  cases h : o.dialect.traits.analyze <;>
    simp [Analyze.program, Analyze.emit, h, Emission.append_assoc, Function.comp_def,
      Expr.emissionEach_programEach]

@[simp] lemma Assignment.emissionAll_program (a : Assignment) :
    Step.emissionAll o b (a.program o.dialect) = a.emit o b := by
  simp [Assignment.program, Assignment.emit]

@[simp] lemma Assignment.emissionAll_setSteps (as : List Assignment) :
    Step.emissionAll o b (Assignment.setSteps o.dialect as) = Assignment.emitSet o b as := by
  simp [Assignment.setSteps, Assignment.emitSet]

@[simp] lemma Clause.emissionAll_tailSteps (filter : Option Expr) (orderBy : Option (List SortKey))
    (limit : Option Limit) :
    Step.emissionAll o b (Clause.tailSteps o.dialect filter orderBy limit) =
      Clause.tail o b filter orderBy limit := by
  simp [Clause.tailSteps, Clause.tail, Emission.append_assoc, Function.comp_def,
    SortKey.emissionEach_programEach]

@[simp] lemma Update.emissionAll_program (s : Update) :
    Step.emissionAll o b (s.program o.dialect) = s.emit o b := by
  simp [Update.program, Update.emit, Emission.append_assoc,
    CommonTable.emissionEach_programOptEach]

@[simp] lemma Delete.emissionAll_program (s : Delete) :
    Step.emissionAll o b (s.program o.dialect) = s.emit o b := by
  simp [Delete.program, Delete.emit, Emission.append_assoc]

@[simp] lemma ShowColumns.emissionAll_program (s : ShowColumns) :
    Step.emissionAll o b (s.program o.dialect) = s.emit o b := by
  simp [ShowColumns.program, ShowColumns.emit, Emission.append_assoc, Function.comp_def,
    FromItem.emissionEach_programEach]

@[simp] lemma Statement.emissionAll_program (s : Statement) :
    Step.emissionAll o b (s.program o.dialect) = s.emit o b := by
  cases s <;> simp [Statement.program, Statement.emit]

end Statements

/-! ## Nodes -/

/-- Every node's writer calls write its emission, for every options and levels left. -/
theorem Node.emissionAll_program (o : RenderOptions) (b : Nat) (n : Node) :
    Step.emissionAll o b (n.program o.dialect) = n.emit o b := by
  cases n <;>
    simp [Node.program, Node.emit, Expr.emissionAll_body, Query.emitParens,
      Select.emissionAll_program, Compound.emissionAll_program, Call.emissionAll_program,
      WindowCall.emissionAll_program, CaseArm.emissionAll_program, SortKey.emissionAll_program,
      CommonTable.emissionAll_program, SelectItem.emissionAll_program,
      SelectClause.emissionAll_program, TableSource.emissionAll_program,
      FromItem.emissionAll_program, LateralView.emissionAll_program,
      JoinRule.emissionAll_program, Join.emissionAll_program, GroupBy.emissionAll_program,
      Expr.emissionEach_programEach, Expr.emissionEach_programSets,
      SortKey.emissionEach_programEach, CommonTable.emissionEach_programEach,
      FromItem.emissionEach_programEach, Emission.append_assoc]

namespace Writer

/-- Rendering a node into a writer appends the node's emission for the writer's options and
levels left, and reports its fault. -/
theorem renderNode_eq_node (w : Writer) (n : Node) : w.renderNode n = w.node n.emit := by
  rw [renderNode, performAll_eq_append, Node.emissionAll_program]
  rfl

/-- Capturing a node gives the outcome of its emission and leaves the writer as it was. -/
theorem captureNode_eq (w : Writer) (n : Node) : w.captureNode n = (w, w.capture n.emit) := by
  rw [captureNode, captureAll_eq, Node.emissionAll_program]
  rfl

/-- A fresh writer with the options of `w` and, as its limit, the levels `w` has left. -/
def fresh (w : Writer) : Writer := init (w.options.withMaxDepth w.budget)

@[simp] lemma budget_fresh (w : Writer) : w.fresh.budget = w.budget := Nat.sub_zero _

/-- Rendering a node into a writer `w` does not depend on `w`: it appends the text a fresh
writer with the levels `w` has left would hold, returns to the depth of `w`, and reports the
fresh writer's fault, renamed to name the limit of `w` if it is the depth fault (and back).
Capturing the node gives that text exactly when rendering it succeeds, and leaves `w` as it
was.  No writer that steps pass through from `w` is deeper than its limit. -/
theorem node_context_free (n : Node) (w : Writer) (hw : w.depth ≤ w.options.maxDepth) :
    (w.renderNode n).1 = { w with text := w.text ++ (w.fresh.renderNode n).1.text } ∧
      (w.renderNode n).2 = (w.fresh.renderNode n).2.map (SqlError.relimit w.options.maxDepth) ∧
      (w.fresh.renderNode n).2 = (w.renderNode n).2.map (SqlError.relimit w.budget) ∧
      (∀ t, (w.captureNode n).2 = .ok t ↔
        w.renderNode n = ({ w with text := w.text ++ t }, none)) ∧
      (w.captureNode n).1 = w ∧
      ∀ (ss : List Step) (v : Writer), Visits w ss v → v.depth ≤ v.options.maxDepth := by
  -- both renders append the node's emission with the same levels left; the fresh writer's
  -- limit is those levels, which only renames the depth fault
  have hrun : w.renderNode n =
      (w.pushStr (n.emit w.options w.budget).text, (n.emit w.options w.budget).fault) :=
    renderNode_eq_node w n
  have hfresh : w.fresh.renderNode n = (w.fresh.pushStr (n.emit w.options w.budget).text,
      (n.emit w.options w.budget).fault.map (SqlError.relimit w.budget)) := by
    rw [renderNode_eq_node, node, budget_fresh]
    simp [fresh, init, Node.emit_withMaxDepth, append]
  have hfix := Node.relimit_fault w.options w.budget n
  refine ⟨?_, ?_, ?_, fun t => ?_, ?_, fun ss v h => h.depth_le hw⟩
  · rw [hrun, hfresh]
    simp [fresh, init, pushStr]
  · simp [hrun, hfresh, Option.map_map, Function.comp_def, hfix]
  · simp [hrun, hfresh]
  · rw [captureNode_eq, hrun, capture]
    simp [pushStr, and_comm]
  · rw [captureNode_eq]

/-- A literal captured by a writer one level deep, within the default limit, leaves the writer
as it was. -/
theorem capture_literal_restores_writer :
    (⟨{}, 1, "x"⟩ : Writer).depth ≤ (⟨{}, 1, "x"⟩ : Writer).options.maxDepth ∧
      ((⟨{}, 1, "x"⟩ : Writer).captureNode (.expression (.literal ⟨"1"⟩))).1 = ⟨{}, 1, "x"⟩ :=
  ⟨by decide, (node_context_free (.expression (.literal ⟨"1"⟩)) ⟨{}, 1, "x"⟩ (by decide)).2.2.2.2.1⟩

end Writer

end SqlSyntax
