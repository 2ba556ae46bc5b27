import SqlSyntax.Proofs.Agreement

/-!
# Agreeing options render alike

Under options that agree (`RenderOptions.Agree g o o'`), every renderer writes a tree whose
dialect words are spelled alike as it does under `o`, with its fault renamed by `g`
(`Expr.emit_agree`, ..., `Node.emit_agree`).  The proof is one induction over the renderers of
expressions and queries and one lemma per statement renderer, in the shape of the depth-limit
renaming: each case pushes the renaming through the combinators and meets the other side at the
renamed children.  Where a renderer reads a layout trait, the two dialects give the same
answer; where it writes a dialect word, the hypothesis on the words of the tree gives it; the
other keywords and the leaves are written alike in every dialect.

Main statement: `Node.render_agree`.
-/

namespace SqlSyntax

open Emission

/-! ## Words every dialect writes alike -/

/-- Cast targets, frame bounds and frames hold only keywords every dialect has, so every
dialect writes them alike. -/
lemma CastType.emit_dialect (d d' : Dialect) (t : CastType) : t.emit d' = t.emit d := by
  simp [CastType.emit, keyword, Keyword.supports]

lemma FrameBound.emit_dialect (d d' : Dialect) (fb : FrameBound) : fb.emit d' = fb.emit d := by
  simp [FrameBound.emit, keyword, Keyword.supports]

lemma Frame.emit_dialect (d d' : Dialect) (f : Frame) : f.emit d' = f.emit d := by
  simp [Frame.emit, FrameBound.emit_dialect d d']

namespace DialectWord

variable {g : SqlError → SqlError} {o o' : RenderOptions}

@[simp] lemma spelledAlike_operator (op : ComputeOp) :
    SpelledAlike g o o' (.operator op) ↔
      keyword o'.dialect op = (keyword o.dialect op).mapFault g := Iff.rfl

@[simp] lemma spelledAlike_column (c : ColumnName) :
    SpelledAlike g o o' (.column c) ↔ c.emit o'.dialect = c.emit o.dialect := by
  simp [SpelledAlike, emit]

end DialectWord

/-! ## Parts under a map -/

section Maps

variable {g : SqlError → SqlError} {α : Type} {f f' : α → Emission}

/-- An optional part renders alike when it does whenever present. -/
lemma optionMap_agree {x : Option α} (h : ∀ a, x = some a → f' a = (f a).mapFault g) :
    x.map f' = (x.map f).map (mapFault g) := by
  rw [Option.map_map]
  exact Option.map_congr h

/-- The items of a list render alike when each of them does. -/
lemma listMap_agree {l : List α} (h : ∀ a ∈ l, f' a = (f a).mapFault g) :
    l.map f' = (l.map f).map (mapFault g) := by
  rw [List.map_map]
  exact List.map_congr_left h

end Maps

/-! ## Expressions and queries -/

section Agree

variable {g : SqlError → SqlError} {o o' : RenderOptions} (hf : o.Agree g o')

include hf

-- every renderer of the induction takes the agreement, whether or not its own case reads it
set_option linter.unusedSectionVars false

/-- A keyword the two dialects have or lack alike is written alike, up to the renaming. -/
lemma RenderOptions.Agree.keyword {α : Type} [Keyword α] (k : α)
    (h : Keyword.supports o'.dialect k = Keyword.supports o.dialect k) :
    keyword o'.dialect k = (keyword o.dialect k).mapFault g := by
  unfold Emission.keyword
  rw [h]
  split
  · rfl
  · simp [hf.unsupportedFeature]

attribute [local simp] List.map_map Option.map_map Function.comp_def List.forall_mem_append
  List.forall_mem_cons

mutual

/-- An expression whose dialect words are spelled alike renders alike under agreeing
options. -/
theorem Expr.emit_agree : ∀ (b : Nat) (e : Expr), (∀ w ∈ e.words, w.SpelledAlike g o o') →
    e.emit o' b = (e.emit o b).mapFault g
  | 0, _, _ => by simp [Expr.emit, hf.tooDeep]
  | _ + 1, .column c, hw => by simpa [Expr.words, Expr.emit] using hw
  | _ + 1, .literal _, _ => by simp [Expr.emit]
  | _ + 1, .wildcard t, _ => by cases t <;> simp [Expr.emit]
  | b + 1, .call f, hw => by simp [Expr.emit, Call.emit_agree b f hw]
  | b + 1, .window w, hw => by simp [Expr.emit, WindowCall.emit_agree b w hw]
  | b + 1, .searchedCase arms e, hw => by
    simp only [Expr.words, List.forall_mem_append] at hw
    simp [Expr.emit, CaseArm.emitEach_agree b arms hw.1, Expr.emitOpt_agree b e hw.2]
  | b + 1, .simpleCase s arms e, hw => by
    simp only [Expr.words, List.forall_mem_append] at hw
    simp [Expr.emit, Expr.emit_agree b s hw.1.1, CaseArm.emitEach_agree b arms hw.1.2,
      Expr.emitOpt_agree b e hw.2]
  | b + 1, .subquery q, hw => by simp [Expr.emit, Query.emit_agree b q hw]
  | b + 1, .tuple items, hw => by simp [Expr.emit, Expr.emitEach_agree b items hw]
  | b + 1, .subscript a i, hw => by
    simp only [Expr.words, List.forall_mem_append] at hw
    simp [Expr.emit, hf.subscripts, hf.unsupportedFeature, Expr.emit_agree b a hw.1,
      Expr.emit_agree b i hw.2]
  | b + 1, .unary op x, hw => by
    simp only [Expr.words, List.forall_mem_cons, DialectWord.spelledAlike_operator] at hw
    simp [Expr.emit, hw.1, hf.looseOperand, Expr.emit_agree b x hw.2]
  | b + 1, .compute l op r, hw => by
    simp only [Expr.words, List.forall_mem_append, List.forall_mem_cons,
      DialectWord.spelledAlike_operator] at hw
    simp [Expr.emit, hw.2.1, hf.looseOperand, Expr.emit_agree b l hw.1, Expr.emit_agree b r hw.2.2]
  | b + 1, .exists _ x, hw | b + 1, .not x, hw => by
    simp [Expr.emit, keyword, Keyword.supports, hf.looseOperand, Expr.emit_agree b x hw]
  | b + 1, .condition _ _ l r, hw | b + 1, .compare l _ r, hw | b + 1, .and l r, hw
  | b + 1, .xor l r, hw | b + 1, .or l r, hw => by
    simp only [Expr.words, List.forall_mem_append] at hw
    simp [Expr.emit, keyword, Keyword.supports, hf.looseOperand, Expr.emit_agree b l hw.1,
      Expr.emit_agree b r hw.2]
  | b + 1, .between _ v low high, hw => by
    simp only [Expr.words, List.forall_mem_append] at hw
    simp [Expr.emit, hf.looseOperand, Expr.emit_agree b v hw.1.1, Expr.emit_agree b low hw.1.2,
      Expr.emit_agree b high hw.2]

theorem Expr.emitEach_agree (b : Nat) : ∀ es : List Expr,
    (∀ w ∈ Expr.wordsEach es, w.SpelledAlike g o o') →
    Expr.emitEach o' b es = (Expr.emitEach o b es).map (mapFault g)
  | [], _ => rfl
  | e :: es, hw => by
    simp only [Expr.wordsEach, List.forall_mem_append] at hw
    simp [Expr.emitEach, Expr.emit_agree b e hw.1, Expr.emitEach_agree b es hw.2]

theorem Expr.emitOpt_agree (b : Nat) : ∀ e : Option Expr,
    (∀ w ∈ Expr.wordsOpt e, w.SpelledAlike g o o') →
    Expr.emitOpt o' b e = (Expr.emitOpt o b e).map (mapFault g)
  | none, _ => rfl
  | some e, hw => by simp [Expr.emitOpt, Expr.emit_agree b e hw]

theorem Expr.emitOptEach_agree (b : Nat) : ∀ es : Option (List Expr),
    (∀ w ∈ Expr.wordsOptEach es, w.SpelledAlike g o o') →
    Expr.emitOptEach o' b es = (Expr.emitOptEach o b es).map (List.map (mapFault g))
  | none, _ => rfl
  | some es, hw => by simp [Expr.emitOptEach, Expr.emitEach_agree b es hw]

theorem Expr.emitSets_agree (b : Nat) : ∀ ss : List (List Expr),
    (∀ w ∈ Expr.wordsSets ss, w.SpelledAlike g o o') →
    Expr.emitSets o' b ss = (Expr.emitSets o b ss).map (mapFault g)
  | [], _ => rfl
  | s :: ss, hw => by
    simp only [Expr.wordsSets, List.forall_mem_append] at hw
    simp [Expr.emitSets, Expr.emitEach_agree b s hw.1, Expr.emitSets_agree b ss hw.2]

theorem Expr.emitOptSets_agree (b : Nat) : ∀ ss : Option (List (List Expr)),
    (∀ w ∈ Expr.wordsOptSets ss, w.SpelledAlike g o o') →
    Expr.emitOptSets o' b ss = (Expr.emitOptSets o b ss).map (mapFault g)
  | none, _ => rfl
  | some ss, hw => by simp [Expr.emitOptSets, Expr.emitSets_agree b ss hw]

theorem Call.emit_agree (b : Nat) : ∀ c : Call, (∀ w ∈ c.words, w.SpelledAlike g o o') →
    c.emit o' b = (c.emit o b).mapFault g
  | .normal _ args, hw | .aggregate _ args _, hw => by
    simp [Call.emit, Expr.emitEach_agree b args hw]
  | .cast e t, hw => by
    simp [Call.emit, Expr.emit_agree b e hw, CastType.emit_dialect o.dialect o'.dialect t]
  | .extract unit e, hw => by
    simp only [Call.words, List.forall_mem_append] at hw
    simp [Call.emit, Expr.emit_agree b unit hw.1, Expr.emit_agree b e hw.2]

theorem WindowCall.emit_agree (b : Nat) : ∀ w : WindowCall,
    (∀ x ∈ w.words, x.SpelledAlike g o o') → w.emit o' b = (w.emit o b).mapFault g
  | { function, partitionBy, orderBy, frame }, hw => by
    simp only [WindowCall.words, List.forall_mem_append] at hw
    have hfn := Expr.emit_agree b function hw.1.1
    have hp := Expr.emitEach_agree b partitionBy hw.1.2
    have hk := SortKey.emitEach_agree b orderBy hw.2
    have hfr := Frame.emit_dialect o.dialect o'.dialect
    -- the clauses inside `OVER (...)` are present or not by the shape of the lists
    cases partitionBy <;> cases orderBy <;> cases frame <;> simp_all [WindowCall.emit]

theorem CaseArm.emit_agree (b : Nat) : ∀ a : CaseArm, (∀ w ∈ a.words, w.SpelledAlike g o o') →
    a.emit o' b = (a.emit o b).mapFault g
  | { test, result }, hw => by
    simp only [CaseArm.words, List.forall_mem_append] at hw
    simp [CaseArm.emit, Expr.emit_agree b test hw.1, Expr.emit_agree b result hw.2]

theorem CaseArm.emitEach_agree (b : Nat) : ∀ arms : List CaseArm,
    (∀ w ∈ CaseArm.wordsEach arms, w.SpelledAlike g o o') →
    CaseArm.emitEach o' b arms = (CaseArm.emitEach o b arms).map (mapFault g)
  | [], _ => rfl
  | a :: arms, hw => by
    simp only [CaseArm.wordsEach, List.forall_mem_append] at hw
    simp [CaseArm.emitEach, CaseArm.emit_agree b a hw.1, CaseArm.emitEach_agree b arms hw.2]

theorem SortKey.emit_agree (b : Nat) : ∀ k : SortKey, (∀ w ∈ k.words, w.SpelledAlike g o o') →
    k.emit o' b = (k.emit o b).mapFault g
  | { key, order, nullsFirst, nullsLast }, hw => by
    simp [SortKey.emit, keyword, Keyword.supports, Expr.emit_agree b key hw]

theorem SortKey.emitEach_agree (b : Nat) : ∀ keys : List SortKey,
    (∀ w ∈ SortKey.wordsEach keys, w.SpelledAlike g o o') →
    SortKey.emitEach o' b keys = (SortKey.emitEach o b keys).map (mapFault g)
  | [], _ => rfl
  | k :: keys, hw => by
    simp only [SortKey.wordsEach, List.forall_mem_append] at hw
    simp [SortKey.emitEach, SortKey.emit_agree b k hw.1, SortKey.emitEach_agree b keys hw.2]

theorem SortKey.emitOptEach_agree (b : Nat) : ∀ keys : Option (List SortKey),
    (∀ w ∈ SortKey.wordsOptEach keys, w.SpelledAlike g o o') →
    SortKey.emitOptEach o' b keys = (SortKey.emitOptEach o b keys).map (List.map (mapFault g))
  | none, _ => rfl
  | some keys, hw => by simp [SortKey.emitOptEach, SortKey.emitEach_agree b keys hw]

/-- A query whose dialect words are spelled alike renders alike under agreeing options. -/
theorem Query.emit_agree : ∀ (b : Nat) (q : Query), (∀ w ∈ q.words, w.SpelledAlike g o o') →
    q.emit o' b = (q.emit o b).mapFault g
  | 0, _, _ => by simp [Query.emit, hf.tooDeep]
  | b + 1, .single s, hw => by simp [Query.emit, Select.emit_agree b s hw]
  | b + 1, .compound c, hw => by simp [Query.emit, Compound.emit_agree b c hw]

theorem CommonTable.emit_agree (b : Nat) : ∀ t : CommonTable,
    (∀ w ∈ t.words, w.SpelledAlike g o o') → t.emit o' b = (t.emit o b).mapFault g
  | { name, query }, hw => by simp [CommonTable.emit, Query.emit_agree b query hw]

theorem CommonTable.emitEach_agree (b : Nat) : ∀ ts : List CommonTable,
    (∀ w ∈ CommonTable.wordsEach ts, w.SpelledAlike g o o') →
    CommonTable.emitEach o' b ts = (CommonTable.emitEach o b ts).map (mapFault g)
  | [], _ => rfl
  | t :: ts, hw => by
    simp only [CommonTable.wordsEach, List.forall_mem_append] at hw
    simp [CommonTable.emitEach, CommonTable.emit_agree b t hw.1, CommonTable.emitEach_agree b ts hw.2]

theorem CommonTable.emitOptEach_agree (b : Nat) : ∀ ts : Option (List CommonTable),
    (∀ w ∈ CommonTable.wordsOptEach ts, w.SpelledAlike g o o') →
    CommonTable.emitOptEach o' b ts = (CommonTable.emitOptEach o b ts).map (mapFault g)
  | none, _ => rfl
  | some ts, hw => CommonTable.emitEach_agree b ts hw

theorem SelectItem.emit_agree (b : Nat) : ∀ i : SelectItem,
    (∀ w ∈ i.words, w.SpelledAlike g o o') → i.emit o' b = (i.emit o b).mapFault g
  | { value, label }, hw => by simp [SelectItem.emit, Expr.emit_agree b value hw]

theorem SelectItem.emitEach_agree (b : Nat) : ∀ is : List SelectItem,
    (∀ w ∈ SelectItem.wordsEach is, w.SpelledAlike g o o') →
    SelectItem.emitEach o' b is = (SelectItem.emitEach o b is).map (mapFault g)
  | [], _ => rfl
  | i :: is, hw => by
    simp only [SelectItem.wordsEach, List.forall_mem_append] at hw
    simp [SelectItem.emitEach, SelectItem.emit_agree b i hw.1, SelectItem.emitEach_agree b is hw.2]

theorem SelectClause.emit_agree (b : Nat) : ∀ c : SelectClause,
    (∀ w ∈ c.words, w.SpelledAlike g o o') → c.emit o' b = (c.emit o b).mapFault g
  | { distinct, items }, hw => by
    cases distinct <;> simp [SelectClause.emit, SelectItem.emitEach_agree b items hw]

theorem TableSource.emit_agree (b : Nat) : ∀ s : TableSource,
    (∀ w ∈ s.words, w.SpelledAlike g o o') → s.emit o' b = (s.emit o b).mapFault g
  | .table _, _ => by simp [TableSource.emit]
  | .subquery q, hw => by simp [TableSource.emit, Query.emit_agree b q hw]

theorem FromItem.emit_agree (b : Nat) : ∀ i : FromItem,
    (∀ w ∈ i.words, w.SpelledAlike g o o') → i.emit o' b = (i.emit o b).mapFault g
  | { source, label }, hw => by simp [FromItem.emit, TableSource.emit_agree b source hw]

theorem FromItem.emitEach_agree (b : Nat) : ∀ is : List FromItem,
    (∀ w ∈ FromItem.wordsEach is, w.SpelledAlike g o o') →
    FromItem.emitEach o' b is = (FromItem.emitEach o b is).map (mapFault g)
  | [], _ => rfl
  | i :: is, hw => by
    simp only [FromItem.wordsEach, List.forall_mem_append] at hw
    simp [FromItem.emitEach, FromItem.emit_agree b i hw.1, FromItem.emitEach_agree b is hw.2]

theorem FromItem.emitOptEach_agree (b : Nat) : ∀ is : Option (List FromItem),
    (∀ w ∈ FromItem.wordsOptEach is, w.SpelledAlike g o o') →
    FromItem.emitOptEach o' b is = (FromItem.emitOptEach o b is).map (List.map (mapFault g))
  | none, _ => rfl
  | some is, hw => by simp [FromItem.emitOptEach, FromItem.emitEach_agree b is hw]

theorem LateralView.emit_agree (b : Nat) : ∀ v : LateralView,
    (∀ w ∈ v.words, w.SpelledAlike g o o') → v.emit o' b = (v.emit o b).mapFault g
  | { outer, function, viewName, labels }, hw => by
    cases outer <;> simp [LateralView.emit, Call.emit_agree b function hw]

theorem LateralView.emitEach_agree (b : Nat) : ∀ vs : List LateralView,
    (∀ w ∈ LateralView.wordsEach vs, w.SpelledAlike g o o') →
    LateralView.emitEach o' b vs = (LateralView.emitEach o b vs).map (mapFault g)
  | [], _ => rfl
  | v :: vs, hw => by
    simp only [LateralView.wordsEach, List.forall_mem_append] at hw
    simp [LateralView.emitEach, LateralView.emit_agree b v hw.1, LateralView.emitEach_agree b vs hw.2]

theorem JoinRule.emit_agree (b : Nat) : ∀ r : JoinRule,
    (∀ w ∈ r.words, w.SpelledAlike g o o') → r.emit o' b = (r.emit o b).mapFault g
  | .on c, hw => by simp [JoinRule.emit, Expr.emit_agree b c hw]
  | .using f, hw => by simp [JoinRule.emit, Call.emit_agree b f hw]

theorem JoinRule.emitOpt_agree (b : Nat) : ∀ r : Option JoinRule,
    (∀ w ∈ JoinRule.wordsOpt r, w.SpelledAlike g o o') →
    JoinRule.emitOpt o' b r = (JoinRule.emitOpt o b r).map (mapFault g)
  | none, _ => rfl
  | some r, hw => by simp [JoinRule.emitOpt, JoinRule.emit_agree b r hw]

theorem Join.emit_agree (b : Nat) : ∀ j : Join,
    (∀ w ∈ j.words, w.SpelledAlike g o o') → j.emit o' b = (j.emit o b).mapFault g
  | { kind, table, rule }, hw => by
    simp only [Join.words, List.forall_mem_append] at hw
    simp [Join.emit, keyword, Keyword.supports, FromItem.emit_agree b table hw.1,
      JoinRule.emitOpt_agree b rule hw.2]

theorem Join.emitEach_agree (b : Nat) : ∀ js : List Join,
    (∀ w ∈ Join.wordsEach js, w.SpelledAlike g o o') →
    Join.emitEach o' b js = (Join.emitEach o b js).map (mapFault g)
  | [], _ => rfl
  | j :: js, hw => by
    simp only [Join.wordsEach, List.forall_mem_append] at hw
    simp [Join.emitEach, Join.emit_agree b j hw.1, Join.emitEach_agree b js hw.2]

theorem GroupBy.emit_agree (b : Nat) : ∀ gb : GroupBy,
    (∀ w ∈ gb.words, w.SpelledAlike g o o') → gb.emit o' b = (gb.emit o b).mapFault g
  | { columns, groupingSets, withCube, withRollup }, hw => by
    simp only [GroupBy.words, List.forall_mem_append] at hw
    simp [GroupBy.emit, Expr.emitEach_agree b columns hw.1,
      Expr.emitOptSets_agree b groupingSets hw.2]

theorem GroupBy.emitOpt_agree (b : Nat) : ∀ gb : Option GroupBy,
    (∀ w ∈ GroupBy.wordsOpt gb, w.SpelledAlike g o o') →
    GroupBy.emitOpt o' b gb = (GroupBy.emitOpt o b gb).map (mapFault g)
  | none, _ => rfl
  | some gb, hw => by simp [GroupBy.emitOpt, GroupBy.emit_agree b gb hw]

/-- A `SELECT` whose dialect words are spelled alike renders alike under agreeing options: the
two dialects write the distribution clauses or leave them out alike. -/
theorem Select.emit_agree (b : Nat) : ∀ s : Select, (∀ w ∈ s.words, w.SpelledAlike g o o') →
    s.emit o' b = (s.emit o b).mapFault g
  | { withTables, selectClause, fromTables, lateralViews, joins, filter, groupBy, having,
      orderBy, sortBy, distributeBy, clusterBy, limit }, hw => by
    simp only [Select.words, List.forall_mem_append] at hw
    obtain ⟨⟨⟨⟨⟨⟨⟨⟨⟨⟨⟨hw, hc⟩, hfr⟩, hl⟩, hj⟩, hfi⟩, hg⟩, hh⟩, ho⟩, hs⟩, hd⟩, hcl⟩ := hw
    simp [Select.emit, hf.distribution, CommonTable.emitOptEach_agree b withTables hw,
      SelectClause.emit_agree b selectClause hc, FromItem.emitOptEach_agree b fromTables hfr,
      LateralView.emitEach_agree b lateralViews hl, Join.emitEach_agree b joins hj,
      Expr.emitOpt_agree b filter hfi, GroupBy.emitOpt_agree b groupBy hg,
      Expr.emitOpt_agree b having hh, SortKey.emitOptEach_agree b orderBy ho,
      SortKey.emitOptEach_agree b sortBy hs, Expr.emitOptEach_agree b distributeBy hd,
      Expr.emitOptEach_agree b clusterBy hcl]

theorem Branch.emit_agree (b : Nat) : ∀ r : Branch, (∀ w ∈ r.words, w.SpelledAlike g o o') →
    r.emit o' b = (r.emit o b).mapFault g
  | { op, select }, hw => by
    simp [Branch.emit, keyword, Keyword.supports, Select.emit_agree b select hw]

theorem Branch.emitEach_agree (b : Nat) : ∀ rs : List Branch,
    (∀ w ∈ Branch.wordsEach rs, w.SpelledAlike g o o') →
    Branch.emitEach o' b rs = (Branch.emitEach o b rs).map (mapFault g)
  | [], _ => rfl
  | r :: rs, hw => by
    simp only [Branch.wordsEach, List.forall_mem_append] at hw
    simp [Branch.emitEach, Branch.emit_agree b r hw.1, Branch.emitEach_agree b rs hw.2]

theorem Compound.emit_agree (b : Nat) : ∀ c : Compound, (∀ w ∈ c.words, w.SpelledAlike g o o') →
    c.emit o' b = (c.emit o b).mapFault g
  | { withTables, head, tail }, hw => by
    simp only [Compound.words, List.forall_mem_append] at hw
    simp [Compound.emit, CommonTable.emitOptEach_agree b withTables hw.1.1,
      Select.emit_agree b head hw.1.2, Branch.emitEach_agree b tail hw.2]

end

/-! ## Statements and table definitions -/

variable (b : Nat)

theorem ColumnType.emit_agree (t : ColumnType) (hw : ∀ w ∈ t.words, w.SpelledAlike g o o') :
    t.emit o' b = (t.emit o b).mapFault g := by
  rcases t with ⟨name, _ | ps⟩
  · simp [ColumnType.emit]
  · have hps := Expr.emitEach_agree hf b ps hw
    simp [ColumnType.emit, hf.narrowTypeParams, hps]

theorem GeneratedColumn.emit_agree (gc : GeneratedColumn)
    (hw : ∀ w ∈ gc.words, w.SpelledAlike g o o') : gc.emit o' b = (gc.emit o b).mapFault g := by
  simp [GeneratedColumn.emit, keyword, Keyword.supports, Expr.emit_agree hf b gc.expr hw]

theorem ColumnDef.emit_agree (c : ColumnDef) (hw : ∀ w ∈ c.words, w.SpelledAlike g o o') :
    c.emit o' b = (c.emit o b).mapFault g := by
  simp only [ColumnDef.words, List.forall_mem_append] at hw
  obtain ⟨⟨⟨ht, hg⟩, hd⟩, hu⟩ := hw
  have hgen := optionMap_agree fun gc (h : c.generated = some gc) =>
    GeneratedColumn.emit_agree hf b gc fun w hw' => hg w (by simp [h, hw'])
  have hdef := optionMap_agree fun e (h : c.defaultValue = some e) =>
    Expr.emit_agree hf b e fun w hw' => hd w (by simp [h, Expr.wordsOpt, hw'])
  have hupd := optionMap_agree fun e (h : c.onUpdate = some e) =>
    Expr.emit_agree hf b e fun w hw' => hu w (by simp [h, Expr.wordsOpt, hw'])
  simp [ColumnDef.emit, Emission.afterText, hf.columnAttributes, ColumnType.emit_agree hf b _ ht,
    hgen, hdef, hupd]

theorem AlterTarget.emit_agree (t : AlterTarget) (hw : ∀ w ∈ t.words, w.SpelledAlike g o o') :
    t.emit o' b = (t.emit o b).mapFault g := by
  cases t with
  | column c => simp [AlterTarget.emit, ColumnDef.emit_agree hf b c hw]
  | index _ | foreignKey _ => simp [AlterTarget.emit]

theorem AlterAction.emit_agree (a : AlterAction) (hw : ∀ w ∈ a.words, w.SpelledAlike g o o') :
    a.emit o' b = (a.emit o b).mapFault g := by
  cases a with
  | addPartition _ p | dropPartition _ p =>
    simp [AlterAction.emit, Expr.emitEach_agree hf b p hw]
  | add t | modify t | change _ t => simp [AlterAction.emit, AlterTarget.emit_agree hf b t hw]
  | renameColumn _ _ | dropColumn _ => simp [AlterAction.emit]

theorem AlterTable.emit_agree (s : AlterTable) (hw : ∀ w ∈ s.words, w.SpelledAlike g o o') :
    s.emit o' b = (s.emit o b).mapFault g := by
  have ha := listMap_agree fun a (h : a ∈ s.actions) =>
    AlterAction.emit_agree hf b a fun w hw' => hw w (List.mem_flatMap.mpr ⟨a, h, hw'⟩)
  simp [AlterTable.emit, ha]

/-- A table definition renders alike under agreeing options with one indent: the two dialects
lay it out alike, or both fail to write it. -/
theorem CreateTable.emit_agree (s : CreateTable) (hw : ∀ w ∈ s.words, w.SpelledAlike g o o')
    (hi : o'.indent = o.indent) : s.emit o' b = (s.emit o b).mapFault g := by
  simp only [CreateTable.words, List.forall_mem_append] at hw
  have hc := listMap_agree fun c (h : c ∈ s.columns) =>
    ColumnDef.emit_agree hf b c fun w hw' => hw.1 w (List.mem_flatMap.mpr ⟨c, h, hw'⟩)
  have hp := listMap_agree fun c (h : c ∈ s.partitionedBy) =>
    ColumnDef.emit_agree hf b c fun w hw' => hw.2 w (List.mem_flatMap.mpr ⟨c, h, hw'⟩)
  simp only [CreateTable.emit, hf.tableLayout]
  split
  · simp [CreateTable.emitKeyed, CreateTable.keyedEntries, CreateTable.body, CreateTable.title,
      Emission.afterText, hi, hc]
  · simp [CreateTable.emitPartitioned, CreateTable.body, CreateTable.title, Emission.afterText,
      hi, hc, hp]
  · simp [hf.unrenderable]

theorem CreateTableAs.emit_agree (s : CreateTableAs) (hw : ∀ w ∈ s.words, w.SpelledAlike g o o') :
    s.emit o' b = (s.emit o b).mapFault g := by
  simp [CreateTableAs.emit, Query.emit_agree hf b s.query hw]

theorem InsertSource.emit_agree (s : InsertSource) (hw : ∀ w ∈ s.words, w.SpelledAlike g o o') :
    s.emit o' b = (s.emit o b).mapFault g := by
  cases s with
  | values rows =>
    have hr := listMap_agree fun r (h : r ∈ rows) =>
      show Clause.row (Expr.emitEach o' b r) = (Clause.row (Expr.emitEach o b r)).mapFault g by
        simp [Expr.emitEach_agree hf b r fun w hw' => hw w (List.mem_flatMap.mpr ⟨r, h, hw'⟩)]
    simp [InsertSource.emit, hr]
  | query q => simp [InsertSource.emit, Query.emit_agree hf b q hw]

/-- An `INSERT` renders alike under agreeing options when the names of its columns are spelled
alike. -/
theorem Insert.emit_agree (s : Insert) (hw : ∀ w ∈ s.words, w.SpelledAlike g o o') :
    s.emit o' b = (s.emit o b).mapFault g := by
  simp only [Insert.words, List.forall_mem_append] at hw
  obtain ⟨⟨⟨ht, hp⟩, hc⟩, hs⟩ := hw
  have hpart := optionMap_agree fun p (h : s.partition = some p) =>
    show Clause.partition (Expr.emitEach o' b p) ++ " " =
        (Clause.partition (Expr.emitEach o b p) ++ " ").mapFault g by
      simp [Expr.emitEach_agree hf b p fun w hw' => hp w (by simp [h, hw'])]
  have hcols := optionMap_agree fun cs (h : s.columns = some cs) =>
    show "(" ++ sepBy ", " (cs.map (ColumnName.emit o'.dialect)) ++ ") " =
        ("(" ++ sepBy ", " (cs.map (ColumnName.emit o.dialect)) ++ ") ").mapFault g by
      -- the column names are dialect words of the statement
      have hcs : cs.map (ColumnName.emit o'.dialect) = cs.map (ColumnName.emit o.dialect) :=
        List.map_congr_left fun c hc' =>
          (DialectWord.spelledAlike_column c).mp (hc _ (by simp [h, hc']))
      simp [hcs]
  simp [Insert.emit, keyword, Keyword.supports, hf.insertTable,
    CommonTable.emitOptEach_agree hf b _ ht, hpart, hcols, InsertSource.emit_agree hf b _ hs]

/-- An `ANALYZE TABLE` renders alike under agreeing options: the two dialects write it in one
form, or both lack it. -/
theorem Analyze.emit_agree (s : Analyze) (hw : ∀ w ∈ s.words, w.SpelledAlike g o o') :
    s.emit o' b = (s.emit o b).mapFault g := by
  have hpart := optionMap_agree fun p (h : s.partition = some p) =>
    show Clause.partition (Expr.emitEach o' b p) =
        (Clause.partition (Expr.emitEach o b p)).mapFault g by
      simp [Expr.emitEach_agree hf b p fun w hw' => hw w (by simp [Analyze.words, h, hw'])]
  simp only [Analyze.emit, hf.analyze]
  split
  · simp [hpart]
  · simp
  · simp [hf.unsupportedFeature]

theorem Assignment.emit_agree (a : Assignment) (hw : ∀ w ∈ a.words, w.SpelledAlike g o o') :
    a.emit o' b = (a.emit o b).mapFault g := by
  simp [Assignment.emit, Expr.emit_agree hf b a.value hw]

theorem Assignment.emitSet_agree (as : List Assignment)
    (hw : ∀ w ∈ as.flatMap Assignment.words, w.SpelledAlike g o o') :
    Assignment.emitSet o' b as = (Assignment.emitSet o b as).mapFault g := by
  have ha := listMap_agree fun a (h : a ∈ as) =>
    Assignment.emit_agree hf b a fun w hw' => hw w (List.mem_flatMap.mpr ⟨a, h, hw'⟩)
  simp [Assignment.emitSet, ha]

theorem Clause.tail_agree (filter : Option Expr) (orderBy : Option (List SortKey))
    (limit : Option Limit) (hw : ∀ w ∈ Clause.tailWords filter orderBy, w.SpelledAlike g o o') :
    Clause.tail o' b filter orderBy limit = (Clause.tail o b filter orderBy limit).mapFault g := by
  simp only [Clause.tailWords, List.forall_mem_append] at hw
  have hf' := optionMap_agree fun c (h : filter = some c) =>
    show Clause.whereCond (c.emit o' b) = (Clause.whereCond (c.emit o b)).mapFault g by
      simp [Expr.emit_agree hf b c fun w hw' => hw.1 w (by simp [h, Expr.wordsOpt, hw'])]
  have hk := optionMap_agree fun ks (h : orderBy = some ks) =>
    show Clause.orderBy (SortKey.emitEach o' b ks) = (Clause.orderBy (SortKey.emitEach o b ks)).mapFault g by
      simp [SortKey.emitEach_agree hf b ks fun w hw' => hw.2 w (by simp [h, SortKey.wordsOptEach, hw'])]
  simp [Clause.tail, hf', hk]

theorem Update.emit_agree (s : Update) (hw : ∀ w ∈ s.words, w.SpelledAlike g o o') :
    s.emit o' b = (s.emit o b).mapFault g := by
  simp only [Update.words, List.forall_mem_append] at hw
  simp [Update.emit, CommonTable.emitOptEach_agree hf b _ hw.1.1,
    Assignment.emitSet_agree hf b s.assignments hw.1.2,
    Clause.tail_agree hf b s.filter s.orderBy s.limit hw.2]

theorem Delete.emit_agree (s : Delete) (hw : ∀ w ∈ s.words, w.SpelledAlike g o o') :
    s.emit o' b = (s.emit o b).mapFault g := by
  simp [Delete.emit, Clause.tail_agree hf b s.filter s.orderBy s.limit hw]

theorem ShowColumns.emit_agree (s : ShowColumns) (hw : ∀ w ∈ s.words, w.SpelledAlike g o o') :
    s.emit o' b = (s.emit o b).mapFault g := by
  simp only [ShowColumns.words, List.forall_mem_append] at hw
  have hf' := optionMap_agree fun c (h : s.filter = some c) =>
    show Clause.whereCond (c.emit o' b) = (Clause.whereCond (c.emit o b)).mapFault g by
      simp [Expr.emit_agree hf b c fun w hw' => hw.2 w (by simp [h, Expr.wordsOpt, hw'])]
  simp [ShowColumns.emit, FromItem.emitEach_agree hf b _ hw.1, hf']

/-- A statement whose dialect words are spelled alike renders alike under agreeing options,
if the indents agree too when it is a table definition. -/
theorem Statement.emit_agree (s : Statement) (hw : ∀ w ∈ s.words, w.SpelledAlike g o o')
    (hi : (Node.statement s).isCreateTable = true → o'.indent = o.indent) :
    s.emit o' b = (s.emit o b).mapFault g := by
  cases s with
  | select q => exact Query.emit_agree hf b q hw
  | insert s => exact Insert.emit_agree hf b s hw
  | createTable s => exact CreateTable.emit_agree hf b s hw (hi rfl)
  | createTableAs s => exact CreateTableAs.emit_agree hf b s hw
  | alterTable s => exact AlterTable.emit_agree hf b s hw
  | analyze s => exact Analyze.emit_agree hf b s hw
  | update s => exact Update.emit_agree hf b s hw
  | delete s => exact Delete.emit_agree hf b s hw
  | showColumns s => exact ShowColumns.emit_agree hf b s hw
  | dropTable s => simp [Statement.emit, DropTable.mapFault_emit]
  | set _ | repair _ | use _ | truncate _ | showDatabases | showTables => simp [Statement.emit]

/-- Any node whose dialect words are spelled alike renders alike under agreeing options, with
the same budget: the same text, and the fault renamed.  A table definition asks for the same
indent as well. -/
theorem Node.emit_agree (n : Node) (hw : ∀ w ∈ n.words, w.SpelledAlike g o o')
    (hi : n.isCreateTable = true → o'.indent = o.indent) :
    n.emit o' b = (n.emit o b).mapFault g := by
  cases n with
  | statement s => exact Statement.emit_agree hf b s hw hi
  | createTable s => exact CreateTable.emit_agree hf b s hw (hi rfl)
  | query q => exact Query.emit_agree hf b q hw
  | subquery q => simp [Node.emit, Query.emitParens, Query.emit_agree hf b q hw]
  | select s => exact Select.emit_agree hf b s hw
  | compound c => exact Compound.emit_agree hf b c hw
  | insert s => exact Insert.emit_agree hf b s hw
  | analyze s => exact Analyze.emit_agree hf b s hw
  | update s => exact Update.emit_agree hf b s hw
  | assignments as => exact Assignment.emitSet_agree hf b as hw
  | assignment a => exact Assignment.emit_agree hf b a hw
  | delete s => exact Delete.emit_agree hf b s hw
  | showColumns s => exact ShowColumns.emit_agree hf b s hw
  | createTableAs s => exact CreateTableAs.emit_agree hf b s hw
  | alterTable s => exact AlterTable.emit_agree hf b s hw
  | alterAction a => exact AlterAction.emit_agree hf b a hw
  | alterTarget t => exact AlterTarget.emit_agree hf b t hw
  | columnDef c => exact ColumnDef.emit_agree hf b c hw
  | generatedColumn gc => exact GeneratedColumn.emit_agree hf b gc hw
  | selectItem i => exact SelectItem.emit_agree hf b i hw
  | selectClause c => exact SelectClause.emit_agree hf b c hw
  | tableSource s => exact TableSource.emit_agree hf b s hw
  | fromItem i => exact FromItem.emit_agree hf b i hw
  | lateralView v => exact LateralView.emit_agree hf b v hw
  | joinRule r => exact JoinRule.emit_agree hf b r hw
  | join j => exact Join.emit_agree hf b j hw
  | groupBy gb => exact GroupBy.emit_agree hf b gb hw
  | sortKey k => exact SortKey.emit_agree hf b k hw
  | commonTable t => exact CommonTable.emit_agree hf b t hw
  | columnType t => exact ColumnType.emit_agree hf b t hw
  | expression e => exact Expr.emit_agree hf b e hw
  | bare e => exact Expr.emit_agree hf (b + 1) e hw
  | call f => exact Call.emit_agree hf b f hw
  | window w => exact WindowCall.emit_agree hf b w hw
  | caseArm a => exact CaseArm.emit_agree hf b a hw
  | fromClause is => simp [Node.emit, FromItem.emitEach_agree hf b is hw]
  | whereClause c => simp [Node.emit, Expr.emit_agree hf b c hw]
  | havingClause c => simp [Node.emit, Expr.emit_agree hf b c hw]
  | groupingSets ss => simp [Node.emit, Expr.emitSets_agree hf b ss hw]
  | orderByClause ks => simp [Node.emit, SortKey.emitEach_agree hf b ks hw]
  | sortByClause ks => simp [Node.emit, SortKey.emitEach_agree hf b ks hw]
  | distributeByClause es => simp [Node.emit, Expr.emitEach_agree hf b es hw]
  | clusterByClause es => simp [Node.emit, Expr.emitEach_agree hf b es hw]
  | withClause ts => simp [Node.emit, CommonTable.emitEach_agree hf b ts hw]
  | partition es => simp [Node.emit, Expr.emitEach_agree hf b es hw]
  | columnName c => simpa [Node.emit, Node.words] using hw
  | castType t => simp [Node.emit, CastType.emit_dialect o.dialect o'.dialect t]
  | frameBound fb => simp [Node.emit, FrameBound.emit_dialect o.dialect o'.dialect fb]
  | frame f => simp [Node.emit, Frame.emit_dialect o.dialect o'.dialect f]
  | dropTable s => simp [Node.emit, DropTable.mapFault_emit]
  | indexColumn _ | indexDecl _ | foreignKey _ | limit _ | tableName _ | functionName _
  | label _ | labels _ | configString _ => simp [Node.emit]

/-- Under agreeing options with one depth limit, a node whose dialect words are spelled alike
renders alike: the same text, or the renamed error. -/
theorem Node.render_agree (n : Node) (hw : ∀ w ∈ n.words, w.SpelledAlike g o o')
    (hi : n.isCreateTable = true → o'.indent = o.indent) (hm : o'.maxDepth = o.maxDepth) :
    n.render o' = (n.render o).mapError g := by
  rw [Node.render, Node.render, hm, Node.emit_agree hf o.maxDepth n hw hi, result_mapFault]

end Agree

end SqlSyntax
