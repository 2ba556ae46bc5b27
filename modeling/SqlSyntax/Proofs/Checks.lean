import Mathlib.Tactic.Lemma
import SqlSyntax.Render.Tree
import SqlSyntax.Proofs.Emission
import SqlSyntax.Proofs.StackDepth

/-!
# When an expression renders

Rendering an expression makes four kinds of check as it goes down the tree: an operand may not
bind more loosely than its operator, an array subscript needs a dialect that has them, the
remainder operator needs a dialect that has it, and every expression entered costs one level of
the depth budget.  This file shows that these checks are all there is, for expressions that
hold no subquery (a subquery is a leaf for the depth count but starts a query of its own when
rendered):

* `Expr.ok_emit_iff`: the render succeeds exactly when every node passes its checks and the
  expression is no deeper than the budget;
* `Expr.faultIn_emit`: a render that fails stops at a fault one of the checks raises, naming the
  operand and operator tiers, the lacking feature, or the configured depth limit;
* `Expr.render_ok_iff_renderable`: the two together for a whole render, with the checks spelt
  out over the nodes of the tree and the dialects that fail them.

The nodes of an expression are listed by `Expr.nodes`, which goes down through calls, windows,
`CASE` arms, sort keys and value lists, but not into subqueries.
-/

namespace SqlSyntax

/-- Whether an operator is the remainder `%`, the one keyword a dialect may lack. -/
def ComputeOp.isMod : ComputeOp → Bool
  | .mod => true
  | _ => false

lemma ComputeOp.supports_eq (d : Dialect) (op : ComputeOp) :
    Keyword.supports d op = (!op.isMod || d.traits.remainder) := by
  cases op <;> rfl

@[simp] lemma CompareOp.supports (d : Dialect) (op : CompareOp) : Keyword.supports d op = true :=
  rfl

@[simp] lemma SortOrder.supports (d : Dialect) (order : SortOrder) :
    Keyword.supports d order = true :=
  rfl

@[simp] lemma LogicalOp.supports (d : Dialect) (op : LogicalOp) : Keyword.supports d op = true :=
  rfl

/-- Hive alone writes array subscripts. -/
lemma Dialect.subscripts_eq_true_iff (d : Dialect) : d.traits.subscripts = true ↔ d = .hive := by
  cases d <;> decide

/-- DB2 alone lacks the remainder operator. -/
lemma Dialect.remainder_eq_false_iff (d : Dialect) : d.traits.remainder = false ↔ d = .db2 := by
  cases d <;> decide

/-- Whether an operand of this tier may stand bare under an operator of tier `p`. -/
def Tier.fitsUnder (t p : Tier) : Bool := decide (t ≤ p)

@[simp] lemma Tier.fitsUnder_eq_true (t p : Tier) : t.fitsUnder p = true ↔ t ≤ p :=
  decide_eq_true_iff

namespace Expr

/-! ## The checks at one node -/

/-- The operands of an operator node, left to right; other nodes have none. -/
def operands : Expr → List Expr
  | .unary _ x | .exists _ x | .not x => [x]
  | .compute l _ r | .condition _ _ l r | .compare l _ r | .and l r | .xor l r | .or l r => [l, r]
  | .between _ v low high => [v, low, high]
  | .column _ | .literal _ | .wildcard _ | .call _ | .window _ | .searchedCase _ _
  | .simpleCase _ _ _ | .subquery _ | .tuple _ | .subscript _ _ => []

/-- Whether a node is an array subscript. -/
def isSubscript : Expr → Bool
  | .subscript _ _ => true
  | _ => false

/-- Whether a node is a subquery. -/
def isSubquery : Expr → Bool
  | .subquery _ => true
  | _ => false

/-- Whether a node applies the remainder operator, as a prefix or between two operands. -/
def usesMod : Expr → Bool
  | .unary op _ | .compute _ op _ => op.isMod
  | _ => false

/-- Every operand of the node binds at least as tightly as the node itself. -/
def operandsTiered (x : Expr) : Bool :=
  x.operands.all fun y => y.tier.fitsUnder x.tier

/-- The checks rendering makes at the node itself in dialect `d`. -/
def passes (d : Dialect) (x : Expr) : Bool :=
  x.operandsTiered && (!x.isSubscript || d.traits.subscripts) && (!x.usesMod || d.traits.remainder)

@[simp] lemma tier_unary (op : ComputeOp) (x : Expr) : (unary op x).tier = .unary := rfl
@[simp] lemma tier_compute (l r : Expr) (op : ComputeOp) : (compute l op r).tier = .compute := rfl
@[simp] lemma tier_condition (k : ConditionKeyword) (n : Bool) (l r : Expr) :
    (condition k n l r).tier = .condition := rfl
@[simp] lemma tier_between (n : Bool) (v low high : Expr) :
    (between n v low high).tier = .condition := rfl
@[simp] lemma tier_exists (n : Bool) (x : Expr) : (Expr.exists n x).tier = .condition := rfl
@[simp] lemma tier_compare (l r : Expr) (op : CompareOp) : (compare l op r).tier = .comparison :=
  rfl
@[simp] lemma tier_not (x : Expr) : (not x).tier = .logicalNot := rfl
@[simp] lemma tier_and (l r : Expr) : (and l r).tier = .logicalAnd := rfl
@[simp] lemma tier_xor (l r : Expr) : (xor l r).tier = .logicalXor := rfl
@[simp] lemma tier_or (l r : Expr) : (or l r).tier = .logicalOr := rfl

end Expr

/-! ## The nodes of an expression -/

mutual

/-- Every node of an expression, the expression first; a subquery is a node, but the nodes of
its query are not listed. -/
def Expr.nodes : Expr → List Expr
  | e@(.column _) | e@(.literal _) | e@(.wildcard _) | e@(.subquery _) => [e]
  | e@(.call f) => e :: f.nodes
  | e@(.window w) => e :: w.nodes
  | e@(.searchedCase arms otherwise) => e :: (CaseArm.nodesList arms ++ Expr.nodesOpt otherwise)
  | e@(.simpleCase subject arms otherwise) =>
      e :: (subject.nodes ++ CaseArm.nodesList arms ++ Expr.nodesOpt otherwise)
  | e@(.tuple items) => e :: Expr.nodesList items
  | e@(.subscript array index) => e :: (array.nodes ++ index.nodes)
  | e@(.unary _ x) | e@(.exists _ x) | e@(.not x) => e :: x.nodes
  | e@(.compute l _ r) | e@(.condition _ _ l r) | e@(.compare l _ r) | e@(.and l r)
  | e@(.xor l r) | e@(.or l r) => e :: (l.nodes ++ r.nodes)
  | e@(.between _ v low high) => e :: (v.nodes ++ low.nodes ++ high.nodes)

/-- The nodes of a list of expressions. -/
def Expr.nodesList : List Expr → List Expr
  | [] => []
  | e :: es => e.nodes ++ Expr.nodesList es

/-- The nodes of an optional expression. -/
def Expr.nodesOpt : Option Expr → List Expr
  | none => []
  | some e => e.nodes

/-- The nodes of a call's arguments. -/
def Call.nodes : Call → List Expr
  | .normal _ args | .aggregate _ args _ => Expr.nodesList args
  | .cast e _ => e.nodes
  | .extract unit e => unit.nodes ++ e.nodes

/-- The nodes of a window's function, partitioning and sort keys. -/
def WindowCall.nodes : WindowCall → List Expr
  | { function, partitionBy, orderBy, .. } =>
      function.nodes ++ Expr.nodesList partitionBy ++ SortKey.nodesList orderBy

/-- The nodes of the tests and results of `CASE` arms. -/
def CaseArm.nodesList : List CaseArm → List Expr
  | [] => []
  | { test, result } :: arms => test.nodes ++ result.nodes ++ CaseArm.nodesList arms

/-- The nodes of the keys of a list of sort keys. -/
def SortKey.nodesList : List SortKey → List Expr
  | [] => []
  | { key, .. } :: keys => key.nodes ++ SortKey.nodesList keys

end

/-! ## Success

A render succeeds exactly when every node it reaches passes its checks and it never runs out
of levels.  The `simp` set below evaluates the checks at the node being rendered; each case of
the induction then matches the checks the renderer makes, in the renderer's order, against the
checks of the node and of its parts, put in one order by `and_comm` and its siblings. -/

lemma ColumnName.ok_emit (d : Dialect) (c : ColumnName) : (c.emit d).ok = true := by
  unfold ColumnName.emit
  cases c.table <;> split <;> rfl

lemma FunctionName.ok_emit (f : FunctionName) : f.emit.ok = true := by
  unfold FunctionName.emit
  cases f.schema <;> rfl

lemma Frame.ok_emit (d : Dialect) (f : Frame) : (f.emit d).ok = true := by
  rcases f with ⟨⟨⟩ | _ | ⟨⟩ | _ | ⟨⟩, ⟨⟩ | _ | ⟨⟩ | _ | ⟨⟩⟩ <;> rfl

lemma CastType.ok_emit (d : Dialect) (t : CastType) : (t.emit d).ok = true := by
  rcases t with ⟨_ | _, _, _ | _⟩ <;> rfl

section Success

/- The checks at the node being rendered are unfolded; at the nodes below they stay folded inside
`List.all`, which is why `List.all_eq_true` is left out of each call. -/
attribute [local simp] Expr.emit Expr.emitEach Expr.emitOpt Call.emit WindowCall.emit
  CaseArm.emit CaseArm.emitEach SortKey.emit SortKey.emitEach Expr.nodes Expr.nodesList
  Expr.nodesOpt Call.nodes WindowCall.nodes CaseArm.nodesList SortKey.nodesList Expr.depth
  Expr.optDepth Expr.maxDepth Call.depthBelow WindowCall.depthBelow CaseArm.maxDepth
  SortKey.maxDepth Expr.passes Expr.operandsTiered Expr.operands Expr.isSubscript Expr.usesMod
  ComputeOp.supports_eq ColumnName.ok_emit FunctionName.ok_emit Frame.ok_emit CastType.ok_emit
  Clause.orderBy Nat.max_le

variable (o : RenderOptions)

mutual

/-- An expression without subqueries renders exactly when every node passes its checks and the
expression nests no deeper than the budget. -/
theorem Expr.ok_emit_iff : ∀ (b : Nat) (e : Expr), (∀ x ∈ e.nodes, x.isSubquery = false) →
    ((e.emit o b).ok = true ↔ e.nodes.all (Expr.passes o.dialect) = true ∧ e.depth ≤ b)
  | 0, e, _ => by simp [Nat.pos_iff_ne_zero.mp (Expr.depth_pos e)]
  | _ + 1, .column _, _ | _ + 1, .literal _, _ => by simp
  | _ + 1, .wildcard table, _ => by cases table <;> simp
  | b + 1, .call f, hs => by
    simp only [Expr.nodes, List.forall_mem_cons] at hs
    simp [-List.all_eq_true, Call.ok_emit_iff b f hs.2]
  | b + 1, .window w, hs => by
    simp only [Expr.nodes, List.forall_mem_cons] at hs
    simp [-List.all_eq_true, WindowCall.ok_emit_iff b w hs.2]
  | b + 1, .searchedCase arms otherwise, hs => by
    simp only [Expr.nodes, List.forall_mem_cons, List.forall_mem_append] at hs
    simp [-List.all_eq_true, CaseArm.ok_emitEach_iff b arms hs.2.1,
      Expr.ok_emitOpt_iff b otherwise hs.2.2]
    simp only [and_assoc, and_comm, and_left_comm]
  | b + 1, .simpleCase subject arms otherwise, hs => by
    simp only [Expr.nodes, List.forall_mem_cons, List.forall_mem_append] at hs
    simp [-List.all_eq_true, Expr.ok_emit_iff b subject hs.2.1.1,
      CaseArm.ok_emitEach_iff b arms hs.2.1.2, Expr.ok_emitOpt_iff b otherwise hs.2.2]
    simp only [and_assoc, and_comm, and_left_comm]
  | _ + 1, .subquery _, hs => by simp [Expr.isSubquery] at hs
  | b + 1, .tuple items, hs => by
    simp only [Expr.nodes, List.forall_mem_cons] at hs
    simp [-List.all_eq_true, Expr.ok_emitEach_iff b items hs.2]
  | b + 1, .subscript array index, hs => by
    simp only [Expr.nodes, List.forall_mem_cons, List.forall_mem_append] at hs
    cases h : o.dialect.traits.subscripts <;>
      simp [-List.all_eq_true, h, Expr.ok_emit_iff b array hs.2.1, Expr.ok_emit_iff b index hs.2.2]
    simp only [and_assoc, and_comm, and_left_comm]
  | b + 1, .unary _ x, hs | b + 1, .exists _ x, hs | b + 1, .not x, hs => by
    simp only [Expr.nodes, List.forall_mem_cons] at hs
    simp [-List.all_eq_true, Expr.ok_emit_iff b x hs.2]
    simp only [and_assoc, and_comm, and_left_comm]
  | b + 1, .compute l _ r, hs | b + 1, .condition _ _ l r, hs | b + 1, .compare l _ r, hs
  | b + 1, .and l r, hs | b + 1, .xor l r, hs | b + 1, .or l r, hs => by
    simp only [Expr.nodes, List.forall_mem_cons, List.forall_mem_append] at hs
    simp [-List.all_eq_true, Expr.ok_emit_iff b l hs.2.1, Expr.ok_emit_iff b r hs.2.2]
    simp only [and_assoc, and_comm, and_left_comm]
  | b + 1, .between _ v low high, hs => by
    simp only [Expr.nodes, List.forall_mem_cons, List.forall_mem_append] at hs
    simp [-List.all_eq_true, Expr.ok_emit_iff b v hs.2.1.1, Expr.ok_emit_iff b low hs.2.1.2,
      Expr.ok_emit_iff b high hs.2.2]
    simp only [and_assoc, and_comm, and_left_comm]

/-- A list of expressions renders item by item. -/
theorem Expr.ok_emitEach_iff (b : Nat) : ∀ (es : List Expr),
    (∀ x ∈ Expr.nodesList es, x.isSubquery = false) →
    ((Expr.emitEach o b es).all Emission.ok = true ↔
      (Expr.nodesList es).all (Expr.passes o.dialect) = true ∧ Expr.maxDepth es ≤ b)
  | [], _ => by simp
  | e :: es, hs => by
    simp only [Expr.nodesList, List.forall_mem_append] at hs
    simp [-List.all_eq_true, Expr.ok_emit_iff b e hs.1, Expr.ok_emitEach_iff b es hs.2]
    simp only [and_assoc, and_comm, and_left_comm]

/-- An optional expression renders when it is absent or renders. -/
theorem Expr.ok_emitOpt_iff (b : Nat) : ∀ (e : Option Expr),
    (∀ x ∈ Expr.nodesOpt e, x.isSubquery = false) →
    ((Expr.emitOpt o b e).all Emission.ok = true ↔
      (Expr.nodesOpt e).all (Expr.passes o.dialect) = true ∧ Expr.optDepth e ≤ b)
  | none, _ => by simp
  | some e, hs => by simp [-List.all_eq_true, Expr.ok_emit_iff b e hs]

theorem Call.ok_emit_iff (b : Nat) : ∀ (c : Call), (∀ x ∈ c.nodes, x.isSubquery = false) →
    ((c.emit o b).ok = true ↔ c.nodes.all (Expr.passes o.dialect) = true ∧ c.depthBelow ≤ b)
  | .normal _ args, hs | .aggregate _ args _, hs => by
    simp [-List.all_eq_true, Expr.ok_emitEach_iff b args hs]
  | .cast e _, hs => by simp [-List.all_eq_true, Expr.ok_emit_iff b e hs]
  | .extract unit e, hs => by
    simp only [Call.nodes, List.forall_mem_append] at hs
    simp [-List.all_eq_true, Expr.ok_emit_iff b unit hs.1, Expr.ok_emit_iff b e hs.2]
    simp only [and_assoc, and_comm, and_left_comm]

theorem WindowCall.ok_emit_iff (b : Nat) : ∀ (w : WindowCall),
    (∀ x ∈ w.nodes, x.isSubquery = false) →
    ((w.emit o b).ok = true ↔ w.nodes.all (Expr.passes o.dialect) = true ∧ w.depthBelow ≤ b)
  | { function, partitionBy, orderBy, frame }, hs => by
    simp only [WindowCall.nodes, List.forall_mem_append] at hs
    have hf := Expr.ok_emit_iff b function hs.1.1
    have hp := Expr.ok_emitEach_iff b partitionBy hs.1.2
    have hk := SortKey.ok_emitEach_iff b orderBy hs.2
    cases partitionBy <;> cases orderBy <;> cases frame <;> simp_all [-List.all_eq_true] <;> simp only [and_assoc, and_comm, and_left_comm]

theorem CaseArm.ok_emitEach_iff (b : Nat) : ∀ (arms : List CaseArm),
    (∀ x ∈ CaseArm.nodesList arms, x.isSubquery = false) →
    ((CaseArm.emitEach o b arms).all Emission.ok = true ↔
      (CaseArm.nodesList arms).all (Expr.passes o.dialect) = true ∧ CaseArm.maxDepth arms ≤ b)
  | [], _ => by simp
  | { test, result } :: arms, hs => by
    simp only [CaseArm.nodesList, List.forall_mem_append] at hs
    simp [-List.all_eq_true, Expr.ok_emit_iff b test hs.1.1, Expr.ok_emit_iff b result hs.1.2,
      CaseArm.ok_emitEach_iff b arms hs.2]
    simp only [and_assoc, and_comm, and_left_comm]

theorem SortKey.ok_emitEach_iff (b : Nat) : ∀ (keys : List SortKey),
    (∀ x ∈ SortKey.nodesList keys, x.isSubquery = false) →
    ((SortKey.emitEach o b keys).all Emission.ok = true ↔
      (SortKey.nodesList keys).all (Expr.passes o.dialect) = true ∧ SortKey.maxDepth keys ≤ b)
  | [], _ => by simp
  | { key, order, nullsFirst, nullsLast } :: keys, hs => by
    simp only [SortKey.nodesList, List.forall_mem_append] at hs
    simp [-List.all_eq_true, Expr.ok_emit_iff b key hs.1, SortKey.ok_emitEach_iff b keys hs.2]
    simp only [and_assoc, and_comm, and_left_comm]

end

end Success

/-! ## Faults

A render that fails stops at a fault one of its checks raises.  `Hazard` lists those faults for
a part of an expression from two plain descriptions of the part, how deeply it nests and which
nodes it has; each case of the induction composes the closure rules of `FaultIn` along the
renderer and lifts the hazards of the parts to the whole. -/

/-- The faults the checks at one node raise in dialect `d`: an operand binding more loosely
than the node, named by the two tiers, an array subscript or a remainder the dialect lacks. -/
def Expr.LocalFault (d : Dialect) (x : Expr) (f : SqlError) : Prop :=
  (∃ y ∈ x.operands, ¬ y.tier ≤ x.tier ∧ f = .looseOperand y.tier x.tier) ∨
    (x.isSubscript = true ∧ d.traits.subscripts = false ∧
      f = .unsupportedFeature "array subscript" d) ∨
    (x.usesMod = true ∧ d.traits.remainder = false ∧ f = .unsupportedFeature "%" d)

/-- The faults a render with options `o` and budget `b` can stop at, for a part of an expression
that nests `depth` levels and has the nodes `nodes`: the depth fault, naming the configured
limit, when the part is deeper than the budget, and the faults of the checks at its nodes. -/
def Hazard (o : RenderOptions) (b depth : Nat) (nodes : List Expr) (f : SqlError) : Prop :=
  (b < depth ∧ f = .tooDeep o.maxDepth) ∨ ∃ x ∈ nodes, x.LocalFault o.dialect f

namespace Hazard

variable {o : RenderOptions} {b d d' : Nat} {ns ns' : List Expr} {f : SqlError}

/-- A hazard of a part is one of any part around it rendered with the same budget. -/
lemma widen (hd : d ≤ d') (hn : ∀ x ∈ ns, x ∈ ns') : Hazard o b d ns f → Hazard o b d' ns' f
  | .inl ⟨hb, hf⟩ => .inl ⟨by omega, hf⟩
  | .inr ⟨x, hx, h⟩ => .inr ⟨x, hn x hx, h⟩

/-- A hazard of a part rendered one level down is one of the expression around it. -/
lemma lift (hd : d + 1 ≤ d') (hn : ∀ x ∈ ns, x ∈ ns') : Hazard o b d ns f → Hazard o (b + 1) d' ns' f
  | .inl ⟨hb, hf⟩ => .inl ⟨by omega, hf⟩
  | .inr ⟨x, hx, h⟩ => .inr ⟨x, hn x hx, h⟩

lemma faultIn_widen {e : Emission} (hd : d ≤ d') (hn : ∀ x ∈ ns, x ∈ ns')
    (h : Emission.FaultIn (Hazard o b d ns) e) : Emission.FaultIn (Hazard o b d' ns') e :=
  h.mono fun _ hf => hf.widen hd hn

lemma faultIn_lift {e : Emission} (hd : d + 1 ≤ d') (hn : ∀ x ∈ ns, x ∈ ns')
    (h : Emission.FaultIn (Hazard o b d ns) e) : Emission.FaultIn (Hazard o (b + 1) d' ns') e :=
  h.mono fun _ hf => hf.lift hd hn

end Hazard

namespace Expr

lemma mem_nodes_self (e : Expr) : e ∈ e.nodes := by
  cases e <;> simp [nodes]

lemma depth_lt_of_mem_operands {x y : Expr} (h : y ∈ x.operands) : y.depth < x.depth := by
  cases x <;> simp only [operands, List.mem_cons, List.not_mem_nil, or_false] at h <;>
    rcases h with rfl | rfl | rfl <;> simp only [depth] <;> omega

lemma nodes_sub_of_mem_operands {x y : Expr} (h : y ∈ x.operands) : ∀ z ∈ y.nodes, z ∈ x.nodes := by
  cases x <;> simp only [operands, List.mem_cons, List.not_mem_nil, or_false] at h <;>
    rcases h with rfl | rfl | rfl <;> simp +contextual [nodes]

variable {o : RenderOptions} {b : Nat}

open Emission in
/-- An operand is checked against its operator before it is rendered one level down. -/
lemma faultIn_operand {x y : Expr} (hy : y ∈ x.operands)
    (ih : FaultIn (Hazard o b y.depth y.nodes) (y.emit o b)) :
    FaultIn (Hazard o (b + 1) x.depth x.nodes) (operand x.tier y.tier (y.emit o b)) :=
  FaultIn.operand (fun h => .inr ⟨x, x.mem_nodes_self, .inl ⟨y, hy, h, rfl⟩⟩)
    (Hazard.faultIn_lift (depth_lt_of_mem_operands hy) (nodes_sub_of_mem_operands hy) ih)

open Emission in
/-- An operator between two operands. -/
lemma faultIn_binary {x l r : Expr} (hl : l ∈ x.operands) (hr : r ∈ x.operands) {k : Emission}
    (hk : FaultIn (Hazard o (b + 1) x.depth x.nodes) k) (s s' : String)
    (ihl : FaultIn (Hazard o b l.depth l.nodes) (l.emit o b))
    (ihr : FaultIn (Hazard o b r.depth r.nodes) (r.emit o b)) :
    FaultIn (Hazard o (b + 1) x.depth x.nodes)
      (operand x.tier l.tier (l.emit o b) ++ ofString s ++ k ++ ofString s' ++
        operand x.tier r.tier (r.emit o b)) :=
  ((((faultIn_operand hl ihl).append (.ofString s)).append hk).append (.ofString s')).append
    (faultIn_operand hr ihr)

open Emission in
/-- The remainder is the one operator keyword a dialect may lack, and its fault is the local
fault of a node that uses it. -/
lemma faultIn_computeKeyword {x : Expr} {op : ComputeOp} (hx : x.usesMod = op.isMod)
    {d : Nat} : FaultIn (Hazard o b d x.nodes) (keyword o.dialect op) := by
  refine FaultIn.keyword fun h => .inr ⟨x, x.mem_nodes_self, .inr (.inr ?_)⟩
  rw [ComputeOp.supports_eq] at h
  -- only the remainder operator can be missing from a dialect
  cases op with
  | mod =>
    simp only [ComputeOp.isMod] at hx h
    exact ⟨hx, by simpa using h, rfl⟩
  | _ => simp [ComputeOp.isMod] at h

end Expr

section Faults

open Emission

variable (o : RenderOptions)

mutual

/-- A render of an expression without subqueries stops only at one of its hazards. -/
theorem Expr.faultIn_emit : ∀ (b : Nat) (e : Expr), (∀ x ∈ e.nodes, x.isSubquery = false) →
    FaultIn (Hazard o b e.depth e.nodes) (e.emit o b)
  | 0, e, _ => by
    simp only [Expr.emit]
    exact FaultIn.fail (.inl ⟨e.depth_pos, rfl⟩)
  | _ + 1, .column c, _ => by
    simp only [Expr.emit]
    exact .of_ok (ColumnName.ok_emit _ c)
  | _ + 1, .literal _, _ => .ofString _
  | _ + 1, .wildcard table, _ => by cases table <;> exact .of_ok rfl
  | b + 1, .call f, hs => by
    simp only [Expr.nodes, List.forall_mem_cons] at hs
    simp only [Expr.emit]
    exact Hazard.faultIn_lift (by simp [Expr.depth]) (by simp +contextual [Expr.nodes])
      (Call.faultIn_emit b f hs.2)
  | b + 1, .window w, hs => by
    simp only [Expr.nodes, List.forall_mem_cons] at hs
    simp only [Expr.emit]
    exact Hazard.faultIn_lift (by simp [Expr.depth]) (by simp +contextual [Expr.nodes])
      (WindowCall.faultIn_emit b w hs.2)
  | b + 1, .searchedCase arms otherwise, hs => by
    simp only [Expr.nodes, List.forall_mem_cons, List.forall_mem_append] at hs
    simp only [Expr.emit]
    refine (((FaultIn.ofString _).append (FaultIn.prefixEach fun x hx => ?_)).append
      (FaultIn.after fun x hx => ?_)).append (.ofString _)
    · exact Hazard.faultIn_lift (by simp only [Expr.depth]; omega)
        (by simp +contextual [Expr.nodes]) (CaseArm.faultIn_emitEach b arms hs.2.1 x hx)
    · exact Hazard.faultIn_lift (by simp only [Expr.depth]; omega)
        (by simp +contextual [Expr.nodes]) (Expr.faultIn_emitOpt b otherwise hs.2.2 x hx)
  | b + 1, .simpleCase subject arms otherwise, hs => by
    simp only [Expr.nodes, List.forall_mem_cons, List.forall_mem_append] at hs
    simp only [Expr.emit]
    refine ((((FaultIn.ofString _).append ?_).append (FaultIn.prefixEach fun x hx => ?_)).append
      (FaultIn.after fun x hx => ?_)).append (.ofString _)
    · exact Hazard.faultIn_lift (by simp only [Expr.depth]; omega)
        (by simp +contextual [Expr.nodes]) (Expr.faultIn_emit b subject hs.2.1.1)
    · exact Hazard.faultIn_lift (by simp only [Expr.depth]; omega)
        (by simp +contextual [Expr.nodes]) (CaseArm.faultIn_emitEach b arms hs.2.1.2 x hx)
    · exact Hazard.faultIn_lift (by simp only [Expr.depth]; omega)
        (by simp +contextual [Expr.nodes]) (Expr.faultIn_emitOpt b otherwise hs.2.2 x hx)
  | _ + 1, .subquery _, hs => by simp [Expr.nodes, Expr.isSubquery] at hs
  | b + 1, .tuple items, hs => by
    simp only [Expr.nodes, List.forall_mem_cons] at hs
    simp only [Expr.emit]
    refine ((FaultIn.ofString _).append (FaultIn.sepBy fun x hx => ?_)).append (.ofString _)
    exact Hazard.faultIn_lift (by simp [Expr.depth]) (by simp +contextual [Expr.nodes])
      (Expr.faultIn_emitEach b items hs.2 x hx)
  | b + 1, .subscript array index, hs => by
    simp only [Expr.nodes, List.forall_mem_cons, List.forall_mem_append] at hs
    simp only [Expr.emit]
    split
    · refine (((?_ : FaultIn _ _).append (.ofString _)).append ?_).append (.ofString _)
      · exact Hazard.faultIn_lift (by simp only [Expr.depth]; omega)
          (by simp +contextual [Expr.nodes]) (Expr.faultIn_emit b array hs.2.1)
      · exact Hazard.faultIn_lift (by simp only [Expr.depth]; omega)
          (by simp +contextual [Expr.nodes]) (Expr.faultIn_emit b index hs.2.2)
    · exact FaultIn.fail (.inr ⟨_, Expr.mem_nodes_self _, .inr (.inl ⟨rfl, Bool.eq_false_iff.mpr ‹_›, rfl⟩)⟩)
  | b + 1, .unary op x, hs => by
    simp only [Expr.nodes, List.forall_mem_cons] at hs
    simp only [Expr.emit]
    exact (Expr.faultIn_computeKeyword (x := .unary op x) rfl).append
      (Expr.faultIn_operand (x := .unary op x) (by simp [Expr.operands])
        (Expr.faultIn_emit b x hs.2))
  | b + 1, .compute l op r, hs => by
    simp only [Expr.nodes, List.forall_mem_cons, List.forall_mem_append] at hs
    simp only [Expr.emit]
    exact Expr.faultIn_binary (x := .compute l op r) (by simp [Expr.operands])
      (by simp [Expr.operands]) (Expr.faultIn_computeKeyword rfl) " " " "
      (Expr.faultIn_emit b l hs.2.1) (Expr.faultIn_emit b r hs.2.2)
  | b + 1, .condition k n l r, hs => by
    simp only [Expr.nodes, List.forall_mem_cons, List.forall_mem_append] at hs
    simp only [Expr.emit]
    exact Expr.faultIn_binary (x := .condition k n l r) (by simp [Expr.operands])
      (by simp [Expr.operands]) (.ofString _) " " " "
      (Expr.faultIn_emit b l hs.2.1) (Expr.faultIn_emit b r hs.2.2)
  | b + 1, .between n v low high, hs => by
    simp only [Expr.nodes, List.forall_mem_cons, List.forall_mem_append] at hs
    simp only [Expr.emit]
    refine ((((Expr.faultIn_operand (x := .between n v low high) (by simp [Expr.operands])
      (Expr.faultIn_emit b v hs.2.1.1)).append (.of_ok (by cases n <;> rfl))).append
      (Expr.faultIn_operand (x := .between n v low high) (by simp [Expr.operands])
        (Expr.faultIn_emit b low hs.2.1.2))).append (.ofString _)).append
      (Expr.faultIn_operand (x := .between n v low high) (by simp [Expr.operands])
        (Expr.faultIn_emit b high hs.2.2))
  | b + 1, .exists n x, hs => by
    simp only [Expr.nodes, List.forall_mem_cons] at hs
    simp only [Expr.emit]
    exact (FaultIn.of_ok (by cases n <;> rfl)).append
      (Expr.faultIn_operand (x := .exists n x) (by simp [Expr.operands])
        (Expr.faultIn_emit b x hs.2))
  | b + 1, .compare l op r, hs => by
    simp only [Expr.nodes, List.forall_mem_cons, List.forall_mem_append] at hs
    simp only [Expr.emit]
    exact Expr.faultIn_binary (x := .compare l op r) (by simp [Expr.operands])
      (by simp [Expr.operands]) (.of_ok rfl) " " " "
      (Expr.faultIn_emit b l hs.2.1) (Expr.faultIn_emit b r hs.2.2)
  | b + 1, .not x, hs => by
    simp only [Expr.nodes, List.forall_mem_cons] at hs
    simp only [Expr.emit]
    exact ((FaultIn.of_ok rfl).append (.ofString _)).append
      (Expr.faultIn_operand (x := .not x) (by simp [Expr.operands]) (Expr.faultIn_emit b x hs.2))
  | b + 1, .and l r, hs => by
    simp only [Expr.nodes, List.forall_mem_cons, List.forall_mem_append] at hs
    simp only [Expr.emit]
    exact Expr.faultIn_binary (x := .and l r) (by simp [Expr.operands])
      (by simp [Expr.operands]) (.of_ok rfl) " " " "
      (Expr.faultIn_emit b l hs.2.1) (Expr.faultIn_emit b r hs.2.2)
  | b + 1, .xor l r, hs => by
    simp only [Expr.nodes, List.forall_mem_cons, List.forall_mem_append] at hs
    simp only [Expr.emit]
    exact Expr.faultIn_binary (x := .xor l r) (by simp [Expr.operands])
      (by simp [Expr.operands]) (.of_ok rfl) " " " "
      (Expr.faultIn_emit b l hs.2.1) (Expr.faultIn_emit b r hs.2.2)
  | b + 1, .or l r, hs => by
    simp only [Expr.nodes, List.forall_mem_cons, List.forall_mem_append] at hs
    simp only [Expr.emit]
    exact Expr.faultIn_binary (x := .or l r) (by simp [Expr.operands])
      (by simp [Expr.operands]) (.of_ok rfl) " " " "
      (Expr.faultIn_emit b l hs.2.1) (Expr.faultIn_emit b r hs.2.2)

theorem Expr.faultIn_emitEach (b : Nat) : ∀ (es : List Expr),
    (∀ x ∈ Expr.nodesList es, x.isSubquery = false) →
    ∀ e ∈ Expr.emitEach o b es, FaultIn (Hazard o b (Expr.maxDepth es) (Expr.nodesList es)) e
  | [], _ => by simp [Expr.emitEach]
  | e :: es, hs => by
    simp only [Expr.nodesList, List.forall_mem_append] at hs
    simp only [Expr.emitEach, List.mem_cons, forall_eq_or_imp]
    refine ⟨?_, fun x hx => ?_⟩
    · exact Hazard.faultIn_widen (by simp only [Expr.maxDepth]; omega) (by simp +contextual [Expr.nodesList])
        (Expr.faultIn_emit b e hs.1)
    · exact Hazard.faultIn_widen (by simp only [Expr.maxDepth]; omega) (by simp +contextual [Expr.nodesList])
        (Expr.faultIn_emitEach b es hs.2 x hx)

theorem Expr.faultIn_emitOpt (b : Nat) : ∀ (e : Option Expr),
    (∀ x ∈ Expr.nodesOpt e, x.isSubquery = false) →
    ∀ x ∈ Expr.emitOpt o b e, FaultIn (Hazard o b (Expr.optDepth e) (Expr.nodesOpt e)) x
  | none, _ => by simp [Expr.emitOpt]
  | some e, hs => by
    simp only [Expr.emitOpt, Option.mem_def, Option.some.injEq, forall_eq']
    exact Expr.faultIn_emit b e hs

theorem Call.faultIn_emit (b : Nat) : ∀ (c : Call), (∀ x ∈ c.nodes, x.isSubquery = false) →
    FaultIn (Hazard o b c.depthBelow c.nodes) (c.emit o b)
  | .normal name args, hs => by
    simp only [Call.emit]
    exact (((FaultIn.of_ok (FunctionName.ok_emit name)).append (.ofString _)).append
      (FaultIn.sepBy (Expr.faultIn_emitEach b args hs))).append (.ofString _)
  | .aggregate name args distinct, hs => by
    simp only [Call.emit]
    exact ((((FaultIn.of_ok (FunctionName.ok_emit name)).append (.ofString _)).append
      (FaultIn.when (.ofString _))).append (FaultIn.sepBy (Expr.faultIn_emitEach b args hs))).append
      (.ofString _)
  | .cast e target, hs => by
    simp only [Call.emit]
    exact ((((FaultIn.ofString _).append (Expr.faultIn_emit b e hs)).append (.ofString _)).append
      (.of_ok (CastType.ok_emit _ target))).append (.ofString _)
  | .extract unit e, hs => by
    simp only [Call.nodes, List.forall_mem_append] at hs
    simp only [Call.emit]
    refine ((((FaultIn.ofString _).append ?_).append (.ofString _)).append ?_).append (.ofString _)
    · exact Hazard.faultIn_widen (by simp only [Call.depthBelow]; omega) (by simp +contextual [Call.nodes])
        (Expr.faultIn_emit b unit hs.1)
    · exact Hazard.faultIn_widen (by simp only [Call.depthBelow]; omega) (by simp +contextual [Call.nodes])
        (Expr.faultIn_emit b e hs.2)

theorem WindowCall.faultIn_emit (b : Nat) : ∀ (w : WindowCall),
    (∀ x ∈ w.nodes, x.isSubquery = false) →
    FaultIn (Hazard o b w.depthBelow w.nodes) (w.emit o b)
  | { function, partitionBy, orderBy, frame }, hs => by
    simp only [WindowCall.nodes, List.forall_mem_append] at hs
    simp only [WindowCall.emit]
    refine (((?_ : FaultIn _ _).append (.ofString _)).append (FaultIn.sepBy fun e he => ?_)).append
      (.ofString _)
    · exact Hazard.faultIn_widen (by simp only [WindowCall.depthBelow]; omega)
        (by simp +contextual [WindowCall.nodes]) (Expr.faultIn_emit b function hs.1.1)
    simp only [List.mem_append] at he
    rcases he with (he | he) | he
    · split at he
      · simp at he
      · simp only [List.mem_singleton] at he
        subst he
        refine (FaultIn.ofString _).append (FaultIn.sepBy fun x hx => ?_)
        exact Hazard.faultIn_widen (by simp only [WindowCall.depthBelow]; omega)
          (by simp +contextual [WindowCall.nodes]) (Expr.faultIn_emitEach b partitionBy hs.1.2 x hx)
    · split at he
      · simp at he
      · simp only [List.mem_singleton] at he
        subst he
        refine (FaultIn.ofString _).append (FaultIn.sepBy fun x hx => ?_)
        exact Hazard.faultIn_widen (by simp only [WindowCall.depthBelow]; omega)
          (by simp +contextual [WindowCall.nodes]) (SortKey.faultIn_emitEach b orderBy hs.2 x hx)
    · cases frame with
      | none => simp at he
      | some f =>
        simp only [Option.map_some, Option.toList_some, List.mem_singleton] at he
        subst he
        exact .of_ok (Frame.ok_emit _ f)

theorem CaseArm.faultIn_emitEach (b : Nat) : ∀ (arms : List CaseArm),
    (∀ x ∈ CaseArm.nodesList arms, x.isSubquery = false) →
    ∀ e ∈ CaseArm.emitEach o b arms,
      FaultIn (Hazard o b (CaseArm.maxDepth arms) (CaseArm.nodesList arms)) e
  | [], _ => by simp [CaseArm.emitEach]
  | { test, result } :: arms, hs => by
    simp only [CaseArm.nodesList, List.forall_mem_append] at hs
    simp only [CaseArm.emitEach, List.mem_cons, forall_eq_or_imp]
    refine ⟨?_, fun x hx => ?_⟩
    · simp only [CaseArm.emit]
      refine (((FaultIn.ofString _).append ?_).append (.ofString _)).append ?_
      · exact Hazard.faultIn_widen (by simp only [CaseArm.maxDepth]; omega)
          (by simp +contextual [CaseArm.nodesList]) (Expr.faultIn_emit b test hs.1.1)
      · exact Hazard.faultIn_widen (by simp only [CaseArm.maxDepth]; omega)
          (by simp +contextual [CaseArm.nodesList]) (Expr.faultIn_emit b result hs.1.2)
    · exact Hazard.faultIn_widen (by simp only [CaseArm.maxDepth]; omega)
        (by simp +contextual [CaseArm.nodesList]) (CaseArm.faultIn_emitEach b arms hs.2 x hx)

theorem SortKey.faultIn_emitEach (b : Nat) : ∀ (keys : List SortKey),
    (∀ x ∈ SortKey.nodesList keys, x.isSubquery = false) →
    ∀ e ∈ SortKey.emitEach o b keys,
      FaultIn (Hazard o b (SortKey.maxDepth keys) (SortKey.nodesList keys)) e
  | [], _ => by simp [SortKey.emitEach]
  | { key, order, nullsFirst, nullsLast } :: keys, hs => by
    simp only [SortKey.nodesList, List.forall_mem_append] at hs
    simp only [SortKey.emitEach, List.mem_cons, forall_eq_or_imp]
    refine ⟨?_, fun x hx => ?_⟩
    · simp only [SortKey.emit]
      refine (((?_ : FaultIn _ _).append (.of_ok ?_)).append (.of_ok ?_)).append (.of_ok ?_)
      · exact Hazard.faultIn_widen (by simp only [SortKey.maxDepth]; omega)
          (by simp +contextual [SortKey.nodesList]) (Expr.faultIn_emit b key hs.1)
      all_goals cases order <;> cases nullsFirst <;> cases nullsLast <;> rfl
    · exact Hazard.faultIn_widen (by simp only [SortKey.maxDepth]; omega)
        (by simp +contextual [SortKey.nodesList]) (SortKey.faultIn_emitEach b keys hs.2 x hx)

end

end Faults

/-! ## Whole renders -/

namespace Expr

/-- The checks a render makes of an expression without subqueries, over the whole tree: no
operand looser than its operator, depth within the limit (the depth as the walk with an
explicit stack finds it), subscripts only in Hive and no `%` in DB2. -/
def Renderable (o : RenderOptions) (e : Expr) : Prop :=
  (∀ x ∈ e.nodes, ∀ y ∈ x.operands, y.tier ≤ x.tier) ∧ e.stackDepth ≤ o.maxDepth ∧
    (o.dialect = .hive ∨ ∀ x ∈ e.nodes, x.isSubscript = false) ∧
    (o.dialect ≠ .db2 ∨ ∀ x ∈ e.nodes, x.usesMod = false)

/-- The faults such a render can stop at, each with the node whose check raises it. -/
def RenderFault (o : RenderOptions) (e : Expr) (f : SqlError) : Prop :=
  (o.maxDepth < e.stackDepth ∧ f = .tooDeep o.maxDepth) ∨
    (∃ x ∈ e.nodes, ∃ y ∈ x.operands, ¬ y.tier ≤ x.tier ∧ f = .looseOperand y.tier x.tier) ∨
    (∃ x ∈ e.nodes, x.isSubscript = true ∧ o.dialect ≠ .hive ∧
      f = .unsupportedFeature "array subscript" o.dialect) ∨
    (∃ x ∈ e.nodes, x.usesMod = true ∧ o.dialect = .db2 ∧ f = .unsupportedFeature "%" o.dialect)

lemma all_passes_iff (d : Dialect) (ns : List Expr) :
    ns.all (passes d) = true ↔ (∀ x ∈ ns, ∀ y ∈ x.operands, y.tier ≤ x.tier) ∧
      (d = .hive ∨ ∀ x ∈ ns, x.isSubscript = false) ∧ (d ≠ .db2 ∨ ∀ x ∈ ns, x.usesMod = false) := by
  simp only [ne_eq, ← Dialect.subscripts_eq_true_iff, ← Dialect.remainder_eq_false_iff,
    List.all_eq_true, passes, operandsTiered, Bool.and_eq_true, Tier.fitsUnder_eq_true]
  cases d.traits.subscripts <;> cases d.traits.remainder <;> simp [forall_and, and_assoc]

lemma renderFault_of_hazard {o : RenderOptions} {e : Expr} {f : SqlError}
    (h : Hazard o o.maxDepth e.depth e.nodes f) : e.RenderFault o f := by
  rcases h with ⟨hd, rfl⟩ | ⟨x, hx, ⟨y, hy, hloose, rfl⟩ | ⟨hsub, hd, rfl⟩ | ⟨hmod, hd, rfl⟩⟩
  · exact .inl ⟨by rw [stackDepth_eq]; exact hd, rfl⟩
  · exact .inr (.inl ⟨x, hx, y, hy, hloose, rfl⟩)
  · refine .inr (.inr (.inl ⟨x, hx, hsub, fun hh => ?_, rfl⟩))
    rw [← Dialect.subscripts_eq_true_iff, hd] at hh
    exact Bool.false_ne_true hh
  · exact .inr (.inr (.inr ⟨x, hx, hmod, (Dialect.remainder_eq_false_iff _).mp hd, rfl⟩))

/-- A render of an expression without subqueries succeeds exactly when the expression passes
every check, and a failed one stops at a fault that one of the checks raises. -/
theorem render_ok_iff_renderable (o : RenderOptions) (e : Expr)
    (hs : ∀ x ∈ e.nodes, x.isSubquery = false) :
    ((∃ s, e.render o = .ok s) ↔ e.Renderable o) ∧
      ∀ f, e.render o = .error f → e.RenderFault o f := by
  refine ⟨?_, fun f hf => renderFault_of_hazard (faultIn_emit o o.maxDepth e hs f ?_)⟩
  · rw [render, Emission.exists_result_eq_ok, ok_emit_iff o _ e hs, all_passes_iff, Renderable,
      stackDepth_eq]
    exact ⟨fun ⟨⟨ht, hsub, hmod⟩, hd⟩ => ⟨ht, hd, hsub, hmod⟩,
      fun ⟨ht, hd, hsub, hmod⟩ => ⟨⟨ht, hsub, hmod⟩, hd⟩⟩
  · simpa [render] using hf

/-- `a + 1` holds no subquery and renders under the default options. -/
theorem render_sum_ok :
    (∀ x ∈ (compute (.column { column := "a" }) .plus (.literal ⟨"1"⟩)).nodes,
        x.isSubquery = false) ∧
      ∃ s, (compute (.column { column := "a" }) .plus (.literal ⟨"1"⟩)).render {} = .ok s := by
  have hs : ∀ x ∈ (compute (.column { column := "a" }) .plus (.literal ⟨"1"⟩)).nodes,
      x.isSubquery = false := by decide
  exact ⟨hs, (render_ok_iff_renderable {} _ hs).1.2
    ⟨by decide, by rw [stackDepth_eq]; decide, by decide, by decide⟩⟩

end Expr

end SqlSyntax
