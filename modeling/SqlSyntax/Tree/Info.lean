import SqlSyntax.Tree

/-!
# Tier, connective and depth of an expression

The precedence tier of an expression is fixed by its outermost node; so is the logical
connective, if it is one.  The depth counts expression levels down to the deepest leaf, where
columns, literals, wildcards and subqueries are leaves: a query inside an expression starts a
count of its own.

Main statement: `depth_pos` (every expression is at least one level deep).
-/

namespace SqlSyntax

namespace Expr

/-- The precedence tier of an expression's outermost node. -/
def tier : Expr → Tier
  | .column _ | .literal _ | .wildcard _ | .call _ | .window _ | .searchedCase _ _
  | .simpleCase _ _ _ | .subquery _ | .tuple _ | .subscript _ _ => .atom
  | .unary _ _ => .unary
  | .compute _ _ _ => .compute
  | .condition _ _ _ _ | .between _ _ _ _ | .exists _ _ => .condition
  | .compare _ _ _ => .comparison
  | .not _ => .logicalNot
  | .and _ _ => .logicalAnd
  | .xor _ _ => .logicalXor
  | .or _ _ => .logicalOr

/-- The logical connective of an expression's outermost node, if it is one. -/
def logicalOp : Expr → Option LogicalOp
  | .not _ => some .not
  | .and _ _ => some .and
  | .xor _ _ => some .xor
  | .or _ _ => some .or
  | _ => none

end Expr

mutual

/-- The number of expression levels from an expression down to its deepest leaf. -/
def Expr.depth : Expr → Nat
  | .column _ => 1
  | .literal _ => 1
  | .wildcard _ => 1
  | .subquery _ => 1
  | .call f => f.depthBelow + 1
  | .window w => w.depthBelow + 1
  | .searchedCase arms otherwise =>
      max (CaseArm.maxDepth arms) (Expr.optDepth otherwise) + 1
  | .simpleCase subject arms otherwise =>
      max subject.depth
        (max (CaseArm.maxDepth arms) (Expr.optDepth otherwise)) + 1
  | .tuple items => Expr.maxDepth items + 1
  | .subscript array index => max array.depth index.depth + 1
  | .unary _ e => e.depth + 1
  | .compute l _ r => max l.depth r.depth + 1
  | .condition _ _ l r => max l.depth r.depth + 1
  | .between _ v low high => max v.depth (max low.depth high.depth) + 1
  | .exists _ e => e.depth + 1
  | .compare l _ r => max l.depth r.depth + 1
  | .not e => e.depth + 1
  | .and l r => max l.depth r.depth + 1
  | .xor l r => max l.depth r.depth + 1
  | .or l r => max l.depth r.depth + 1

/-- The depth of an optional expression, 0 when absent. -/
def Expr.optDepth : Option Expr → Nat
  | none => 0
  | some e => e.depth

/-- The greatest depth in a list of expressions, 0 for none. -/
def Expr.maxDepth : List Expr → Nat
  | [] => 0
  | e :: es => max e.depth (Expr.maxDepth es)

/-- The greatest depth among a call's arguments. -/
def Call.depthBelow : Call → Nat
  | .normal _ args => Expr.maxDepth args
  | .aggregate _ args _ => Expr.maxDepth args
  | .cast e _ => e.depth
  | .extract unit e => max unit.depth e.depth

/-- The greatest depth among a window's function, partitioning and sort keys. -/
def WindowCall.depthBelow : WindowCall → Nat
  | { function, partitionBy, orderBy, .. } =>
      max function.depth (max (Expr.maxDepth partitionBy) (SortKey.maxDepth orderBy))

/-- The greatest depth among the tests and results of `CASE` arms. -/
def CaseArm.maxDepth : List CaseArm → Nat
  | [] => 0
  | { test, result } :: arms => max test.depth (max result.depth (CaseArm.maxDepth arms))

/-- The greatest depth among sort keys. -/
def SortKey.maxDepth : List SortKey → Nat
  | [] => 0
  | { key, .. } :: keys => max key.depth (SortKey.maxDepth keys)

end

theorem Expr.depth_pos (e : Expr) : 0 < e.depth := by
  cases e <;> simp only [Expr.depth] <;> exact Nat.succ_pos _

end SqlSyntax
