import SqlSyntax.Tree.Info

/-!
# The depth walk

The depth of an expression is computed without recursion, so that a tree of any height can be
measured: a stack of expressions paired with their levels starts with the root at level 1, and
each step pops the top entry, keeps the deepest level seen so far, and pushes the entry's
children one level further down.  The children are first collected into a scratch list, and
pushing them empties that list again, so every step finds it empty.

The top of the stack is the head of the list.  The children, pushed in the order they are
listed, therefore stand reversed in front of the rest of the stack: the last child pushed is
popped first.

The walk ends because the expressions on the stack and in the scratch list shrink at every
step: an expression is larger than its children together (`totalSize_children_lt`).
-/

namespace SqlSyntax

namespace Expr

/-- The direct subexpressions of an expression, in the order the depth walk collects them:
call arguments; the operand of a cast; the unit, then the operand of an extraction; a window's
function, partitioning expressions and sort keys; a case's subject, the test and result of each
arm, and the fallback; the items of a tuple; the array, then the index of a subscript; and every
operand of an operator, left to right.  Columns, literals, wildcards and subqueries have none. -/
def children : Expr → List Expr
  | .column _ | .literal _ | .wildcard _ | .subquery _ => []
  | .call (.normal _ args) | .call (.aggregate _ args _) => args
  | .call (.cast e _) => [e]
  | .call (.extract unit e) => [unit, e]
  | .window w => w.function :: (w.partitionBy ++ w.orderBy.map SortKey.key)
  | .searchedCase arms otherwise =>
      arms.flatMap (fun a => [a.test, a.result]) ++ otherwise.toList
  | .simpleCase subject arms otherwise =>
      subject :: (arms.flatMap (fun a => [a.test, a.result]) ++ otherwise.toList)
  | .tuple items => items
  | .subscript array index => [array, index]
  | .unary _ e | .exists _ e | .not e => [e]
  | .compute l _ r | .condition _ _ l r | .compare l _ r | .and l r | .xor l r | .or l r => [l, r]
  | .between _ v low high => [v, low, high]

/-! ## The measure of the walk -/

/-- The sizes of the expressions of a list, added up: what is left for the walk to visit. -/
noncomputable def totalSize : List Expr → Nat
  | [] => 0
  | e :: es => sizeOf e + totalSize es

@[simp] theorem totalSize_nil : totalSize [] = 0 := rfl

@[simp] theorem totalSize_cons (e : Expr) (es : List Expr) :
    totalSize (e :: es) = sizeOf e + totalSize es := rfl

@[simp] theorem totalSize_append (es es' : List Expr) :
    totalSize (es ++ es') = totalSize es + totalSize es' := by
  induction es with
  | nil => simp
  | cons e es ih => simp [ih, Nat.add_assoc]

@[simp] theorem totalSize_reverse (es : List Expr) : totalSize es.reverse = totalSize es := by
  induction es with
  | nil => rfl
  | cons e es ih => simp [ih, Nat.add_comm]

/-- The expressions of a list are together smaller than the list. -/
theorem totalSize_lt (es : List Expr) : totalSize es < sizeOf es := by
  induction es with
  | nil => simp
  | cons e es ih => simp; omega

theorem totalSize_arms_lt (arms : List CaseArm) :
    totalSize (arms.flatMap fun a => [a.test, a.result]) < sizeOf arms := by
  induction arms with
  | nil => simp
  | cons a arms ih => cases a; simp; omega

theorem totalSize_keys_lt (keys : List SortKey) :
    totalSize (keys.map SortKey.key) < sizeOf keys := by
  induction keys with
  | nil => simp
  | cons k keys ih => cases k; simp; omega

theorem totalSize_toList_lt (o : Option Expr) : totalSize o.toList < sizeOf o := by
  cases o <;> simp

/-- An expression is larger than its children together. -/
theorem totalSize_children_lt (e : Expr) : totalSize e.children < sizeOf e := by
  cases e with
  | call f =>
    cases f with
    | normal _ args | aggregate _ args _ =>
      have := totalSize_lt args
      simp [children]; omega
    | _ => simp [children]; omega
  | window w =>
    obtain ⟨f, p, o, fr⟩ := w
    have := totalSize_lt p
    have := totalSize_keys_lt o
    simp [children]; omega
  | searchedCase arms otherwise | simpleCase _ arms otherwise =>
    have := totalSize_arms_lt arms
    have := totalSize_toList_lt otherwise
    simp [children]; omega
  | tuple items =>
    have := totalSize_lt items
    simp [children]; omega
  | _ => simp [children] <;> omega

/-! ## The walk -/

/-- The walk from a stack of expressions with their levels and a scratch list: the deepest level
met, starting from `deepest`.  Each step pops the top entry, collects its children after what
the scratch list holds, and pushes all of them one level below the popped entry, which leaves
the scratch list empty. -/
def depthLoop (deepest : Nat) : List (Expr × Nat) → List Expr → Nat
  | [], _ => deepest
  | (e, level) :: rest, scratch =>
    depthLoop (max deepest level)
      (((scratch ++ e.children).map (·, level + 1)).reverse ++ rest) []
termination_by stack scratch => totalSize (stack.map Prod.fst) + totalSize scratch
decreasing_by
  have := totalSize_children_lt e
  -- pairing a child with its level and taking the child back gives the child
  have hfst : (Prod.fst ∘ fun c : Expr => (c, level + 1)) = id := rfl
  simp only [List.map_append, List.map_reverse, List.map_map, hfst, List.map_id, List.map_cons,
    totalSize_append, totalSize_reverse, totalSize_nil, totalSize_cons]
  omega

/-- The number of expression levels from an expression down to its deepest leaf, found by the
walk from the expression alone at level 1. -/
def stackDepth (e : Expr) : Nat := depthLoop 0 [(e, 1)] []

end Expr

end SqlSyntax
